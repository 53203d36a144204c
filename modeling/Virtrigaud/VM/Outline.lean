import Virtrigaud.VM.Plain
import Virtrigaud.VM.Protocol

/-!
# The outline of a reconcile

A reconcile writes the object at most once, and with its last call. `Written` lists what it
may write, each time with what its log shows by then: the class that was read, the CPUs and
memory that were asked for, and how the RPCs and the tasks have ended.
-/

namespace Virtrigaud.VM

open Effects Program

/-- The CPUs and the memory in MiB of a request. -/
def CreateRequest.size (req : CreateRequest) : Int × Int := (req.vmClass.cpu, req.vmClass.memoryMiB)

/-- The size that a Create or a Reconfigure has asked for with success. -/
def requestedSize : LogEntry → Option (Int × Int)
  | ⟨.response _ (.create req (.ok _)), none⟩ => some (CreateRequest.size req)
  | ⟨.reconfigure _ _ req, .ok _⟩ => some (CreateRequest.size req)
  | _ => none

/-- The size that was asked for last. -/
def lastSize (log : List LogEntry) : Option (Int × Int) := log.findSome? requestedSize

/-- The class that a call has read. -/
def classOf : LogEntry → Option VMClass
  | ⟨.getClass _, .ok vmClass⟩ => some vmClass
  | _ => none

/-- The class that was read last. -/
def classRead (log : List LogEntry) : Option VMClass := log.findSome? classOf

/-- A write of the object. -/
def writes : LogEntry → Bool
  | ⟨.updateVM _, _⟩ | ⟨.statusUpdate _, _⟩ => true
  | _ => false

/-- The size that the request built from a class asks for. -/
def sentSize (vmClass : VMClass) : Int × Int :=
  ((convertClass vmClass.spec).cpu, (convertClass vmClass.spec).memoryMiB)

variable (provider : ObjectKey) (id : String)

/-- Describe has answered that there is no VM under the ID. -/
def ReportedMissing (log : List LogEntry) : Prop :=
  ∃ desc, desc.doesExist = false ∧
    (⟨.response provider (.describe id (.ok desc)), none⟩ : LogEntry) ∈ log

/-- Create has answered with the ID of a VM. -/
def ReportedCreated (log : List LogEntry) : Prop :=
  ∃ req resp, resp.id = id ∧
    (⟨.response provider (.create req (.ok resp)), none⟩ : LogEntry) ∈ log

/-- Delete has answered that the VM is gone, by a task that has ended. -/
def ReportedDeleted (log : List LogEntry) : Prop :=
  (⟨.response provider (.delete id (.ok "")), none⟩ : LogEntry) ∈ log

/-- Delete has failed with the status NotFound. -/
def DeleteNotFound (log : List LogEntry) : Prop :=
  ∃ err : GrpcError, err.code = .notFound ∧
    ((⟨.request provider (.delete id), some err⟩ : LogEntry) ∈ log ∨
      (∃ served, (⟨.response provider served, some err⟩ : LogEntry) ∈ log) ∨
      (⟨.response provider (.delete id (.error err)), none⟩ : LogEntry) ∈ log)

/-- The object as a reconcile starts with it. -/
def observed (v : VirtualMachine) : VirtualMachine :=
  { v with status := { v.status with observedGeneration := v.objectMeta.generation } }

/-- The object without a task of Create or Power. -/
def idle (vm : VirtualMachine) : VirtualMachine :=
  { vm with status := { vm.status with lastTaskRef := "" } }

/-- The object after both tasks have been looked at. -/
def Resumed (v : VirtualMachine) (vmClass : VMClass) (log : List LogEntry) (vm : VirtualMachine) :
    Prop :=
  (v.status.reconfigureTaskRef = "" ∧ vm = idle (observed v)) ∨
    (v.status.reconfigureTaskRef ≠ "" ∧
      (⟨.isTaskComplete (providerKey v) v.status.reconfigureTaskRef, .ok true⟩ : LogEntry) ∈ log ∧
      vm = reconfigureTaskDone (idle (observed v)) vmClass)

/-- The object after a Power was answered. -/
def powerAdjusted (vm : VirtualMachine) : Except GoError String → VirtualMachine
  | .error err =>
    setReadyCondition vm .conditionFalse "ProviderError"
      ("Failed to adjust power state: " ++ err.text)
  | .ok taskRef =>
    if taskRef ≠ "" then
      setReconfiguringCondition { vm with status := { vm.status with lastTaskRef := taskRef } }
        .conditionTrue "Updating" "Adjusting power state"
    else vm

/-- No VM is known for the object. -/
def Missing (v : VirtualMachine) (log : List LogEntry) : Prop :=
  v.status.id = "" ∨ ReportedMissing (providerKey v) v.status.id log

/-- What is written once the tasks are done, from the object `vm` in memory. -/
inductive Ended (v : VirtualMachine) (vmClass : VMClass) (log : List LogEntry)
    (vm : VirtualMachine) : VirtualMachine → Prop
  | waiting (message : String) : v.status.id = "" → lastSize log = none →
      Ended v vmClass log vm
        (setProvisioningCondition vm .conditionTrue "WaitingForDependencies" message)
  | notCreated (message : String) : Missing v log → lastSize log = none →
      Ended v vmClass log vm
        (setProvisioningCondition (Reconciler.forgetID vm) .conditionFalse "ProviderError" message)
  | created (req : CreateRequest) (resp : CreateResponse) (older : List LogEntry) :
      Missing v log → log = ⟨.response (providerKey v) (.create req (.ok resp)), none⟩ :: older →
      lastSize older = none → CreateRequest.size req = sentSize vmClass →
      Ended v vmClass log vm (created (Reconciler.forgetID vm) vmClass resp)
  | notDescribed (message : String) : lastSize log = none →
      Ended v vmClass log vm (setReadyCondition vm .conditionFalse "ProviderError" message)
  | powered (desc : DescribeResponse) (op : PowerOp) (answer : Except GoError String) :
      (⟨.power (providerKey v) v.status.id op, answer⟩ : LogEntry) ∈ log → lastSize log = none →
      Ended v vmClass log vm (powerAdjusted (described vm desc) answer)
  | notReconfigured (desc : DescribeResponse) (req : CreateRequest) (err : GoError)
      (message : String) :
      (⟨.reconfigure (providerKey v) v.status.id req, .error err⟩ : LogEntry) ∈ log →
      lastSize log = none →
      Ended v vmClass log vm
        (setReconfiguringCondition (described vm desc) .conditionFalse "ProviderError" message)
  | reconfigured (desc : DescribeResponse) (req : CreateRequest) (now : Time) (taskRef : String)
      (older : List LogEntry) :
      log = ⟨.now, now⟩ :: ⟨.reconfigure (providerKey v) v.status.id req, .ok taskRef⟩ :: older →
      lastSize older = none → CreateRequest.size req = sentSize vmClass →
      Ended v vmClass log vm (reconfigured (described vm desc) vmClass now taskRef)
  | ready (desc : DescribeResponse) : v.status.id ≠ "" →
      needsReconfigure (described vm desc) vmClass = false → lastSize log = none →
      Ended v vmClass log vm (markReady (described vm desc))

/-- What a reconcile of the version `v` writes as its status. -/
inductive Written (v : VirtualMachine) (log : List LogEntry) : VirtualMachine → Prop
  | unready (reason message : String) : lastSize log = none →
      Written v log (setReadyCondition (observed v) .conditionFalse reason message)
  | preparing {vmClass : VMClass} (image : Option VMImage) (message : String) :
      classRead log = some vmClass →
      (⟨.ensureImage (observed v) image (providerKey v), .preparing⟩ : LogEntry) ∈ log →
      lastSize log = none →
      Written v log
        (setProvisioningCondition (observed v) .conditionTrue "TaskInProgress" message)
  | task (status : ConditionStatus) (reason message : String) : v.status.lastTaskRef ≠ "" →
      lastSize log = none →
      Written v log (setProvisioningCondition (observed v) status reason message)
  | reconfigureTask (status : ConditionStatus) (reason message : String) :
      v.status.reconfigureTaskRef ≠ "" → lastSize log = none →
      Written v log (setReconfiguringCondition (idle (observed v)) status reason message)
  | ended {vmClass : VMClass} {vm vm' : VirtualMachine} : classRead log = some vmClass →
      Resumed v vmClass log vm → Ended v vmClass log vm vm' → Written v log vm'

/-- Why the finalizer may go. -/
inductive Released (v : VirtualMachine) (log : List LogEntry) : Prop
  | noID : v.status.id = "" → Released v log
  | noProviderRef : v.spec.providerRef.name = "" → Released v log
  | providerGone (err : GoError) : err.reason = .notFound →
      (⟨.getProvider (providerKey v), .error err⟩ : LogEntry) ∈ log → Released v log
  | unreachable (err : GoError) :
      (⟨.getProviderInstance (providerKey v), some err⟩ : LogEntry) ∈ log → Released v log
  | deleted : ReportedDeleted (providerKey v) v.status.id log → Released v log
  | notFound : DeleteNotFound (providerKey v) v.status.id log → Released v log
  | forced : hasForceDeleteAnnotation v = true → Released v log

/-- The write of a finalizer: it is added, or removed from an object that is being deleted. -/
def FinalizerWrite (v : VirtualMachine) (log : List LogEntry) (vm : VirtualMachine) : Prop :=
  (v.objectMeta.deletionTimestamp.isSome = false ∧
    vm = { v with objectMeta := v.objectMeta.addFinalizer virtualMachineFinalizer }) ∨
  (v.objectMeta.deletionTimestamp.isSome = true ∧
    vm = { v with objectMeta := v.objectMeta.removeFinalizer virtualMachineFinalizer } ∧
    Released v log)

/-- The calls of a reconcile, each with what the log shows by then. -/
def Outlined (key : ObjectKey) (log : List LogEntry) (c : Call) : Prop :=
  (∀ entry ∈ log, writes entry = false) ∧
  match c with
  | .getVM k => k = key ∧ log = []
  | .updateVM vm => ∃ v, Read key log v ∧ FinalizerWrite v log vm ∧ lastSize log = none
  | .statusUpdate vm => ∃ v, Read key log v ∧ Written v log vm
  | .power provider id op => ∃ v, Read key log v ∧ provider = providerKey v ∧
      id = v.status.id ∧ op = powerOp (desiredPowerState v)
  | .request provider (.create _) => ∃ v, Read key log v ∧ provider = providerKey v
  | .reconfigure provider id _ => ∃ v, Read key log v ∧ provider = providerKey v ∧
      id = v.status.id
  | _ => True

end Virtrigaud.VM
