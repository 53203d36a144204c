import Virtrigaud.VM.Request

/-!
# The VirtualMachine controller

`Reconcile` and its handlers. A status is changed in memory and persisted by
`updateStatus`, whose error is only logged. Stages that may end the reconcile return
its result, or the VirtualMachine to go on with.
-/

namespace Virtrigaud.VM

open Effects Program

def virtualMachineFinalizer : String := "virtualmachine.infra.virtrigaud.io/finalizer"

variable (vm : VirtualMachine) (deps : Dependencies) (desc : DescribeResponse) (vmClass : VMClass)

/-- The object's hypervisor VM is made, and its ID set, by another controller. -/
def vmIsAdopted : Bool :=
  StringMap.get vm.objectMeta.labels "virtrigaud.io/adopted" = "true"

def hasForceDeleteAnnotation : Bool :=
  StringMap.get vm.objectMeta.annotations "virtrigaud.io/force-delete" = "true"

def setVMCondition (conditionType : String) (vm : VirtualMachine) (status : ConditionStatus)
    (reason message : String) : VirtualMachine :=
  { vm with status := { vm.status with
      conditions := setCondition vm.status.conditions conditionType status reason message } }

def setReadyCondition : VirtualMachine → ConditionStatus → String → String → VirtualMachine :=
  setVMCondition "Ready"

def setProvisioningCondition :
    VirtualMachine → ConditionStatus → String → String → VirtualMachine :=
  setVMCondition "Provisioning"

def setReconfiguringCondition :
    VirtualMachine → ConditionStatus → String → String → VirtualMachine :=
  setVMCondition "Reconfiguring"

def updateStatus : M Unit := do
  let _ ← ask (.statusUpdate vm)
  return ()

/-- Persist the status and come back later. -/
def requeue (delay : Duration) : M Return := do
  updateStatus vm
  return (.after delay, none)

/-- The CPUs and the memory the VM should have: the class, overridden by the object. -/
def desiredResources : Int × Int :=
  ((vm.spec.resources.bind (·.cpu)).getD vmClass.spec.cpu,
    (vm.spec.resources.bind (·.memoryMiB)).getD (vmClass.spec.memory.tdiv mebibyte))

def updateCurrentResources : VirtualMachine :=
  let desired := desiredResources vm vmClass
  { vm with status := { vm.status with
      currentResources := some { cpu := some desired.1, memoryMiB := some desired.2 } } }

def getCurrentCPU : Int :=
  (vm.status.currentResources.bind (·.cpu)).getD 0

def getCurrentMemoryMiB : Int :=
  (vm.status.currentResources.bind (·.memoryMiB)).getD 0

/-- A VM without recorded resources is never reconfigured. -/
def needsReconfigure : Bool :=
  let desired := desiredResources vm vmClass
  if getCurrentCPU vm = 0 ∧ getCurrentMemoryMiB vm = 0 then false
  else getCurrentCPU vm ≠ desired.1 ∨ getCurrentMemoryMiB vm ≠ desired.2

def providerKey : ObjectKey :=
  vm.spec.providerRef.key vm.objectMeta.ns

/-- The networks of the references that name one, in the order of the references. -/
def getNetworks (ns : String) :
    List VMNetworkRef → M (Except GoError (List (Option VMNetworkAttachment)))
  | [] => return .ok []
  | netRef :: refs => do
    match netRef.networkRef with
    | none => return (← getNetworks ns refs).map (none :: ·)
    | some ref =>
      match ← ask (.getNetwork ⟨ns, ref.name⟩) with
      | .error err =>
        return .error (err.wrap ("failed to get vmnetworkattachment " ++ ref.name))
      | .ok network => return (← getNetworks ns refs).map (some network :: ·)

def getVMImage : M (Except GoError (Option VMImage)) := do
  match vm.spec.imageRef with
  | none => return .ok none
  | some ref =>
  match ← ask (.getImage (ref.key vm.objectMeta.ns)) with
  | .error err => return .error (err.wrap ("failed to get vmimage " ++ ref.name))
  | .ok image => return .ok (some image)

def getDependencies : M (Except GoError Dependencies) := do
  match ← ask (.getProvider (providerKey vm)) with
  | .error err =>
    if err.reason = .notFound then
      return .error (err.wrap ("provider " ++ vm.spec.providerRef.name ++
        " not found (namespace: " ++ (providerKey vm).ns ++ ")"))
    else return .error (err.wrap ("failed to get provider " ++ vm.spec.providerRef.name))
  | .ok provider =>
  match ← ask (.getClass (vm.spec.classRef.key vm.objectMeta.ns)) with
  | .error err => return .error (err.wrap ("failed to get vmclass " ++ vm.spec.classRef.name))
  | .ok vmClass =>
  match ← getVMImage vm with
  | .error err => return .error err
  | .ok vmImage =>
  match ← getNetworks vm.objectMeta.ns vm.spec.networks with
  | .error err => return .error err
  | .ok networks => return .ok { provider, vmClass, vmImage, networks }

/-- A missing dependency is waited for, and always reported as a missing Provider. -/
def waitForDependencies (err : GoError) : M Return :=
  if err.reason = .notFound ∨ Go.contains err.text.toList "not found".toList = true then
    requeue (setReadyCondition vm .conditionFalse "WaitingForDependencies"
      ("Provider " ++ vm.spec.providerRef.name ++ " not found")) (30 * second)
  else
    requeue (setReadyCondition vm .conditionFalse "WaitingForDependencies" err.text) (5 * second)

/-- A VirtualMachine that names both an image and a disk, or neither. -/
def imageSourceError : Option GoError :=
  match vm.spec.imageRef, vm.spec.importedDisk with
  | none, none => some (errorf "either imageRef or importedDisk must be specified")
  | some _, some _ => some (errorf "imageRef and importedDisk are mutually exclusive")
  | _, _ => none

/-- The status after a Create that was answered. -/
def created (resp : CreateResponse) : VirtualMachine :=
  let vm := updateCurrentResources { vm with status := { vm.status with id := resp.id } } vmClass
  if resp.taskRef ≠ "" then
    setProvisioningCondition { vm with status := { vm.status with lastTaskRef := resp.taskRef } }
      .conditionTrue "Creating" "VM creation initiated"
  else setProvisioningCondition vm .conditionFalse "ReconcileSuccess" "VM created"

/-- The reconciler with the configuration of the providers it reaches. -/
structure Reconciler where
  cfg : Config := {}

namespace Reconciler

variable (r : Reconciler)

def createVM (vm : VirtualMachine) (deps : Dependencies) : M Return := do
  match imageSourceError vm with
  | some err =>
    updateStatus (setProvisioningCondition vm .conditionFalse "ProviderError" err.text)
    return ({}, some err)
  | none =>
  match ← buildCreateRequest vm deps with
  | .error err =>
    requeue (setProvisioningCondition vm .conditionFalse "ProviderError"
      ("Failed to build create request: " ++ err.text)) (5 * second)
  | .ok req =>
  match ← providerCreate r.cfg (providerKey vm) deps.provider.type req with
  | .error err =>
    requeue (setProvisioningCondition vm .conditionFalse "ProviderError"
      ("Failed to create VM: " ++ err.text)) (5 * second)
  | .ok resp => requeue (created vm deps.vmClass resp) (5 * second)

end Reconciler

def powerOp : PowerState → PowerOp
  | .off => .off
  | .offGraceful => .shutdownGraceful
  | _ => .on

def adjustPowerState (desired : PowerState) : M Return := do
  match ← ask (.power (providerKey vm) vm.status.id (powerOp desired)) with
  | .error err =>
    requeue (setReadyCondition vm .conditionFalse "ProviderError"
      ("Failed to adjust power state: " ++ err.text)) (5 * second)
  | .ok taskRef =>
    if taskRef ≠ "" then
      requeue (setReconfiguringCondition
        { vm with status := { vm.status with lastTaskRef := taskRef } }
        .conditionTrue "Updating" "Adjusting power state") (5 * second)
    else requeue vm (5 * second)

def withPhase (phase : VirtualMachinePhase) : VirtualMachine :=
  { vm with status := { vm.status with phase } }

/-- The status after a Reconfigure that was answered. -/
def reconfigured (now : Time) (taskRef : String) : VirtualMachine :=
  let vm := { vm with status := { vm.status with
    phase := .reconfiguring, lastReconfigureTime := some now } }
  if taskRef ≠ "" then
    setReconfiguringCondition { vm with status := { vm.status with reconfigureTaskRef := taskRef } }
      .conditionTrue "Updating" "VM reconfiguration in progress"
  else
    let vm := withPhase (updateCurrentResources vm vmClass) .running
    let vm := setReconfiguringCondition vm .conditionFalse "ReconcileSuccess"
      "VM reconfigured successfully"
    setReadyCondition vm .conditionTrue "ReconcileSuccess" "VM is ready"

def reconfigureVM : M Return := do
  match ← buildCreateRequest vm deps with
  | .error err => return ({}, some err)
  | .ok req =>
  match ← ask (.reconfigure (providerKey vm) vm.status.id req) with
  | .error err =>
    requeue (setReconfiguringCondition vm .conditionFalse "ProviderError"
      ("Failed to reconfigure VM: " ++ err.text)) (5 * second)
  | .ok taskRef =>
    let now ← ask .now
    requeue (reconfigured vm deps.vmClass now taskRef) (5 * second)

/-- `getRequeueInterval`; the states it looks for are not those that providers report. -/
def getRequeueInterval : Duration :=
  if desc.powerState.text = "poweredOn" then
    if desc.ips = [] then 10 * second else 2 * minute
  else if desc.powerState.text = "poweredOff" then 5 * minute
  else if desc.powerState.text = "suspended" then 2 * minute
  else 10 * second

/-- The status with what Describe reported. -/
def described : VirtualMachine :=
  { vm with status := { vm.status with
      powerState := some desc.powerState
      ips := desc.ips
      consoleURL := desc.consoleURL
      provider := desc.providerRaw } }

def markReady : VirtualMachine :=
  setProvisioningCondition (setReadyCondition vm .conditionTrue "ReconcileSuccess" "VM is ready")
    .conditionFalse "ReconcileSuccess" "VM provisioned"

def desiredPowerState : PowerState :=
  if vm.spec.powerState = .unset then .on else vm.spec.powerState

/-- The part of `reconcileVM` for a VM that Describe has found. -/
def reconcileExisting : M Return :=
  let vm := described vm desc
  if desc.powerState.text ≠ (desiredPowerState vm).text then
    adjustPowerState vm (desiredPowerState vm)
  else if needsReconfigure vm deps.vmClass then reconfigureVM vm deps
  else requeue (markReady vm) (getRequeueInterval desc)

/-- Wait for a task of the provider: the result of the reconcile if it is not complete. -/
def checkTask (taskRef : String)
    (setCondition : VirtualMachine → ConditionStatus → String → String → VirtualMachine)
    (failure progress : String) (done : VirtualMachine) : M (Except Return VirtualMachine) := do
  if taskRef = "" then return .ok vm
  else
  match ← ask (.isTaskComplete (providerKey vm) taskRef) with
  | .error err =>
    return .error (← requeue (setCondition vm .conditionFalse "ProviderError"
      (failure ++ ": " ++ err.text)) (5 * second))
  | .ok false =>
    return .error (← requeue (setCondition vm .conditionTrue "TaskInProgress" progress)
      (5 * second))
  | .ok true => return .ok done

def checkLastTask : M (Except Return VirtualMachine) :=
  checkTask vm vm.status.lastTaskRef setProvisioningCondition "Failed to check task"
    "Task in progress" { vm with status := { vm.status with lastTaskRef := "" } }

def reconfigureTaskDone : VirtualMachine :=
  let vm := updateCurrentResources vm vmClass
  let vm := { vm with status := { vm.status with reconfigureTaskRef := "", phase := .running } }
  setReconfiguringCondition vm .conditionFalse "ReconcileSuccess" "VM reconfigured successfully"

def checkReconfigureTask : M (Except Return VirtualMachine) :=
  checkTask vm vm.status.reconfigureTaskRef setReconfiguringCondition
    "Failed to check reconfigure task" "Reconfiguration in progress"
    (reconfigureTaskDone vm vmClass)

/-- The image on the provider: the result of the reconcile if the VM has to wait for it,
and otherwise the VMImage to create the VM from. -/
def ensureImage : M (Except Return (Option VMImage)) := do
  let imageName := (deps.vmImage.map (·.objectMeta.name)).getD ""
  let providerName := deps.provider.objectMeta.name
  match ← ask (.ensureImage vm deps.vmImage (providerKey vm)) with
  | .held =>
    return .error (← requeue (setReadyCondition vm .conditionFalse "WaitingForDependencies"
      ("Image " ++ imageName ++ " not prepared on provider " ++ providerName)) (5 * second))
  | .failed err =>
    return .error (← requeue (setReadyCondition vm .conditionFalse "ProviderError"
      ("Image prepare failed: " ++ err.text)) (5 * second))
  | .preparing =>
    return .error (← requeue (setProvisioningCondition vm .conditionTrue "TaskInProgress"
      ("Preparing image " ++ imageName ++ " on provider " ++ providerName)) (5 * second))
  | .ready image => return .ok image

namespace Reconciler

variable (r : Reconciler)

/-- The VM is gone, so its ID is forgotten. -/
def forgetID : VirtualMachine :=
  { vm with status := { vm.status with id := "" } }

variable (vm : VirtualMachine)

/-- The part of `reconcileVM` after all tasks. An adopted object without an ID waits; a
VM that Describe does not find is created anew, also for an adopted object. -/
def ensureVM (deps : Dependencies) : M Return := do
  if vm.status.id = "" then
    if vmIsAdopted vm then
      requeue (setProvisioningCondition vm .conditionTrue "WaitingForDependencies"
        "Waiting for adoption/clone controller to set Status.ID") (5 * second)
    else r.createVM vm deps
  else
  match ← providerDescribe r.cfg (providerKey vm) deps.provider.type vm.status.id with
  | .error err =>
    requeue (setReadyCondition vm .conditionFalse "ProviderError"
      ("Failed to describe VM: " ++ err.text)) (5 * second)
  | .ok desc =>
    if !desc.doesExist then r.createVM (forgetID vm) deps
    else reconcileExisting vm deps desc

/-- The part of `reconcileVM` once the provider is reached and the image is there. -/
def reconcileTasks (deps : Dependencies) : M Return := do
  match ← checkLastTask vm with
  | .error result => return result
  | .ok vm =>
  match ← checkReconfigureTask vm deps.vmClass with
  | .error result => return result
  | .ok vm => r.ensureVM vm deps

def reconcileVM : M Return := do
  let vm := { vm with status := { vm.status with observedGeneration := vm.objectMeta.generation } }
  match ← getDependencies vm with
  | .error err => waitForDependencies vm err
  | .ok deps =>
  match ← ask (.getProviderInstance (providerKey vm)) with
  | some err =>
    requeue (setReadyCondition vm .conditionFalse "ProviderError" err.text) (5 * second)
  | none =>
  match ← ensureImage vm deps with
  | .error result => return result
  | .ok vmImage => r.reconcileTasks vm { deps with vmImage }

/-- The provider side of a deletion: the result of the reconcile if it has to be retried. -/
def deleteFromProvider : M (Option Return) := do
  if vm.status.id = "" ∨ vm.spec.providerRef.name = "" then return none
  else
  match ← ask (.getProvider (providerKey vm)) with
  | .error err =>
    if err.reason = .notFound then return none else return some (.after (5 * second), none)
  | .ok provider =>
  match ← ask (.getProviderInstance (providerKey vm)) with
  | some _ => return none
  | none =>
  match ← providerDelete (providerKey vm) provider.type vm.status.id with
  | .ok _ => return none
  | .error err =>
    if err.reason = .notFound ∨ hasForceDeleteAnnotation vm then return none
    else return some (.after (15 * second), none)

def handleDeletion : M Return := do
  if !vm.objectMeta.containsFinalizer virtualMachineFinalizer then return ({}, none)
  else
  match ← deleteFromProvider vm with
  | some result => return result
  | none =>
    let err ← ask (.updateVM
      { vm with objectMeta := vm.objectMeta.removeFinalizer virtualMachineFinalizer })
    return ({}, err)

def reconcile (key : ObjectKey) : M Return := do
  match ← ask (.getVM key) with
  | .error err => return ({}, if err.reason = .notFound then none else some err)
  | .ok vm =>
  if vm.objectMeta.deletionTimestamp.isSome then handleDeletion vm
  else if !vm.objectMeta.containsFinalizer virtualMachineFinalizer then
    match ← ask (.updateVM
      { vm with objectMeta := vm.objectMeta.addFinalizer virtualMachineFinalizer }) with
    | some err => return ({}, some err)
    | none => return (.again, none)
  else r.reconcileVM vm

end Reconciler

end Virtrigaud.VM
