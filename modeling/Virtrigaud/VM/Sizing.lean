import Virtrigaud.VM.Books

/-!
# The size of a VM that is reported as ready

The desired CPUs and memory are computed in three places: for the request, for the test
whether a Reconfigure is needed, and for the record in the status. Where they agree, an
object that is persisted as ready has the size it should have, over whole runs. They do
not: the request leaves out the overrides of the object, and a VM that was adopted has no
record, without which it is never reconfigured.
-/

namespace Virtrigaud.VM

open Effects Program List Option

/-- The size that a status records. -/
def recordedSize (status : VirtualMachineStatus) : Option (Int × Int) :=
  status.currentResources.map fun resources =>
    (resources.cpu.getD 0, resources.memoryMiB.getD 0)

/-- The record is the size that was asked for last, unless a Reconfigure is under way. -/
structure Sized (last : Option (Int × Int)) (status : VirtualMachineStatus) : Prop where
  unrecorded : last = none → recordedSize status = none
  recorded : status.id ≠ "" → status.reconfigureTaskRef = "" → recordedSize status = last
  counts : recordedSize status ≠ some (0, 0)

section Sized

variable {last : Option (Int × Int)} {status status' : VirtualMachineStatus} {size : Int × Int}

theorem recordedSize_congr (hresources : status'.currentResources = status.currentResources) :
    recordedSize status' = recordedSize status := by
  unfold recordedSize
  rw [hresources]

theorem Sized.congr (h : Sized last status)
    (hresources : status'.currentResources = status.currentResources) (hid : status'.id = status.id)
    (htask : status'.reconfigureTaskRef = status.reconfigureTaskRef) : Sized last status' := by
  have hsize := recordedSize_congr hresources
  constructor
  · rw [hsize]
    exact h.unrecorded
  · rw [hsize, hid, htask]
    exact h.recorded
  · rw [hsize]
    exact h.counts

/-- What is recorded is what was asked for. -/
theorem sized_of_recorded (hsize : recordedSize status = some size) (hcounts : size ≠ (0, 0)) :
    Sized (some size) status where
  unrecorded := nofun
  recorded := fun _ _ => hsize
  counts := by
    rw [hsize]
    exact fun heq => hcounts (some.inj heq)

section

variable (h : Sized last status) (hresources : status'.currentResources = status.currentResources)
include h hresources

/-- Without an ID the record is of no account. -/
theorem Sized.forget (hid : status'.id = "") : Sized last status' := by
  have hsize := recordedSize_congr hresources
  constructor
  · rw [hsize]
    exact h.unrecorded
  · exact fun hne => absurd hid hne
  · rw [hsize]
    exact h.counts

/-- While a Reconfigure is under way the record may lag behind. -/
theorem Sized.reconfiguring (htask : status'.reconfigureTaskRef ≠ "") :
    Sized (some size) status' where
  unrecorded := nofun
  recorded := fun _ hnone => absurd hnone htask
  counts := by
    rw [recordedSize_congr hresources]
    exact h.counts

end

/-- An object that needs no Reconfigure is recorded with the desired size, or not at all. -/
theorem size_of_not_needsReconfigure {vm : VirtualMachine} {vmClass : VMClass}
    (h : needsReconfigure vm vmClass = false) (hsize : recordedSize vm.status = some size)
    (hcounts : size ≠ (0, 0)) : size = desiredResources vm vmClass := by
  obtain ⟨resources, hresources, rfl⟩ := map_eq_some_iff.mp hsize
  have hcpu : getCurrentCPU vm = resources.cpu.getD 0 := by
    rw [getCurrentCPU, hresources]
    rfl
  have hmemory : getCurrentMemoryMiB vm = resources.memoryMiB.getD 0 := by
    rw [getCurrentMemoryMiB, hresources]
    rfl
  unfold needsReconfigure at h
  rw [hcpu, hmemory] at h
  split at h
  · rename_i hzero
    exact absurd (Prod.ext hzero.1 hzero.2) hcounts
  · rw [decide_eq_false_iff_not, not_or, not_not, not_not] at h
    exact Prod.ext h.1 h.2

end Sized

/-- A reconcile does not get as far as the size: the image is being prepared, the power
state is adjusted, or there is no VM. -/
def diverts : LogEntry → Bool
  | ⟨.ensureImage _ _ _, .preparing⟩ => true
  | ⟨.power _ _ _, _⟩ => true
  | ⟨.response _ (.describe _ (.ok desc)), none⟩ => !desc.doesExist
  | _ => false

def diverted (v : VirtualMachine) (log : List LogEntry) : Bool :=
  decide (v.status.id = "") || log.any diverts

/-- The Reconfigure that was under way is reported as done. -/
def completes (v : VirtualMachine) : LogEntry → Bool
  | ⟨.isTaskComplete _ taskRef, .ok true⟩ => decide (taskRef = v.status.reconfigureTaskRef)
  | _ => false

variable (cpu : Int) (found : String → Int × Int)

/-- The object and the class of a reconcile fit what was done before it: the request asks
for the desired size; a Reconfigure that is done has asked for it; a VM without a record was
found with it; and an object that is ready is not kept from a new size. -/
def Agrees (trace log : List LogEntry) (v : VirtualMachine) (vmClass : VMClass) : Prop :=
  (sentSize vmClass = desiredResources v vmClass ∧ desiredResources v vmClass ≠ (0, 0)) ∧
  (v.status.reconfigureTaskRef ≠ "" → log.any (completes v) = true →
    lastSize trace = some (desiredResources v vmClass)) ∧
  (v.status.id ≠ "" → v.status.currentResources = none →
    found v.status.id = desiredResources v vmClass) ∧
  (isConditionTrue v.status.conditions "Ready" = true → diverted v log = true →
    (lastSize trace).getD (found v.status.id) = desiredResources v vmClass)

instance (found : String → Int × Int) (trace log : List LogEntry) (v : VirtualMachine)
    (vmClass : VMClass) : Decidable (Agrees found trace log v vmClass) :=
  inferInstanceAs (Decidable (_ ∧ _))

/-- The object is not made anew, and it is adopted before its first request only. -/
def retains (key : ObjectKey) (trace : List LogEntry) : Edit → Bool
  | .createObject vm => decide (vm.objectMeta.key ≠ key)
  | .adopt other _ => decide (other ≠ key) || (lastSize trace).isNone
  | _ => true

/-- The condition on a reconcile. -/
structure Sizing (key : ObjectKey) (trace : List LogEntry) (choices : List Choice)
    (log : List LogEntry) : Prop where
  edits : ∀ choice ∈ choices, ∀ edit ∈ choice.edits, retains key trace edit = true
  agrees : ∀ v, Read key log v → ∀ vmClass ∈ log.filterMap classOf,
    Agrees found trace log v vmClass

/-- A size that was asked for is recorded: a write of the status goes through. -/
def Noted (log : List LogEntry) : Prop :=
  lastSize log ≠ none → ∃ entry ∈ log, records entry = true

instance (log : List LogEntry) : Decidable (Noted log) := inferInstanceAs (Decidable (_ → _))

section Runs

variable {found : String → Int × Int} {provider key : ObjectKey} {trace log older : List LogEntry}
  {choices : List Choice} {v vm mem : VirtualMachine} {vmClass : VMClass}

theorem lastSize_append (log trace : List LogEntry) :
    lastSize (log ++ trace) = (lastSize log).or (lastSize trace) :=
  findSome?_append

theorem mem_of_classRead (h : classRead older = some vmClass) (hlog : older ⊆ log) :
    vmClass ∈ log.filterMap classOf := by
  obtain ⟨entry, hmem, hclass⟩ := exists_of_findSome?_eq_some h
  exact mem_filterMap.mpr ⟨entry, hlog hmem, hclass⟩

theorem Agrees.of_subset (h : Agrees found trace log v vmClass) (hlog : older ⊆ log) :
    Agrees found trace older v vmClass := by
  obtain ⟨hsent, hdone, hfound, hready⟩ := h
  have hany : ∀ p : LogEntry → Bool, older.any p = true → log.any p = true := by
    intro p hp
    obtain ⟨entry, hmem, hentry⟩ := any_eq_true.mp hp
    exact any_eq_true.mpr ⟨entry, hlog hmem, hentry⟩
  refine ⟨hsent, fun htask hcompletes => hdone htask (hany _ hcompletes), hfound, ?_⟩
  intro hcondition hdiverted
  apply hready hcondition
  unfold diverted at hdiverted ⊢
  rw [Bool.or_eq_true] at hdiverted ⊢
  exact hdiverted.imp_right (hany _)

/-- The tasks have been looked at: the record is what was asked for last. -/
theorem Resumed.sized (h : Resumed v vmClass log mem) (hsized : Sized (lastSize trace) v.status)
    (hagrees : Agrees found trace log v vmClass) :
    Sized (lastSize trace) mem.status ∧ mem.status.reconfigureTaskRef = "" := by
  rcases h with ⟨htask, rfl⟩ | ⟨htask, hmem, rfl⟩
  · exact ⟨hsized.congr rfl rfl rfl, htask⟩
  · refine ⟨?_, rfl⟩
    have hcompletes : log.any (completes v) = true :=
      any_eq_true.mpr ⟨_, hmem, decide_eq_true rfl⟩
    rw [hagrees.2.1 htask hcompletes]
    exact sized_of_recorded rfl hagrees.1.2

theorem Resumed.desiredResources_eq (h : Resumed v vmClass log mem) (cls : VMClass) :
    desiredResources mem cls = desiredResources v cls := by
  unfold desiredResources
  rw [h.spec_eq]

/-- What is written once the tasks are done records what was asked for last. -/
theorem Ended.sized (h : Ended v vmClass log mem vm) (hresumed : Resumed v vmClass log mem)
    (hsized : Sized (lastSize trace) v.status) (hagrees : Agrees found trace log v vmClass) :
    Sized (lastSize (log ++ trace)) vm.status := by
  obtain ⟨hmem, htask⟩ := hresumed.sized hsized hagrees
  obtain ⟨hsent, hcounts⟩ := hagrees.1
  have hdesired := hresumed.desiredResources_eq vmClass
  rw [lastSize_append]
  cases h with
  | waiting _ _ hnone | notDescribed _ hnone | notReconfigured desc req err message _ hnone
  | ready desc _ _ hnone =>
    rw [hnone]
    exact hmem.congr rfl rfl rfl
  | notCreated _ _ hnone =>
    rw [hnone]
    exact hmem.forget rfl rfl
  | created req resp older _ hlog _ hsize =>
    have hlast : lastSize log = some (CreateRequest.size req) := by
      rw [hlog]
      rfl
    rw [hlast, hsize, hsent]
    refine sized_of_recorded ?_ hcounts
    rw [← hdesired]
    unfold VM.created
    split <;> rfl
  | powered desc op answer _ hnone =>
    rw [hnone]
    unfold powerAdjusted
    split
    · exact hmem.congr rfl rfl rfl
    · split <;> exact hmem.congr rfl rfl rfl
  | reconfigured desc req now taskRef older hlog _ hsize =>
    have hlast : lastSize log = some (CreateRequest.size req) := by
      rw [hlog]
      rfl
    rw [hlast, hsize, hsent]
    unfold VM.reconfigured
    split
    · rename_i htaskRef
      exact hmem.reconfiguring rfl htaskRef
    · refine sized_of_recorded ?_ hcounts
      rw [← hdesired]
      rfl

/-- What a reconcile writes records what was asked for last. -/
theorem Written.sized (h : Written v log vm) (hsized : Sized (lastSize trace) v.status)
    (hagrees : ∀ vmClass ∈ log.filterMap classOf, Agrees found trace log v vmClass) :
    Sized (lastSize (log ++ trace)) vm.status := by
  cases h with
  | unready _ _ hnone | preparing _ _ _ _ hnone | task _ _ _ _ hnone
  | reconfigureTask _ _ _ _ hnone =>
    rw [lastSize_append, hnone]
    exact hsized.congr rfl rfl rfl
  | ended hclass hresumed hended =>
    exact hended.sized hresumed hsized
      (hagrees _ (mem_of_classRead hclass (Subset.refl log)))

/-- What a history of calls means for the record in the status. -/
def sizeKept : Entitles := fun trace status => Sized (lastSize trace) status

theorem Sizing.agrees_at (h : Sizing found key trace choices log) (hread : Read key older v)
    (hsuffix : older <:+ log) :
    ∀ vmClass ∈ older.filterMap classOf, Agrees found trace older v vmClass := by
  intro vmClass hclass
  obtain ⟨entry, hmem, hentry⟩ := mem_filterMap.mp hclass
  have hin : vmClass ∈ log.filterMap classOf :=
    mem_filterMap.mpr ⟨entry, hsuffix.subset hmem, hentry⟩
  exact (h.agrees v (hread.mono hsuffix) vmClass hin).of_subset hsuffix.subset

/-- A reconcile under the condition pays what it owes. -/
theorem Sizing.ledger (h : Sizing found key trace choices log) :
    Ledger sizeKept key trace choices log where
  admits := by
    intro choice hchoice
    constructor
    · intro vm hmem
      exact of_decide_eq_true (h.edits choice hchoice _ hmem)
    · intro id hmem status hsized hid
      have hretains := h.edits choice hchoice _ hmem
      have hnone : lastSize trace = none := by
        simpa [retains] using hretains
      have hrecorded : recordedSize { status with id } = none := hsized.unrecorded hnone
      constructor
      · exact fun _ => hrecorded
      · intro _ _
        rw [hrecorded, hnone]
      · rw [hrecorded]
        exact nofun
  write := by
    intro vm v r older hsuffix hread hwritten hsized
    have hagrees := h.agrees_at hread ((suffix_cons _ older).trans hsuffix)
    exact hwritten.sized hsized hagrees

/-- A reconcile without a request leaves the size that was asked for last. -/
theorem Noted.unseen (h : Noted log) (hquiet : ∀ entry ∈ log, records entry = false)
    (status : VirtualMachineStatus) (hsized : sizeKept trace status) :
    sizeKept (log ++ trace) status := by
  have hnone : lastSize log = none := by
    by_contra hne
    obtain ⟨entry, hmem, hrecords⟩ := h hne
    rw [hquiet entry hmem] at hrecords
    cases hrecords
  unfold sizeKept at hsized ⊢
  rw [lastSize_append, hnone]
  exact hsized

/-- An object is ready, and no task of it is under way. -/
def restsReady (vm : VirtualMachine) : Prop :=
  isConditionTrue vm.status.conditions "Ready" = true ∧ vm.status.lastTaskRef = "" ∧
    vm.status.reconfigureTaskRef = ""

instance (vm : VirtualMachine) : Decidable (restsReady vm) := inferInstanceAs (Decidable (_ ∧ _))

theorem Resumed.isReady_eq (h : Resumed v vmClass log mem) :
    isConditionTrue mem.status.conditions "Ready" =
      isConditionTrue v.status.conditions "Ready" := by
  rcases h with ⟨-, rfl⟩ | ⟨-, -, rfl⟩
  · rfl
  · exact (isConditionTrue_setCondition ..).trans (if_neg (by decide))

/-- A status that sets another condition is ready if it was before. -/
theorem isReady_of_setVMCondition {conditionType reason message : String}
    {status : ConditionStatus} (htype : conditionType ≠ "Ready")
    (h : isConditionTrue (setVMCondition conditionType vm status reason message).status.conditions
      "Ready" = true) :
    isConditionTrue vm.status.conditions "Ready" = true := by
  unfold setVMCondition at h
  rwa [isConditionTrue_setCondition, if_neg htype] at h

theorem not_isReady_setReadyCondition {reason message : String} :
    isConditionTrue (setReadyCondition vm .conditionFalse reason message).status.conditions
      "Ready" = false := by
  unfold setReadyCondition setVMCondition
  rw [isConditionTrue_setCondition, if_pos rfl]
  rfl

/-- A Reconfigure that fails. -/
def reconfigureFails : LogEntry → Bool
  | ⟨.reconfigure _ _ _, .error _⟩ => true
  | _ => false

theorem diverted_of_mem {entry : LogEntry} (hmem : entry ∈ log) (h : diverts entry = true) :
    diverted v log = true := by
  unfold diverted
  rw [Bool.or_eq_true]
  exact .inr (any_eq_true.mpr ⟨entry, hmem, h⟩)

theorem diverted_of_missing (h : Missing v log) : diverted v log = true := by
  rcases h with hid | ⟨desc, hexists, hmem⟩
  · unfold diverted
    rw [Bool.or_eq_true]
    exact .inl (decide_eq_true hid)
  · refine diverted_of_mem hmem ?_
    show (!desc.doesExist) = true
    rw [hexists]
    rfl

/-- The VM of an object that is written as ready once the tasks are done has the desired
size. -/
theorem Ended.desired (h : Ended v vmClass log mem vm) (hresumed : Resumed v vmClass log mem)
    (hsized : Sized (lastSize trace) v.status) (hagrees : Agrees found trace log v vmClass)
    (hreconfigure : ∀ entry ∈ log, reconfigureFails entry = false) (hready : restsReady vm) :
    (lastSize (log ++ trace)).getD (found v.status.id) = desiredResources v vmClass := by
  obtain ⟨hmem, htask⟩ := hresumed.sized hsized hagrees
  obtain ⟨⟨hsent, hcounts⟩, -, hfound, hdiverts⟩ := hagrees
  have hdesired := hresumed.desiredResources_eq vmClass
  -- A reconcile that is diverted leaves an object ready that was ready before.
  have hkept : isConditionTrue mem.status.conditions "Ready" = true → diverted v log = true →
      (lastSize trace).getD (found v.status.id) = desiredResources v vmClass := by
    intro hmemReady
    rw [hresumed.isReady_eq] at hmemReady
    exact hdiverts hmemReady
  obtain ⟨hcondition, hlastTask, hreconfigureTask⟩ := hready
  rw [lastSize_append]
  cases h with
  | waiting _ hid hnone =>
    rw [hnone]
    exact hkept (isReady_of_setVMCondition (by decide) hcondition)
      (diverted_of_missing (.inl hid))
  | notCreated _ hmissing hnone =>
    rw [hnone]
    exact hkept (isReady_of_setVMCondition (by decide) hcondition) (diverted_of_missing hmissing)
  | created req resp older _ hlog _ hsize | reconfigured desc req now taskRef older hlog _ hsize =>
    have hlast : lastSize log = some (CreateRequest.size req) := by
      rw [hlog]
      rfl
    rw [hlast, hsize, hsent]
    rfl
  | notDescribed _ hnone =>
    rw [not_isReady_setReadyCondition] at hcondition
    cases hcondition
  | powered desc op answer hpower hnone =>
    rw [hnone]
    refine hkept ?_ (diverted_of_mem hpower rfl)
    cases answer with
    | error err =>
      unfold powerAdjusted at hcondition
      rw [not_isReady_setReadyCondition] at hcondition
      cases hcondition
    | ok taskRef =>
      unfold powerAdjusted at hcondition hlastTask
      dsimp only at hcondition hlastTask
      split at hcondition
      · rename_i htaskRef
        rw [if_pos htaskRef] at hlastTask
        exact absurd hlastTask htaskRef
      · exact hcondition
  | notReconfigured desc req err message hfails _ => cases hreconfigure _ hfails
  | ready desc hid hneeds hnone =>
    rw [hnone, none_or]
    have hrecorded : recordedSize mem.status = lastSize trace := by
      refine hmem.recorded ?_ htask
      rw [hresumed.id_eq]
      exact hid
    cases hlast : lastSize trace with
    | none =>
      -- Nothing was asked for, so nothing is recorded: the VM was adopted.
      have hunrecorded : v.status.currentResources = none :=
        map_eq_none_iff.mp (hsized.unrecorded hlast)
      exact hfound hid hunrecorded
    | some size =>
      rw [hlast] at hrecorded
      have hne : size ≠ (0, 0) := by
        rintro rfl
        exact hmem.counts hrecorded
      rw [← hdesired]
      exact size_of_not_needsReconfigure hneeds hrecorded hne

/-- The VM of an object that is written as ready has the desired size. -/
theorem Written.desired (h : Written v log vm) (hsized : Sized (lastSize trace) v.status)
    (hagrees : ∀ vmClass ∈ log.filterMap classOf, Agrees found trace log v vmClass)
    (hreconfigure : ∀ entry ∈ log, reconfigureFails entry = false) (hready : restsReady vm) :
    ∃ vmClass, classRead log = some vmClass ∧
      (lastSize (log ++ trace)).getD (found v.status.id) = desiredResources v vmClass := by
  have hagrees' : ∀ {vmClass : VMClass}, classRead log = some vmClass →
      Agrees found trace log v vmClass := fun hclass =>
    hagrees _ (mem_of_classRead hclass (Subset.refl log))
  cases h with
  | unready _ _ _ =>
    have hcondition := hready.1
    rw [not_isReady_setReadyCondition] at hcondition
    cases hcondition
  | preparing _ _ hclass hpreparing hnone =>
    refine ⟨_, hclass, ?_⟩
    rw [lastSize_append, hnone]
    exact (hagrees' hclass).2.2.2 (isReady_of_setVMCondition (by decide) hready.1)
      (diverted_of_mem hpreparing rfl)
  | task _ _ _ htask _ => exact absurd hready.2.1 htask
  | reconfigureTask _ _ _ htask _ => exact absurd hready.2.2 htask
  | ended hclass hresumed hended =>
    exact ⟨_, hclass, hended.desired hresumed hsized (hagrees' hclass) hreconfigure hready⟩

/-- In every run whose reconciles meet the condition and note what they ask for, and in a
further one in which no Reconfigure fails: where the object is persisted as ready without a
task, what was asked for last is the desired size, or what the VM was found with if nothing
was asked for. -/
theorem ready_with_desired_size (r : Reconciler) {kind : ProviderType} {site : Site kind}
    {out : Outcome Call Answer (Site kind) Return}
    (hreach : (system r provider kind key).Reach
      (fun _ trace choices log => Sizing found key trace choices log ∧ Noted log) site trace)
    (hrun : (r.reconcile key).run ⟨Site.answer provider⟩ site [] choices = some out)
    (hsizing : Sizing found key trace choices out.log)
    (hreconfigure : ∀ entry ∈ out.log, reconfigureFails entry = false)
    (hwrite : (⟨.statusUpdate vm, none⟩ :: older) <:+ out.log) (hready : restsReady vm) :
    ∃ v vmClass, Read key older v ∧ classRead older = some vmClass ∧
      (lastSize (older ++ trace)).getD (found v.status.id) = desiredResources v vmClass := by
  have hnone : sizeKept [] {} :=
    ⟨fun _ => rfl, fun _ _ => rfl, nofun⟩
  have hbooks := books_of_reach r hnone
    (fun _ _ _ _ hmeets => ⟨hmeets.1.ledger, hmeets.2.unseen⟩) hreach
  have hpersisted := hbooks.run r hrun hsizing.ledger
  obtain ⟨v, hread, hsized⟩ := hpersisted.grounded _ _ hwrite rfl
  have houtlined : Outlined key older (.statusUpdate vm) :=
    (reconcile_outlined r key).run_allowed hrun hwrite
  obtain ⟨-, w, hread', hwritten⟩ := houtlined
  obtain ⟨-, rfl⟩ := hread.unique hread'
  have hsuffix := (suffix_cons _ older).trans hwrite
  obtain ⟨vmClass, hclass, hsize⟩ := hwritten.desired hsized (hsizing.agrees_at hread hsuffix)
    (fun entry hmem => hreconfigure entry (hsuffix.subset hmem)) hready
  exact ⟨v, vmClass, hread, hclass, hsize⟩

end Runs

namespace Sample

/-! A libvirt provider, an object whose disk was imported, and its class. -/

def web : ObjectKey := ⟨"blue", "web"⟩

/-- The object, with other resources than its class or without. -/
def sizedObject (resources : Option VirtualMachineResources) (labels : StringMap) :
    VirtualMachine :=
  let vm := object web.ns web.name kvm
  { vm with
    objectMeta := { vm.objectMeta with labels }
    spec := { vm.spec with resources } }

def webSite (vm : VirtualMachine) : Site .libvirt where
  vms := .ofList [vm]
  hypervisor := .empty .libvirt

/-- A class of so many CPUs and 2 GiB. -/
def classOfCPUs : VMClass := { spec := { cpu, memory := 2 * gibibyte } }

/-- Everything succeeds: the class has so many CPUs, and the VM is running. -/
def succeeding (domains : List String) : Choice where
  reply := .reports fun
    | .getClass _ => some (.ok (classOfCPUs cpu))
    | .libvirt _ (.getDomainInfo _) => some (.ok { state := "running" })
    | .reconfigure _ _ _ => some (.ok "")
    | .now => some 0
    | c => libvirtAnswers domains c

/-- Create makes the VM, and its ID is written. -/
def createsSized : List Choice :=
  [cached] ++ replicate 7 (succeeding cpu []) ++ [done, succeeding cpu [], done]

/-- Describe finds the VM, and so many calls later the status is written. -/
def describesSized (calls : Nat) (edits : List Edit) : List Choice :=
  [{ edits, reply := .lagging 0 }] ++ replicate (7 + calls) (succeeding cpu ["web"]) ++ [done]

/-- The newest call persists the object as ready without a task, and this holds of the size
that was asked for last and the desired one. -/
def persistsReady (holds : Option (Int × Int) → Int × Int → Bool) (trace : List LogEntry) :
    List LogEntry → Bool
  | ⟨.statusUpdate vm, none⟩ :: older =>
    match older.getLast?, classRead older with
    | some ⟨.getVM key, .ok v⟩, some vmClass =>
      decide (key = web) && decide (restsReady vm) &&
        holds (lastSize (older ++ trace)) (desiredResources v vmClass)
    | _, _ => false
  | _ => false

theorem exists_of_persistsReady {holds : Option (Int × Int) → Int × Int → Bool}
    {trace log : List LogEntry} (h : persistsReady holds trace log = true) :
    ∃ vm older v vmClass, log = ⟨.statusUpdate vm, none⟩ :: older ∧ restsReady vm ∧
      Read web older v ∧ classRead older = some vmClass ∧
      holds (lastSize (older ++ trace)) (desiredResources v vmClass) = true := by
  unfold persistsReady at h
  split at h
  · split at h
    · rename_i hlast hclass
      simp only [Bool.and_eq_true, decide_eq_true_eq] at h
      obtain ⟨⟨rfl, hready⟩, hholds⟩ := h
      exact ⟨_, _, _, _, rfl, hready, hlast, hclass, hholds⟩
    · cases h
  · cases h

/-- A call to the provider that fails. -/
def providerFails : LogEntry → Bool
  | ⟨.request _ _, some _⟩ | ⟨.response _ _, some _⟩ => true
  | ⟨.response _ (.create _ (.error _)), none⟩ => true
  | ⟨.response _ (.describe _ (.error _)), none⟩ => true
  | ⟨.response _ (.delete _ (.error _)), none⟩ => true
  | ⟨.power _ _ _, .error _⟩ | ⟨.reconfigure _ _ _, .error _⟩ => true
  | ⟨.isTaskComplete _ _, .error _⟩ => true
  | _ => false

/-- A check of the condition. -/
def sizingHolds (trace : List LogEntry) (choices : List Choice) (log : List LogEntry) : Bool :=
  choices.all (fun choice => choice.edits.all (retains web trace)) &&
  match log.getLast? with
  | some ⟨.getVM _, .ok v⟩ =>
    (log.filterMap classOf).all fun vmClass => decide (Agrees found trace log v vmClass)
  | _ => true

theorem sizing_of_holds {found : String → Int × Int} {trace log : List LogEntry}
    {choices : List Choice} (h : sizingHolds found trace choices log = true) :
    Sizing found web trace choices log := by
  obtain ⟨hedits, hagrees⟩ := Bool.and_eq_true_iff.mp h
  constructor
  · intro choice hchoice edit hedit
    exact all_eq_true.mp (all_eq_true.mp hedits choice hchoice) edit hedit
  · intro v hread vmClass hclass
    rw [hread] at hagrees
    exact of_decide_eq_true (all_eq_true.mp hagrees vmClass hclass)

end Sample

open Sample

/-- Two runs in which every call to the provider succeeds: the override of the CPUs is left
out of the request and recorded nevertheless; and a VM that was adopted is ready without
any request, whatever it was found with. -/
theorem ready_with_other_size :
    (∃ site trace choices out vm older v vmClass size,
      (system {} kvm .libvirt web).Reach (fun _ _ _ _ => True) site trace ∧
      (({} : Reconciler).reconcile web).run ⟨Site.answer kvm⟩ site [] choices =
        some out ∧ (∀ entry ∈ out.log ++ trace, providerFails entry = false) ∧
      out.log = ⟨.statusUpdate vm, none⟩ :: older ∧ restsReady vm ∧
      Read web older v ∧ classRead older = some vmClass ∧
      lastSize (older ++ trace) = some size ∧ size ≠ desiredResources v vmClass) ∧
    ∃ site choices out vm older v vmClass,
      (system {} kvm .libvirt web).init site ∧
      (({} : Reconciler).reconcile web).run ⟨Site.answer kvm⟩ site [] choices =
        some out ∧ (∀ entry ∈ out.log, providerFails entry = false) ∧
      out.log = ⟨.statusUpdate vm, none⟩ :: older ∧ restsReady vm ∧
      Read web older v ∧ classRead older = some vmClass ∧
      lastSize older = none ∧ desiredResources v vmClass = (8, 2048) := by
  constructor
  · let choices := describesSized 2 0 []
    obtain ⟨site, trace, hreach, out, hrun, hcalls, hready⟩ :=
      (system {} kvm .libvirt web).exists_reach_of_replay
      (P := fun site trace => ∃ out ∈ (({} : Reconciler).reconcile web).run
        ⟨Site.answer kvm⟩ site [] choices,
        ((∀ entry ∈ out.log, providerFails entry = false) ∧
          ∀ entry ∈ trace, providerFails entry = false) ∧
        persistsReady (fun last desired => last.any (· ≠ desired)) trace out.log = true)
      (fun _ _ _ _ => true) [createsSized 2] (fun _ _ _ _ _ => trivial)
      (s := webSite (sizedObject (some { cpu := some 4 }) []))
      ⟨⟨_, rfl, rfl⟩, rfl⟩ (by decide +kernel)
    obtain ⟨vm, older, v, vmClass, hlog, hrests, hread, hclass, hholds⟩ :=
      exists_of_persistsReady hready
    obtain ⟨size, hsize, hne⟩ := (any_eq_true _ _).mp hholds
    exact ⟨site, trace, choices, out, vm, older, v, vmClass, size, hreach, hrun,
      forall_mem_append.mpr hcalls, hlog, hrests, hread, hclass, hsize, of_decide_eq_true hne⟩
  · let site := webSite (sizedObject none [("virtrigaud.io/adopted", "true")])
    let choices := describesSized 8 0 [.addMachine { name := "web" }, .adopt web "web"]
    obtain ⟨out, hrun, hcalls, hready⟩ : ∃ out ∈ (({} : Reconciler).reconcile web).run
        ⟨Site.answer kvm⟩ site [] choices,
        (∀ entry ∈ out.log, providerFails entry = false) ∧ persistsReady
          (fun last desired => last.isNone && decide (desired = (8, 2048))) [] out.log = true := by
      decide +kernel
    obtain ⟨vm, older, v, vmClass, hlog, hrests, hread, hclass, hholds⟩ :=
      exists_of_persistsReady hready
    simp only [append_nil, Bool.and_eq_true, isNone_iff_eq_none,
      decide_eq_true_eq] at hholds
    exact ⟨site, choices, out, vm, older, v, vmClass, ⟨⟨_, rfl, rfl⟩, rfl⟩, hrun,
      hcalls, hlog, hrests, hread, hclass, hholds.1, hholds.2⟩

/-- A VM is created with 2 CPUs; the class then asks for 4, and the VM is reconfigured. -/
theorem ready_with_desired_size_sample : ∃ site trace choices out vm older v vmClass,
    (system {} kvm .libvirt web).Reach (fun _ trace choices log =>
      Sizing (fun _ => (0, 0)) web trace choices log ∧ Noted log) site trace ∧
    (({} : Reconciler).reconcile web).run ⟨Site.answer kvm⟩ site [] choices =
      some out ∧ out.log = ⟨.statusUpdate vm, none⟩ :: older ∧ restsReady vm ∧
    Read web older v ∧ classRead older = some vmClass ∧
    (lastSize trace).getD (0, 0) ≠ desiredResources v vmClass ∧
    (lastSize (older ++ trace)).getD (0, 0) = desiredResources v vmClass := by
  let choices := describesSized 4 2 []
  obtain ⟨site, trace, hreach, out, hrun, hsizing, hreconfigure, hpersists⟩ :=
    (system {} kvm .libvirt web).exists_reach_of_replay
    (P := fun site trace => ∃ out ∈ (({} : Reconciler).reconcile web).run
      ⟨Site.answer kvm⟩ site [] choices,
      sizingHolds (fun _ => (0, 0)) trace choices out.log = true ∧
      (∀ entry ∈ out.log, reconfigureFails entry = false) ∧
      persistsReady (fun _ desired => decide ((lastSize trace).getD (0, 0) ≠ desired))
        trace out.log = true)
    (fun _ trace choices log =>
      sizingHolds (fun _ => (0, 0)) trace choices log && decide (Noted log))
    [createsSized 2]
    (fun _ _ _ _ h => (Bool.and_eq_true_iff.mp h).imp sizing_of_holds
      of_decide_eq_true)
    (s := webSite (sizedObject none [])) ⟨⟨_, rfl, rfl⟩, rfl⟩ (by decide +kernel)
  obtain ⟨vm, older, v, vmClass, hlog, hrests, hread, hclass, hother⟩ :=
    exists_of_persistsReady hpersists
  have hwrite : (⟨.statusUpdate vm, none⟩ :: older) <:+ out.log :=
    hlog ▸ suffix_refl out.log
  obtain ⟨w, otherClass, hread', hclass', hsize⟩ :=
    ready_with_desired_size {} hreach hrun (sizing_of_holds hsizing) hreconfigure hwrite
      hrests
  obtain ⟨-, rfl⟩ := hread.unique hread'
  obtain rfl := some.inj (hclass.symm.trans hclass')
  exact ⟨site, trace, choices, out, vm, older, v, vmClass, hreach, hrun, hlog, hrests, hread,
    hclass, of_decide_eq_true hother, hsize⟩

end Virtrigaud.VM
