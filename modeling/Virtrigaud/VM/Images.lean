import Virtrigaud.VM.Preparation
import Virtrigaud.VM.Reconcile

/-!
# What the image of a VM decides

`reconcileVM` sees to the image before it looks at the VM. Once that is settled, the tasks, the
Describe and the decisions about power and resources do not depend on the image: `manageVM` makes
them without it, and only a Create or a Reconfigure is then filled in from it.
-/

namespace Virtrigaud.VM

open Effects Program Preparation

/-- What `reconcileVM` does once the provider is reached. -/
def Reconciler.reconcileImage (r : Reconciler) (vm : VirtualMachine) (deps : Dependencies) :
    M Return := do
  match ← ensureImage vm deps with
  | .error result => return result
  | .ok vmImage => r.reconcileTasks vm { deps with vmImage }

theorem Reconciler.reconcileVM_eq (r : Reconciler) (v : VirtualMachine) : r.reconcileVM v = (do
    let vm := { v with status := { v.status with observedGeneration := v.objectMeta.generation } }
    match ← getDependencies vm with
    | .error err => waitForDependencies vm err
    | .ok deps =>
    match ← ask (.getProviderInstance (providerKey vm)) with
    | some err =>
      requeue (setReadyCondition vm .conditionFalse "ProviderError" err.text) (5 * second)
    | none => r.reconcileImage vm deps) := rfl

/-- How EnsureImageOnProvider ends, if its write of the status has ended so and it leaves the
image so. -/
def ensured (written : Option GoError) (image : Option VMImage) :
    Ensured → ImageEnsured
  | ⟨_, mutate, outcome⟩ =>
    match mutate, written, outcome with
    | some _, some err, _ => .failed err
    | _, _, .proceed => .ready image
    | _, _, .requeue => .preparing
    | _, _, .hold => .held
    | _, _, .error err => .failed err

/-- The image needs nothing: there is none to prepare, or it is there. -/
def Settled (call : Ensure) : Prop :=
  ¬ call.hasImageRef ∨ ¬ call.isPreparer ∨ ¬ call.supportsImageImport ∨
    call.image.status.available call.provider.name ∨
    ¬ imageSourceNeedsPrepare call.image.spec

/-- The image may be fetched, and the call sees that come to its end: the task it polls is done, or
PrepareImage leaves none. -/
structure Fetched (call : Ensure) (written : Option GoError) : Prop where
  onMissing : call.image.spec.onMissing ≠ .fail ∧ call.image.spec.onMissing ≠ .wait
  polled : call.image.status.prepareTaskRef ≠ "" → call.isTaskComplete = .ok true
  prepared : call.image.status.prepareTaskRef = "" →
    ∃ resp, call.prepareImage = .ok resp ∧ resp.taskRef = ""
  written : written = none

/-- What is left to do with the image. -/
inductive Rest
  | nothing (result : Return)
  | create (vm : VirtualMachine)
  | reconfigure (vm : VirtualMachine)

def Rest.finish (r : Reconciler) (deps : Dependencies) : Rest → M Return
  | .nothing result => return result
  | .create vm => r.createVM vm deps
  | .reconfigure vm => reconfigureVM vm deps

/-- The decisions about a VM that Describe has found. -/
def manageExisting (vm : VirtualMachine) (vmClass : VMClass) (desc : DescribeResponse) : M Rest :=
  let vm := described vm desc
  if desc.powerState.text ≠ (desiredPowerState vm).text then
    return .nothing (← adjustPowerState vm (desiredPowerState vm))
  else if needsReconfigure vm vmClass then return .reconfigure vm
  else return .nothing (← requeue (markReady vm) (getRequeueInterval desc))

/-- The management of a VM with an ID: its tasks, Describe, power and resources. -/
def manageVM (r : Reconciler) (vm : VirtualMachine) (provider : Provider) (vmClass : VMClass) :
    M Rest := do
  match ← checkLastTask vm with
  | .error result => return .nothing result
  | .ok vm =>
  match ← checkReconfigureTask vm vmClass with
  | .error result => return .nothing result
  | .ok vm =>
  match ← providerDescribe r.cfg (providerKey vm) provider.type vm.status.id with
  | .error err =>
    return .nothing (← requeue (setReadyCondition vm .conditionFalse "ProviderError"
      ("Failed to describe VM: " ++ err.text)) (5 * second))
  | .ok desc =>
    if !desc.doesExist then return .create (Reconciler.forgetID vm)
    else manageExisting vm vmClass desc

section

variable {r : Reconciler} {vm : VirtualMachine} {deps : Dependencies}

variable {call : Ensure} {written : Option GoError} {image : Option VMImage}

theorem ensured_image {e : Ensured} {other : Option VMImage}
    (h : ensured written image e = .ready other) : image = other := by
  unfold ensured at h
  dsimp only at h
  split at h <;> cases h
  rfl

theorem pollPrepare_ready : ensured written image (pollPrepare call) = .ready image ↔
    call.isTaskComplete = .ok true ∧ written = none := by
  unfold pollPrepare
  cases written <;> cases call.isTaskComplete with
  | error err => simp [ensured]
  | ok done => cases done <;> simp [ensured]

theorem triggerPrepare_ready :
    ensured written image (triggerPrepare call) = .ready image ↔
      (∃ resp, call.prepareImage = .ok resp ∧ resp.taskRef = "") ∧ written = none := by
  unfold triggerPrepare
  cases call.prepareImage with
  | error err => simp [ensured]
  | ok resp => by_cases htask : resp.taskRef = "" <;> cases written <;> simp [ensured, htask]

theorem fetched_iff (h : call.image.spec.onMissing ≠ .fail ∧ call.image.spec.onMissing ≠ .wait) :
    ensured written image (if call.image.status.prepareTaskRef ≠ "" then
      pollPrepare call else triggerPrepare call) = .ready image ↔
      Fetched call written := by
  split
  · rename_i htask
    rw [pollPrepare_ready]
    exact ⟨fun hready => ⟨h, fun _ => hready.1, fun hnone => absurd hnone htask, hready.2⟩,
      fun hfetched => ⟨hfetched.polled htask, hfetched.written⟩⟩
  · rename_i htask
    rw [triggerPrepare_ready]
    exact ⟨fun hready => ⟨h, fun hsome => absurd hsome htask, fun _ => hready.1, hready.2⟩,
      fun hfetched => ⟨hfetched.prepared (not_not.mp htask), hfetched.written⟩⟩

theorem ensured_eq_ready_iff :
    ensured written image (ensureImageOnProvider call) = .ready image ↔
      Settled call ∨ Fetched call written := by
  unfold ensureImageOnProvider
  split
  · exact iff_of_true rfl (.inl ‹_›)
  rw [or_iff_right ‹_›]
  split
  · rename_i hfail
    exact iff_of_false (by cases written <;> nofun) fun h => h.onMissing.1 hfail
  · rename_i hwait
    exact iff_of_false (by cases written <;> nofun) fun h => h.onMissing.2 hwait
  all_goals
    rename_i hmissing
    exact fetched_iff (by rw [hmissing]; exact ⟨nofun, nofun⟩)

/-- The stages of the tasks go on with the VM they were given. -/
def SameID (vm : VirtualMachine) (stage : Except Return VirtualMachine) : Prop :=
  ∀ next, stage = .ok next → next.status.id = vm.status.id

theorem checkTask_sameID {taskRef failure progress : String} {done : VirtualMachine}
    {setCondition : VirtualMachine → ConditionStatus → String → String → VirtualMachine}
    (h : done.status.id = vm.status.id) :
    (checkTask vm taskRef setCondition failure progress done).Returns (SameID vm) := by
  unfold checkTask
  split
  · rintro next ⟨⟩
    rfl
  · rintro (err | _ | _)
    · exact fun _ next heq => nomatch heq
    · exact fun _ next heq => nomatch heq
    · rintro next ⟨⟩
      exact h

theorem manageExisting_finish (desc : DescribeResponse) :
    manageExisting vm deps.vmClass desc >>= Rest.finish r deps =
      reconcileExisting vm deps desc := by
  unfold manageExisting reconcileExisting
  dsimp only
  split
  · rw [bind_assoc]
    exact bind_done _
  split
  · rfl
  · rfl

theorem reconcileTasks_eq (hid : vm.status.id ≠ "") :
    r.reconcileTasks vm deps = manageVM r vm deps.provider deps.vmClass >>= Rest.finish r deps := by
  unfold Reconciler.reconcileTasks manageVM
  rw [bind_assoc]
  refine Returns.bind_congr (checkTask_sameID rfl) fun stage hstage => ?_
  cases stage with
  | error result => rfl
  | ok vm =>
    have hid := hstage vm rfl ▸ hid
    rw [bind_assoc]
    refine Returns.bind_congr (checkTask_sameID rfl) fun stage hstage => ?_
    cases stage with
    | error result => rfl
    | ok vm =>
      have hid := hstage vm rfl ▸ hid
      unfold Reconciler.ensureVM
      dsimp only
      rw [if_neg hid, bind_assoc]
      refine congrArg _ (funext fun described => ?_)
      cases described with
      | error err => rfl
      | ok desc =>
        dsimp only
        split
        · rfl
        · exact (manageExisting_finish desc).symm

/-- The management of a VM begins with a call to the provider. -/
theorem manageVM_bind (f : Rest → M Return) (provider : Provider) (vmClass : VMClass) :
    ∃ c next, manageVM r vm provider vmClass >>= f = .call c next ∧
      ∀ written, c ≠ .statusUpdate written := by
  unfold manageVM checkLastTask checkTask
  by_cases hlast : vm.status.lastTaskRef = ""
  · rw [if_pos hlast]
    change ∃ c next, (checkReconfigureTask vm vmClass >>= _ >>= f) = .call c next ∧ _
    unfold checkReconfigureTask checkTask
    by_cases hreconfigure : vm.status.reconfigureTaskRef = ""
    · rw [if_pos hreconfigure]
      exact ⟨.request (providerKey vm) (.describe vm.status.id), _, rfl, fun _ h => by cases h⟩
    · rw [if_neg hreconfigure]
      exact ⟨.isTaskComplete _ _, _, rfl, fun _ h => by cases h⟩
  · rw [if_neg hlast]
    exact ⟨.isTaskComplete _ _, _, rfl, fun _ h => by cases h⟩

end

/-- For a VM with an ID the reconcile asks for its image, and then does what `manageVM` decides
without the image, exactly if that needs nothing or is fetched in this call. -/
theorem management_without_image (r : Reconciler) (vm : VirtualMachine) (deps : Dependencies)
    (hid : vm.status.id ≠ "") :
    ∃ next, r.reconcileImage vm deps = .call (.ensureImage vm deps.vmImage (providerKey vm)) next ∧
      ∀ call written image, next (ensured written image (ensureImageOnProvider call)) =
          manageVM r vm deps.provider deps.vmClass >>=
            Rest.finish r { deps with vmImage := image } ↔
        Settled call ∨ Fetched call written := by
  refine ⟨_, rfl, fun call written image => ?_⟩
  rw [← @ensured_eq_ready_iff call written image]
  cases hensured : ensured written image (ensureImageOnProvider call) with
  | ready other =>
    obtain rfl := ensured_image hensured
    exact iff_of_true (@reconcileTasks_eq r vm { deps with vmImage := image } hid) rfl
  | preparing | held | failed =>
    refine iff_of_false (fun heq => ?_) nofun
    -- Without its image the reconcile begins with a write of the status.
    obtain ⟨c, next, hmanage, hcall⟩ :=
      @manageVM_bind r vm (Rest.finish r { deps with vmImage := image }) deps.provider deps.vmClass
    exact hcall _ (Program.call.inj (heq.trans hmanage)).1.symm

namespace Images

def vm : VirtualMachine where
  spec := { providerRef := { name := "lab" } }
  status := { id := "vm-1" }

def deps : Dependencies := { provider := {}, vmClass := {}, vmImage := none, networks := [] }

/-- The image is to be waited for. -/
def waits : Ensure where
  image := { spec := { libvirt := some { url := "http://images/1" }, onMissing := .wait } }
  provider := ⟨"", "lab"⟩

/-- The image is to be fetched. -/
def fetches : Ensure := { waits with image := { spec := {} } }

end Images

open Images

/-- An image whose preparation ends in the call does not matter. -/
theorem management_without_image_sample : ∃ next, Reconciler.reconcileImage {} vm deps =
      .call (.ensureImage vm none (providerKey vm)) next ∧
    ∀ image, next (ensured none image (ensureImageOnProvider fetches)) =
      manageVM {} vm {} {} >>= Rest.finish {} { deps with vmImage := image } := by
  obtain ⟨next, hnext, h⟩ := management_without_image {} vm deps (by decide)
  refine ⟨next, hnext, fun image => (h _ none image).mpr (.inr ?_)⟩
  exact ⟨⟨nofun, nofun⟩, fun h => absurd rfl h, fun _ => ⟨_, rfl, rfl⟩, rfl⟩

/-- The VM exists, but while its image is waited for, a status write is all that follows. -/
theorem image_stops_management : ∃ next, Reconciler.reconcileImage {} vm deps =
      .call (.ensureImage vm none (providerKey vm)) next ∧
    ∀ image, (next (ensured none image (ensureImageOnProvider waits))).Only
      fun c => ∃ written, c = .statusUpdate written :=
  ⟨_, rfl, fun _ => ⟨⟨_, rfl⟩, fun _ => trivial⟩⟩

end Virtrigaud.VM
