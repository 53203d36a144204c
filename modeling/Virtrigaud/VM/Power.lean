import Virtrigaud.VM.Reconcile

/-!
# Reaching the power state

One VM that exists, and a provider that carries out every Power, at once or with a task that is
polled. Reconciles compare the text of the reported state with the text of the desired one. On and
Off are reported as such, so there is nothing to do once a Power has taken effect; a VM that was
shut down gracefully is reported as Off, and is shut down again and again.
-/

namespace Virtrigaud.VM.Power

open Effects Program

/-- The object as it is stored, the state of its VM, the number of polls for which the last task is
in progress, and the number of Power RPCs so far. -/
structure Loop where
  vm : VirtualMachine
  power : ReportedPower
  busy : Nat := 0
  calls : Nat := 0

def effect : PowerOp → ReportedPower
  | .on | .reboot => .on
  | .off | .shutdownGraceful => .off

/-- The API server stores a status whose power state is one of the enumeration. -/
def valid (vm : VirtualMachine) : Bool :=
  vm.status.powerState.all fun power => power.text ∈ ["On", "Off", "OffGraceful"]

/-- The state after a status write. -/
def stored (s : Loop) (vm : VirtualMachine) : Loop := if valid vm then { s with vm } else s

/-- What does not change: the state of the VM at first, the task that a Power leaves, and for how
many polls it is in progress, the answers to all other calls, the dependencies, and what Describe
reports beside the power state. -/
structure Surroundings where
  reconciler : Reconciler := {}
  first : ReportedPower
  taskRef : String
  polls : Nat
  others : Loop → (c : Call) → Answer c
  deps : Dependencies
  desc : DescribeResponse

variable (w : Surroundings) {s : Loop} {desired : PowerState}

def serve : Handler Call Answer Loop
  | s, .power _ _ op =>
    (.ok w.taskRef, { s with power := effect op, busy := w.polls, calls := s.calls + 1 })
  | s, .statusUpdate vm =>
    (if valid vm then none else some (errorf "Unsupported value"), stored s vm)
  | s, .isTaskComplete _ _ => (.ok (decide (s.busy = 0)), { s with busy := s.busy - 1 })
  | s, c => (w.others s c, s)

/-- The states that the VM can be in. -/
def Possible (power : ReportedPower) : Prop := power = w.first ∨ power = .on ∨ power = .off

/-- Describe finds the VM, and reports the state it is in. -/
def Reports : Prop :=
  w.desc.doesExist = true ∧ ∀ s provider id, Possible w s.power →
    (providerDescribe w.reconciler.cfg provider w.deps.provider.type id).eval (serve w) s =
      (.ok { w.desc with powerState := s.power }, s)

/-- A reconcile, from the tasks on. -/
def step (s : Loop) : Loop := ((w.reconciler.reconcileTasks s.vm w.deps).eval (serve w) s).2

/-- The state after so many reconciles. -/
def after (s : Loop) : Nat → Loop
  | 0 => s
  | n + 1 => after (step w s) n

/-- The object is reported as ready. -/
def Ready (s : Loop) : Prop := isConditionTrue s.vm.status.conditions "Ready" = true

/-- The object asks for this state; its VM has been created, and has the size it should have. -/
structure Wants (desired : PowerState) (s : Loop) : Prop where
  asked : desiredPowerState s.vm = desired
  size : needsReconfigure s.vm w.deps.vmClass = false
  id : s.vm.status.id ≠ ""
  resized : s.vm.status.reconfigureTaskRef = ""
  possible : Possible w s.power

/-- The reconcile only polls the last task. -/
def Waits (s : Loop) : Prop := s.vm.status.lastTaskRef ≠ "" ∧ s.busy ≠ 0

/-- The object without its last task. -/
def settledTask (vm : VirtualMachine) : VirtualMachine :=
  { vm with status := { vm.status with lastTaskRef := "" } }

variable {w}

theorem Wants.stored {vm : VirtualMachine} (h : Wants w desired s)
    (h' : Wants w desired { s with vm }) :
    Wants w desired (stored s vm) := by
  unfold Power.stored
  split
  · exact h'
  · exact h

/-- A task in progress is waited for. -/
theorem step_waits (h : Waits s) :
    step w s = stored { s with busy := s.busy - 1 }
      (setProvisioningCondition s.vm .conditionTrue "TaskInProgress" "Task in progress") := by
  have hbusy : decide (s.busy = 0) = false := decide_eq_false h.2
  have hpoll : (checkLastTask s.vm).eval (serve w) s =
      (.error (.after (5 * second), none), stored { s with busy := s.busy - 1 }
        (setProvisioningCondition s.vm .conditionTrue "TaskInProgress" "Task in progress")) := by
    unfold checkLastTask checkTask
    rw [if_neg h.1]
    simp only [ask, perform_bind, eval_call, serve, hbusy]
    rfl
  unfold step Reconciler.reconcileTasks
  rw [eval_bind_of hpoll]
  rfl

/-- Without a task in progress Describe is called, and what it reports compared. -/
theorem step_compares (hreports : Reports w) (h : Wants w desired s) (hwaits : ¬ Waits s) :
    ∃ busy ≤ s.busy, step w s = ((reconcileExisting (settledTask s.vm) w.deps
      { w.desc with powerState := s.power }).eval (serve w) { s with busy }).2 := by
  have hpoll : ∃ busy ≤ s.busy, (checkLastTask s.vm).eval (serve w) s =
      (.ok (settledTask s.vm), { s with busy }) := by
    unfold checkLastTask checkTask
    by_cases htask : s.vm.status.lastTaskRef = ""
    · have hsettled : settledTask s.vm = s.vm := by
        unfold settledTask
        rw [← htask]
      rw [if_pos htask, hsettled]
      exact ⟨s.busy, Nat.le_refl _, rfl⟩
    · have hbusy : s.busy = 0 := not_not.mp fun hne => hwaits ⟨htask, hne⟩
      rw [if_neg htask]
      refine ⟨0, Nat.zero_le _, ?_⟩
      simp only [ask, perform_bind, eval_call, serve, hbusy]
      rfl
  obtain ⟨busy, hle, hpoll⟩ := hpoll
  refine ⟨busy, hle, ?_⟩
  have hresized : checkReconfigureTask (settledTask s.vm) w.deps.vmClass =
      .done (.ok (settledTask s.vm)) := if_pos h.resized
  have hid : (settledTask s.vm).status.id ≠ "" := h.id
  have hdescribed := hreports.2 { s with busy } (providerKey (settledTask s.vm))
    (settledTask s.vm).status.id h.possible
  unfold step Reconciler.reconcileTasks
  rw [eval_bind_of hpoll]
  dsimp only
  rw [hresized, done_bind]
  dsimp only
  rw [Reconciler.ensureVM, if_neg hid, eval_bind_of hdescribed]
  dsimp only
  rw [hreports.1]
  rfl

/-- A state that differs is adjusted. -/
theorem step_adjusts (hreports : Reports w) (h : Wants w desired s) (hwaits : ¬ Waits s)
    (hdiffers : s.power.text ≠ desired.text) :
    Wants w desired (step w s) ∧ (step w s).power = effect (powerOp desired) ∧
      (step w s).busy = w.polls ∧ (step w s).calls = s.calls + 1 := by
  obtain ⟨busy, -, hstep⟩ := step_compares hreports h hwaits
  let s' : Loop :=
    { s with power := effect (powerOp desired), busy := w.polls, calls := s.calls + 1 }
  have hpossible : Possible w (effect (powerOp desired)) := by
    refine .inr ?_
    cases desired with
    | off | offGraceful => exact .inr rfl
    | on | unset => exact .inl rfl
  have hafter : Wants w desired s' := ⟨h.asked, h.size, h.id, h.resized, hpossible⟩
  have hadjusts : ∃ vm, step w s = stored s' vm ∧ Wants w desired (step w s) := by
    rw [hstep]
    unfold reconcileExisting
    dsimp only
    rw [show desiredPowerState (described (settledTask s.vm) _) = desired from h.asked,
      if_pos hdiffers]
    change ∃ vm, ((if w.taskRef ≠ "" then _ else _ : M Return).eval _ _).2 = _ ∧
      Wants _ _ ((if w.taskRef ≠ "" then _ else _ : M Return).eval _ _).2
    split
    · exact ⟨_, rfl, hafter.stored ⟨h.asked, h.size, h.id, h.resized, hpossible⟩⟩
    · exact ⟨_, rfl, hafter.stored ⟨h.asked, h.size, h.id, h.resized, hpossible⟩⟩
  obtain ⟨vm, heq, hwants⟩ := hadjusts
  refine ⟨hwants, ?_⟩
  rw [heq, stored]
  split <;> exact ⟨rfl, rfl, rfl⟩

variable (w) in
/-- The VM is as it should be, the object says so, and no task is left to poll. -/
structure Settled (desired : PowerState) (s : Loop) : Prop extends Wants w desired s where
  same : s.power.text = desired.text
  task : s.vm.status.lastTaskRef = ""
  ready : Ready s

/-- A state that agrees leaves the object ready. -/
theorem step_settles (hreports : Reports w) (hdesired : desired = .on ∨ desired = .off)
    (h : Wants w desired s) (hwaits : ¬ Waits s) (hsame : s.power.text = desired.text) :
    Settled w desired (step w s) ∧ (step w s).calls = s.calls := by
  obtain ⟨busy, -, hstep⟩ := step_compares hreports h hwaits
  let vm := markReady (described (settledTask s.vm) { w.desc with powerState := s.power })
  have hvalid : valid vm = true := by
    change decide (s.power.text ∈ _) = true
    rw [hsame]
    rcases hdesired with rfl | rfl <;> decide
  have hready : step w s = stored { s with busy } vm := by
    rw [hstep]
    unfold reconcileExisting
    dsimp only
    rw [show desiredPowerState (described (settledTask s.vm) _) = desired from h.asked,
      if_neg (not_not.mpr hsame),
      show needsReconfigure (described (settledTask s.vm) _) _ = false from h.size]
    rfl
  rw [hready, stored, if_pos hvalid]
  refine ⟨⟨⟨h.asked, h.size, h.id, h.resized, h.possible⟩, hsame, rfl, ?_⟩, rfl⟩
  simp [Ready, isConditionTrue, vm, markReady, setProvisioningCondition, setReadyCondition,
    setVMCondition, getCondition_setCondition]

/-- A poll changes neither the VM nor what is wanted of it. -/
theorem step_polls (h : Wants w desired s) (hwaits : Waits s) :
    Wants w desired (step w s) ∧ (step w s).power = s.power ∧
      (step w s).busy + 1 = s.busy ∧ (step w s).calls = s.calls := by
  have hbusy : s.busy - 1 + 1 = s.busy := Nat.succ_pred hwaits.2
  have hpolled : Wants w desired { s with busy := s.busy - 1 } :=
    ⟨h.asked, h.size, h.id, h.resized, h.possible⟩
  rw [step_waits hwaits]
  refine ⟨hpolled.stored ⟨h.asked, h.size, h.id, h.resized, h.possible⟩, ?_⟩
  rw [stored]
  split <;> exact ⟨rfl, hbusy, rfl⟩

section Convergence

variable (hreports : Reports w) (hdesired : desired = .on ∨ desired = .off)
include hreports hdesired

theorem after_settled (h : Settled w desired s) (n : Nat) :
    Settled w desired (after w s n) ∧ (after w s n).calls = s.calls := by
  induction n generalizing s with
  | zero => exact ⟨h, rfl⟩
  | succ n ih =>
    have hwaits : ¬ Waits s := fun hwaits => hwaits.1 h.task
    obtain ⟨hnext, hcalls⟩ := step_settles hreports hdesired h.toWants hwaits h.same
    obtain ⟨hafter, hcalls'⟩ := ih hnext
    exact ⟨hafter, hcalls'.trans hcalls⟩

/-- Once the VM is in the state, the object is ready after the polls that are left and one more
reconcile. -/
theorem after_same {polls : Nat} (h : Wants w desired s) (hsame : s.power.text = desired.text)
    (hpolls : s.busy ≤ polls) (n : Nat) :
    Settled w desired (after w s (polls + 1 + n)) ∧
      (after w s (polls + 1 + n)).calls = s.calls := by
  induction polls generalizing s n with
  | zero =>
    have hwaits : ¬ Waits s := fun hwaits => hwaits.2 (Nat.le_zero.mp hpolls)
    obtain ⟨hnext, hcalls⟩ := step_settles hreports hdesired h hwaits hsame
    obtain ⟨hafter, hcalls'⟩ := after_settled hreports hdesired hnext n
    rw [Nat.zero_add, Nat.add_comm]
    exact ⟨hafter, hcalls'.trans hcalls⟩
  | succ polls ih =>
    have hone : after w s (polls + 1 + 1 + n) = after w (step w s) (polls + 1 + n) := by
      rw [show polls + 1 + 1 + n = polls + 1 + n + 1 by omega]
      rfl
    rw [hone]
    by_cases hwaits : Waits s
    · obtain ⟨hnext, hpower, hbusy, hcalls⟩ := step_polls h hwaits
      rw [← hcalls]
      exact ih hnext (hpower ▸ hsame) (by omega) n
    · obtain ⟨hnext, hcalls⟩ := step_settles hreports hdesired h hwaits hsame
      rw [← hcalls]
      exact after_settled hreports hdesired hnext _

/-- The state is brought about once the last task is over, and the object is ready after the polls
of the Power. -/
theorem after_wants {polls : Nat} (h : Wants w desired s) (hpolls : s.busy ≤ polls) (n : Nat) :
    Settled w desired (after w s (polls + 1 + (w.polls + 1 + n))) ∧
      (after w s (polls + 1 + (w.polls + 1 + n))).calls =
        s.calls + if s.power.text = desired.text then 0 else 1 := by
  by_cases hsame : s.power.text = desired.text
  · rw [if_pos hsame]
    exact after_same hreports hdesired h hsame hpolls _
  rw [if_neg hsame]
  have hadjusts : ∀ {s : Loop}, Wants w desired s → ¬ Waits s → s.power.text ≠ desired.text →
      ∀ n, Settled w desired (after w (step w s) (w.polls + 1 + n)) ∧
        (after w (step w s) (w.polls + 1 + n)).calls = s.calls + 1 := by
    intro s h hwaits hdiffers n
    obtain ⟨hnext, hpower, hbusy, hcalls⟩ := step_adjusts hreports h hwaits hdiffers
    have hsame : (step w s).power.text = desired.text := by
      rw [hpower]
      rcases hdesired with rfl | rfl <;> rfl
    rw [← hcalls]
    exact after_same hreports hdesired hnext hsame (Nat.le_of_eq hbusy) n
  induction polls generalizing s with
  | zero =>
    rw [Nat.add_comm (0 + 1)]
    exact hadjusts h (fun hwaits => hwaits.2 (Nat.le_zero.mp hpolls)) hsame n
  | succ polls ih =>
    by_cases hwaits : Waits s
    · obtain ⟨hnext, hpower, hbusy, hcalls⟩ := step_polls h hwaits
      rw [show polls + 1 + 1 + (w.polls + 1 + n) = polls + 1 + (w.polls + 1 + n) + 1 by omega,
        ← hcalls]
      exact ih hnext (by omega) (hpower ▸ hsame)
    · rw [show polls + 1 + 1 + (w.polls + 1 + n) = w.polls + 1 + (polls + 1 + n) + 1 by omega]
      exact hadjusts h hwaits hsame _

end Convergence

namespace Sample

/-- A VM without recorded resources, which is never resized. -/
def vm (powerState : PowerState) : VirtualMachine where
  objectMeta := { name := "web", ns := "prod" }
  spec := { providerRef := { name := "vcenter" }, powerState }
  status := { id := "vm-1" }

/-- A vCenter with this VM, on which a Power takes so many polls. -/
def vcenter (others : (c : Call) → Answer c) (polls : Nat) : Surroundings where
  first := .on
  taskRef := "task-1"
  polls := polls
  deps := { provider := { type := .vsphere }, vmClass := {}, vmImage := none, networks := [] }
  desc := {}
  others
    | _, .request _ _ => none
    | _, .response _ _ => none
    | _, .vsphere _ .defaultDatacenter => none
    | s, .vsphere _ (.retrieve _) => .ok { poweredOn := decide (s.power = .on) }
    | _, c => others c

theorem vcenter_reports (others : (c : Call) → Answer c) (polls : Nat) :
    Reports (vcenter others polls) := by
  refine ⟨rfl, fun ⟨vm, power, busy, calls⟩ provider vmID hpossible => ?_⟩
  have hpower : power = .on ∨ power = .off := hpossible.elim .inl fun h => h
  rcases hpower with rfl | rfl <;> rfl

end Sample

end Virtrigaud.VM.Power
