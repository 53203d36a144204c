import Mathlib.Logic.Function.Iterate
import Virtrigaud.Snapshot.Reconcile

/-!
# When the retention policy is applied

`Reconcile` looks up the VirtualMachine of a snapshot before anything else, and goes on only when
it finds it. The policy is applied after that, and its Delete leaves the object to a reconcile that
takes the finalizer away.
-/

namespace Virtrigaud.Snapshot

open Effects Program

/-- What the reconciles of a snapshot find: an API server and a provider that answer. `deleted` is
what the provider answers to SnapshotDelete. -/
structure World where
  snapshot : Option VMSnapshot
  vm : Option VirtualMachine
  provider : Provider := {}
  deleted : Except GoError String := .ok ""
  now : Time

def notFound : GoError := { reason := .notFound, text := "not found" }

/-- An object that is being deleted is gone with its last finalizer. Nothing answers what only a
snapshot that is still to be made asks for. -/
def World.answer (w : World) : (c : Call) → Option (Answer c × World)
  | .getSnapshot _ => some (w.snapshot.elim (.error notFound) .ok, w)
  | .updateSnapshot snapshot =>
    let gone :=
      snapshot.objectMeta.deletionTimestamp.isSome && snapshot.objectMeta.finalizers.isEmpty
    some (none, { w with snapshot := if gone then none else some snapshot })
  | .statusUpdate snapshot =>
    let resourceVersion := snapshot.objectMeta.resourceVersion + 1
    some (.ok resourceVersion, { w with snapshot := w.snapshot.map fun stored =>
      { stored with
        objectMeta := { stored.objectMeta with resourceVersion }, status := snapshot.status } })
  | .deleteSnapshot _ =>
    some (none, { w with snapshot := w.snapshot.map fun stored =>
      { stored with objectMeta := { stored.objectMeta with deletionTimestamp := some w.now } } })
  | .getVirtualMachine _ => some (w.vm.elim (.error notFound) .ok, w)
  | .getProvider _ => some (.ok w.provider, w)
  | .getProviderInstance _ => some (none, w)
  | .snapshotDelete _ _ _ => some (w.deleted, w)
  | .now => some (w.now, w)
  | _ => none

/-- What a computation leaves; one that is not answered any more ends there. -/
def serve {α : Type} : M α → World → World
  | .done _, w => w
  | .call c next, w =>
    match w.answer c with
    | none => w
    | some (r, w') => serve (next r) w'

/-- One reconcile of the snapshot. -/
def World.reconcile (r : Reconciler) (key : ObjectKey) (w : World) : World :=
  serve (r.reconcile key) w

/-- A Ready snapshot that is not being deleted and that no other controller holds on to. -/
structure Settled (snapshot : VMSnapshot) : Prop where
  kept : snapshot.objectMeta.deletionTimestamp = none
  finalizer : snapshot.objectMeta.containsFinalizer finalizer = true
  alone : ∀ other ∈ snapshot.objectMeta.finalizers, other = Snapshot.finalizer
  ready : snapshot.status.phase = .ready

/-- The snapshot is older than its policy allows. -/
def Expired (snapshot : VMSnapshot) (now : Time) : Prop :=
  ∃ maxAge creationTime,
    snapshot.spec.retentionPolicy.bind SnapshotRetentionPolicy.maxAge = some maxAge ∧
    snapshot.status.creationTime = some creationTime ∧ now - creationTime > maxAge

/-- The policy asks for the deletion. -/
def World.Due (w : World) (snapshot : VMSnapshot) : Prop :=
  Expired snapshot w.now ∨ w.vm = none ∧
    snapshot.spec.retentionPolicy.any SnapshotRetentionPolicy.deleteOnVMDelete = true

variable {r : Reconciler} {key : ObjectKey} {w : World} {snapshot : VMSnapshot}
  {vm : VirtualMachine}

theorem serve_ask {α : Type} {c : Call} {f : Answer c → M α} {answer : Answer c} {w' : World}
    (h : w.answer c = some (answer, w')) : serve (ask c >>= f) w = serve (f answer) w' := by
  simp only [ask, perform, call_bind, done_bind, serve, h]

/-- A snapshot with its finalizer comes to the lookup of its VirtualMachine. -/
theorem reconcile_settled (hsnapshot : w.snapshot = some snapshot) (hsettled : Settled snapshot) :
    w.reconcile r key = serve (do
      match ← ask (.getVirtualMachine (vmKey snapshot)) with
      | .error err => persistOrNot snapshot (vmMissing snapshot.status err) (.after (30 * second))
      | .ok vm =>
      if vm.status.id = "" then
        persistOrNot snapshot (vmWaits snapshot.status) (.after (30 * second))
      else r.handlePhase snapshot vm) w := by
  have hread : w.answer (.getSnapshot key) = some (.ok snapshot, w) := by
    simp [World.answer, hsnapshot]
  have halive : ¬ snapshot.objectMeta.deletionTimestamp.isSome = true := by
    simp [hsettled.kept]
  refine (serve_ask hread).trans (congrArg (serve · w) ?_)
  exact (if_neg halive).trans (if_neg (not_not.mpr hsettled.finalizer))

/-- A write of the status leaves a snapshot settled, if it changes the conditions only. -/
theorem persistOrNot_settled (hsnapshot : w.snapshot = some snapshot) (hsettled : Settled snapshot)
    {status : VMSnapshotStatus} {result : Result} (hphase : status.phase = snapshot.status.phase) :
    ∃ left, Settled left ∧
      serve (persistOrNot snapshot status result) w = { w with snapshot := some left } := by
  refine ⟨{ snapshot with
    objectMeta := { snapshot.objectMeta with
      resourceVersion := snapshot.objectMeta.resourceVersion + 1 }, status }, ?_, ?_⟩
  · exact ⟨hsettled.kept, hsettled.finalizer, hsettled.alone, hphase.trans hsettled.ready⟩
  · change { w with snapshot := w.snapshot.map _ } = _
    rw [hsnapshot]
    rfl

/-- A reconcile that does not find the VirtualMachine provisioned leaves a settled snapshot. -/
theorem reconcile_waits (hsnapshot : w.snapshot = some snapshot) (hsettled : Settled snapshot)
    (hvm : ∀ vm ∈ w.vm, vm.status.id = "") :
    ∃ left, Settled left ∧ w.reconcile r key = { w with snapshot := some left } := by
  rw [reconcile_settled hsnapshot hsettled]
  cases hfound : w.vm with
  | none =>
    have hread : w.answer (.getVirtualMachine (vmKey snapshot)) = some (.error notFound, w) := by
      simp [World.answer, hfound]
    rw [serve_ask hread, ← hfound]
    exact persistOrNot_settled hsnapshot hsettled rfl
  | some vm =>
    have hread : w.answer (.getVirtualMachine (vmKey snapshot)) = some (.ok vm, w) := by
      simp [World.answer, hfound]
    rw [serve_ask hread, ← hfound]
    dsimp only
    rw [if_pos (hvm vm hfound)]
    exact persistOrNot_settled hsnapshot hsettled rfl

theorem iterate_waits (hsnapshot : w.snapshot = some snapshot) (hsettled : Settled snapshot)
    (hvm : ∀ vm ∈ w.vm, vm.status.id = "") (n : Nat) :
    ∃ left, Settled left ∧ (World.reconcile r key)^[n] w = { w with snapshot := some left } := by
  induction n with
  | zero => exact ⟨snapshot, hsettled, by rw [← hsnapshot]; rfl⟩
  | succ n ih =>
    obtain ⟨left, hleft, heq⟩ := ih
    rw [Function.iterate_succ_apply', heq]
    exact @reconcile_waits r key { w with snapshot := some left } left rfl hleft hvm

/-- A reconcile that finds the VirtualMachine asks for the deletion of a snapshot that has
expired. -/
theorem reconcile_expired (hsnapshot : w.snapshot = some snapshot) (hsettled : Settled snapshot)
    (hvm : w.vm = some vm) (hid : vm.status.id ≠ "") (hexpired : Expired snapshot w.now) :
    w.reconcile r key = { w with snapshot := some { snapshot with
      objectMeta := { snapshot.objectMeta with deletionTimestamp := some w.now } } } := by
  obtain ⟨maxAge, creationTime, hmaxAge, hcreated, hage⟩ := hexpired
  have hread : w.answer (.getVirtualMachine (vmKey snapshot)) = some (.ok vm, w) := by
    simp [World.answer, hvm]
  rw [reconcile_settled hsnapshot hsettled, serve_ask hread]
  dsimp only
  rw [if_neg hid, Reconciler.handlePhase, hsettled.ready]
  unfold handleRetention expired
  rw [hmaxAge, hcreated]
  change serve (do
    if decide (w.now - creationTime > maxAge) then deleteObject snapshot else _) w = _
  rw [if_pos (decide_eq_true hage)]
  change { w with snapshot := w.snapshot.map _ } = _
  rw [hsnapshot]
  rfl

theorem removeFinalizer_gone (hdeleted : snapshot.objectMeta.deletionTimestamp.isSome = true)
    (halone : ∀ other ∈ snapshot.objectMeta.finalizers, other = finalizer) :
    (serve (removeFinalizer snapshot) w).snapshot = none := by
  have hempty : (snapshot.objectMeta.removeFinalizer finalizer).finalizers = [] := by
    simpa [ObjectMeta.removeFinalizer] using halone
  change (if snapshot.objectMeta.deletionTimestamp.isSome &&
    (snapshot.objectMeta.removeFinalizer finalizer).finalizers.isEmpty then none else _) = none
  rw [hdeleted, hempty]
  rfl

/-- The reconcile of a snapshot that is being deleted takes its last finalizer away. -/
theorem reconcile_deleting (hsnapshot : w.snapshot = some snapshot)
    (hdeleted : snapshot.objectMeta.deletionTimestamp.isSome = true)
    (halone : ∀ other ∈ snapshot.objectMeta.finalizers, other = finalizer) :
    (w.reconcile r key).snapshot = none := by
  have hread : w.answer (.getSnapshot key) = some (.ok snapshot, w) := by
    simp [World.answer, hsnapshot]
  unfold World.reconcile Reconciler.reconcile
  rw [serve_ask hread]
  dsimp only
  rw [if_pos hdeleted]
  unfold handleDeletion updateStatus
  rw [bind_assoc, serve_ask rfl]
  change (serve (ask (.getVirtualMachine (vmKey snapshot)) >>= _) _).snapshot = none
  rw [serve_ask rfl]
  cases w.vm with
  | none => exact removeFinalizer_gone hdeleted halone
  | some vm =>
    dsimp only [Option.elim]
    split
    · exact removeFinalizer_gone hdeleted halone
    · unfold getProviderInstance
      rw [serve_ask rfl]
      dsimp only
      rw [serve_ask rfl]
      dsimp only
      rw [serve_ask rfl]
      exact removeFinalizer_gone hdeleted halone

namespace Retention.Sample

/-- A Ready snapshot that is to go with its VirtualMachine, and after an hour. -/
def ready : VMSnapshot where
  objectMeta := { name := "job", ns := "vms", finalizers := [finalizer] }
  spec := {
    vmRef := ⟨"web"⟩
    retentionPolicy := some { maxAge := some (60 * minute), deleteOnVMDelete := true } }
  status := { phase := .ready, snapshotID := "snap-1", creationTime := some 0 }

theorem settled_ready : Settled ready := ⟨rfl, by decide, by decide, rfl⟩

/-- The VirtualMachine, and two hours after the snapshot was made. -/
def world (vm : Option VirtualMachine) : World :=
  { snapshot := some ready, vm, now := 120 * minute }

theorem expired_ready : Expired ready (120 * minute) := ⟨_, _, rfl, rfl, by decide⟩

end Retention.Sample

open Retention.Sample

end Virtrigaud.Snapshot
