import Virtrigaud.Migration.Specs

/-!
# The claims of a migration

Staging claims live in the cluster beside the claims of others, each with its maker on
record. A reconcile records the name of the claim it works with, whether the spec names it
or `ensureMigrationPVC` makes it, and `handleDeletion` deletes by the recorded name. So a
claim that the user has named is deleted with the migration; when the spec names none and
the name of the migration's own claim is not taken by others, only claims that the
migration has made are deleted.
-/

namespace Virtrigaud.Migration

open Effects Program List Option

inductive Maker
  | migration
  | others
  deriving DecidableEq, Repr

/-- A claim and who created it. -/
structure Claim where
  pvc : PersistentVolumeClaim
  maker : Maker
  deriving DecidableEq, Repr

/-- The claims of the cluster with their versions, each under its own key. -/
structure ClaimStore where
  versions : ObjectKey → History (Option Claim)
  keyed : ∀ key claim, some claim ∈ (versions key).all → claim.pvc.objectMeta.key = key

/-- What other clients do to the claims. -/
inductive ClaimEdit
  | create (pvc : PersistentVolumeClaim)
  | replace (pvc : PersistentVolumeClaim)
  | remove (key : ObjectKey)

namespace ClaimStore

variable (claims : ClaimStore)

def live (key : ObjectKey) : Option Claim := (claims.versions key).current

/-- Make `claim` the current version of a key. -/
def put (key : ObjectKey) (claim : Option Claim)
    (hkey : ∀ new, claim = some new → new.pvc.objectMeta.key = key) : ClaimStore where
  versions := Function.update claims.versions key ((claims.versions key).push claim)
  keyed := by
    intro other found hfound
    by_cases hother : other = key
    · subst hother
      rw [Function.update_self] at hfound
      rcases History.mem_all_push.mp hfound with heq | hold
      · exact hkey found heq.symm
      · exact claims.keyed other found hold
    · rw [Function.update_of_ne hother] at hfound
      exact claims.keyed other found hfound

/-- Make the claim the current version of its key. -/
def set (claim : Claim) : ClaimStore :=
  claims.put claim.pvc.objectMeta.key (some claim) fun _ h => some.inj h ▸ rfl

def remove (key : ObjectKey) : ClaimStore := claims.put key none nofun

/-- An edit that does not apply changes nothing. A claim keeps its maker. -/
def applyEdit : ClaimEdit → ClaimStore
  | .create pvc =>
    if (claims.live pvc.objectMeta.key).isSome then claims else claims.set ⟨pvc, .others⟩
  | .replace pvc =>
    match claims.live pvc.objectMeta.key with
    | some old => claims.set { old with pvc }
    | none => claims
  | .remove key => if (claims.live key).isSome then claims.remove key else claims

/-- Carry out a call on a claim: the answer, the claims after it and the one it deleted. -/
def carryOut : (c : Call) → Option (Answer c × ClaimStore × Option Claim)
  | .createPVC pvc =>
    if (claims.live pvc.objectMeta.key).isSome then
      some (some Cluster.alreadyExistsError, claims, none)
    else some (none, claims.set ⟨pvc, .migration⟩, none)
  | .deletePVC pvc =>
    match claims.live pvc.objectMeta.key with
    | some claim => some (none, claims.remove pvc.objectMeta.key, some claim)
    | none => some (some Cluster.notFoundError, claims, none)
  | _ => none

def readLagging (lag : Nat) : (c : Call) → Option (Answer c)
  | .getPVC key =>
    ((claims.versions key).read lag).map fun
      | some claim => .ok claim.pvc
      | none => .error Cluster.notFoundError
  | _ => none

/-- How a call on a claim fails. -/
def failure (err : GoError) : (c : Call) → Option (Answer c)
  | .getPVC _ => some (.error err)
  | .createPVC _ => some (some err)
  | .deletePVC _ => some (some err)
  | _ => none

def answer (reply : Reply) (c : Call) : Option (Answer c × ClaimStore × Option Claim) :=
  match reply with
  | .lagging lag => (claims.readLagging lag c).map (·, claims, none)
  | .accept => claims.carryOut c
  | .refuse err => (failure err c).map (·, claims, none)
  | .lose err =>
    match claims.carryOut c, failure err c with
    | some (_, after), some lost => some (lost, after)
    | _, _ => none
  | .reports _ => none

end ClaimStore

/-- The cluster with its claims, and the claims that the controller has deleted. -/
structure World where
  cluster : Cluster
  claims : ClaimStore
  deleted : List Claim := []

structure ClaimChoice extends Choice where
  claimEdits : List ClaimEdit := []

def onClaim : Call → Bool
  | .getPVC _ | .createPVC _ | .deletePVC _ => true
  | _ => false

namespace World

def answer (world : World) (c : Call) (choice : ClaimChoice) : Option (Answer c × World) :=
  let claims := choice.claimEdits.foldl ClaimStore.applyEdit world.claims
  if onClaim c then
    (claims.answer choice.reply c).map fun (r, after, removed) => (r, {
      cluster := choice.edits.foldl Cluster.applyEdit world.cluster
      claims := after
      deleted := removed.toList ++ world.deleted })
  else
    (world.cluster.answer c choice.toChoice).map fun (r, cluster) =>
      (r, { world with cluster, claims })

end World

/-- The migration controller, with claims. -/
def claimSystem (r : Reconciler) (key : ObjectKey) :
    System Call Answer World ClaimChoice Return where
  host := ⟨World.answer⟩
  program := r.reconcile key
  restart world := { world with cluster := { world.cluster with longOpInFlight := [] } }
  init world := world.cluster.Fresh key ∧ world.deleted = []

section Answers

variable {claims after : ClaimStore} {key other : ObjectKey} {claim : Claim}

/-- All versions of a key were made by the migration. -/
def ClaimStore.Own (claims : ClaimStore) (key : ObjectKey) : Prop :=
  ∀ claim, some claim ∈ (claims.versions key).all → claim.maker = .migration

theorem ClaimStore.mem_put {new version : Option Claim}
    (hkey : ∀ claim, new = some claim → claim.pvc.objectMeta.key = other)
    (h : version ∈ ((claims.put other new hkey).versions key).all) :
    (other = key ∧ version = new) ∨ version ∈ (claims.versions key).all := by
  unfold ClaimStore.put at h
  dsimp only at h
  by_cases hother : key = other
  · subst hother
    rw [Function.update_self] at h
    exact (History.mem_all_push.mp h).imp_left fun hnew => ⟨rfl, hnew⟩
  · rw [Function.update_of_ne hother] at h
    exact .inr h

theorem ClaimStore.Own.put {new : Option Claim}
    {hkey : ∀ claim, new = some claim → claim.pvc.objectMeta.key = other} (h : claims.Own key)
    (hnew : ∀ claim, new = some claim → other = key → claim.maker = .migration) :
    (claims.put other new hkey).Own key := by
  intro claim hclaim
  rcases ClaimStore.mem_put hkey hclaim with ⟨hother, heq⟩ | hold
  · exact hnew claim heq.symm hother
  · exact h claim hold

theorem ClaimStore.Own.live (h : claims.Own key) (hlive : claims.live key = some claim) :
    claim.maker = .migration :=
  h claim (hlive ▸ History.current_mem_all _)

/-- Others create no claim under the key. -/
def ClaimEdit.leaves (key : ObjectKey) : ClaimEdit → Bool
  | .create pvc => decide (pvc.objectMeta.key ≠ key)
  | _ => true

theorem ClaimStore.Own.applyEdit {edit : ClaimEdit} (h : claims.Own key)
    (hleaves : edit.leaves key = true) : (claims.applyEdit edit).Own key := by
  cases edit with
  | create pvc =>
    dsimp only [ClaimStore.applyEdit]
    split
    · exact h
    · exact h.put fun claim _ hkey => absurd hkey (of_decide_eq_true hleaves)
  | replace pvc =>
    dsimp only [ClaimStore.applyEdit]
    split
    · rename_i old hlive
      refine h.put fun claim heq hkey => ?_
      cases heq
      rw [hkey] at hlive
      have hold := h.live hlive
      exact hold
    · exact h
  | remove removed =>
    dsimp only [ClaimStore.applyEdit]
    split
    · exact h.put fun claim heq => nomatch heq
    · exact h

theorem ClaimStore.Own.edits {edits : List ClaimEdit} (h : claims.Own key)
    (hleaves : ∀ edit ∈ edits, edit.leaves key = true) :
    (edits.foldl ClaimStore.applyEdit claims).Own key :=
  foldlRecOn edits ClaimStore.applyEdit (motive := fun claims => claims.Own key) h
    fun _ hlast edit hedit => hlast.applyEdit (hleaves edit hedit)

section

variable {c : Call} {r : Answer c} {removed : Option Claim} (h : claims.Own key)
  (hdelete : ∀ pvc, c = .deletePVC pvc → pvc.objectMeta.key = key)
include h hdelete

/-- A call on a claim keeps what is made here, if it deletes only under the key. -/
theorem ClaimStore.Own.carryOut (hanswer : claims.carryOut c = some (r, after, removed)) :
    after.Own key ∧ ∀ claim ∈ removed, claim.maker = .migration := by
  unfold ClaimStore.carryOut at hanswer
  split at hanswer
  · split at hanswer
    · cases hanswer
      exact ⟨h, nofun⟩
    · cases hanswer
      refine ⟨h.put fun claim heq _ => ?_, nofun⟩
      cases heq
      rfl
  · rename_i pvc
    split at hanswer
    · rename_i claim hlive
      cases hanswer
      refine ⟨h.put fun _ heq => (nomatch heq), fun claim' hmem => ?_⟩
      cases hmem
      rw [hdelete pvc rfl] at hlive
      exact h.live hlive
    · cases hanswer
      exact ⟨h, nofun⟩
  · cases hanswer

theorem ClaimStore.Own.answer {reply : Reply}
    (hanswer : claims.answer reply c = some (r, after, removed)) :
    after.Own key ∧ ∀ claim ∈ removed, claim.maker = .migration := by
  unfold ClaimStore.answer at hanswer
  split at hanswer
  case h_1 | h_3 =>
    obtain ⟨_, _, heq⟩ := map_eq_some_iff.mp hanswer
    cases heq
    exact ⟨h, nofun⟩
  · exact h.carryOut hdelete hanswer
  · split at hanswer
    · rename_i hcarry _
      cases hanswer
      exact h.carryOut hdelete hcarry
    · cases hanswer
  · cases hanswer

end

variable {world next : World} {c : Call} {choice : ClaimChoice} {r : Answer c}

/-- The answer is given to this call, and to no other. -/
def Reply.answers (c : Call) (r : Answer c) : Reply :=
  .reports fun other => if heq : c = other then some (heq ▸ r) else none

/-- Whatever the claims are, the cluster sees a call that it answers in this way. -/
theorem World.answer_cluster (h : world.answer c choice = some (r, next)) :
    ∃ choice' : Choice, choice'.edits = choice.edits ∧
      world.cluster.answer c choice' = some (r, next.cluster) := by
  unfold World.answer at h
  dsimp only at h
  split at h
  · rename_i hclaim
    obtain ⟨⟨r', after, removed⟩, -, heq⟩ := map_eq_some_iff.mp h
    cases heq
    refine ⟨{ choice.toChoice with reply := .answers c r' }, rfl, ?_⟩
    have houtside : Cluster.outside c = true := by
      cases c <;> first | rfl | cases hclaim
    simp [Cluster.answer, Reply.answers, houtside]
  · obtain ⟨⟨r', cluster⟩, hanswer, heq⟩ := map_eq_some_iff.mp h
    cases heq
    exact ⟨choice.toChoice, rfl, hanswer⟩

theorem World.own_of_answer (h : world.answer c choice = some (r, next))
    (hown : world.claims.Own key) (hedits : ∀ edit ∈ choice.claimEdits, edit.leaves key = true)
    (hdelete : ∀ pvc, c = .deletePVC pvc → pvc.objectMeta.key = key)
    (hdeleted : ∀ claim ∈ world.deleted, claim.maker = .migration) :
    next.claims.Own key ∧ ∀ claim ∈ next.deleted, claim.maker = .migration := by
  have hedited := hown.edits hedits
  unfold World.answer at h
  split at h
  · obtain ⟨⟨r', after, removed⟩, hanswer, heq⟩ := map_eq_some_iff.mp h
    cases heq
    obtain ⟨hafter, hremoved⟩ := hedited.answer hdelete hanswer
    exact ⟨hafter, forall_mem_append.mpr
      ⟨fun claim hnew => hremoved claim (mem_toList.mp hnew), hdeleted⟩⟩
  · obtain ⟨⟨r', cluster⟩, hanswer, heq⟩ := map_eq_some_iff.mp h
    cases heq
    exact ⟨hedited, hdeleted⟩

/-- A claim is read under its own key. -/
theorem World.key_of_answer {pvc : PersistentVolumeClaim}
    (h : world.answer (.getPVC key) choice = some (.ok pvc, next)) :
    pvc.objectMeta.key = key := by
  unfold World.answer at h
  dsimp only [onClaim] at h
  obtain ⟨⟨r', after, removed⟩, hanswer, heq⟩ := map_eq_some_iff.mp h
  cases heq
  unfold ClaimStore.answer at hanswer
  split at hanswer
  · obtain ⟨_, hread, heq⟩ := map_eq_some_iff.mp hanswer
    cases heq
    obtain ⟨version, hversion, heq⟩ := map_eq_some_iff.mp hread
    split at heq
    · cases heq
      exact ClaimStore.keyed _ _ _ (History.mem_of_read hversion)
    · cases heq
  all_goals simp [ClaimStore.carryOut, ClaimStore.failure] at hanswer

end Answers

/-- The key of the claim that `ensureMigrationPVC` makes. -/
def ownClaim (key : ObjectKey) : ObjectKey := ⟨key.ns, key.name ++ "-storage"⟩

/-- The spec names no claim. -/
def unnamed (_ : Option Time) (spec : VMMigrationSpec) : Bool :=
  (spec.storage.bind MigrationStorage.pvc).all fun pvcConfig => decide (pvcConfig.name = "")

/-- Outside the Validating phase the recorded claim is kept. -/
theorem Writes.claim {v : VMMigration} {log : List LogEntry} {status : VMMigrationStatus}
    (h : Writes v log status) (hphase : v.status.phase ≠ .validating) :
    status.storagePVCName = v.status.storagePVCName := by
  have hbase : ∀ base, Base v base → base = v.status := by
    rintro base (_ | ⟨_, hvalidating, -⟩)
    · rfl
    · exact absurd hvalidating hphase
  rcases h with ⟨-, hmoves⟩ | ⟨entry, -, -, hlands⟩
  · cases hmoves with
    | failed _ _ _ hread =>
      rw [hbase _ hread]
      rfl
    | validationWaits _ _ hvalidating
    | storageRecorded _ hvalidating | mountWaits _ hvalidating
    | poweringOff hvalidating | validated _ hvalidating => exact absurd hvalidating hphase
    | _ => rfl
  · cases hlands with
    | _ => rfl

/-- Every name a claim may have while the spec names none. -/
theorem Claims.own {v : VMMigration} {log : List LogEntry} {name : String}
    (h : Claims v log name) (hunnamed : keepsTo unnamed v = true) :
    name = v.objectMeta.name ++ "-storage" := by
  cases h with
  | named hconfig hname =>
    rw [keepsTo, unnamed, hconfig] at hunnamed
    exact absurd (of_decide_eq_true hunnamed) hname
  | found | created => rfl

/-- Only the migration's own claim is on record, it was made here, and so was every claim
that was deleted. -/
structure Keeps (key : ObjectKey) (world : World) : Prop where
  recorded : ∀ v ∈ world.cluster.migration.all,
    v.status.storagePVCName = "" ∨ v.status.storagePVCName = (ownClaim key).name
  own : world.claims.Own (ownClaim key)
  deleted : ∀ claim ∈ world.deleted, claim.maker = .migration

/-- Claims that a reconcile has read carry the key they were read under. -/
def ReadByKey (log : List LogEntry) : Prop :=
  ∀ key pvc, ⟨.getPVC key, .ok pvc⟩ ∈ log → pvc.objectMeta.key = key

section Step

variable {key : ObjectKey} {world next : World} {log : List LogEntry} {c : Call}
  {choice : ClaimChoice} {r : Answer c}

theorem ReadByKey.step (h : ReadByKey log) (hanswer : world.answer c choice = some (r, next)) :
    ReadByKey (⟨c, r⟩ :: log) := by
  intro key pvc hmem
  rcases mem_cons.mp hmem with heq | hmem
  · cases heq
    exact World.key_of_answer hanswer
  · exact h key pvc hmem

theorem Keeps.recorded_step (h : Keeps key world) (hwithin : Within key unnamed world.cluster log)
    (hallowed : Allowed key log c) (hconducts : Conducts key log c)
    (hanswer : world.answer c choice = some (r, next)) :
    ∀ v ∈ next.cluster.migration.all,
      v.status.storagePVCName = "" ∨ v.status.storagePVCName = (ownClaim key).name := by
  obtain ⟨choice', -, hcluster⟩ := World.answer_cluster hanswer
  refine (Cluster.answer_grows hcluster).forall_mem h.recorded ?_
  intro last new hlast hpersists
  cases hpersists with
  | edited | updated => exact hlast
  | statusWritten hcall =>
    subst hcall
    obtain ⟨w, hread, hwrites⟩ := hallowed
    obtain ⟨hmem, hunnamed⟩ := hwithin.of_read hread
    have hold := h.recorded w hmem
    by_cases hphase : w.status.phase = .validating
    · rcases (hconducts w hread hphase).claim with hsame | hclaims
      · rwa [← hsame] at hold
      · refine .inr ((hclaims.own hunnamed).trans ?_)
        rw [← hwithin.keyed w hmem]
        rfl
    · rwa [← hwrites.claim hphase] at hold

theorem Keeps.step (h : Keeps key world) (hwithin : Within key unnamed world.cluster log)
    (hread : ReadByKey log) (hallowed : Allowed key log c) (hconducts : Conducts key log c)
    (hedits : ∀ edit ∈ choice.claimEdits, edit.leaves (ownClaim key) = true)
    (hanswer : world.answer c choice = some (r, next)) : Keeps key next := by
  have hdelete : ∀ pvc, c = .deletePVC pvc → pvc.objectMeta.key = ownClaim key := by
    rintro pvc rfl
    obtain ⟨v, hv, -, hname, hmem⟩ := hconducts
    obtain ⟨hversion, -⟩ := hwithin.of_read hv
    rw [hread _ pvc hmem, (h.recorded v hversion).resolve_left hname,
      ← hwithin.keyed v hversion]
    rfl
  obtain ⟨hown, hdeleted⟩ := World.own_of_answer hanswer h.own hedits hdelete h.deleted
  exact ⟨h.recorded_step hwithin hallowed hconducts hanswer, hown, hdeleted⟩

end Step

/-- The condition on a reconcile: the spec keeps naming no claim, and nobody else creates
one under the name of the migration's own. -/
def claimsKept (key : ObjectKey) (choices : List ClaimChoice) : Bool :=
  editsWithin unnamed (choices.map (·.toChoice)) &&
    choices.all fun choice => choice.claimEdits.all (·.leaves (ownClaim key))

/-- At the start the spec names no claim, and there is none under the own name. -/
def startsUnclaimed (key : ObjectKey) (world : World) : Prop :=
  startsWithin unnamed world.cluster ∧
    ∀ claim, some claim ∉ (world.claims.versions (ownClaim key)).all

/-- Where the claims of a run stand: all versions within the bound, and the claims kept. -/
structure Unclaimed (key : ObjectKey) (world : World) : Prop extends Keeps key world where
  keyed : ∀ v ∈ world.cluster.migration.all, v.objectMeta.key = key
  bounded : ∀ v ∈ world.cluster.migration.all, keepsTo unnamed v = true

theorem Unclaimed.episode {r : Reconciler} {key : ObjectKey} {world : World}
    {choices : List ClaimChoice} {out : Outcome Call Answer World Return}
    (h : Unclaimed key world)
    (hrun : (r.reconcile key).run (claimSystem r key).host world [] choices = some out)
    (hkept : claimsKept key choices = true) : Unclaimed key out.state := by
  obtain ⟨hspecs, hclaims⟩ := Bool.and_eq_true_iff.mp hkept
  have hok : ∀ choice ∈ choices, (∀ edit ∈ choice.edits, edit.within unnamed = true) ∧
      ∀ edit ∈ choice.claimEdits, edit.leaves (ownClaim key) = true := by
    intro choice hchoice
    have hedits := all_eq_true.mp hspecs _ (mem_map_of_mem hchoice)
    exact ⟨all_eq_true.mp hedits, all_eq_true.mp (all_eq_true.mp hclaims _ hchoice)⟩
  let I (world : World) (log : List LogEntry) : Prop :=
    Within key unnamed world.cluster log ∧ ReadByKey log ∧ Keeps key world
  have hstart : I world [] :=
    ⟨within_of_versions fun v hv => ⟨h.keyed v hv, h.bounded v hv⟩, fun _ _ hmem => (nomatch hmem),
      h.toKeeps⟩
  have hend : I out.state out.log := by
    refine (((reconcile_obeys r key).and (reconcile_conducts r key)).run_induct hrun hok
      hstart ?_).1
    rintro s log c choice answer next ⟨hwithin, hread, hkeeps⟩ ⟨hallowed, hconducts⟩
      ⟨hedits, hleaves⟩ hanswer -
    obtain ⟨choice', hedits', hcluster⟩ := World.answer_cluster hanswer
    rw [← hedits'] at hedits
    exact ⟨hwithin.step hallowed hedits hcluster, hread.step hanswer,
      hkeeps.step hwithin hread hallowed hconducts hleaves hanswer⟩
  exact ⟨hend.2.2, hend.1.keyed, hend.1.bounded⟩

/-- A migration whose spec names no claim, while nobody else uses the name of its own: in
every run only claims are deleted that this migration has made. -/
theorem deleted_claims_made_here (r : Reconciler) (key : ObjectKey) {world : World}
    {trace : List LogEntry}
    (hrun : ((claimSystem r key).startingFrom (startsUnclaimed key)).Reach
      (fun _ _ choices _ => claimsKept key choices = true) world trace) :
    ∀ claim ∈ world.deleted, claim.maker = .migration := by
  refine (hrun.invariant (J := fun world _ => Unclaimed key world) ?_ ?_).deleted
  · rintro s ⟨⟨⟨holder, hkey, hstatus, -⟩, hdeleted⟩, hstart, hfree⟩
    refine ⟨⟨History.forall_mem_of_new holder ?_, fun claim hclaim => absurd hclaim (hfree claim),
      ?_⟩, History.forall_mem_of_new holder hkey, History.forall_mem_of_new holder hstart⟩
    · rw [hstatus]
      exact .inl rfl
    · rw [hdeleted]
      exact forall_mem_nil _
  · intro s trace choices out h hepisode hkept
    have hend := h.episode hepisode hkept
    unfold System.settle
    split
    · exact hend
    · exact ⟨⟨hend.recorded, hend.own, hend.deleted⟩, hend.keyed, hend.bounded⟩

namespace Sample

/-- The migration staged on a claim, which is named or not. -/
def onClaimNamed (name : String) : VMMigration :=
  { migration with spec := { migration.spec with
      storage := some {
        type := backendPVC
        pvc := some { name, storageClassName := "nfs", size := "10Gi" } } } }

/-- A claim of another client. -/
def shared : PersistentVolumeClaim where
  objectMeta := { name := "shared", ns := "prod", uid := "pvc-1" }

/-- The cluster with the shared claim in it. -/
def claimWorld (name : String) : World where
  cluster := { cluster [] with migration := ⟨onClaimNamed name, []⟩ }
  claims := {
    versions := fun key =>
      ⟨if shared.objectMeta.key = key then some ⟨shared, .others⟩ else none, []⟩
    keyed := by
      intro key claim hclaim
      have heq := mem_singleton.mp hclaim
      split at heq
      · rename_i hkey
        rw [some.inj heq]
        exact hkey
      · cases heq }

theorem fresh_claimWorld (name : String) :
    (claimWorld name).cluster.Fresh key ∧ (claimWorld name).deleted = [] :=
  ⟨⟨rfl, rfl, rfl, rfl, rfl⟩, rfl⟩

/-- The providers report nothing, so they take claims. -/
def claimProvider (name : String) (type : ProviderType) : Choice :=
  provider { nfsProvider name type with reportedCapabilities := none }

/-- From creation until the claim is recorded; `ensured` answers for the claim, and then
the process is lost. -/
def recordClaim (ensured : List Choice) : List (List Choice) := [
  [cached 0, done],
  [cached 0, clock, done],
  [cached 0, done],
  [cached 0, cached 0, claimProvider "kvm" .libvirt, claimProvider "esx" .vsphere] ++ ensured ++
    [done]]

/-- The user deletes the migration, and it is cleaned up until the claim is gone. -/
def deleteMigration (migration : VMMigration) : List Choice := [
  { edits := [.editMigration { migration.objectMeta with
      deletionTimestamp := some 1, finalizers := [finalizerName] } migration.spec]
    reply := .lagging 0 },
  { reply := .reports fun | .newStorage _ => some none | _ => none },
  { reply := .reports fun | .storageDelete _ _ => some none | _ => none },
  cached 0, done]

/-- The choices of the cluster, without other clients of the claims. -/
def claimScript (script : List (List Choice)) : List (List ClaimChoice) :=
  script.map fun choices => choices.map fun choice => { choice with }

end Sample

open Sample

/-- A claim that exists before the migration and that its spec names is deleted with the
migration. -/
theorem named_claim_deleted : ∃ world trace,
    (claimSystem reconciler key).Reach (fun _ _ _ _ => True) world trace ∧
    (claimWorld "shared").claims.live shared.objectMeta.key =
      some ⟨shared, .others⟩ ∧
    ⟨shared, .others⟩ ∈ world.deleted := by
  exact (claimSystem reconciler key).exists_reach
    (claimScript (Sample.recordClaim [cached 0] ++
      [deleteMigration (onClaimNamed "shared")]))
    (fresh_claimWorld "shared") (fun _ _ _ hshows => hshows) (by decide +kernel)

/-- The migration makes its own claim, and deletes it. -/
theorem deleted_claims_made_here_sample : ∃ world trace,
    ((claimSystem reconciler key).startingFrom (startsUnclaimed key)).Reach
      (fun _ _ choices _ => claimsKept key choices = true) world trace ∧
    world.deleted ≠ [] ∧ ∀ claim ∈ world.deleted, claim.maker = .migration := by
  have hfree : startsUnclaimed key (claimWorld "") := by
    refine ⟨rfl, fun claim hclaim => ?_⟩
    have hnone : ((claimWorld "").claims.versions (ownClaim key)).all = [none] := by
      decide +kernel
    rw [hnone, mem_singleton] at hclaim
    cases hclaim
  exact System.exists_reach _
    (claimScript (Sample.recordClaim [cached 0, done, clock,
        cached 0, claimProvider "kvm" .libvirt,
        { reply := .reports fun
            | .updateProvider _ => some (some (errorf "conflict"))
            | _ => none }] ++
      [deleteMigration (onClaimNamed "")]))
    ⟨fresh_claimWorld "", hfree⟩ (fun _ _ hreach hdeleted =>
      ⟨hdeleted, deleted_claims_made_here reconciler key hreach⟩) (by decide +kernel)

end Virtrigaud.Migration
