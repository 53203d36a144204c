import Virtrigaud.Migration.Runs

/-!
# Migrations that stay within bounds

The controller writes no spec and no deletion time but those it has read, so a property
of the two that holds at the start, and that other clients keep, holds of every version
and of everything a reconcile sees of the object. `within_induct` is the rule for facts
about the runs of such a migration.
-/

namespace Virtrigaud.Migration

open Effects Program List

/-- A bound on the deletion time and the spec of a migration. -/
abbrev Bound := Option Time → VMMigrationSpec → Bool

def keepsTo (bound : Bound) (v : VMMigration) : Bool :=
  bound v.objectMeta.deletionTimestamp v.spec

/-- What other clients write keeps to the bound. -/
def Edit.within (bound : Bound) : Edit → Bool
  | .editMigration objectMeta spec => bound objectMeta.deletionTimestamp spec
  | _ => true

/-- All edits of an episode keep the migration within the bound. -/
def editsWithin (bound : Bound) (choices : List Choice) : Bool :=
  choices.all fun choice => choice.edits.all (·.within bound)

/-- What a reconcile works with: versions of one object that are within the bound,
and what it has seen of them so far. -/
structure Within (key : ObjectKey) (bound : Bound) (cluster : Cluster)
    (log : List LogEntry) : Prop where
  keyed : ∀ v ∈ cluster.migration.all, v.objectMeta.key = key
  bounded : ∀ v ∈ cluster.migration.all, keepsTo bound v = true
  read : ReadPersisted key cluster.migration log
  seen : ∀ objectMeta spec, Seen log objectMeta spec →
    ∃ w ∈ cluster.migration.all, w.objectMeta = objectMeta ∧ w.spec = spec

section Step

variable {key : ObjectKey} {bound : Bound} {cluster next : Cluster}
  {log : List LogEntry} {c : Call} {choice : Choice} {answer : Answer c}

variable (h : Within key bound cluster log)
include h

theorem Within.versions_step (hallowed : Allowed key log c)
    (hedits : ∀ edit ∈ choice.edits, edit.within bound = true)
    (hanswer : cluster.answer c choice = some (answer, next)) :
    ∀ v ∈ next.migration.all, v.objectMeta.key = key ∧ keepsTo bound v = true := by
  refine (Cluster.answer_grows hanswer).forall_mem
    (fun v hv => ⟨h.keyed v hv, h.bounded v hv⟩) ?_
  rintro old new ⟨hkey, hspec⟩ hpersists
  cases hpersists with
  | edited hedit => exact ⟨hkey, hedits _ hedit⟩
  | updated hcall =>
    subst hcall
    obtain ⟨w, hread, hspec, finalizers, hmeta⟩ := hallowed
    have hw := h.bounded w (h.read w hread)
    refine ⟨hkey, ?_⟩
    rw [Cluster.withSpec, hspec, hmeta]
    exact hw
  | statusWritten => exact ⟨hkey, hspec⟩

theorem Within.seen_step (hanswer : cluster.answer c choice = some (answer, next))
    (objectMeta : ObjectMeta) (spec : VMMigrationSpec)
    (hseen : Seen (⟨c, answer⟩ :: log) objectMeta spec) :
    ∃ w ∈ next.migration.all, w.objectMeta = objectMeta ∧ w.spec = spec := by
  have hold : Seen log objectMeta spec →
      ∃ w ∈ next.migration.all, w.objectMeta = objectMeta ∧ w.spec = spec := by
    intro hseen
    obtain ⟨w, hw, heq⟩ := h.seen objectMeta spec hseen
    exact ⟨w, (Cluster.answer_grows hanswer).subset hw, heq⟩
  cases hseen with
  | read hread =>
    rcases mem_cons.mp hread with heq | hread
    · cases heq
      exact ⟨_, Cluster.answer_read hanswer, rfl, rfl⟩
    · exact hold (.read hread)
  | written hwritten =>
    rcases mem_cons.mp hwritten with heq | hwritten
    · cases heq
      obtain ⟨hmeta, hspec, -⟩ := Cluster.answer_written hanswer
      exact ⟨_, History.current_mem_all _, hmeta, hspec⟩
    · exact hold (.written hwritten)

theorem Within.step (hallowed : Allowed key log c)
    (hedits : ∀ edit ∈ choice.edits, edit.within bound = true)
    (hanswer : cluster.answer c choice = some (answer, next)) :
    Within key bound next (⟨c, answer⟩ :: log) where
  keyed v hv := (h.versions_step hallowed hedits hanswer v hv).1
  bounded v hv := (h.versions_step hallowed hedits hanswer v hv).2
  read := h.read.step hanswer
  seen := h.seen_step hanswer

/-- The version that was read. -/
theorem Within.of_read {v : VMMigration} (hread : Read key log v) :
    v ∈ cluster.migration.all ∧ keepsTo bound v = true :=
  ⟨h.read v hread, h.bounded v (h.read v hread)⟩

/-- Everything that was seen. -/
theorem Within.of_seen {objectMeta : ObjectMeta} {spec : VMMigrationSpec}
    (hseen : Seen log objectMeta spec) :
    bound objectMeta.deletionTimestamp spec = true := by
  obtain ⟨w, hw, rfl, rfl⟩ := h.seen objectMeta spec hseen
  exact h.bounded w hw

end Step

variable {cluster : Cluster} {key : ObjectKey} {bound : Bound}

/-- The versions before an episode. -/
theorem within_of_versions
    (h : ∀ v ∈ cluster.migration.all, v.objectMeta.key = key ∧ keepsTo bound v = true) :
    Within key bound cluster [] := by
  refine ⟨fun v hv => (h v hv).1, fun v hv => (h v hv).2, readPersisted_nil _,
    fun objectMeta spec hseen => ?_⟩
  cases hseen with
  | read hread => cases hread
  | written hwritten => cases hwritten

section Episode

variable {r : Reconciler} {I : Cluster → List LogEntry → Prop} {choices : List Choice}
  {out : Outcome Call Answer Cluster Return}
  (hrun : (system r key).Episode cluster choices out)
  (hwithin : Within key bound cluster []) (hedits : editsWithin bound choices = true)
  (hI : I cluster [])
include hrun hwithin hedits hI

/-- A fact about the cluster and the log of an episode holds where the episode ends if
every call keeps it that `Allowed` and another rule of the reconcile allow. -/
theorem episode_induct_of {rule : List LogEntry → Call → Prop}
    (hrule : (r.reconcile key).Heeds rule [])
    (hstep : ∀ s log c choice answer next, Within key bound s log → I s log →
      Allowed key log c → rule log c → s.answer c choice = some (answer, next) →
        (⟨c, answer⟩ :: log) <:+ out.log → I next (⟨c, answer⟩ :: log)) :
    Within key bound out.state out.log ∧ I out.state out.log := by
  have hok : ∀ choice ∈ choices, ∀ edit ∈ choice.edits, edit.within bound = true :=
    fun choice hchoice => all_eq_true.mp (all_eq_true.mp hedits choice hchoice)
  refine (((reconcile_obeys r key).and hrule).run_induct
    (I := fun s log => Within key bound s log ∧ I s log) hrun hok ⟨hwithin, hI⟩ ?_).1
  rintro s log c choice answer next ⟨hwithin, hI⟩ ⟨hallowed, hconforms⟩ hchoice hanswer hsuffix
  exact ⟨hwithin.step hallowed hchoice hanswer,
    hstep s log c choice answer next hwithin hI hallowed hconforms hanswer hsuffix⟩

/-- The same with the rule `Conducts`. -/
theorem episode_induct
    (hstep : ∀ s log c choice answer next, Within key bound s log → I s log →
      Allowed key log c → Conducts key log c → s.answer c choice = some (answer, next) →
        (⟨c, answer⟩ :: log) <:+ out.log → I next (⟨c, answer⟩ :: log)) :
    Within key bound out.state out.log ∧ I out.state out.log :=
  episode_induct_of hrun hwithin hedits hI (reconcile_conducts r key) hstep

end Episode

/-- The migration starts within the bound. -/
def startsWithin (bound : Bound) (cluster : Cluster) : Prop :=
  keepsTo bound cluster.migration.current = true

variable {cond : System.Condition Call Answer Cluster Choice} {J : Cluster → List LogEntry → Prop}

/-- A fact about the cluster and the trace holds throughout runs in which the migration stays
within the bound if every reconcile keeps it. -/
theorem bounded_induct {r : Reconciler} {init : Cluster → Prop} {trace : List LogEntry}
    (hreach : ({ system r key with init } :
      System Call Answer Cluster Choice Return).Reach cond cluster trace)
    (hcond : ∀ s trace choices episode, cond s trace choices episode →
      editsWithin bound choices = true)
    (hinit : ∀ s, init s →
      (∀ v ∈ s.migration.all, v.objectMeta.key = key ∧ keepsTo bound v = true) ∧ J s [])
    (hrestart : ∀ s trace, J s trace → J { s with longOpInFlight := [] } trace)
    (hepisode : ∀ s trace choices out, Within key bound s [] →
      Within key bound out.state out.log → J s trace → (system r key).Episode s choices out →
        cond s trace choices out.log → J out.state (out.log ++ trace)) :
    (∀ v ∈ cluster.migration.all, v.objectMeta.key = key ∧ keepsTo bound v = true) ∧
      J cluster trace := by
  refine hreach.invariant (J := fun s trace =>
    (∀ v ∈ s.migration.all, v.objectMeta.key = key ∧ keepsTo bound v = true) ∧ J s trace) hinit ?_
  rintro s trace choices out ⟨hversions, hJ⟩ hrun hmet
  have hwithin := within_of_versions hversions
  have hend := (episode_induct (I := fun _ _ => True) hrun hwithin
    (hcond s trace choices out.log hmet) trivial fun _ _ _ _ _ _ _ _ _ _ _ _ => trivial).1
  have hversions' : ∀ v ∈ out.state.migration.all,
      v.objectMeta.key = key ∧ keepsTo bound v = true :=
    fun v hv => ⟨hend.keyed v hv, hend.bounded v hv⟩
  have hJ' := hepisode s trace choices out hwithin hend hJ hrun hmet
  unfold System.settle
  split
  · exact ⟨hversions', hJ'⟩
  · exact ⟨hversions', hrestart _ _ hJ'⟩

theorem versions_of_fresh (hfresh : cluster.Fresh key) (hstart : startsWithin bound cluster) :
    ∀ v ∈ cluster.migration.all, v.objectMeta.key = key ∧ keepsTo bound v = true :=
  History.forall_mem_of_new hfresh.1 ⟨hfresh.2.1, hstart⟩

/-- The same if every call keeps it. -/
theorem within_induct {r : Reconciler} {trace : List LogEntry}
    (hreach : ((system r key).startingFrom (startsWithin bound)).Reach cond cluster trace)
    (hcond : ∀ s trace choices episode, cond s trace choices episode →
      editsWithin bound choices = true)
    (hinit : ∀ s, s.Fresh key → startsWithin bound s → J s [])
    (hrestart : ∀ s trace, J s trace → J { s with longOpInFlight := [] } trace)
    (hstep : ∀ before trace choices episode, cond before trace choices episode → J before trace →
      ∀ s log c choice answer next, Within key bound s log → J s (log ++ trace) →
        Allowed key log c → Conducts key log c → s.answer c choice = some (answer, next) →
          (⟨c, answer⟩ :: log) <:+ episode → J next (⟨c, answer⟩ :: log ++ trace)) :
    (∀ v ∈ cluster.migration.all, v.objectMeta.key = key ∧ keepsTo bound v = true) ∧
      J cluster trace := by
  refine bounded_induct hreach hcond (fun s ⟨hfresh, hstart⟩ =>
    ⟨versions_of_fresh hfresh hstart, hinit s hfresh hstart⟩) hrestart ?_
  intro s trace choices out hwithin _ hJ hrun hmet
  exact (episode_induct (I := fun s log => J s (log ++ trace)) hrun hwithin
    (hcond s trace choices out.log hmet) hJ (hstep s trace choices out.log hmet hJ)).2

end Virtrigaud.Migration
