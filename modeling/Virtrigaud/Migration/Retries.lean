import Virtrigaud.Migration.Leftovers

/-!
# How often a migration is retried

The retry count of the status counts the restarts among the persisted versions: a reconcile
derives every status it persists from the one it read, which is the current one, and only a
restart of a failed migration raises the count. A migration that fails with no restart left
is not touched again but for its clean-up.
-/

namespace Virtrigaud.Migration

open Effects Program List

/-- A failed version that is followed by a pending one, counted over versions that are listed
newest first. -/
def restarts : List VMMigration → Nat
  | new :: old :: older =>
    restarts (old :: older) +
      if old.status.phase = .failed ∧ new.status.phase = .pending then 1 else 0
  | _ => 0

/-- The number of restarts the spec asks for: none without a retry policy. -/
def retryLimit (spec : VMMigrationSpec) : Int :=
  ((spec.options.bind MigrationOptions.retryPolicy).map maxRetries).getD 0

/-- The spec stays as it is. -/
def fixedSpec (spec : VMMigrationSpec) : Bound := fun _ other => decide (other = spec)

/-- The condition on a reconcile: nobody edits the spec, and its Get answers with the status that
was persisted last. -/
def readsLatest (spec : VMMigrationSpec) (cluster : Cluster) (_ : List LogEntry)
    (choices : List Choice) (episode : List LogEntry) : Bool :=
  editsWithin (fixedSpec spec) choices && readsCurrent cluster episode

/-- The calls that reach a provider. -/
def asksProvider : Call → Bool
  | .describe _ _ | .power _ _ _ | .snapshotCreate _ _ | .snapshotDelete _ _ _
  | .exportDisk _ _ | .importDisk _ _ | .isTaskComplete _ _ | .taskStatus _ _
  | .getCapabilities _ => true
  | _ => false

/-- Of the calls that reach a provider, only those that remove the snapshot of a migration that
is being deleted and see to the end of that. -/
def Tidies (log : List LogEntry) : Call → Prop
  | .snapshotDelete _ _ snapshotId => ∃ key v, ⟨.getMigration key, .ok v⟩ ∈ log ∧
      v.objectMeta.deletionTimestamp.isSome = true ∧ snapshotId = v.status.snapshotID
  | .isTaskComplete provider task => ∃ vmId snapshotId,
      ⟨.snapshotDelete provider vmId snapshotId, .ok task⟩ ∈ log
  | .taskStatus provider task => ∃ vmId snapshotId,
      ⟨.snapshotDelete provider vmId snapshotId, .ok task⟩ ∈ log
  | c => asksProvider c = false

section Statuses

variable {v : VMMigration} {log : List LogEntry} {old new status : VMMigrationStatus}
  {limit : Int} {history : History VMMigration}

/-- How a persisted status follows from the one that was read. -/
inductive Follows (limit : Int) (old new : VMMigrationStatus) : Prop
  | kept : old.phase ≠ .failed → (new.phase = .pending ↔ old.phase = .unset) →
      new.retryCount = old.retryCount → Follows limit old new
  | restarted : old.phase = .failed → new.phase = .pending →
      new.retryCount = old.retryCount + 1 → old.retryCount < limit → Follows limit old new

/-- In the midst of an attempt. -/
def midway : MigrationPhase → Bool
  | .unset | .failed => false
  | _ => true

theorem follows_midway (hold : midway old.phase = true) (hnew : new.phase ≠ .pending)
    (hcount : new.retryCount = old.retryCount) : Follows limit old new := by
  refine .kept ?_ (iff_of_false hnew ?_) hcount
  all_goals
    intro hphase
    rw [hphase] at hold
    cases hold

theorem midway_of_activePhase {phase : MigrationPhase} (h : activePhase phase = true) :
    midway phase = true := by
  cases phase <;> trivial

theorem Writes.follows (h : Writes v log status) :
    Follows (retryLimit v.spec) v.status status := by
  rcases h with ⟨-, hmoves⟩ | ⟨entry, -, -, hlands⟩
  · cases hmoves with
    | retrying now hphase hpolicy hcount =>
      refine .restarted hphase rfl rfl ?_
      rwa [retryLimit, hpolicy]
    | started now hphase => exact .kept (by simp [hphase]) ⟨fun _ => hphase, fun _ => rfl⟩ rfl
    | mountWaits reason hphase hbase | poweringOff hphase hbase =>
      refine follows_midway (by rw [hphase]; rfl) (fun h => ?_) hbase.retryCount
      exact absurd (hphase.symm.trans (hbase.phase.symm.trans h)) (by decide)
    | validated createSnapshot hphase hbase =>
      cases createSnapshot <;>
        exact follows_midway (by rw [hphase]; rfl) nofun hbase.retryCount
    | failed message now hactive hbase =>
      exact follows_midway (midway_of_activePhase hactive) nofun hbase.retryCount
    -- the others set another phase, or keep that of an attempt
    | _ =>
      have hmidway : midway v.status.phase = true := by simp [midway, *]
      first
        | exact follows_midway hmidway (fun h => by cases h) rfl
        | exact follows_midway hmidway (fun h : v.status.phase = .pending => by simp_all) rfl
  · have hmidway : midway v.status.phase = true := by
      cases hlands <;> simp [midway, *]
    cases hlands with
    | _ =>
      first
        | exact follows_midway hmidway (fun h => by cases h) rfl
        | exact follows_midway hmidway (fun h : v.status.phase = .pending => by simp_all) rfl

theorem restarts_push (history : History VMMigration) (new : VMMigration) :
    restarts (history.push new).all = restarts history.all +
      if history.current.status.phase = .failed ∧ new.status.phase = .pending then 1 else 0 := rfl

/-- Within a reconcile that read the status `old`. -/
structure Counting (limit : Int) (old : VMMigrationStatus) (history : History VMMigration) :
    Prop where
  counted : history.current.status.retryCount = restarts history.all
  derived : history.current.status = old ∨ Follows limit old history.current.status

/-- A version with the same status is no restart. -/
theorem Counting.edit {new : VMMigration} (h : Counting limit old history)
    (hsame : new.status = history.current.status) : Counting limit old (history.push new) where
  counted := by
    rw [restarts_push, if_neg (by rw [hsame]; rintro ⟨hfailed, hpending⟩; simp_all),
      Nat.add_zero, History.current_push, hsame]
    exact h.counted
  derived := by
    rw [History.current_push, hsame]
    exact h.derived

/-- A status that follows the one that was read keeps the count: the current one is that one, or
was derived from it like the new one. -/
theorem Counting.write {new : VMMigration} (h : Counting limit old history)
    (hnew : Follows limit old new.status) : Counting limit old (history.push new) where
  counted := by
    have hcounted := h.counted
    rw [restarts_push, History.current_push]
    cases hnew with
    | kept hfailed hpending hcount =>
      rw [if_neg, hcount]
      · rcases h.derived with hsame | ⟨-, -, hcurrent⟩ | ⟨hold, -⟩
        · rw [← hsame]
          exact hcounted
        · rw [← hcurrent]
          exact hcounted
        · exact absurd hold hfailed
      · rintro ⟨hcurrent, hnew⟩
        have hunset := hpending.mp hnew
        rcases h.derived with hsame | ⟨-, hcurrent', -⟩ | ⟨hold, -⟩
        · exact hfailed (hsame ▸ hcurrent)
        · rw [hcurrent'.mpr hunset] at hcurrent
          cases hcurrent
        · exact hfailed hold
    | restarted hfailed hpending hcount _ =>
      rcases h.derived with hsame | ⟨hother, -⟩ | ⟨-, hcurrent, hcount', -⟩
      · rw [hsame, if_pos ⟨hfailed, hpending⟩, hcount, ← hsame, hcounted]
        rfl
      · exact absurd hfailed hother
      · rw [if_neg (by rw [hcurrent]; rintro ⟨⟨⟩, -⟩), hcount, ← hcount']
        exact hcounted
  derived := .inr hnew

theorem Counting.bounded (h : Counting limit old history) (hold : old.retryCount ≤ limit) :
    history.current.status.retryCount ≤ limit := by
  rcases h.derived with hsame | ⟨-, -, hcount⟩ | ⟨-, -, hcount, hlt⟩
  · rwa [hsame]
  · rwa [hcount]
  · rw [hcount]
    exact hlt

end Statuses

section Tidying

variable {key : ObjectKey} {log log' : List LogEntry} {c : Call} {v : VMMigration}

theorem Tidies.mono (h : Tidies log c) (hlog : log ⊆ log') : Tidies log' c := by
  cases c with
  | snapshotDelete provider vmId snapshotId =>
    obtain ⟨key, v, hread, hrest⟩ := h
    exact ⟨key, v, hlog hread, hrest⟩
  | isTaskComplete provider task | taskStatus provider task =>
    obtain ⟨vmId, snapshotId, hdeleted⟩ := h
    exact ⟨vmId, snapshotId, hlog hdeleted⟩
  | _ => exact h

theorem handleDeletion_tidies (r : Reconciler) (hread : ⟨.getMigration key, .ok v⟩ ∈ log)
    (hdeleted : v.objectMeta.deletionTimestamp.isSome = true) :
    (r.handleDeletion v).Heeds Tidies log := by
  have hreads :
      (r.handleDeletion v).Heeds (fun log' _ => ⟨.getMigration key, .ok v⟩ ∈ log') log :=
    obeys_of_always fun log' hlog _ => hlog.subset hread
  refine (((handleDeletion_cleans r hdeleted).and hreads).weaken ?_).mono fun _ _ _ _ => trivial
  rintro log' c ⟨hcall | hcall, hread⟩
  · cases c with
    | snapshotDelete provider vmId snapshotId => exact ⟨key, v, hread, hdeleted, hcall.2.2.2.1⟩
    | isTaskComplete provider task
    | taskStatus provider task => exact hcall.imp fun _ hmem => ⟨_, hmem⟩
    | _ => first | rfl | cases hcall
  · cases c <;> first | rfl | cases hcall

/-- A reconcile that reads a permanently failed version only tidies up. -/
theorem reconcile_tidies (r : Reconciler) (key : ObjectKey) :
    (r.reconcile key).Heeds (fun log c => Tidies log c ∨
      ∃ v, Read key log v ∧ permanentlyFailed v = false) [] := by
  refine obeys_perform (.inl rfl) ?_
  rintro (err | v)
  · dsimp only
    split <;> trivial
  have hread : Read key [⟨.getMigration key, .ok v⟩] v := rfl
  cases hfailed : permanentlyFailed v with
  | false => exact obeys_of_always fun log hlog c => .inr ⟨v, hread.mono hlog, hfailed⟩
  | true =>
    have hphase : v.status.phase = .failed := by
      simp only [permanentlyFailed, Bool.and_eq_true, decide_eq_true_eq] at hfailed
      exact hfailed.1
    dsimp only
    split
    · exact (handleDeletion_tidies r (.head _) ‹_›).weaken fun _ _ => .inl
    split
    · exact obeys_perform (.inl rfl) fun _ => trivial
    rw [if_neg (by simp [hphase])]
    trivial

end Tidying

section Runs

variable {r : Reconciler} {key : ObjectKey} {spec : VMMigrationSpec} {cluster : Cluster}
  {trace : List LogEntry} {choices : List Choice} {out : Outcome Call Answer Cluster Return}

theorem spec_of_keepsTo {v : VMMigration} (h : keepsTo (fixedSpec spec) v = true) :
    v.spec = spec := of_decide_eq_true h

/-- What a reconcile that meets the condition writes follows from the status before it. -/
theorem counting_of_run (hversions : Within key (fixedSpec spec) cluster [])
    (hcounted : cluster.migration.current.status.retryCount = restarts cluster.migration.all)
    (hrun : (system r key).Episode cluster choices out)
    (hlatest : readsLatest spec cluster trace choices out.log = true) :
    Within key (fixedSpec spec) out.state out.log ∧
      Counting (retryLimit spec) cluster.migration.current.status out.state.migration := by
  obtain ⟨hedits, hcurrent⟩ := Bool.and_eq_true_iff.mp hlatest
  refine episode_induct (I := fun s _ => Counting (retryLimit spec)
    cluster.migration.current.status s.migration) hrun hversions hedits ⟨hcounted, .inl rfl⟩ ?_
  intro s log c choice answer next hwithin hcounting hallowed _ hanswer hsuffix
  refine (Cluster.answer_grows hanswer).induct hcounting ?_
  intro history new hhistory hpersists
  cases hpersists with
  | edited | updated => exact hhistory.edit rfl
  | statusWritten hcall =>
    subst hcall
    obtain ⟨v, hread, hwrites⟩ := hallowed
    have hfollows := hwrites.follows
    rw [spec_of_keepsTo (hwithin.of_read hread).2, status_of_readsCurrent hcurrent
      (hread.mono ((suffix_cons _ _).trans hsuffix))] at hfollows
    exact hhistory.write hfollows

/-- Throughout a run: the versions are those of one object with one spec, and the count is that
of the restarts. -/
structure Retried (key : ObjectKey) (spec : VMMigrationSpec) (cluster : Cluster) : Prop where
  keyed : ∀ v ∈ cluster.migration.all, v.objectMeta.key = key
  fixed : ∀ v ∈ cluster.migration.all, keepsTo (fixedSpec spec) v = true
  counted : cluster.migration.current.status.retryCount = restarts cluster.migration.all
  limited : cluster.migration.current.status.retryCount ≤ retryLimit spec

theorem Retried.episode (h : Retried key spec cluster)
    (hrun : (system r key).Episode cluster choices out)
    (hlatest : readsLatest spec cluster trace choices out.log = true) :
    Retried key spec ((system r key).settle out) := by
  obtain ⟨hwithin, hcounting⟩ :=
    counting_of_run (within_of_versions fun v hv => ⟨h.keyed v hv, h.fixed v hv⟩) h.counted hrun
      hlatest
  have hend : Retried key spec out.state :=
    ⟨hwithin.keyed, hwithin.bounded, hcounting.counted, hcounting.bounded h.limited⟩
  obtain ⟨hkeyed, hfixed, hcounted, hlimited⟩ := hend
  constructor <;> rwa [settle_migration]

theorem retried_of_reach (hspec : 0 ≤ retryLimit spec)
    (hrun : ((system r key).startingFrom (startsWithin (fixedSpec spec))).Reach
      (fun cluster trace choices episode => readsLatest spec cluster trace choices episode = true)
      cluster trace) : Retried key spec cluster := by
  refine hrun.invariant (J := fun s _ => Retried key spec s) ?_ ?_
  · rintro s ⟨⟨holder, hkey, hstatus, -⟩, hstart⟩
    refine ⟨History.forall_mem_of_new holder hkey, History.forall_mem_of_new holder hstart, ?_, ?_⟩
    · rw [History.all, holder, hstatus]
      rfl
    · rw [hstatus]
      exact hspec
  · intro s trace choices out h hepisode hlatest
    exact h.episode hepisode hlatest

/-- Where the restarts are used up, a failure is permanent. -/
theorem permanentlyFailed_of_limit {v : VMMigration} (hphase : v.status.phase = .failed)
    (hcount : retryLimit v.spec ≤ v.status.retryCount) : permanentlyFailed v = true := by
  unfold permanentlyFailed
  rw [hphase]
  unfold retryLimit at hcount
  cases hpolicy : v.spec.options.bind MigrationOptions.retryPolicy with
  | none => rfl
  | some retryPolicy =>
    rw [hpolicy] at hcount
    simpa using hcount

section UsedUp

variable {start : VMMigrationStatus} (hwithin : Within key (fixedSpec spec) out.state out.log)
  (hstatus : cluster.migration.current.status = start) (hphase : start.phase = .failed)
  (hcount : retryLimit spec ≤ start.retryCount)
  (hrun : (system r key).Episode cluster choices out)
  (hcurrent : readsCurrent cluster out.log = true)
include hwithin hstatus hphase hcount hrun hcurrent

/-- A reconcile after that leaves the status as it is. -/
theorem status_of_used_up : out.state.migration.current.status = start := by
  rcases statusAfter_of_run hrun with ⟨-, hsame⟩ | ⟨log, v, hsuffix, hread, hwrites⟩
  · rw [hsame, hstatus]
  · have hread' := hread.mono hsuffix
    have hv := (status_of_readsCurrent hcurrent hread').trans hstatus
    rcases hwrites.follows with ⟨hother, -⟩ | ⟨-, -, -, hlt⟩
    · exact absurd (hv ▸ hphase) hother
    · rw [spec_of_keepsTo (hwithin.of_read hread').2, hv] at hlt
      omega

/-- Every call of a reconcile after that tidies up. -/
theorem tidies_of_used_up {event : LogEntry} {older : List LogEntry}
    (hevent : (event :: older) <:+ out.log) : Tidies older event.1 := by
  rcases (reconcile_tidies r key).run_allowed hrun hevent with htidies | ⟨v, hread, hretried⟩
  · exact htidies
  · have hread' := hread.mono ((suffix_cons _ _).trans hevent)
    have hv := (status_of_readsCurrent hcurrent hread').trans hstatus
    rw [permanentlyFailed_of_limit (hv ▸ hphase)
      (by rwa [spec_of_keepsTo (hwithin.of_read hread').2, hv])] at hretried
    cases hretried

end UsedUp

/-- Once the restarts are used up, a failure is permanent: in whatever follows the status stays,
and the providers are only asked to tidy up. -/
theorem permanent_of_used_up {start : Cluster} (h : Retried key spec start)
    (hphase : start.migration.current.status.phase = .failed)
    (hcount : retryLimit spec ≤ start.migration.current.status.retryCount)
    (hrun : ({ system r key with init := (· = start) } :
      System Call Answer Cluster Choice Return).Reach
      (fun cluster trace choices episode => readsLatest spec cluster trace choices episode = true)
      cluster trace) :
    cluster.migration.current.status = start.migration.current.status ∧
      ∀ event older, (event :: older) <:+ trace → Tidies older event.1 := by
  refine (bounded_induct (J := fun s trace =>
    s.migration.current.status = start.migration.current.status ∧
    ∀ event older, (event :: older) <:+ trace → Tidies older event.1) hrun
    (fun _ _ _ _ hlatest => (Bool.and_eq_true_iff.mp hlatest).1) ?_ (fun _ _ h => h) ?_).2
  · rintro s rfl
    exact ⟨fun v hv => ⟨h.keyed v hv, h.fixed v hv⟩, rfl, fun _ _ hevent => by simp at hevent⟩
  · rintro s trace choices out - hwithin ⟨hstatus, htrace⟩ hepisode hlatest
    have hcurrent := (Bool.and_eq_true_iff.mp hlatest).2
    refine ⟨status_of_used_up hwithin hstatus hphase hcount hepisode hcurrent, ?_⟩
    intro event older hevent
    rcases event_of_append hevent with hold | ⟨before, rfl, hnew⟩
    · exact htrace event older hold
    · exact (tidies_of_used_up hwithin hstatus hphase hcount hepisode hcurrent hnew).mono
        (subset_append_left _ _)

/-- A migration whose spec stays as it is, in every run in which a reconcile reads the status
that was persisted last: its retry count is the number of its restarts and stays within the
limit, and a failure with no restart left is final. -/
theorem retries_are_bounded (r : Reconciler) (key : ObjectKey) (spec : VMMigrationSpec)
    (hspec : 0 ≤ retryLimit spec) (cluster : Cluster) (trace : List LogEntry)
    (hrun : ((system r key).startingFrom (startsWithin (fixedSpec spec))).Reach
      (fun cluster trace choices episode => readsLatest spec cluster trace choices episode = true)
      cluster trace) :
    cluster.migration.current.status.retryCount = restarts cluster.migration.all ∧
    cluster.migration.current.status.retryCount ≤ retryLimit spec ∧
    (cluster.migration.current.status.phase = .failed →
      retryLimit spec ≤ restarts cluster.migration.all →
      ∀ later newer, ({ system r key with init := (· = cluster) } :
        System Call Answer Cluster Choice Return).Reach
        (fun cluster trace choices episode =>
          readsLatest spec cluster trace choices episode = true) later newer →
        later.migration.current.status = cluster.migration.current.status ∧
          ∀ event older, (event :: older) <:+ newer → Tidies older event.1) := by
  have hretried := retried_of_reach hspec hrun
  refine ⟨hretried.counted, hretried.limited, fun hphase hlimit later newer hlater => ?_⟩
  exact permanent_of_used_up hretried hphase (hretried.counted ▸ hlimit) hlater

end Runs

namespace Sample

/-- The migration with one retry. -/
def retriedOnce : VMMigration :=
  { migration with spec := { migration.spec with
      options := some { retryPolicy := some { maxRetries := some 1 } } } }

def retriedCluster : Cluster := { cluster [] with migration := ⟨retriedOnce, []⟩ }

/-- An attempt that does not find its source. -/
def failingAttempt : List (List Choice) := [[cached 0, done], [cached 0, outage, clock, done]]

/-- Two attempts, both of which fail. -/
def failsTwice : List (List Choice) :=
  [[cached 0, done], [cached 0, clock, done]] ++ failingAttempt ++ [[cached 0, clock, done]] ++
    failingAttempt

/-- The reconciles of that migration. -/
def retriedSystem : System Call Answer Cluster Choice Return :=
  (system reconciler key).startingFrom (startsWithin (fixedSpec retriedOnce.spec))

theorem init_retriedCluster : retriedSystem.init retriedCluster :=
  ⟨⟨rfl, rfl, rfl, rfl, rfl⟩, decide_eq_true (Eq.refl retriedOnce.spec)⟩

end Sample

open Sample

/-- A migration with one retry fails twice, and stays failed from then on. -/
theorem retries_are_bounded_sample : ∃ cluster trace,
    retriedSystem.Reach (fun cluster trace choices episode =>
      readsLatest retriedOnce.spec cluster trace choices episode = true) cluster trace ∧
    cluster.migration.current.status.retryCount = 1 ∧
    restarts cluster.migration.all = 1 ∧
    ∀ later newer, ({ system reconciler key with init := (· = cluster) } :
      System Call Answer Cluster Choice Return).Reach
      (fun cluster trace choices episode =>
        readsLatest retriedOnce.spec cluster trace choices episode = true) later newer →
      later.migration.current.status.phase = .failed := by
  refine retriedSystem.exists_reach
    (P := fun cluster _ => cluster.migration.current.status.phase = .failed ∧
      restarts cluster.migration.all = 1)
    failsTwice init_retriedCluster (fun cluster trace hreach hshows => ?_)
    (by decide +kernel)
  obtain ⟨hphase, hrestarts⟩ := hshows
  obtain ⟨hcounted, -, hfinal⟩ := retries_are_bounded reconciler key
    retriedOnce.spec (by decide) cluster trace hreach
  refine ⟨?_, hrestarts, fun later newer hlater => ?_⟩
  · rw [hcounted, hrestarts]
    rfl
  · rw [(hfinal hphase (by rw [hrestarts]; decide) later newer hlater).1, hphase]

end Virtrigaud.Migration
