import Virtrigaud.Effects.Threads
import Virtrigaud.Migration.Runs

/-!
# One long operation at a time

Within one manager process an operation of a migration is marked in `longOpInFlight`
before it is issued, and the mark is taken back only when it failed. Nothing else is
assumed of the reconciles: any number of them run at once, of any objects, and every
answer but those of the map is arbitrary. So an operation that succeeded for a UID and
generation is not issued again for them, and no two are outstanding at once.
-/

namespace Virtrigaud.Migration

open Effects Program List Function Option

/-- The manager process: it owns `longOpInFlight`, and all other answers are chosen. -/
def managerHost : Host Call Answer (List String) ((c : Call) → Option (Answer c)) where
  answer inFlight c said :=
    match Cluster.inFlightAnswer inFlight c with
    | some answered => some answered
    | none => (said c).map (·, inFlight)

/-- The workers of the manager. -/
abbrev Workers (ι : Type) := Threads Call Answer (List String) Return ι

/-- Everything that reconciles can do within one process. -/
def manage (r : Reconciler) {ι : Type} [DecidableEq ι]
    (moves : List (Move ι ObjectKey ((c : Call) → Option (Answer c)))) : Option (Workers ι) :=
  Threads.run managerHost r.reconcile { shared := [] } moves

/-- The long operation that a call is. -/
def longOp : Call → Option MigrationLongOp
  | .exportDisk _ _ => some .exportDisk
  | .importDisk _ _ => some .importDisk
  | _ => none

/-- The call is the operation for this UID and generation: those of the version that its
reconcile works from. -/
def IsFor (op : MigrationLongOp) (uid : String) (generation : Int) (log : List LogEntry)
    (c : Call) : Prop :=
  longOp c = some op ∧ (readVersion log).any (fun v =>
    v.objectMeta.uid = uid ∧ v.objectMeta.generation = generation) = true

instance (op : MigrationLongOp) (uid : String) (generation : Int) (log : List LogEntry)
    (c : Call) : Decidable (IsFor op uid generation log c) :=
  inferInstanceAs (Decidable (_ ∧ _))

/-- The reconcile has marked the operation, and has neither issued it successfully nor
taken the mark back. -/
inductive Holds (marker : String) : List LogEntry → Prop
  | marked {rest} : Holds marker (⟨.longOpLoadOrStore marker, false⟩ :: rest)
  | exportFailed {provider req err rest} : Holds marker
      (⟨.exportDisk provider req, .error err⟩ :: ⟨.longOpLoadOrStore marker, false⟩ :: rest)
  | importFailed {provider req err rest} : Holds marker
      (⟨.importDisk provider req, .error err⟩ :: ⟨.longOpLoadOrStore marker, false⟩ :: rest)

/-- The call is the marked operation. -/
def Marked (marker : String) (log : List LogEntry) (c : Call) : Prop :=
  (longOp c).isSome = true ∧ ∃ rest, log = ⟨.longOpLoadOrStore marker, false⟩ :: rest

/-- The marked operation succeeded at this moment. -/
def Settles (marker : String) : Moment Call Answer → Prop
  | .answered log event => Marked marker log event.1 ∧ landed event = true
  | .issued _ _ => False

/-- The marked operation is issued at this moment. -/
def Begins (marker : String) : Moment Call Answer → Prop
  | .issued log c => Marked marker log c
  | .answered _ _ => False

section Marks

variable {marker : String} {log : List LogEntry} {c : Call} {answer : Answer c}

theorem Marked.holds (h : Marked marker log c) : Holds marker log := by
  obtain ⟨-, rest, rfl⟩ := h
  exact .marked

/-- A call makes its reconcile hold the mark only if it sets it. -/
theorem Holds.of_cons (h : Holds marker (⟨c, answer⟩ :: log))
    (hmark : ¬ (⟨c, answer⟩ : LogEntry) = ⟨.longOpLoadOrStore marker, false⟩) :
    Holds marker log ∧ (longOp c).isSome = true ∧ landed ⟨c, answer⟩ = false := by
  cases h with
  | marked => exact absurd rfl hmark
  | exportFailed | importFailed => exact ⟨.marked, rfl, rfl⟩

/-- Whoever takes a mark back holds it. -/
theorem holds_of_longOpDelete {key : ObjectKey} (h : Allowed key log (.longOpDelete marker)) :
    Holds marker log := by
  obtain ⟨v, -, ⟨provider, req, err, rest, -, rfl⟩ | ⟨provider, req, err, rest, -, rfl⟩⟩ := h
  · exact .exportFailed
  · exact .importFailed

/-- A long operation is issued right after its mark is set. -/
theorem marked_of_allowed {key other : ObjectKey} {op : MigrationLongOp} {v : VMMigration}
    (h : Allowed key log c) (hop : longOp c = some op) (hread : Read other log v) :
    Marked (longOpKey v op) log c := by
  unfold longOp at hop
  split at hop <;> cases hop
  all_goals
    obtain ⟨w, hw, -, -, -, hrest, -⟩ := h
    rw [hread.unique hw]
    exact ⟨rfl, hrest⟩

end Marks

section Map

variable {marker : String} {inFlight after : List String} {c : Call}
  {said : (c : Call) → Option (Answer c)} {answer : Answer c}

/-- Only the mark's own deletion removes it from the map. -/
theorem mem_of_managerHost (h : managerHost.answer inFlight c said = some (answer, after))
    (hmem : marker ∈ inFlight) (hdelete : c ≠ .longOpDelete marker) : marker ∈ after := by
  simp only [managerHost] at h
  split at h
  · rename_i answered hanswered
    cases h
    unfold Cluster.inFlightAnswer at hanswered
    split at hanswered <;> cases hanswered
    · exact hmem
    · exact .tail _ hmem
    · refine mem_filter.mpr ⟨hmem, decide_eq_true ?_⟩
      rintro rfl
      exact hdelete rfl
  · obtain ⟨_, _, hnext⟩ := map_eq_some_iff.mp h
    cases hnext
    exact hmem

/-- A mark is set only where there was none. -/
theorem not_mem_of_marks
    (h : managerHost.answer inFlight (.longOpLoadOrStore marker) said = some (false, after)) :
    marker ∉ inFlight ∧ marker ∈ after := by
  simp only [managerHost, Cluster.inFlightAnswer, some.injEq, Prod.mk.injEq] at h
  obtain ⟨habsent, rfl⟩ := h
  refine ⟨fun hmem => ?_, .head _⟩
  rw [contains_iff_mem.mpr hmem] at habsent
  cases habsent

end Map

/-- At most one reconcile holds the mark, which then is in the map; after the operation
succeeded the mark stays, and nobody holds it. -/
structure Exclusive {ι : Type} (marker : String) (inFlight : List String)
    (logs : ι → List LogEntry) (trace : List (Moment Call Answer)) : Prop where
  held : ∀ i, Holds marker (logs i) → marker ∈ inFlight
  unique : ∀ i j, Holds marker (logs i) → Holds marker (logs j) → i = j
  settled : (∃ moment ∈ trace, Settles marker moment) →
    marker ∈ inFlight ∧ ∀ i, ¬ Holds marker (logs i)
  once : trace.Pairwise fun later earlier => Begins marker later → ¬ Settles marker earlier

namespace Exclusive

variable {ι : Type} {marker : String} {inFlight after : List String}
  {logs : ι → List LogEntry} {trace : List (Moment Call Answer)}

/-- A marked operation is issued by the one reconcile that holds the mark, so it has not
succeeded before. -/
theorem issue (h : Exclusive marker inFlight logs trace) (i : ι) (c : Call) :
    Exclusive marker inFlight logs (.issued (logs i) c :: trace) := by
  refine ⟨h.held, h.unique, ?_, pairwise_cons.mpr ⟨?_, h.once⟩⟩
  · rintro ⟨moment, hmem, hsettles⟩
    rcases mem_cons.mp hmem with rfl | hmem
    · cases hsettles
    · exact h.settled ⟨moment, hmem, hsettles⟩
  · intro earlier hearlier hbegins hsettles
    exact (h.settled ⟨earlier, hearlier, hsettles⟩).2 i hbegins.holds

variable [DecidableEq ι]

section

variable (h : Exclusive marker inFlight logs trace) (i : ι)
include h i

/-- A reconcile that begins or ends holds nothing. -/
theorem empty : Exclusive marker inFlight (update logs i []) trace := by
  have hold : ∀ j, Holds marker (update logs i [] j) → Holds marker (logs j) := by
    intro j hj
    by_cases hji : j = i
    · rw [hji, update_self] at hj
      cases hj
    · rwa [update_of_ne hji] at hj
  refine ⟨fun j hj => h.held j (hold j hj), fun j k hj hk => h.unique j k (hold j hj) (hold k hk),
    fun hsettled => ?_, h.once⟩
  obtain ⟨hmem, hnone⟩ := h.settled hsettled
  exact ⟨hmem, fun j hj => hnone j (hold j hj)⟩

variable {said : (c : Call) → Option (Answer c)}

/-- Setting the mark: it was free, so nobody held it and the operation has not succeeded. -/
theorem mark
    (hanswer : managerHost.answer inFlight (.longOpLoadOrStore marker) said = some (false, after)) :
    Exclusive marker after
      (update logs i (⟨.longOpLoadOrStore marker, false⟩ :: logs i))
      (.answered (logs i) ⟨.longOpLoadOrStore marker, false⟩ :: trace) := by
  obtain ⟨habsent, hafter⟩ := not_mem_of_marks hanswer
  have hself : ∀ j, Holds marker (update logs i
      (⟨.longOpLoadOrStore marker, false⟩ :: logs i) j) → j = i := by
    intro j hj
    by_contra hji
    rw [update_of_ne hji] at hj
    exact habsent (h.held j hj)
  refine ⟨fun _ _ => hafter, fun j k hj hk => (hself j hj).trans (hself k hk).symm, ?_,
    pairwise_cons.mpr ⟨fun _ _ hbegins => hbegins.elim, h.once⟩⟩
  rintro ⟨moment, hmem, hsettles⟩
  rcases mem_cons.mp hmem with rfl | hmem
  · cases hsettles.2
  · exact absurd (h.settled ⟨moment, hmem, hsettles⟩).1 habsent

/-- Every answered call keeps the mark exclusive: it sets the mark, takes it back by the
reconcile that holds it, settles the operation of that reconcile, or is no matter. -/
theorem answer {c : Call} {r : Answer c} (hallowed : ∃ key, Allowed key (logs i) c)
    (hanswer : managerHost.answer inFlight c said = some (r, after)) :
    Exclusive marker after (update logs i (⟨c, r⟩ :: logs i))
      (.answered (logs i) ⟨c, r⟩ :: trace) := by
  by_cases hmark : (⟨c, r⟩ : LogEntry) = ⟨.longOpLoadOrStore marker, false⟩
  · cases hmark
    exact h.mark i hanswer
  -- Whoever holds the mark held it before; the caller only after a failed operation.
  have hold : ∀ j, Holds marker (update logs i (⟨c, r⟩ :: logs i) j) →
      Holds marker (logs j) ∧
        (j = i → (longOp c).isSome = true ∧ landed (⟨c, r⟩ : LogEntry) = false) := by
    intro j hj
    by_cases hji : j = i
    · rw [hji, update_self] at hj
      obtain ⟨hholds, hop, hlanded⟩ := hj.of_cons hmark
      exact ⟨hji ▸ hholds, fun _ => ⟨hop, hlanded⟩⟩
    · rw [update_of_ne hji] at hj
      exact ⟨hj, fun heq => absurd heq hji⟩
  have hdelete : c = .longOpDelete marker → Holds marker (logs i) := by
    rintro rfl
    obtain ⟨key, hkey⟩ := hallowed
    exact holds_of_longOpDelete hkey
  have hkeeps : marker ∈ inFlight → c ≠ .longOpDelete marker → marker ∈ after :=
    mem_of_managerHost hanswer
  refine ⟨fun j hj => ?_, fun j k hj hk => h.unique j k (hold j hj).1 (hold k hk).1, ?_,
    pairwise_cons.mpr ⟨fun _ _ hbegins => hbegins.elim, h.once⟩⟩
  · refine hkeeps (h.held j (hold j hj).1) fun hcall => ?_
    have hop := ((hold j hj).2 (h.unique j i (hold j hj).1 (hdelete hcall))).1
    rw [hcall] at hop
    cases hop
  · rintro ⟨moment, hmem, hsettles⟩
    rcases mem_cons.mp hmem with rfl | hmem
    · obtain ⟨hmarked, hlanded⟩ := hsettles
      refine ⟨hkeeps (h.held i hmarked.holds) fun hcall => ?_, fun j hj => ?_⟩
      · have hop : (longOp c).isSome = true := hmarked.1
        rw [hcall] at hop
        cases hop
      · have hfailed := ((hold j hj).2 (h.unique j i (hold j hj).1 hmarked.holds)).2
        rw [hfailed] at hlanded
        cases hlanded
    · obtain ⟨hin, hnone⟩ := h.settled ⟨moment, hmem, hsettles⟩
      exact ⟨hkeeps hin fun hcall => hnone i (hdelete hcall), fun j hj => hnone j (hold j hj).1⟩

end

end Exclusive

/-- The mark of any operation is exclusive in every run of the manager. -/
theorem exclusive_of_manage (r : Reconciler) {ι : Type} [DecidableEq ι]
    {moves : List (Move ι ObjectKey ((c : Call) → Option (Answer c)))} {workers : Workers ι}
    (hrun : manage r moves = some workers) (marker : String) :
    (Exclusive marker workers.shared workers.logs workers.trace ∧
      ∀ moment ∈ workers.trace, ∃ key, Allowed key moment.log moment.call) ∧
      ∀ i, Threads.Obedient (fun log c => ∃ key, Allowed key log c) (workers.threads i) := by
  have hprogram : ∀ key,
      (r.reconcile key).Heeds (fun log c => ∃ key, Allowed key log c) [] := fun key =>
    (reconcile_obeys r key).weaken fun log c hallowed => ⟨key, hallowed⟩
  refine Threads.invariant (J := fun inFlight logs trace => Exclusive marker inFlight logs trace ∧
    ∀ moment ∈ trace, ∃ key, Allowed key moment.log moment.call) (s := { shared := [] })
    hprogram ?_ ?_ ?_ ?_ (fun _ => trivial) hrun
  · rintro inFlight logs trace i ⟨h, hcalls⟩
    exact ⟨h.empty i, hcalls⟩
  · rintro inFlight logs trace i c ⟨h, hcalls⟩ hallowed
    exact ⟨h.issue i c, forall_mem_cons.mpr ⟨hallowed, hcalls⟩⟩
  · rintro inFlight logs trace i c said answer after ⟨h, hcalls⟩ hallowed hanswer
    exact ⟨h.answer i hallowed hanswer, forall_mem_cons.mpr ⟨hallowed, hcalls⟩⟩
  · refine ⟨⟨?_, ?_, ?_, Pairwise.nil⟩, ?_⟩
    · intro i hi
      cases hi
    · intro i j hi
      cases hi
    · rintro ⟨moment, hmem, -⟩
      cases hmem
    · intro moment hmem
      cases hmem

/-- The operation for a UID and generation waits for its answer in this worker. -/
def Outstanding {ι : Type} (workers : Workers ι) (op : MigrationLongOp) (uid : String)
    (generation : Int) (i : ι) : Prop :=
  ∃ c next log, workers.threads i = .waiting c next log ∧ IsFor op uid generation log c

/-- The operation for a UID and generation is issued at this moment. -/
def Issued (op : MigrationLongOp) (uid : String) (generation : Int) :
    Moment Call Answer → Prop
  | .issued log c => IsFor op uid generation log c
  | .answered _ _ => False

/-- The operation for a UID and generation returned success at this moment. -/
def Returned (op : MigrationLongOp) (uid : String) (generation : Int) :
    Moment Call Answer → Prop
  | .answered log event => IsFor op uid generation log event.1 ∧ landed event = true
  | .issued _ _ => False

instance (op : MigrationLongOp) (uid : String) (generation : Int) (moment : Moment Call Answer) :
    Decidable (Returned op uid generation moment) :=
  match moment with
  | .answered _ _ => inferInstanceAs (Decidable (_ ∧ _))
  | .issued _ _ => inferInstanceAs (Decidable False)

/-- The mark of an operation is determined by UID and generation. -/
theorem IsFor.marked {op : MigrationLongOp} {uid : String} {generation : Int}
    {log : List LogEntry} {c : Call} (h : IsFor op uid generation log c)
    (hallowed : ∃ key, Allowed key log c) :
    Marked (uid ++ "/" ++ toString generation ++ "/" ++ op.text) log c := by
  obtain ⟨hop, hversion⟩ := h
  obtain ⟨v, hv, hsame⟩ := (any_eq_true _ _).mp hversion
  obtain ⟨rfl, rfl⟩ := of_decide_eq_true hsame
  obtain ⟨key, hread⟩ := read_of_readVersion hv
  obtain ⟨other, hother⟩ := hallowed
  exact marked_of_allowed hother hop hread

/-- Within one process, at most one ExportDisk (ImportDisk) for a UID and generation is
outstanding at any time, and none is issued after one has returned success. -/
theorem long_operation_once (r : Reconciler) {ι : Type} [DecidableEq ι]
    {moves : List (Move ι ObjectKey ((c : Call) → Option (Answer c)))} {workers : Workers ι}
    (hrun : manage r moves = some workers) (op : MigrationLongOp) (uid : String)
    (generation : Int) :
    (∀ i j, Outstanding workers op uid generation i → Outstanding workers op uid generation j →
      i = j) ∧
    workers.trace.Pairwise fun later earlier =>
      Issued op uid generation later → ¬ Returned op uid generation earlier := by
  obtain ⟨⟨hexclusive, hcalls⟩, hobedient⟩ := exclusive_of_manage r hrun
    (uid ++ "/" ++ toString generation ++ "/" ++ op.text)
  refine ⟨fun i j hi hj => ?_, ?_⟩
  · have hholds : ∀ i, Outstanding workers op uid generation i →
        Holds (uid ++ "/" ++ toString generation ++ "/" ++ op.text) (workers.logs i) := by
      rintro i ⟨c, next, log, hthread, hfor⟩
      have hwaiting := hobedient i
      rw [hthread] at hwaiting
      have hlog : workers.logs i = log := by
        rw [Threads.logs, hthread]
        rfl
      rw [hlog]
      exact (hfor.marked hwaiting.1).holds
    exact hexclusive.unique i j (hholds i hi) (hholds j hj)
  · refine hexclusive.once.imp_of_mem ?_
    intro later earlier hlater hearlier hnot hissued hreturned
    cases later with
    | answered => exact hissued
    | issued log c =>
      cases earlier with
      | issued => exact hreturned
      | answered log' event =>
        refine hnot (hissued.marked (hcalls _ hlater)) ⟨?_, hreturned.2⟩
        exact hreturned.1.marked (hcalls _ hearlier)

namespace Sample

/-- The migration in Exporting. -/
def exporting : VMMigration where
  objectMeta := migration.objectMeta.addFinalizer finalizerName
  spec := migration.spec
  status := { phase := .exporting }

/-- Everything a reconcile of it asks for until its export has succeeded. -/
def exportAnswers : (c : Call) → Option (Answer c)
  | .getMigration _ => some (.ok exporting)
  | .getVirtualMachine _ => some (.ok source)
  | .getProvider _ => some (.ok kvm)
  | .getProviderInstance _ => some none
  | .exportDisk _ _ => some (.ok { exportId := "export-1" })
  | _ => none

/-- A worker makes calls, each answered before the next. -/
def calls (worker : Bool) (count : Nat) :
    List (Move Bool ObjectKey ((c : Call) → Option (Answer c))) :=
  (replicate count [.issue worker, .answer worker exportAnswers]).flatten

/-- Two workers get to the mark at once; the first sets it and exports, the second gives up. -/
def race : List (Move Bool ObjectKey ((c : Call) → Option (Answer c))) :=
  [.start false key, .start true key] ++ calls false 5 ++ calls true 5 ++ calls false 1 ++
    calls true 1 ++ [.finish true] ++ calls false 1

end Sample

/-- Of two reconciles that find no mark, one exports and no other export follows. -/
theorem long_operation_once_race : ∃ workers, manage Sample.reconciler Sample.race = some workers ∧
    (∃ moment ∈ workers.trace, Returned .exportDisk "8f14e45f" 1 moment) ∧
    workers.trace.Pairwise fun later earlier =>
      Issued .exportDisk "8f14e45f" 1 later → ¬ Returned .exportDisk "8f14e45f" 1 earlier := by
  obtain ⟨workers, hrun, hreturned⟩ : ∃ workers ∈ manage Sample.reconciler Sample.race,
      ∃ moment ∈ workers.trace, Returned .exportDisk "8f14e45f" 1 moment := by decide +kernel
  exact ⟨workers, hrun, hreturned,
    (long_operation_once Sample.reconciler hrun .exportDisk "8f14e45f" 1).2⟩

end Virtrigaud.Migration
