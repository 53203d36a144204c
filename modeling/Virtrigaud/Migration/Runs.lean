import Virtrigaud.Migration.Cluster
import Virtrigaud.Migration.Conformance

/-!
# Runs of the migration controller

Two induction rules for facts about the persisted versions. Over one reconcile: other
clients keep the status, and every status the controller persists is one of
`Writes`. Over a run: the same for every reconcile that meets the run's condition.
-/

namespace Virtrigaud.Migration

open Effects Program List

section Induction

variable {r : Reconciler} {key : ObjectKey}

/-- The version a reconcile works from was persisted. -/
def ReadPersisted (key : ObjectKey) (history : History VMMigration) (log : List LogEntry) : Prop :=
  ∀ v, Read key log v → v ∈ history.all

theorem readPersisted_nil (history : History VMMigration) : ReadPersisted key history [] := by
  intro v hread
  cases hread

variable {cluster : Cluster} {log : List LogEntry} {choice : Choice} {next : Cluster}

/-- One more call keeps it: the first call is the read itself. -/
theorem ReadPersisted.step {c : Call} {answer : Answer c}
    (h : ReadPersisted key cluster.migration log)
    (hanswer : cluster.answer c choice = some (answer, next)) :
    ReadPersisted key next.migration (⟨c, answer⟩ :: log) := by
  intro v hread
  cases log with
  | nil =>
    cases Option.some.inj hread
    exact Cluster.answer_read hanswer
  | cons entry rest =>
    refine (Cluster.answer_grows hanswer).subset (h v ?_)
    rwa [Read, getLast?_cons_cons] at hread

/-- The status a reconcile works from was persisted before the reconcile began. -/
def ReadBefore (key : ObjectKey) (before : History VMMigration) (log : List LogEntry) : Prop :=
  ∀ v, Read key log v → ∃ w ∈ before.all, w.status = v.status

theorem readBefore_nil (before : History VMMigration) : ReadBefore key before [] := by
  intro v hread
  cases hread

/-- The first call sees what was persisted before, under the edits of other clients,
which leave every status alone. -/
theorem ReadBefore.step {before : History VMMigration} {c : Call} {answer : Answer c}
    (h : ReadBefore key before log) (hfirst : log = [] → cluster.migration = before)
    (hanswer : cluster.answer c choice = some (answer, next)) :
    ReadBefore key before (⟨c, answer⟩ :: log) := by
  intro v hread
  cases log with
  | nil =>
    cases Option.some.inj hread
    refine (Cluster.answer_grows hanswer).forall_mem
      (P := fun w => ∃ old ∈ before.all, old.status = w.status) ?_ ?_ v
      (Cluster.answer_read hanswer)
    · rw [hfirst rfl]
      exact fun w hw => ⟨w, hw, rfl⟩
    · intro last new hlast hpersists
      cases hpersists with
      | edited => exact hlast
      | updated hcall | statusWritten hcall => cases hcall
  | cons entry rest =>
    rw [Read, getLast?_cons_cons] at hread
    exact h v hread

variable {out : Outcome Call Answer Cluster Return} {choices : List Choice}

section

variable (hrun : (system r key).Episode cluster choices out)
include hrun

/-- Whatever a reconcile read at its start was the status of an earlier version. -/
theorem readBefore_of_run : ReadBefore key cluster.migration out.log := by
  let I (s : Cluster) (log : List LogEntry) : Prop :=
    (log = [] → s.migration = cluster.migration) ∧ ReadBefore key cluster.migration log
  have hI : I cluster [] := ⟨fun _ => rfl, readBefore_nil _⟩
  refine ((reconcile_obeys r key).run_induct hrun (fun _ _ => trivial) hI ?_).1.2
  rintro s log c choice answer next ⟨hfirst, hread⟩ - - hanswer -
  exact ⟨fun hnil => absurd hnil (cons_ne_nil _ _), hread.step hfirst hanswer⟩

/-- A fact about the persisted versions holds wherever a reconcile ends if it holds
before, other clients keep it, and so does every status the reconcile may persist. -/
theorem reconcile_induct {P : History VMMigration → List LogEntry → Prop}
    (hbase : P cluster.migration [])
    (hlog : ∀ history log entry, P history log → P history (entry :: log))
    (hedit : ∀ history log new, P history log → new.status = history.current.status →
      P (history.push new) log)
    (hwrite : ∀ history log new v, log <:+ out.log → P history log → Read key log v →
      (∃ w ∈ cluster.migration.all, w.status = v.status) → Writes v log new.status →
        P (history.push new) log) :
    P out.state.migration out.log := by
  have hbefore := readBefore_of_run hrun
  refine ((reconcile_obeys r key).run_induct (I := fun s log => P s.migration log) hrun
    (fun _ _ => trivial) hbase ?_).1
  intro s log c choice answer next hP hallowed _ hanswer hsuffix
  have hlog' : log <:+ out.log := (suffix_cons _ _).trans hsuffix
  refine hlog _ _ _ ?_
  -- Each version the answer adds is another client's edit or an allowed status write.
  refine (Cluster.answer_grows hanswer).induct (P := fun history => P history log) hP ?_
  intro history new hhistory hpersists
  cases hpersists with
  | edited | updated => exact hedit history log _ hhistory rfl
  | statusWritten hcall =>
    subst hcall
    obtain ⟨v, hv, hwrites⟩ := hallowed
    exact hwrite history log _ v hlog' hhistory hv (hbefore v (hv.mono hlog')) hwrites

end

/-- A status write that went through. -/
def statusWritten : LogEntry → Bool
  | ⟨.statusUpdate _, .ok _⟩ => true
  | _ => false

/-- The status a reconcile leaves: the one before while no write has gone through, or one
it wrote. -/
def StatusAfter (key : ObjectKey) (before : VMMigrationStatus) (log : List LogEntry)
    (after : VMMigrationStatus) : Prop :=
  (∀ entry ∈ log, statusWritten entry = false) ∧ after = before ∨
    ∃ log' v, log' <:+ log ∧ Read key log' v ∧ Writes v log' after

theorem StatusAfter.step {before : VMMigrationStatus} {c : Call} {answer : Answer c}
    (h : StatusAfter key before log cluster.migration.current.status) (hallowed : Allowed key log c)
    (hanswer : cluster.answer c choice = some (answer, next)) :
    StatusAfter key before (⟨c, answer⟩ :: log) next.migration.current.status := by
  by_cases hwritten : statusWritten ⟨c, answer⟩ = true
  · unfold statusWritten at hwritten
    split at hwritten
    · rename_i migration stored heq
      cases heq
      obtain ⟨v, hread, hwrites⟩ := hallowed
      refine .inr ⟨log, v, suffix_cons _ _, hread, ?_⟩
      rw [(Cluster.answer_written hanswer).2.2]
      exact hwrites
    · cases hwritten
  · have hkept : StatusAfter key before log next.migration.current.status := by
      refine (Cluster.answer_grows hanswer).induct
        (P := fun history => StatusAfter key before log history.current.status) h ?_
      intro history new hhistory hpersists
      cases hpersists with
      | edited | updated => exact hhistory
      | statusWritten hcall =>
        subst hcall
        obtain ⟨v, hread, hwrites⟩ := hallowed
        exact .inr ⟨log, v, suffix_refl log, hread, hwrites⟩
    rcases hkept with ⟨hnone, hsame⟩ | ⟨log', v, hsuffix, hread, hwrites⟩
    · exact .inl ⟨forall_mem_cons.mpr ⟨Bool.not_eq_true _ ▸ hwritten, hnone⟩, hsame⟩
    · exact .inr ⟨log', v, hsuffix.trans (suffix_cons _ _), hread, hwrites⟩

theorem statusAfter_of_run
    (hrun : (system r key).Episode cluster choices out) :
    StatusAfter key cluster.migration.current.status out.log
      out.state.migration.current.status := by
  refine ((reconcile_obeys r key).run_induct (I := fun s log =>
    StatusAfter key cluster.migration.current.status log s.migration.current.status) hrun
    (fun _ _ => trivial) (.inl ⟨forall_mem_nil _, rfl⟩) ?_).1
  intro s log c choice answer next h hallowed _ hanswer _
  exact h.step hallowed hanswer

/-- Losing the process loses no version. -/
theorem settle_migration (out : Outcome Call Answer Cluster Return) :
    ((system r key).settle out).migration = out.state.migration := by
  unfold System.settle
  split <;> rfl

/-- The same rule over a whole run. The condition holds of the episode that writes. -/
theorem reach_induct {cond : System.Condition Call Answer Cluster Choice}
    {J : History VMMigration → List LogEntry → Prop} (hinit : ∀ v, v.status = {} → J ⟨v, []⟩ [])
    (hlog : ∀ history trace entry, J history trace → J history (entry :: trace))
    (hedit : ∀ history trace new, J history trace → new.status = history.current.status →
      J (history.push new) trace)
    (hwrite : ∀ cluster trace choices episode, cond cluster trace choices episode →
      ∀ history log new v, log <:+ episode → J cluster.migration trace →
      J history (log ++ trace) → Read key log v →
      (∃ w ∈ cluster.migration.all, w.status = v.status) → Writes v log new.status →
      J (history.push new) (log ++ trace)) {trace : List LogEntry}
    (h : (system r key).Reach cond cluster trace) : J cluster.migration trace := by
  refine h.invariant (J := fun s trace => J s.migration trace) ?_ ?_
  · rintro s ⟨holder, -, hstatus, -⟩
    have hmigration : s.migration = ⟨s.migration.current, []⟩ := by rw [← holder]
    rw [hmigration]
    exact hinit _ hstatus
  · intro s trace choices out hJ hrun hcond
    rw [settle_migration]
    refine reconcile_induct (P := fun history log => J history (log ++ trace)) hrun hJ ?_ ?_ ?_
    · exact fun history log entry => hlog history (log ++ trace) entry
    · exact fun history log new => hedit history (log ++ trace) new
    · intro history log new v hsuffix hhistory hread hbefore hwrites
      exact hwrite s trace choices out.log hcond history log new v hsuffix hJ hhistory hread
        hbefore hwrites

end Induction

namespace Sample

def reconciler : Reconciler where
  validateS3Endpoint _ := none
  validateHost _ := none
  marshalS3Options _ := .ok "{}"
  marshalNFSOptions _ := .ok "{}"
  nfsURL nfs file := .ok ("nfs://" ++ nfs.server ++ nfs.export ++ "/" ++ file)
  parseQuantity _ := none

def nfsProvider (name : String) (type : ProviderType) : Provider where
  objectMeta := { name, ns := "prod" }
  type := type
  conditions := [⟨"ProviderAvailable", .conditionTrue, "", ""⟩]
  reportedCapabilities := some {
    supportedExportBackends := [backendNFS], supportedImportBackends := [backendNFS] }

def kvm : Provider := nfsProvider "kvm" .libvirt

def esx : Provider := nfsProvider "esx" .vsphere

def source : VirtualMachine where
  objectMeta := { name := "web", ns := "prod", uid := "vm-0", resourceVersion := 1 }
  spec := { providerRef := { name := "kvm" } }
  status := { id := "web" }

def key : ObjectKey := ⟨"prod", "move"⟩

def migration : VMMigration where
  objectMeta := {
    name := key.name, ns := key.ns, uid := "8f14e45f", generation := 1, resourceVersion := 1 }
  spec := {
    source := { vmRef := ⟨"web"⟩, deleteAfterMigration := true }
    target := { name := "web-new", providerRef := { name := "esx" } }
    options := some { retryPolicy := some {} }
    storage := some { type := backendNFS, nfs := some { server := "nas", «export» := "/stage" } } }

/-- The cluster with the source and some other VirtualMachines. -/
def cluster (others : List VirtualMachine) : Cluster where
  migration := ⟨migration, []⟩
  vms := .ofList (source :: others)

theorem fresh_cluster (others : List VirtualMachine) : (cluster others).Fresh key :=
  ⟨rfl, rfl, rfl, rfl, rfl⟩

/-! Choices: a cached read, a call that goes through, a write that fails, and answers
of the providers and the clock. -/

def cached (lag : Nat) : Choice := { reply := .lagging lag }

def done : Choice := { reply := .accept }

def outage : Choice := { reply := .refuse (errorf "etcdserver: request timed out") }

def clock : Choice := { reply := .reports fun | .now => some 0 | _ => none }

def provider (answer : Provider) : Choice where
  reply := .reports fun | .getProvider _ => some (.ok answer) | _ => none

def connected : Choice :=
  { reply := .reports fun | .getProviderInstance _ => some none | _ => none }

def exported (resp : ExportDiskResponse) : Choice where
  reply := .reports fun | .exportDisk _ _ => some (.ok resp) | _ => none

def imported (resp : ImportDiskResponse) : Choice where
  reply := .reports fun | .importDisk _ _ => some (.ok resp) | _ => none

def completed : Choice :=
  { reply := .reports fun | .isTaskComplete _ _ => some (.ok true) | _ => none }

def taskResult (answer : TaskStatus) : Choice where
  reply := .reports fun | .taskStatus _ _ => some (.ok answer) | _ => none

/-- From creation to the Exporting phase. -/
def untilExporting : List (List Choice) := [
  [cached 0, done],
  [cached 0, clock, done],
  [cached 0, done],
  [cached 0, cached 0, provider kvm, provider esx, done]]

/-- Issue an operation, and end with the given answers. -/
def issueExport (ending : List Choice) : List Choice :=
  [cached 0, cached 0, provider kvm, connected, done, done] ++ ending

def issueImport (ending : List Choice) : List Choice :=
  [cached 0, provider esx, connected, done, done] ++ ending

/-- From creation to the Creating phase, with synchronous operations. -/
def untilCreating : List (List Choice) := untilExporting ++ [
  issueExport [exported { exportId := "export-1", checksum := "c0ffee" }, done],
  issueImport [imported { diskId := "disk-1", path := "[ds] web-new/web-new.vmdk" }, done]]

/-- Find the target ready, and complete the migration. -/
def findTarget : List (List Choice) := [
  [cached 0, cached 0, done],
  [cached 0, cached 0, clock, done, done]]

/-- Clean up the staged file and delete the source. -/
def finish : List Choice := [
  cached 0,
  { reply := .reports fun | .newStorage _ => some none | _ => none },
  { reply := .reports fun | .storageDelete _ _ => some none | _ => none },
  cached 0, done, done]

/-- A VirtualMachine under the target key that is up and running. -/
def runningTarget (uid : String) : VirtualMachine where
  objectMeta := { name := "web-new", ns := "prod", uid, resourceVersion := 1 }
  spec := { providerRef := { name := "esx" } }
  status := { id := "vm-1007", conditions := [⟨"Ready", .conditionTrue, "", ""⟩] }

end Sample

end Virtrigaud.Migration
