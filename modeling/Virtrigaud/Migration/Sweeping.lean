import Virtrigaud.Effects.Ensures
import Virtrigaud.Migration.Claims
import Virtrigaud.Migration.CleanUp
import Virtrigaud.Storage.PVC

/-!
# Removing the staged disk

The clean-up at Ready opens the store of a claim, whatever the staging backend is, in the pod of
the manager, and does not look at the answer of `Delete`. It removes the staged file where the
backend is a claim, the manager has that claim mounted where the clean-up looks for it, and
`Delete` succeeds.
-/

namespace Virtrigaud.Migration

open Effects Program Virtrigaud.Storage List

/-- Where a URL puts an object: a file on a claim, or an object of another backend. -/
inductive Place
  | claimFile (claim : ObjectKey) (file : List Char)
  | object (url : List Char)
  deriving DecidableEq, Repr

/-- The place that a URL of a migration in this namespace designates. -/
def placeOf (ns url : String) : Option Place :=
  if "pvc://".toList.isPrefixOf url.toList then
    match splitPVCURL url.toList with
    | .ok (claim, file) => some (.claimFile ⟨ns, String.ofList claim⟩ file)
    | .error _ => none
  else some (.object url.toList)

variable (mounted : List Char → Option ObjectKey)

/-- The place that a call of the manager has emptied; `mounted` are the claims that are mounted
in its pod, by directory. -/
def removed : LogEntry → Option Place
  | ⟨.storageDelete config url, none⟩ =>
    match mounted (newPVCStorage config.mountPath).mountPath, splitPVCURL url.toList with
    | some claim, .ok (_, file) => some (.claimFile claim file)
    | _, _ => none
  | _ => none

/-- The store that is opened is that of the claim it is meant for, and `Delete` succeeds. -/
def deletesThere : LogEntry → Bool
  | ⟨.storageDelete config url, answer⟩ =>
    answer.isNone && (splitPVCURL url.toList).toOption.isSome &&
      decide (mounted (newPVCStorage config.mountPath).mountPath =
        some ⟨config.pvcNamespace, config.pvcName⟩)
  | _ => true

/-- The condition on a reconcile. -/
def sweeps (_ : Cluster) (_ : List LogEntry) (choices : List Choice) (episode : List LogEntry) :
    Bool :=
  editsWithin stagesOnClaim choices && episode.all (deletesThere mounted)

/-- The staged file on its claim. -/
def stagedFile (key : ObjectKey) : List Char :=
  ("vmmigrations/" ++ key.ns ++ "/" ++ key.name ++ "/export.qcow2").toList

section URLs

variable {v : VMMigration} {key : ObjectKey} {mounted : List Char → Option ObjectKey}

theorem generateStorageURL_of_claim (r : Reconciler)
    (hspec : stagesOnClaim v.objectMeta.deletionTimestamp v.spec = true)
    (hkey : v.objectMeta.key = key) (hname : v.status.storagePVCName ≠ "") :
    ∃ url, r.generateStorageURL v "export" = .ok url ∧
      url.toList = "pvc://".toList ++ v.status.storagePVCName.toList ++ '/' :: stagedFile key := by
  subst hkey
  simp only [stagesOnClaim, Bool.and_eq_true, Option.any_eq_true, decide_eq_true_eq] at hspec
  obtain ⟨⟨storage, hstorage, htype⟩, -⟩ := hspec
  unfold Reconciler.generateStorageURL
  simp only [hstorage, if_pos htype, if_neg hname]
  refine ⟨_, rfl, ?_⟩
  simp [stagedFile, ObjectMeta.key, String.toList_append]

theorem trimSpace_claimURL (claim : List Char) (key : ObjectKey) :
    Go.trimSpace ("pvc://".toList ++ claim ++ '/' :: stagedFile key) =
      "pvc://".toList ++ claim ++ '/' :: stagedFile key := by
  have hsplit : "pvc://".toList ++ claim ++ '/' :: stagedFile key = "pvc://".toList ++
      ((claim ++ '/' :: ("vmmigrations/" ++ key.ns ++ "/" ++ key.name).toList) ++
        "/export.qcow2".toList) := by
    simp [stagedFile, String.toList_append]
  rw [hsplit]
  exact Go.trimSpace_eq (.append (by decide) (by decide) (by decide) (by decide) _)

/-- What counts as removed is gone from the directory of its claim. -/
theorem gone_of_removed {config : StorageConfig} {url : String}
    {refuses files left : List Char → Bool}
    (h : (newPVCStorage config.mountPath).delete refuses files url.toList = .ok left)
    {claim : ObjectKey}
    (hmounted : mounted (newPVCStorage config.mountPath).mountPath = some claim) :
    ∃ file, removed mounted ⟨.storageDelete config url, none⟩ = some (.claimFile claim file) ∧
      left (Go.Path.join [(newPVCStorage config.mountPath).mountPath, file]) = false ∧
      ∀ path ≠ Go.Path.join [(newPVCStorage config.mountPath).mountPath, file],
        left path = files path := by
  obtain ⟨_, file, hsplit, hleft⟩ := PVCStorage.delete_ok h
  refine ⟨file, ?_, hleft⟩
  simp only [removed, hmounted, hsplit]

/-- A deletion that succeeds for the version removes its staged file. -/
theorem removed_of_deletesThere
    (hnames : ∀ dir claim, mounted dir = some claim → '/' ∉ claim.name.toList)
    (hkey : v.objectMeta.key = key) {storage : MigrationStorage} {url : String}
    (hname : v.status.storagePVCName ≠ "")
    (hurl : url.toList = "pvc://".toList ++ v.status.storagePVCName.toList ++ '/' :: stagedFile key)
    {answer : Option GoError}
    (h : deletesThere mounted
      ⟨.storageDelete (cleanupStorageConfig v storage) url, answer⟩ = true) :
    removed mounted ⟨.storageDelete (cleanupStorageConfig v storage) url, answer⟩ =
        some (.claimFile ⟨key.ns, v.status.storagePVCName⟩ (stagedFile key)) ∧
      placeOf key.ns url =
        some (.claimFile ⟨key.ns, v.status.storagePVCName⟩ (stagedFile key)) := by
  subst hkey
  simp only [deletesThere, Bool.and_eq_true, Option.isNone_iff_eq_none, decide_eq_true_eq] at h
  obtain ⟨⟨rfl, hsplit⟩, hmounted⟩ := h
  have hclaim : (cleanupStorageConfig v storage).pvcName = v.status.storagePVCName :=
    if_neg hname
  have hslash : '/' ∉ v.status.storagePVCName.toList := hclaim ▸ hnames _ _ hmounted
  cases hparts : splitPVCURL url.toList with
  | error err =>
    rw [hparts] at hsplit
    cases hsplit
  | ok parts =>
    rw [hurl] at hparts
    obtain rfl := splitPVCURL_eq hslash (trimSpace_claimURL _ _) hparts
    rw [← hurl] at hparts
    constructor
    · simp only [removed, hmounted, hparts, hclaim]
      rfl
    · have hfront : "pvc://".toList.isPrefixOf url.toList = true := by
        rw [hurl, append_assoc]
        exact isPrefixOf_iff_prefix.mpr (prefix_append _ _)
      simp only [placeOf, hfront, if_true, hparts, String.ofList_toList]

end URLs

section Runs

variable {v : VMMigration} {log : List LogEntry} {status : VMMigrationStatus}

/-- The phases after validation. -/
def pastValidation : MigrationPhase → Bool
  | .unset | .pending | .validating | .failed => false
  | _ => true

/-- How a status comes to be past validation. -/
theorem Writes.past (h : Writes v log status) (hpast : pastValidation status.phase = true) :
    status.storagePVCName = v.status.storagePVCName ∧ pastValidation v.status.phase = true ∨
      v.status.phase = .validating ∧
        (status.phase = .snapshotting ∨ status.phase = .exporting) := by
  have hstays : status.phase ≠ .validating := by
    rintro hphase
    rw [hphase] at hpast
    cases hpast
  rcases h with ⟨-, hmoves⟩ | ⟨entry, -, -, hlands⟩
  · cases hmoves with
    | validated createSnapshot hphase =>
      cases createSnapshot
      · exact .inr ⟨hphase, .inr rfl⟩
      · exact .inr ⟨hphase, .inl rfl⟩
    | validationWaits _ _ hphase | storageRecorded _ hphase => exact absurd hphase hstays
    | mountWaits _ hphase hbase
    | poweringOff hphase hbase => exact absurd (hbase.phase.trans hphase) hstays
    -- the others are made past validation and keep the claim, or lead back before it
    | _ => first | (refine .inl ⟨rfl, ?_⟩; simp [pastValidation, *]; done) | cases hpast
  · cases hlands with
    | _ => exact .inl ⟨rfl, by simp [pastValidation, *]⟩

/-- How a status comes to say that the clean-up is done. -/
theorem Writes.cleaned (h : Writes v log status) (hclean : status.cleanedUp = true) :
    v.status.cleanedUp = true ∨ v.status.phase = .ready ∧ status.phase = .ready ∧
      status.storagePVCName = v.status.storagePVCName := by
  rcases h with ⟨-, hmoves⟩ | ⟨entry, -, -, hlands⟩
  · cases hmoves with
    | cleanupComplete snapshotID hphase => exact .inr ⟨hphase, hphase, rfl⟩
    | mountWaits _ _ hbase | poweringOff _ hbase => cases hbase <;> exact .inl hclean
    | validated createSnapshot _ hbase => cases createSnapshot <;> cases hbase <;> exact .inl hclean
    | failed _ _ _ hbase => cases hbase <;> exact .inl hclean
    | _ => exact .inl hclean
  · cases hlands with
    | _ => exact .inl hclean

/-- What holds of every version: past validation the claim is on record, and where the clean-up is
done the staged file was removed from it. -/
structure Staged (key : ObjectKey) (status : VMMigrationStatus) (trace : List LogEntry) : Prop where
  recorded : pastValidation status.phase = true → status.storagePVCName ≠ ""
  cleaned : status.cleanedUp = true → status.phase = .ready ∧
    ∃ url entry, url.toList = "pvc://".toList ++ status.storagePVCName.toList ++ '/' ::
        stagedFile key ∧
      placeOf key.ns url = some (.claimFile ⟨key.ns, status.storagePVCName⟩ (stagedFile key)) ∧
      entry ∈ trace ∧ removed mounted entry =
        some (.claimFile ⟨key.ns, status.storagePVCName⟩ (stagedFile key))

variable {mounted : List Char → Option ObjectKey} {key : ObjectKey} {r : Reconciler}
  {trace : List LogEntry}

theorem Staged.mono {trace' : List LogEntry} (h : Staged mounted key status trace)
    (htrace : trace ⊆ trace') : Staged mounted key status trace' where
  recorded := h.recorded
  cleaned hclean := by
    obtain ⟨hphase, url, entry, hurl, hplace, hentry, hremoved⟩ := h.cleaned hclean
    exact ⟨hphase, url, entry, hurl, hplace, htrace hentry, hremoved⟩

section

variable (hnames : ∀ dir claim, mounted dir = some claim → '/' ∉ claim.name.toList)
include hnames

/-- A status that a reconcile persists is staged if the version it read is. -/
theorem Staged.write (h : Staged mounted key v.status trace) (hkey : v.objectMeta.key = key)
    (hspec : stagesOnClaim v.objectMeta.deletionTimestamp v.spec = true)
    (hwrites : Writes v log status) (hnamed : v.status.phase = .validating → Named status)
    (hswept : v.status.phase = .ready → Swept r v log)
    (hdeletes : ∀ entry ∈ log, deletesThere mounted entry = true) :
    Staged mounted key status (log ++ trace) where
  recorded hpast := by
    rcases hwrites.past hpast with ⟨hname, hpast'⟩ | ⟨hvalidating, hleaves⟩
    · rw [hname]
      exact h.recorded hpast'
    · exact hnamed hvalidating hleaves
  cleaned hclean := by
    rcases hwrites.cleaned hclean with hbefore | ⟨hready, hready', hname⟩
    · -- nothing is written once the clean-up is done
      obtain ⟨hready, -⟩ := h.cleaned hbefore
      rw [(hwrites.of_ready hready).2.2] at hbefore
      cases hbefore
    · have hclaim : v.status.storagePVCName ≠ "" := h.recorded (by rw [hready]; rfl)
      obtain ⟨url, hgenerated, hurl⟩ := generateStorageURL_of_claim r hspec hkey hclaim
      simp only [stagesOnClaim, Bool.and_eq_true, Option.any_eq_true] at hspec
      obtain ⟨⟨storage, hstorage, -⟩, hpolicy⟩ := hspec
      have hallowed : cleanupAllowed v = true := by
        unfold cleanupAllowed
        cases hoptions : v.spec.options with
        | none => rfl
        | some options =>
          rw [hoptions] at hpolicy
          exact hpolicy
      obtain ⟨answer, hdelete⟩ := hswept hready hallowed storage url hstorage hgenerated
      obtain ⟨hremoved, hplace⟩ :=
        removed_of_deletesThere hnames hkey hclaim hurl (hdeletes _ hdelete)
      rw [hname]
      exact ⟨hready', url, _, hurl, hplace, mem_append_left _ hdelete, hremoved⟩

/-- A reconcile that meets the condition keeps every version staged. -/
theorem staged_of_run {cluster : Cluster} {choices : List Choice}
    {out : Outcome Call Answer Cluster Return} (hversions : Within key stagesOnClaim cluster [])
    (hstaged : ∀ w ∈ cluster.migration.all, Staged mounted key w.status trace)
    (hrun : (system r key).Episode cluster choices out)
    (hsweeps : sweeps mounted cluster trace choices out.log = true) :
    Within key stagesOnClaim out.state out.log ∧
      ∀ w ∈ out.state.migration.all, Staged mounted key w.status (out.log ++ trace) := by
  obtain ⟨hedits, hdeletes⟩ := Bool.and_eq_true_iff.mp hsweeps
  refine episode_induct_of (I := fun s log => ∀ w ∈ s.migration.all,
    Staged mounted key w.status (log ++ trace)) hrun hversions hedits hstaged
    (reconcile_stages r key) ?_
  intro s log c choice answer next hwithin hbefore hallowed hstages hanswer hsuffix
  have hgrown : ∀ w ∈ next.migration.all, Staged mounted key w.status (log ++ trace) := by
    refine (Cluster.answer_grows hanswer).forall_mem hbefore ?_
    intro old new hold hpersists
    cases hpersists with
    | edited | updated => exact hold
    | statusWritten hcall =>
      subst hcall
      obtain ⟨v, hread, hwrites⟩ := hallowed
      obtain ⟨hmem, hspec⟩ := hwithin.of_read hread
      obtain ⟨hnamed, hswept⟩ := hstages v hread
      have hlog : ∀ entry ∈ log, deletesThere mounted entry = true := fun entry hentry =>
        all_eq_true.mp hdeletes entry
          (((suffix_cons _ _).trans hsuffix).subset hentry)
      refine (Staged.write hnames (hbefore v hmem) (hwithin.keyed v hmem) hspec hwrites
        (fun hvalidating => hnamed hvalidating hspec) hswept hlog).mono ?_
      exact fun entry hentry => (mem_append.mp hentry).elim
        (fun h => mem_append_left _ h) id
  exact fun w hw => (hgrown w hw).mono (subset_cons_self _ _)

theorem staged_of_reach {cluster : Cluster}
    (hrun : ((system r key).startingFrom (startsWithin stagesOnClaim)).Reach
      (fun cluster trace choices episode => sweeps mounted cluster trace choices episode = true)
      cluster trace) :
    (∀ w ∈ cluster.migration.all, w.objectMeta.key = key ∧ keepsTo stagesOnClaim w = true) ∧
      ∀ w ∈ cluster.migration.all, Staged mounted key w.status trace := by
  refine bounded_induct (J := fun s trace => ∀ w ∈ s.migration.all,
    Staged mounted key w.status trace) hrun
    (fun _ _ _ _ hsweeps => (Bool.and_eq_true_iff.mp hsweeps).1) ?_ (fun _ _ h => h) ?_
  · rintro s ⟨hfresh, hstart⟩
    refine ⟨versions_of_fresh hfresh hstart, History.forall_mem_of_new hfresh.1 ?_⟩
    rw [hfresh.2.2.1]
    exact ⟨nofun, nofun⟩
  · intro s trace choices out hwithin _ hstaged hepisode hsweeps
    exact (staged_of_run hnames hwithin hstaged hepisode hsweeps).2

end

/-- A migration that is staged on a claim and cleaned up: in every run in which the manager has
the claim mounted where it looks for it and its deletions succeed, the clean-up is recorded only
once the staged file was removed from the claim. -/
theorem cleaned_up_only_if_removed (r : Reconciler) (key : ObjectKey)
    (mounted : List Char → Option ObjectKey)
    (hnames : ∀ dir claim, mounted dir = some claim → '/' ∉ claim.name.toList)
    (cluster : Cluster) (trace : List LogEntry)
    (hrun : ((system r key).startingFrom (startsWithin stagesOnClaim)).Reach
      (fun cluster trace choices episode => sweeps mounted cluster trace choices episode = true)
      cluster trace)
    (hclean : cluster.migration.current.status.cleanedUp = true) :
    ∃ url place entry, r.generateStorageURL cluster.migration.current "export" = .ok url ∧
      placeOf key.ns url = some place ∧ entry ∈ trace ∧ removed mounted entry = some place := by
  obtain ⟨hversions, hstaged⟩ := staged_of_reach hnames hrun
  have hmem := History.current_mem_all cluster.migration
  obtain ⟨hkey, hspec⟩ := hversions _ hmem
  have hcurrent := hstaged _ hmem
  obtain ⟨hready, url, entry, hurl, hplace, hentry, hremoved⟩ := hcurrent.cleaned hclean
  obtain ⟨url', hgenerated, hurl'⟩ := generateStorageURL_of_claim r hspec hkey
    (hcurrent.recorded (by rw [hready]; rfl))
  obtain rfl : url' = url := String.toList_inj.mp (hurl'.trans hurl.symm)
  exact ⟨url', _, entry, hgenerated, hplace, hentry, hremoved⟩

end Runs

namespace Sample

/-- A provider whose pod mounts the shared claim. -/
def mountsShared : List Choice := [
  { reply := .reports fun
      | .getDeployment _ =>
        some (.ok { claims := ["shared"], updatedReplicas := 1, readyReplicas := 1 })
      | _ => none },
  { reply := .reports fun
      | .listPods _ _ => some (.ok [{ claims := ["shared"], running := true, conditions :=
        [("Ready", true)] }])
      | _ => none }]

/-- From creation to Ready, staged on the shared claim. -/
def untilReadyOnClaim : List (List Choice) :=
  recordClaim [{ reply := .reports fun | .getPVC _ => some (.ok shared) | _ => none }] ++
  [[cached 0, cached 0, claimProvider "kvm" .libvirt, claimProvider "esx" .vsphere,
    { reply := .reports fun | .getPVC _ => some (.ok shared) | _ => none }] ++
    mountsShared ++ mountsShared ++ [done]] ++
  untilCreating.drop 4 ++ findTarget

theorem fresh_onShared : (targetCluster (onClaimNamed "shared")).Fresh key :=
  ⟨rfl, rfl, rfl, rfl, rfl⟩

/-- The end of a migration whose staged file cannot be deleted. -/
def finishUndeleted : List Choice :=
  finish.take 2 ++ [{ reply := .reports fun
    | .storageDelete _ _ => some (some (errorf "read-only file system")) | _ => none }] ++
  finish.drop 3

/-- The claim as it is mounted in the manager's pod. -/
def mountedShared (dir : List Char) : Option ObjectKey :=
  if dir = "/mnt/migration-storage/shared".toList then some ⟨"prod", "shared"⟩ else none

/-- The stores are opened and delete without an error. -/
def storageSucceeds : LogEntry → Bool
  | ⟨.newStorage _, some _⟩ | ⟨.storageDelete _ _, some _⟩ => false
  | _ => true

/-- Nothing is deleted. -/
def deletesNothing : LogEntry → Bool
  | ⟨.storageDelete _ _, none⟩ => false
  | _ => true

/-- The URL of the object that is staged on the NFS export. -/
def stagedOnNFS : String := "nfs://nas/stage/vmmigrations-prod-move-export.qcow2"

end Sample

theorem removed_ne_object (mounted : List Char → Option ObjectKey) (entry : LogEntry)
    (url : List Char) : removed mounted entry ≠ some (.object url) := by
  unfold removed
  split
  · split
    · rintro ⟨⟩
    · rintro ⟨⟩
  · rintro ⟨⟩

open Sample

theorem removed_eq_none {entry : LogEntry} (h : deletesNothing entry = true)
    (mounted : List Char → Option ObjectKey) : removed mounted entry = none := by
  unfold removed
  split
  · cases h
  · rfl

/-- With an NFS export every call of the clean-up succeeds, and the staged object is not
touched; with a claim the deletion fails. Both times the clean-up is recorded. -/
theorem cleaned_up_and_not_removed :
    (∃ cluster trace url place, (system reconciler key).Reach (fun _ _ _ _ => True)
        cluster trace ∧
      cluster.migration.current.status.cleanedUp = true ∧
      (∀ entry ∈ trace, storageSucceeds entry = true) ∧
      reconciler.generateStorageURL cluster.migration.current "export" = .ok url ∧
      placeOf key.ns url = some place ∧
      ∀ mounted, ∀ entry ∈ trace, removed mounted entry ≠ some place) ∧
    ∃ cluster trace, (system reconciler key).Reach (fun _ _ _ _ => True)
        cluster trace ∧
      cluster.migration.current.status.cleanedUp = true ∧
      ∀ mounted, ∀ entry ∈ trace, removed mounted entry = none := by
  constructor
  · obtain ⟨cluster, trace, hreach, hclean, hsucceeds, hurl⟩ := (system reconciler
      key).exists_reach_of_replay
      (P := fun cluster trace => cluster.migration.current.status.cleanedUp = true ∧
        (∀ entry ∈ trace, storageSucceeds entry = true) ∧
        (reconciler.generateStorageURL cluster.migration.current "export").toOption =
          some stagedOnNFS)
      (fun _ _ _ _ => true) (untilCreating ++ findTarget ++ [finish])
      (fun _ _ _ _ _ => trivial) (fresh_cluster [runningTarget "vm-2"])
      (by decide +kernel)
    refine ⟨cluster, trace, stagedOnNFS, .object stagedOnNFS.toList, hreach, hclean,
      hsucceeds, ?_, by decide, fun mounted entry _ => removed_ne_object mounted entry _⟩
    cases hgenerated : reconciler.generateStorageURL cluster.migration.current "export" with
    | error err =>
      rw [hgenerated] at hurl
      cases hurl
    | ok url =>
      rw [hgenerated] at hurl
      exact congrArg Except.ok (Option.some.inj hurl)
  · refine (system reconciler key).exists_reach
      (P := fun cluster trace => cluster.migration.current.status.cleanedUp = true ∧
        ∀ entry ∈ trace, deletesNothing entry = true)
      (untilReadyOnClaim ++ [finishUndeleted])
      fresh_onShared (fun cluster trace _ hshows => ?_) (by decide +kernel)
    exact ⟨hshows.1, fun mounted entry hentry => removed_eq_none (hshows.2 entry hentry) mounted⟩

/-- The migration on the shared claim removes its file and records it. -/
theorem cleaned_up_only_if_removed_sample : ∃ cluster trace url place entry,
    ((system reconciler key).startingFrom (startsWithin stagesOnClaim)).Reach
      (fun cluster trace choices episode =>
        sweeps mountedShared cluster trace choices episode = true) cluster trace ∧
    cluster.migration.current.status.cleanedUp = true ∧
    reconciler.generateStorageURL cluster.migration.current "export" = .ok url ∧
    placeOf key.ns url = some place ∧ entry ∈ trace ∧
      removed mountedShared entry = some place := by
  have hnames : ∀ dir claim, mountedShared dir = some claim → '/' ∉ claim.name.toList := by
    intro dir claim h
    unfold mountedShared at h
    split at h
    · cases h
      decide
    · cases h
  obtain ⟨cluster, trace, hreach, hclean⟩ := ((system reconciler
    key).startingFrom (startsWithin stagesOnClaim)).exists_reach_of_replay
    (P := fun cluster _ => cluster.migration.current.status.cleanedUp = true)
    (sweeps mountedShared) (untilReadyOnClaim ++ [finish])
    (fun _ _ _ _ h => h) ⟨fresh_onShared, rfl⟩ (by decide +kernel)
  obtain ⟨url, place, entry, hremoved⟩ := cleaned_up_only_if_removed reconciler key
    mountedShared hnames cluster trace hreach hclean
  exact ⟨cluster, trace, url, place, entry, hreach, hclean, hremoved⟩

end Virtrigaud.Migration
