import Virtrigaud.Go.Path
import Virtrigaud.Go.Ints
import Virtrigaud.Api.Names
import Virtrigaud.Migration.Storage

/-!
# Where a migration stages its disk

`NFSURL` and the locations that `generateStorageURL` gives to different migrations. The
claim and the bucket keep namespace and name as two directories; the NFS export, where no
directory can be made, gets both in one file name with hyphens between.
-/

namespace Virtrigaud.Migration

open Go.Path List

/-- What is wrong with one character of a value. -/
def unsafeChar (name : String) (isPath : Bool) (c : Char) : Option GoError :=
  if c.toNat < 0x20 ∨ c.toNat = 0x7f then some (errorf (name ++ " contains a control character"))
  else if c = ' ' ∨ c = '\t' then some (errorf (name ++ " contains whitespace"))
  else if c = '?' ∨ c = '#' ∨ c = '&' then
    some (errorf (name ++ " contains a URL delimiter '" ++ String.ofList [c] ++ "'"))
  else if isPath = false ∧ c = '/' then some (errorf (name ++ " must not contain '/'"))
  else none

/-- `rejectURLUnsafe`; the first bad character is reported. -/
def rejectURLUnsafe (name : String) (value : List Char) (isPath : Bool) : Option GoError :=
  match value.findSome? (unsafeChar name isPath) with
  | some err => some err
  | none =>
    if isPath && (components value).contains ['.', '.'] then
      some (errorf (name ++ " contains a '..' path segment"))
    else none

/-- One of the two identities of the query. -/
def nfsIdentity (name : String) (id : Option Int) : Except GoError (List (List Char)) :=
  match id with
  | none => .ok []
  | some n =>
    if n < 0 ∨ n > 4294967295 then
      .error (errorf ("nfs " ++ name ++ " " ++ Go.formatInt n ++ " out of range [0,4294967295]"))
    else .ok [name.toList ++ '=' :: (Go.formatInt n).toList]

/-- The query, with its keys sorted. -/
def nfsQuery (config : NFSStorageConfig) : Except GoError (List Char) := do
  let uid ← nfsIdentity "uid" config.uid
  let gid ← nfsIdentity "gid" config.gid
  if gid ++ uid = [] then .ok [] else .ok ('?' :: ['&'].intercalate (gid ++ uid))

/-- The path of the object below the server. -/
def nfsPath (mount : List Char) (config : NFSStorageConfig) (key : List Char) : List Char :=
  clean ('/' :: (Go.trim (· = '/') mount ++ '/' ::
    (Go.trim (· = '/') config.path.toList ++ '/' :: Go.trim (· = '/') key)))

def nfsURL (config : NFSStorageConfig) (key : String) : Except GoError String := do
  let server := Go.trimSpace config.server.toList
  let mount := Go.trimSpace config.export.toList
  if server = [] then .error (errorf "nfs server is empty")
  else
  match rejectURLUnsafe "nfs server" server false with
  | some err => .error err
  | none =>
  if mount.head? ≠ some '/' then
    .error (errorf ("nfs export must be an absolute path, got " ++
      Go.quoted (String.ofList mount)))
  else
  match rejectURLUnsafe "nfs export" mount true with
  | some err => .error err
  | none =>
  match rejectURLUnsafe "nfs path" config.path.toList true with
  | some err => .error err
  | none =>
  match rejectURLUnsafe "nfs key" key.toList true with
  | some err => .error err
  | none =>
  match nfsQuery config with
  | .error err => .error err
  | .ok query =>
    .ok (String.ofList ("nfs://".toList ++ server ++ nfsPath mount config key.toList ++ query))

/-- A URL that is given out; server and key have been looked at. -/
theorem nfsURL_ok {config : NFSStorageConfig} {key url : String}
    (h : nfsURL config key = .ok url) : ∃ query, nfsQuery config = .ok query ∧
      rejectURLUnsafe "nfs server" (Go.trimSpace config.server.toList) false = none ∧
      rejectURLUnsafe "nfs key" key.toList true = none ∧
      url = String.ofList ("nfs://".toList ++ Go.trimSpace config.server.toList ++
        nfsPath (Go.trimSpace config.export.toList) config key.toList ++ query) := by
  unfold nfsURL at h
  dsimp only at h
  repeat' split at h
  all_goals cases h
  exact ⟨_, ‹_›, ‹_›, ‹_›, rfl⟩

/-- A key whose first component begins with ordinary text. -/
structure Keyed (front rest key : List Char) : Prop where
  eq : key = front ++ rest
  slashFree : '/' ∉ front
  begins : ∃ c tail, front = c :: tail ∧ c ≠ '.'
  ends : key.getLast? ≠ some '/'
  noDots : ['.', '.'] ∉ components key

variable {front rest key : List Char}

theorem Keyed.trim (h : Keyed front rest key) : Go.trim (· = '/') key = key := by
  obtain ⟨c, tail, rfl, -⟩ := h.begins
  have hc : c ≠ '/' := fun heq => h.slashFree (heq ▸ (.head _))
  refine Go.trim_eq_self (fun d hd => ?_) fun d hd => ?_
  · rw [h.eq] at hd
    cases hd
    exact decide_eq_false hc
  · exact decide_eq_false fun heq => h.ends (heq ▸ hd)

/-- The components that are kept of such a key. -/
theorem Keyed.named (h : Keyed front rest key) :
    ∃ first others, components rest = first :: others ∧
      named (components key) = (front ++ first) :: named others := by
  have hkey : components key = (components rest).modifyHead (front ++ ·) :=
    h.eq ▸ components_append h.slashFree rest
  cases hrest : components rest with
  | nil => exact absurd hrest (splitOn_ne_nil '/' rest)
  | cons first others =>
    refine ⟨first, others, rfl, ?_⟩
    obtain ⟨c, tail, rfl, hc⟩ := h.begins
    rw [hkey, hrest]
    exact filter_cons_of_pos (by simp [hc])

/-- The components of the path before the key. -/
def mountParts (mount : List Char) (config : NFSStorageConfig) : List (List Char) :=
  (([] :: components (Go.trim (· = '/') mount ++
    '/' :: Go.trim (· = '/') config.path.toList)).foldl (step true) []).reverse

theorem Keyed.nfsPath (h : Keyed front rest key) (mount : List Char) (config : NFSStorageConfig) :
    nfsPath mount config key = '/' :: render
      (mountParts mount config ++ Go.Path.named (components key)) := by
  unfold Migration.nfsPath mountParts
  have hassoc : ∀ a b : List Char, a ++ '/' :: (b ++ '/' :: key) = (a ++ '/' :: b) ++ '/' :: key :=
    fun a b => by simp
  rw [h.trim, hassoc]
  generalize Go.trim (· = '/') mount ++ '/' :: Go.trim (· = '/') config.path.toList = before
  have hparts : components ('/' :: (before ++ '/' :: key)) =
      ([] :: components before) ++ components key := by
    rw [cons_append, ← components_append_slash before key]
    exact components_append_slash [] _
  have hplain : ∀ part ∈ components key, part ≠ ['.', '.'] :=
    fun part hpart heq => h.noDots (heq ▸ hpart)
  have hfold := foldl_step_plain true
    (([] :: components before).foldl (step true) []) hplain
  unfold clean
  simp only [head?_cons, decide_true, if_true]
  rw [hparts, foldl_append, hfold, reverse_append, reverse_reverse]

theorem slashFree_mountParts {mount : List Char} {config : NFSStorageConfig} :
    ∀ part ∈ mountParts mount config ++ named (components key), '/' ∉ part := by
  intro part hpart
  rcases mem_append.mp hpart with hpart | hpart
  · refine slashFree_foldl_step (forall_mem_nil _) ?_ part
      (mem_reverse.mp hpart)
    exact forall_mem_cons.mpr
      ⟨not_mem_nil, fun part hmem => slashFree_components hmem⟩
  · exact slashFree_components (mem_of_mem_filter hpart)

/-- The path shows the part of the key before its first slash. -/
theorem nfsPath_inj {mount : List Char} {config : NFSStorageConfig} {front' rest key' : List Char}
    (h : Keyed front rest key) (h' : Keyed front' rest key')
    (hpath : nfsPath mount config key = nfsPath mount config key') : front = front' := by
  obtain ⟨first, others, hfirst, hkey⟩ := h.named
  obtain ⟨first', others', hfirst', hkey'⟩ := h'.named
  rw [h.nfsPath, h'.nfsPath] at hpath
  have hne : ∀ key part others, named (components key) = part :: others →
      mountParts mount config ++ named (components key) ≠ [] := by
    intro key part others heq
    rw [heq]
    exact append_ne_nil_of_right_ne_nil _ (cons_ne_nil _ _)
  have hsame := render_inj (hne _ _ _ hkey) (hne _ _ _ hkey') slashFree_mountParts
    slashFree_mountParts (cons.inj hpath).2
  rw [hkey, hkey'] at hsame
  have hcomponent := (cons.inj (append_cancel_left hsame)).1
  rw [(cons.inj (hfirst.symm.trans hfirst')).1] at hcomponent
  exact append_cancel_right hcomponent

variable {name ns stage : String}

/-- The key of a migration on an NFS export. -/
theorem nfsKey_keyed (hns : '/' ∉ ns.toList) (hname : '/' ∉ name.toList)
    (hdots : rejectURLUnsafe "nfs key"
      ("vmmigrations-" ++ ns ++ "-" ++ name ++ "-" ++ stage ++ ".qcow2").toList true = none) :
    Keyed ("vmmigrations-".toList ++ (ns.toList ++ '-' :: name.toList))
      ("-".toList ++ stage.toList ++ ".qcow2".toList)
      ("vmmigrations-" ++ ns ++ "-" ++ name ++ "-" ++ stage ++ ".qcow2").toList where
  eq := by
    simp only [String.toList_append, append_assoc]
    rfl
  slashFree := not_mem_append (by decide)
    (not_mem_append hns (not_mem_cons_of_ne_of_not_mem (by decide) hname))
  begins := by
    have hfront : "vmmigrations-".toList = 'v' :: "mmigrations-".toList := rfl
    exact ⟨'v', _, congrArg (· ++ (ns.toList ++ '-' :: name.toList)) hfront, by decide⟩
  ends := by
    rw [String.toList_append, getLast?_append_of_ne_nil _ (by decide)]
    decide
  noDots := by
    intro hmem
    unfold rejectURLUnsafe at hdots
    split at hdots
    · cases hdots
    · rw [Bool.true_and, if_pos (contains_iff_mem.mpr hmem)] at hdots
      cases hdots

variable {name' ns' : String}

/-- The URL shows the key, for one configuration. -/
theorem nfsURL_inj {config : NFSStorageConfig} {url : String} (hns : '/' ∉ ns.toList)
    (hname : '/' ∉ name.toList) (hns' : '/' ∉ ns'.toList) (hname' : '/' ∉ name'.toList)
    (h : nfsURL config ("vmmigrations-" ++ ns ++ "-" ++ name ++ "-" ++ stage ++ ".qcow2") = .ok url)
    (h' : nfsURL config ("vmmigrations-" ++ ns' ++ "-" ++ name' ++ "-" ++ stage ++ ".qcow2") =
      .ok url) : ns.toList ++ '-' :: name.toList = ns'.toList ++ '-' :: name'.toList := by
  obtain ⟨query, hquery, -, hsafe, rfl⟩ := nfsURL_ok h
  obtain ⟨query', hquery', -, hsafe', heq⟩ := nfsURL_ok h'
  cases hquery.symm.trans hquery'
  have hpath := append_cancel_left (append_cancel_right (String.ofList_injective heq))
  exact append_cancel_left
    (nfsPath_inj (nfsKey_keyed hns hname hsafe) (nfsKey_keyed hns' hname' hsafe') hpath)

/-- Namespace and name are found again as the last two directories. -/
theorem directories_inj {front' ns ns' name name' ending : List Char} (hns : '/' ∉ ns)
    (hns' : '/' ∉ ns') (hname : '/' ∉ name) (hname' : '/' ∉ name')
    (h : front ++ ('/' :: (ns ++ ('/' :: (name ++ ending)))) =
      front' ++ ('/' :: (ns' ++ ('/' :: (name' ++ ending))))) : ns = ns' ∧ name = name' := by
  have hcut : (front ++ '/' :: ns) ++ '/' :: name = (front' ++ '/' :: ns') ++ '/' :: name' := by
    have hwhole : ((front ++ '/' :: ns) ++ '/' :: name) ++ ending =
        ((front' ++ '/' :: ns') ++ '/' :: name') ++ ending := by simpa using h
    exact append_cancel_right hwhole
  obtain ⟨hleft, hnames⟩ := append_slash_inj hname hname' hcut
  exact ⟨(append_slash_inj hns hns' hleft).2, hnames⟩

/-- The directories of a migration, below a claim or a bucket. -/
theorem directories_toList (front ns name ending : String) :
    (front ++ "vmmigrations/" ++ ns ++ "/" ++ name ++ ending).toList =
      (front.toList ++ "vmmigrations".toList) ++
        ('/' :: (ns.toList ++ ('/' :: (name.toList ++ ending.toList)))) := by
  have hlast : "vmmigrations/".toList = "vmmigrations".toList ++ ['/'] := rfl
  have hslash : "/".toList = ['/'] := rfl
  simp only [String.toList_append, hlast, hslash, append_assoc, cons_append,
    nil_append]

/-- Where the disk is staged, by backend. -/
inductive Located (r : Reconciler) (m : VMMigration) (stage : String) (storage : MigrationStorage) :
    String → Prop
  | pvc : storage.type = backendPVC ∨ storage.type = "" →
      Located r m stage storage (("pvc://" ++ m.status.storagePVCName ++ "/") ++ "vmmigrations/" ++
        m.objectMeta.ns ++ "/" ++ m.objectMeta.name ++ ("/" ++ stage ++ ".qcow2"))
  | s3 {config} : storage.s3 = some config → storage.type = backendS3 →
      Located r m stage storage (("s3://" ++ config.bucket ++ "/" ++
        (if Go.trimSlashes config.keyPrefix = "" then ""
        else Go.trimSlashes config.keyPrefix ++ "/"))
        ++ "vmmigrations/" ++ m.objectMeta.ns ++ "/" ++ m.objectMeta.name ++
        ("/" ++ stage ++ ".vmdk"))
  | nfs {config url} : storage.nfs = some config → storage.type = backendNFS →
      r.nfsURL config ("vmmigrations-" ++ m.objectMeta.ns ++ "-" ++ m.objectMeta.name ++ "-" ++
        stage ++ ".qcow2") = .ok url →
      Located r m stage storage url

theorem located_of_generateStorageURL {r : Reconciler} {m : VMMigration} {url : String}
    (h : r.generateStorageURL m stage = .ok url) :
    ∃ storage, m.spec.storage = some storage ∧ Located r m stage storage url := by
  unfold Reconciler.generateStorageURL at h
  split at h
  · cases h
  rename_i storage hstorage
  refine ⟨storage, hstorage, ?_⟩
  split at h
  · rename_i htype
    split at h
    · cases h
    · cases h
      have hlocated : Located r m stage storage _ := .pvc htype
      have htext : "/vmmigrations/" = "/" ++ "vmmigrations/" := rfl
      rw [htext]
      simpa only [String.append_assoc] using hlocated
  split at h
  · rename_i htype
    split at h
    · cases h
    · rename_i config hconfig
      split at h
      · cases h
      · cases h
        have hlocated : Located r m stage storage _ := .s3 hconfig htype
        split at hlocated
        · rename_i hempty
          rw [if_pos hempty]
          simpa only [String.append_assoc, String.empty_append] using hlocated
        · rename_i hempty
          rw [if_neg hempty]
          simpa only [String.append_assoc] using hlocated
  split at h
  · rename_i htype
    split at h
    · cases h
    · rename_i config hconfig
      split at h
      · cases h
      · exact .nfs hconfig htype h
  · cases h

variable {r : Reconciler} {first second : VMMigration} {stage url url' : String}

/-- Below a claim or a bucket, two locations of one text are those of one migration. -/
theorem locations_differ {front front' ending : String}
    (hslash : ∀ m ∈ [first, second], '/' ∉ m.objectMeta.ns.toList ∧ '/' ∉ m.objectMeta.name.toList)
    (hdistinct : first.objectMeta.key ≠ second.objectMeta.key) :
    front ++ "vmmigrations/" ++ first.objectMeta.ns ++ "/" ++ first.objectMeta.name ++ ending ≠
      front' ++ "vmmigrations/" ++ second.objectMeta.ns ++ "/" ++ second.objectMeta.name ++
        ending := by
  intro heq
  have hlist := congrArg String.toList heq
  rw [directories_toList, directories_toList] at hlist
  obtain ⟨hns, hname⟩ := hslash first (.head _)
  obtain ⟨hns', hname'⟩ := hslash second (.tail _ (.head _))
  obtain ⟨hsame, hsame'⟩ := directories_inj hns hns' hname hname' hlist
  exact hdistinct (by
    rw [ObjectMeta.key, String.toList_injective hsame, String.toList_injective hsame']; rfl)

/-- Two migrations with the same storage configuration stage their disks at different locations; on
NFS, exactly if namespace and name with a hyphen between them are different texts. -/
theorem staged_locations_differ (hnfs : r.nfsURL = nfsURL)
    (hstorage : first.spec.storage = second.spec.storage)
    (hslash : ∀ m ∈ [first, second], '/' ∉ m.objectMeta.ns.toList ∧ '/' ∉ m.objectMeta.name.toList)
    (hdistinct : first.objectMeta.key ≠ second.objectMeta.key)
    (hfirst : r.generateStorageURL first stage = .ok url)
    (hsecond : r.generateStorageURL second stage = .ok url') :
    url ≠ url' ↔ (migrationBackendType first = backendNFS →
      first.objectMeta.ns ++ "-" ++ first.objectMeta.name ≠
        second.objectMeta.ns ++ "-" ++ second.objectMeta.name) := by
  obtain ⟨storage, hsome, hlocated⟩ := located_of_generateStorageURL hfirst
  obtain ⟨storage', hsome', hlocated'⟩ := located_of_generateStorageURL hsecond
  cases Option.some.inj (hsome.symm.trans (hstorage.trans hsome'))
  rw [migrationBackendType, hsome]
  cases hlocated with
  | pvc htype =>
    cases hlocated' with
    | s3 _ htype' | nfs _ htype' => exact absurd htype (by rw [htype']; decide)
    | pvc =>
      refine iff_of_true (locations_differ hslash hdistinct) fun hbackend => ?_
      rcases htype with htype | htype <;> simp [htype, backendPVC, backendNFS] at hbackend
  | s3 hconfig htype =>
    cases hlocated' with
    | pvc htype' | nfs _ htype' => exact absurd htype' (by rw [htype]; decide)
    | s3 hconfig' =>
      cases Option.some.inj (hconfig.symm.trans hconfig')
      refine iff_of_true (locations_differ hslash hdistinct) fun hbackend => ?_
      simp [htype, backendS3, backendNFS] at hbackend
  | nfs hconfig htype hlocation =>
    cases hlocated' with
    | pvc htype' | s3 _ htype' => exact absurd htype' (by rw [htype]; decide)
    | nfs hconfig' _ hlocation' =>
      cases Option.some.inj (hconfig.symm.trans hconfig')
      obtain ⟨hns, hname⟩ := hslash first (.head _)
      obtain ⟨hns', hname'⟩ := hslash second (.tail _ (.head _))
      rw [hnfs] at hlocation hlocation'
      constructor
      · intro hurl _ htext
        have hkey : ∀ ns name : String, "vmmigrations-" ++ ns ++ "-" ++ name =
            "vmmigrations-" ++ (ns ++ "-" ++ name) := by simp [String.append_assoc]
        rw [hkey, htext, ← hkey] at hlocation
        exact hurl (Except.ok.inj (hlocation.symm.trans hlocation'))
      · rintro htext rfl
        refine htext (by simp [htype, backendNFS]) (String.toList_injective ?_)
        simpa using nfsURL_inj hns hname hns' hname' hlocation hlocation'

namespace Sample

/-- The parts of other packages that do not matter here. -/
def stagingReconciler : Reconciler where
  validateS3Endpoint := fun _ => none
  validateHost := fun _ => none
  marshalS3Options := fun _ => .ok ""
  marshalNFSOptions := fun _ => .ok ""
  nfsURL := nfsURL
  parseQuantity := fun _ => none

def overNFS (ns name : String) : VMMigration where
  objectMeta := { ns, name }
  spec :=
    { source := { vmRef := ⟨"web"⟩ }
      target := { name := "web", providerRef := { name := "kvm" } }
      storage := some { type := "nfs", nfs := some { server := "filer", «export» := "/stage" } } }

end Sample

open Sample

theorem staged_locations_differ_sample :
    ∃ url url', stagingReconciler.generateStorageURL (overNFS "team-a" "move") "export" =
        .ok url ∧
      stagingReconciler.generateStorageURL (overNFS "production" "web") "export" = .ok url' ∧
      url ≠ url' := by
  have hfirst : stagingReconciler.generateStorageURL (overNFS "team-a" "move") "export" =
      .ok "nfs://filer/stage/vmmigrations-team-a-move-export.qcow2" := by decide +kernel
  have hsecond : stagingReconciler.generateStorageURL (overNFS "production" "web") "export" =
      .ok "nfs://filer/stage/vmmigrations-production-web-export.qcow2" := by decide +kernel
  exact ⟨_, _, hfirst, hsecond, (staged_locations_differ (by rfl) (by rfl) (by decide) (by decide)
    hfirst hsecond).mpr fun _ => by decide⟩

/-- The migrations `a-b/c` and `a/b-c` write the same file. -/
theorem staged_location_shared :
    (overNFS "a-b" "c").objectMeta.key ≠ (overNFS "a" "b-c").objectMeta.key ∧
    stagingReconciler.generateStorageURL (overNFS "a-b" "c") "export" =
      .ok "nfs://filer/stage/vmmigrations-a-b-c-export.qcow2" ∧
    stagingReconciler.generateStorageURL (overNFS "a" "b-c") "export" =
      .ok "nfs://filer/stage/vmmigrations-a-b-c-export.qcow2" := by
  decide +kernel

end Virtrigaud.Migration
