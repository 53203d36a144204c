import Virtrigaud.Effects.Program
import Virtrigaud.Migration.StagedURL

/-!
# The store in a bucket

`S3Storage` works on the objects of one bucket. A URL may name its bucket, another one or none:
what does not begin with the name of the bucket is a key in it as a whole.
-/

namespace Virtrigaud.Storage

open Effects Program List

inductive StorageErrorType
  | invalidConfig
  | operationFailed
  | networkError
  | checksumMismatch
  | notFound

structure StorageError where
  type : StorageErrorType
  message : String
  cause : Option GoError := none

structure S3Storage where
  bucket : List Char

def objectURL (bucket key : List Char) : List Char := "s3://".toList ++ bucket ++ '/' :: key

def S3Storage.parseS3Key (s : S3Storage) (rawURL : List Char) : Except StorageError (List Char) :=
  let raw := Go.trimSpace rawURL
  let raw := if "s3://".toList.isPrefixOf raw then raw.drop 5 else raw
  if raw = [] then .error ⟨.invalidConfig, "empty s3 URL", none⟩
  else if raw.takeWhile (· ≠ '/') = s.bucket then
    match raw.dropWhile (· ≠ '/') with
    | [] | [_] =>
      .error ⟨.invalidConfig, "s3 URL has no object key: " ++ String.ofList rawURL, none⟩
    | _ :: key => .ok key
  else .ok raw

structure ObjectInfo where
  size : Int
  (etag lastModified contentType : String)

/-- What the minio client does with an object. -/
inductive ObjectCall
  | putObject (size : Int)
  | getObject
  | removeObject
  | statObject

/-- A call about an object, or the copying of one that is open. -/
inductive S3Call
  | on (bucket key : List Char) (call : ObjectCall)
  | copy

/-- Where content is moved, its checksum comes with the answer. -/
@[reducible] def S3Call.Answer : S3Call → Type
  | .on _ _ (.putObject _) => Except GoError (ObjectInfo × String)
  | .on _ _ .getObject => Option GoError
  | .on _ _ .removeObject => Option GoError
  | .on _ _ .statObject => Except GoError ObjectInfo
  | .copy => Except GoError (Int × String)

/-- The object that a call is about. -/
def S3Call.object : S3Call → Option (List Char × List Char)
  | .on bucket key _ => some (bucket, key)
  | .copy => none

structure UploadResponse where
  url : List Char
  checksum : String
  bytesTransferred : Int
  etag : String

structure DownloadResponse where
  bytesTransferred : Int
  checksum : String
  contentLength : Int

structure FileMetadata where
  url : List Char
  info : ObjectInfo

abbrev S3Program (α : Type) : Type := Program S3Call S3Call.Answer α

abbrev client (c : S3Call) : S3Program c.Answer := perform c

namespace S3Storage

variable (s : S3Storage) (url : List Char)

/-- The text of an error about an object. -/
def about (message : String) (key : List Char) : String :=
  message ++ ": " ++ String.ofList (objectURL s.bucket key)

/-- An operation on the object of the URL. -/
def withKey {α : Type} (op : List Char → S3Program (Except StorageError α)) :
    S3Program (Except StorageError α) :=
  match s.parseS3Key url with
  | .error err => return .error err
  | .ok key => op key

def uploadStream (reader : Bool) (contentLength : Int) :
    S3Program (Except StorageError UploadResponse) := s.withKey url fun key => do
  if reader = false then
    return .error ⟨.invalidConfig, "Reader is required for UploadStream", none⟩
  else
    let size := if contentLength ≤ 0 then -1 else contentLength
    match ← client (.on s.bucket key (.putObject size)) with
    | .error err => return .error ⟨.operationFailed, s.about "S3 upload failed" key, some err⟩
    | .ok (info, checksum) => return .ok ⟨objectURL s.bucket key, checksum, info.size, info.etag⟩

def downloadStream (writer : Bool) (expectedChecksum : String) :
    S3Program (Except StorageError DownloadResponse) := s.withKey url fun key => do
  if writer = false then
    return .error ⟨.invalidConfig, "Writer is required for DownloadStream", none⟩
  else
    match ← client (.on s.bucket key .getObject) with
    | some err => return .error ⟨.operationFailed, s.about "S3 GetObject failed" key, some err⟩
    | none =>
    match ← client .copy with
    | .error err => return .error ⟨.networkError, s.about "S3 download failed" key, some err⟩
    | .ok (n, checksum) =>
      if expectedChecksum ≠ "" ∧ expectedChecksum ≠ checksum then
        return .error ⟨.checksumMismatch, "S3 object checksum mismatch: expected=" ++
          expectedChecksum ++ " actual=" ++ checksum, none⟩
      else return .ok ⟨n, checksum, n⟩

def delete : S3Program (Except StorageError Unit) := s.withKey url fun key => do
  match ← client (.on s.bucket key .removeObject) with
  | some err => return .error ⟨.operationFailed, s.about "S3 delete failed" key, some err⟩
  | none => return .ok ()

def getMetadata : S3Program (Except StorageError FileMetadata) := s.withKey url fun key => do
  match ← client (.on s.bucket key .statObject) with
  | .error err => return .error ⟨.notFound, s.about "S3 stat failed" key, some err⟩
  | .ok info => return .ok ⟨objectURL s.bucket key, info⟩

end S3Storage

/-- The program turns to this object first, and to no other one. -/
def Addresses {α : Type} (object : List Char × List Char) (p : S3Program α) : Prop :=
  ∃ c next, p = .call c next ∧ c.object = some object ∧ ∀ r, (next r).Only (·.object = none)

/-- The four operations work on this object of the bucket. -/
structure Names (s : S3Storage) (url key : List Char) : Prop where
  uploadStream : ∀ contentLength,
    Addresses (s.bucket, key) (s.uploadStream url true contentLength)
  downloadStream : ∀ expectedChecksum,
    Addresses (s.bucket, key) (s.downloadStream url true expectedChecksum)
  delete : Addresses (s.bucket, key) (s.delete url)
  getMetadata : Addresses (s.bucket, key) (s.getMetadata url)

variable {s : S3Storage} {bucket key url : List Char}

theorem names_of_parseS3Key (h : s.parseS3Key url = .ok key) : Names s url key := by
  constructor
  all_goals
    intros
    simp only [S3Storage.uploadStream, S3Storage.downloadStream, S3Storage.delete,
      S3Storage.getMetadata, S3Storage.withKey, h]
    refine ⟨_, _, rfl, rfl, fun answer => ?_⟩
  case downloadStream =>
    cases answer with
    | some err => trivial
    | none =>
      refine ⟨rfl, fun copied => ?_⟩
      cases copied with
      | error err => trivial
      | ok copied =>
        change Only _ (ite _ _ _)
        split <;> trivial
  all_goals cases answer <;> trivial

/-- The URL of an object, as the store takes it apart. -/
theorem parseS3Key_objectURL (s : S3Storage) (hbucket : '/' ∉ bucket)
    (hkey : ∀ c ∈ key.getLast?, Go.isSpace c = false) :
    s.parseS3Key (objectURL bucket key) =
      if bucket ≠ s.bucket then .ok (bucket ++ '/' :: key)
      else if key = [] then .error ⟨.invalidConfig,
        "s3 URL has no object key: " ++ String.ofList (objectURL bucket key), none⟩
      else .ok key := by
  have htrim : Go.trimSpace (objectURL bucket key) = objectURL bucket key := by
    refine Go.trimSpace_eq ⟨by rintro c ⟨⟩; rfl, fun c hc => ?_⟩
    rw [objectURL, getLast?_append_of_ne_nil _ (cons_ne_nil _ _)] at hc
    cases key with
    | nil =>
      cases hc
      rfl
    | cons first rest => exact hkey c (by simpa using hc)
  have hraw : (objectURL bucket key).drop 5 = bucket ++ '/' :: key := rfl
  obtain ⟨htake, hdrop⟩ := Go.cut_append hbucket key
  have hne : bucket ++ '/' :: key ≠ [] := by simp
  unfold S3Storage.parseS3Key
  simp only [htrim, hraw]
  rw [if_pos (show "s3://".toList.isPrefixOf (objectURL bucket key) = true from rfl), if_neg hne,
    htake, hdrop]
  by_cases hown : bucket = s.bucket
  · rw [if_pos hown, if_neg (not_not_intro hown)]
    cases key with
    | nil => rfl
    | cons first rest => rfl
  · rw [if_neg hown, if_pos hown]

open Migration

variable {r : Reconciler} {m : VMMigration} {storage : MigrationStorage}
  {s3 : S3StorageConfig} {stage out : String}

/-- The URL that a migration stages at over S3. -/
theorem generateStorageURL_s3 (hstorage : m.spec.storage = some storage)
    (htype : storage.type = backendS3) (hs3 : storage.s3 = some s3)
    (h : r.generateStorageURL m stage = .ok out) :
    ∃ key, out.toList = objectURL s3.bucket.toList (key ++ ".vmdk".toList) := by
  obtain ⟨_, hstorage', hlocated⟩ := located_of_generateStorageURL h
  cases hstorage.symm.trans hstorage'
  cases hlocated with
  | pvc htype' | nfs _ htype' => exact absurd htype' (by rw [htype]; decide)
  | s3 hs3' =>
    cases hs3.symm.trans hs3'
    exact ⟨((if Go.trimSlashes s3.keyPrefix = "" then "" else Go.trimSlashes s3.keyPrefix ++ "/") ++
      ("vmmigrations/" ++ m.objectMeta.ns ++ "/" ++ m.objectMeta.name ++ "/" ++ stage)).toList,
      by simp [objectURL]⟩

/-- A URL with the bucket of the store names the object with its key, one with another bucket the
object whose key begins with that bucket, and one that a migration stages at names its object. -/
theorem s3_url_names (s : S3Storage) (hbucket : '/' ∉ bucket) (hown : '/' ∉ s.bucket)
    (hkey : ∀ c ∈ key.getLast?, Go.isSpace c = false) :
    (key ≠ [] → s.parseS3Key (objectURL s.bucket key) = .ok key ∧
      Names s (objectURL s.bucket key) key) ∧
    (bucket ≠ s.bucket → s.parseS3Key (objectURL bucket key) = .ok (bucket ++ '/' :: key) ∧
      Names s (objectURL bucket key) (bucket ++ '/' :: key)) ∧
    ∀ (r : Reconciler) (m : VMMigration) (storage : MigrationStorage) (s3 : S3StorageConfig)
      (stage out : String), m.spec.storage = some storage → storage.type = backendS3 →
      storage.s3 = some s3 → s3.bucket.toList = s.bucket → r.generateStorageURL m stage = .ok out →
      ∃ key, out.toList = objectURL s.bucket key ∧ Names s out.toList key := by
  have hnames : ∀ key ≠ [], (∀ c ∈ key.getLast?, Go.isSpace c = false) →
      s.parseS3Key (objectURL s.bucket key) = .ok key := by
    intro key hne hkey
    rw [parseS3Key_objectURL s hown hkey, if_neg (not_not_intro rfl), if_neg hne]
  refine ⟨fun hne => ?_, fun hother => ?_, ?_⟩
  · exact ⟨hnames key hne hkey, names_of_parseS3Key (hnames key hne hkey)⟩
  · have hparse := parseS3Key_objectURL s hbucket hkey
    rw [if_pos hother] at hparse
    exact ⟨hparse, names_of_parseS3Key hparse⟩
  · intro r m storage s3 stage out hstorage htype hs3 heq hout
    obtain ⟨front, hurl⟩ := generateStorageURL_s3 hstorage htype hs3 hout
    rw [heq] at hurl
    refine ⟨_, hurl, hurl ▸ names_of_parseS3Key (hnames _ (by simp) fun c hc => ?_)⟩
    rw [getLast?_append_of_ne_nil _ (by decide)] at hc
    cases hc
    rfl

theorem s3_url_names_export :
    Names ⟨"virt".toList⟩ (objectURL "virt".toList "export.vmdk".toList) "export.vmdk".toList :=
  ((s3_url_names ⟨"virt".toList⟩ not_mem_nil (by decide) (by rintro c ⟨⟩; rfl)).1
    (by decide)).2

/-- The URL of another bucket is taken for a key. -/
theorem other_bucket_is_key :
    S3Storage.parseS3Key ⟨"virtrigaud".toList⟩ "s3://other-bucket/key".toList =
      .ok "other-bucket/key".toList := by
  rfl

end Virtrigaud.Storage
