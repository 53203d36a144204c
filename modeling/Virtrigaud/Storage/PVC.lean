import Virtrigaud.Api.Meta
import Virtrigaud.Go.Path

/-!
# The store on a mounted claim

`PVCStorage` works on files below the directory where the claim is mounted in the pod that runs
it. A URL names a claim, but the directory alone decides which claim is used.
-/

namespace Virtrigaud.Storage

open List

structure PVCStorage where
  mountPath : List Char
  deriving DecidableEq, Repr

def newPVCStorage (mountPath : String) : PVCStorage where
  mountPath := Go.Path.clean
    (if mountPath = "" then "/mnt/migration-storage" else mountPath).toList

/-- The claim and the file that a URL names, as `parsePath` takes it apart. -/
def splitPVCURL (url : List Char) : Except String (List Char × List Char) :=
  let trimmed := Go.trimSpace url
  let body := if "pvc://".toList.isPrefixOf trimmed then trimmed.drop 6 else trimmed
  if Go.contains body "..".toList then .error "invalid path: contains '..'"
  else
    match body.dropWhile (· ≠ '/') with
    | [] => .error "invalid PVC URL format: expected pvc://<pvc-name>/<file-path>"
    | _ :: filePath => .ok (body.takeWhile (· ≠ '/'), filePath)

namespace PVCStorage

def parsePath (p : PVCStorage) (url : List Char) : Except String (List Char) :=
  match splitPVCURL url with
  | .error err => .error err
  | .ok (_, filePath) => .ok (Go.Path.join [p.mountPath, filePath])

/-- `Delete` on the files of the pod; `refuses` are those that cannot be removed. -/
def delete (p : PVCStorage) (refuses files : List Char → Bool) (url : List Char) :
    Except String (List Char → Bool) :=
  match p.parsePath url with
  | .error err => .error err
  | .ok filePath =>
    if files filePath = false then .ok files
    else if refuses filePath then
      .error ("failed to delete file: " ++ String.ofList filePath)
    else .ok fun path => if path = filePath then false else files path

/-- A `Delete` that succeeds leaves no file under the path, and all others as they are. -/
theorem delete_ok {p : PVCStorage} {refuses files left : List Char → Bool} {url : List Char}
    (h : p.delete refuses files url = .ok left) :
    ∃ claim file, splitPVCURL url = .ok (claim, file) ∧
      left (Go.Path.join [p.mountPath, file]) = false ∧
      ∀ path ≠ Go.Path.join [p.mountPath, file], left path = files path := by
  unfold delete parsePath at h
  cases hsplit : splitPVCURL url with
  | error err =>
    rw [hsplit] at h
    cases h
  | ok parts =>
    obtain ⟨claim, file⟩ := parts
    refine ⟨claim, file, rfl, ?_⟩
    rw [hsplit] at h
    dsimp only at h
    split at h
    · rename_i hgone
      cases h
      exact ⟨hgone, fun _ _ => rfl⟩
    · split at h
      · cases h
      · cases h
        exact ⟨if_pos rfl, fun path hne => if_neg hne⟩

end PVCStorage

/-- The URL of a file on a claim is taken apart as it was put together. -/
theorem splitPVCURL_eq {claim filePath : List Char} {found : List Char × List Char}
    (hclaim : '/' ∉ claim) (htrimmed : Go.trimSpace ("pvc://".toList ++ claim ++ '/' :: filePath) =
      "pvc://".toList ++ claim ++ '/' :: filePath)
    (h : splitPVCURL ("pvc://".toList ++ claim ++ '/' :: filePath) = .ok found) :
    found = (claim, filePath) := by
  have hbody : "pvc://".toList.isPrefixOf ("pvc://".toList ++ claim ++ '/' :: filePath) = true := by
    rw [append_assoc]
    exact isPrefixOf_iff_prefix.mpr (prefix_append _ _)
  have hdrop : ("pvc://".toList ++ claim ++ '/' :: filePath).drop 6 = claim ++ '/' :: filePath := by
    rw [append_assoc]
    rfl
  obtain ⟨htake, hcut⟩ := Go.cut_append hclaim filePath
  unfold splitPVCURL at h
  simp only [htrimmed, hbody, ↓reduceIte, hdrop] at h
  split at h
  · cases h
  · rw [hcut, htake] at h
    cases h
    rfl

end Virtrigaud.Storage
