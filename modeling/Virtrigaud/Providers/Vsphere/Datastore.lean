import Virtrigaud.Api.Meta
import Virtrigaud.Go.Path

/-!
# Datastore paths and VMDK descriptors

A datastore path names a datastore in brackets and a file on it. The descriptor of a
VMDK lists the extent files that hold its data, which are in the directory of the
descriptor.
-/

namespace Virtrigaud.Vsphere

open List

/-- `parseDatastorePath`: the datastore and the file. -/
def parseDatastorePath (datastorePath : List Char) :
    Except GoError (List Char × List Char) :=
  match datastorePath with
  | '[' :: rest =>
    if ']' ∈ rest then
      let filePath := Go.trimSpace (rest.dropWhile (· ≠ ']')).tail
      .ok (rest.takeWhile (· ≠ ']'), if filePath.head? = some '/' then filePath.tail else filePath)
    else .error (errorf ("datastore path missing closing ]: " ++ String.ofList datastorePath))
  | _ => .error (errorf ("datastore path must start with [: " ++ String.ofList datastorePath))

/-- `fmt.Sprintf("[%s] %s", datastore, file)`. -/
def datastorePath (datastore file : List Char) : List Char :=
  '[' :: (datastore ++ ']' :: ' ' :: file)

/-- `extractDatastoreBasePath`. -/
def extractDatastoreBasePath (path : List Char) : List Char := Go.Path.dir path

/-- `constructDatastorePath`. -/
def constructDatastorePath (basePath filename : List Char) : List Char :=
  if basePath.head? = some '[' ∧ ']' ∈ basePath then
    let datastoreName := basePath.takeWhile (· ≠ ']') ++ [']']
    let directory := Go.trimSpace (basePath.dropWhile (· ≠ ']')).tail
    if directory ≠ [] then datastoreName ++ ' ' :: (directory ++ '/' :: filename)
    else datastoreName ++ ' ' :: filename
  else Go.Path.join [basePath, filename]

variable {name : List Char}

section Paths

variable {datastore file : List Char}

theorem trimSpace_blank (file : List Char) : Go.trimSpace (' ' :: file) = Go.trimSpace file := rfl

theorem parse_datastorePath (h : ']' ∉ datastore) (htrim : Go.Trimmed file)
    (hhead : file.head? ≠ some '/') :
    parseDatastorePath (datastorePath datastore file) = .ok (datastore, file) := by
  unfold parseDatastorePath datastorePath
  have hmem : ']' ∈ datastore ++ ']' :: ' ' :: file :=
    mem_append_right _ (.head _)
  simp only [if_pos hmem]
  obtain ⟨htake, hdrop⟩ := Go.cut_append h (' ' :: file)
  rw [htake, hdrop, tail_cons, trimSpace_blank, Go.trimSpace_eq htrim, if_neg hhead]

theorem construct_datastorePath (h : ']' ∉ datastore) (htrim : Go.Trimmed file)
    (hne : file ≠ []) (extent : List Char) :
    constructDatastorePath (datastorePath datastore file) extent =
      datastorePath datastore (file ++ '/' :: extent) := by
  have hbracket : ']' ∉ '[' :: datastore := not_mem_cons_of_ne_of_not_mem (by decide) h
  have hcond : (datastorePath datastore file).head? = some '[' ∧
      ']' ∈ datastorePath datastore file :=
    ⟨rfl, .tail _ (mem_append_right _ (.head _))⟩
  have hshape : datastorePath datastore file = ('[' :: datastore) ++ ']' :: (' ' :: file) := rfl
  unfold constructDatastorePath
  obtain ⟨htake, hdrop⟩ := Go.cut_append hbracket (' ' :: file)
  rw [if_pos hcond, hshape]
  simp only [htake, hdrop, tail_cons, trimSpace_blank, Go.trimSpace_eq htrim, if_pos hne]
  simp [datastorePath]

/-- The base path of a file in a folder names the folder. -/
theorem extractDatastoreBasePath_eq {parts : List (List Char)} (hdatastore : '/' ∉ datastore)
    (hne : parts ≠ []) (h : ∀ part ∈ parts, Go.Path.Ordinary part) (hname : '/' ∉ name) :
    extractDatastoreBasePath (datastorePath datastore (Go.Path.render (parts ++ [name]))) =
      datastorePath datastore (Go.Path.render parts) := by
  cases parts with
  | nil => exact absurd rfl hne
  | cons part rest =>
    let first : List Char := datastorePath datastore part
    have hordinary : ∀ other ∈ first :: rest, Go.Path.Ordinary other := by
      intro other hother
      rcases mem_cons.mp hother with rfl | hrest
      · refine ⟨nofun, by simp [first, datastorePath], by simp [first, datastorePath], ?_⟩
        have hpart := (h part (.head _)).2.2.2
        simp [first, datastorePath, hdatastore, hpart]
      · exact h other (.tail _ hrest)
    have hshape : ∀ more : List (List Char),
        datastorePath datastore (Go.Path.render (part :: more)) =
          Go.Path.render (first :: more) := by
      intro more
      cases more with
      | nil | cons next more => simp [Go.Path.render, first, datastorePath]
    rw [cons_append, hshape, hshape, ← cons_append]
    exact Go.Path.dir_render (by simp) hordinary hname

end Paths

/-- `\s` of a regular expression. -/
def isBlank (c : Char) : Bool := [' ', '\t', '\n', '\r', '\x0c'].contains c

/-- `\w` of a regular expression. -/
def isWordChar (c : Char) : Bool := c.isAlphanum || c = '_'

/-- Skip one or more characters of a class. -/
def skip (p : Char → Bool) : List Char → Option (List Char)
  | [] => none
  | c :: rest => if p c then some (rest.dropWhile p) else none

/-- `"([^"]+)"` of a regular expression. -/
def quotedName : List Char → Option (List Char)
  | '"' :: rest =>
    let name := rest.takeWhile (· ≠ '"')
    if '"' ∈ rest ∧ name ≠ [] then some name else none
  | _ => none

/-- The file of an extent line with this access mode:
`^<access>\s+\d+\s+\w+\s+"([^"]+)"`. -/
def extentFile (access : String) (line : List Char) : Option (List Char) :=
  if access.toList.isPrefixOf line then do
    let rest ← skip isBlank (line.drop access.length)
    let rest ← skip Char.isDigit rest
    let rest ← skip isBlank rest
    let rest ← skip isWordChar rest
    let rest ← skip isBlank rest
    quotedName rest
  else none

theorem quotedName_ne_nil {rest : List Char} (h : quotedName rest = some name) : name ≠ [] := by
  unfold quotedName at h
  split at h
  · simp only [] at h
    split at h
    · rename_i hcond
      cases h
      exact hcond.2
    · cases h
  · cases h

theorem extentFile_ne_nil {access : String} {line : List Char}
    (h : extentFile access line = some name) : name ≠ [] := by
  unfold extentFile at h
  split at h
  · simp only [Option.bind_eq_bind, Option.bind_eq_some_iff] at h
    obtain ⟨_, -, _, -, _, -, _, -, rest, -, hname⟩ := h
    exact quotedName_ne_nil hname
  · cases h

/-- The extent files that a descriptor lists with one of the access modes; comments are
left out. -/
def extentFiles (modes : List String) (text : List Char) : List (List Char) :=
  (Go.lines text).filterMap fun line =>
    let line := Go.trimSpace line
    if line = [] ∨ line.head? = some '#' then none
    else modes.findSome? fun access => extentFile access line

theorem extentFiles_ne_nil {modes : List String} {text : List Char}
    (h : name ∈ extentFiles modes text) : name ≠ [] := by
  obtain ⟨line, -, hline⟩ := mem_filterMap.mp h
  simp only [] at hline
  split at hline
  · cases hline
  · obtain ⟨access, -, hfile⟩ := exists_of_findSome?_eq_some hline
    exact extentFile_ne_nil hfile

/-- All access modes of the format. -/
def listedExtents (text : List Char) : List (List Char) :=
  extentFiles ["RW", "RDONLY", "NOACCESS"] text

/-- The length of a text in bytes, in UTF-8. -/
def byteLength (text : List Char) : Nat := (String.ofList text).utf8ByteSize

/-- `parseVMDKDescriptor`. The scanner gives up on a line that fills its buffer, which has
room for 64 KiB. -/
def parseVMDKDescriptor (text : List Char) : Except GoError (List (List Char)) :=
  if (Go.lines text).any (fun line => 65536 ≤ byteLength line) then
    .error (errorf "failed to read VMDK descriptor: bufio.Scanner: token too long")
  else .ok (extentFiles ["RW"] text)

end Virtrigaud.Vsphere
