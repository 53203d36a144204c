import Virtrigaud.Go.Url

/-!
# The form of a request

`request` of the PVE client sends the parameters as a form. SSH keys are encoded twice, because
PVE decodes them once more.
-/

namespace Virtrigaud.Proxmox

open Go.Url List

def sshkeys : Bytes := ascii "sshkeys"

/-- The form that `request` sends, with `strings.TrimSpace` as a parameter. -/
def requestForm (trimSpace : Bytes → Bytes) (data : Values) : Bytes :=
  let sshKey := data.get sshkeys
  if sshKey ≠ [] then
    let data := data.del sshkeys
    let cleanedKey := trimSpace sshKey
    let firstEncode := replacePlus (queryEscape cleanedKey)
    let doubleEncoded := replacePlus (queryEscape firstEncode)
    let baseEncoded := data.encode
    if baseEncoded ≠ [] then baseEncoded ++ ascii "&sshkeys=" ++ doubleEncoded
    else ascii "sshkeys=" ++ doubleEncoded
  else data.encode

variable (trimSpace : Bytes → Bytes) {data : Values} {key : Bytes}

/-- The encoded key is one more pair of the form. -/
theorem requestForm_eq (hkey : data.lookup sshkeys = [key]) (hne : key ≠ []) :
    requestForm trimSpace data = joined ((data.del sshkeys).pairs.map encodePair ++
      [queryEscape sshkeys ++
        0x3D :: replacePlus (queryEscape (replacePlus (queryEscape (trimSpace key))))]) := by
  have hget : data.get sshkeys = key := by rw [Values.get, hkey, headD_cons]
  have hname : queryEscape sshkeys = sshkeys := by decide
  have hand : ascii "&sshkeys=" = 0x26 :: (sshkeys ++ [0x3D]) := by decide
  have hfirst : ascii "sshkeys=" = sshkeys ++ [0x3D] := by decide
  simp only [requestForm, hget, if_pos hne]
  rw [hname, hand, hfirst, Values.encode]
  generalize hpairs : (data.del sshkeys).pairs = pairs
  cases pairs with
  | nil => simp [joined]
  | cons pair rest =>
    have hencode : joined ((pair :: rest).map encodePair) ≠ [] := by
      cases rest <;> simp [joined, encodePair]
    have hne : (pair :: rest).map encodePair ≠ [] := cons_ne_nil _ _
    rw [if_pos hencode, joined, joined, Go.intercalate_concat hne]
    simp only [append_assoc, cons_append, nil_append]

/-- A server that decodes the form finds the other parameters as they were, and an `sshkeys` that
percent-decodes to the trimmed key. -/
theorem requestForm_read (hempty : trimSpace [] = []) (hkey : data.lookup sshkeys = [key]) :
    ∃ pairs sent, parseForm (requestForm trimSpace data) = some pairs ∧
      (∀ name ≠ sshkeys, valuesOf name pairs = data.lookup name) ∧
      valuesOf sshkeys pairs = [sent] ∧ unescape false sent = some (trimSpace key) := by
  by_cases hne : key = []
  · subst hne
    have hget : data.get sshkeys = [] := by rw [Values.get, hkey, headD_cons]
    have hform : requestForm trimSpace data = data.encode := if_neg (not_not_intro hget)
    refine ⟨data.pairs, [], ?_, fun name _ => data.valuesOf_pairs, ?_, ?_⟩
    · rw [hform]
      exact parseForm_joined data.writes
    · rw [data.valuesOf_pairs, hkey]
    · rw [hempty]
      rfl
  · have hform := requestForm_eq trimSpace hkey hne
    have hsent := (code_replacePlus : Code false _).unescape (trimSpace key)
    rw [replacePlus_queryEscape (replacePlus _), replacePlus_queryEscape] at hform
    generalize (trimSpace key).flatMap _ = sent at hform hsent
    refine ⟨(data.del sshkeys).pairs ++ [sent].map (sshkeys, ·), sent, ?_, ?_, ?_, hsent⟩
    · rw [hform]
      exact parseForm_joined (rel_append (data.del sshkeys).writes
        (.cons (writes_pair code_escapeByte code_replacePlus _ _) .nil))
    · intro name hname
      rw [valuesOf_append, valuesOf_of_ne hname.symm, append_nil, Values.valuesOf_pairs]
      simp [Values.lookup, Values.del, hname]
    · rw [valuesOf_append, valuesOf_self, Values.valuesOf_pairs]
      simp [Values.lookup, Values.del]

namespace Sample

def withKey : Values where
  keys := [ascii "cores", sshkeys]
  sorted := by decide
  values key := if key = sshkeys then [ascii " ssh-rsa a+b= me"] else [ascii "2"]

end Sample

open Proxmox.Sample

theorem requestForm_read_base64 : ∃ pairs sent,
    parseForm (requestForm (·.dropWhile (· = 0x20)) withKey) = some pairs ∧
      valuesOf (ascii "cores") pairs = [ascii "2"] ∧
      valuesOf sshkeys pairs = [sent] ∧ unescape false sent = some (ascii "ssh-rsa a+b= me") := by
  have hkey : withKey.lookup sshkeys = [ascii " ssh-rsa a+b= me"] := by decide
  obtain ⟨pairs, sent, hpairs, hothers, hsent, hread⟩ :=
    requestForm_read (·.dropWhile (· = 0x20)) rfl hkey
  exact ⟨pairs, sent, hpairs, hothers _ (by decide), hsent, hread⟩

end Virtrigaud.Proxmox
