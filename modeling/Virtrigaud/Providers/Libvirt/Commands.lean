import Virtrigaud.Go.Strings

/-!
# Commands on the libvirt host

`runVirshCommandOnce` hands its arguments to `ssh` as they are. `ssh` joins them with blanks, and
the shell of the host splits the line again: an argument arrives as it was given only if it means
nothing to that shell.
-/

namespace Virtrigaud.Libvirt.Commands

/-- Characters by which a POSIX shell splits, expands, redirects or ends a command wherever they
stand. The quotes and the backslash that `fields` reads are among them. -/
def special : List Char := "|&;<>()$`\\\"' \t\n*?".toList

/-- An opening bracket begins a pattern if it is closed in the same part of a path. -/
def bracket (rest : List Char) : Bool :=
  let body := rest.takeWhile fun c => c ∉ [' ', '\t', '/']
  (body.drop (if body.head? = some '!' then 2 else 1)).contains ']'

/-- The character stands for itself. A comment and the name of a home directory are only at the
beginning of a word. -/
def plain (begun : Bool) (c : Char) (rest : List Char) : Bool :=
  decide (c ∉ special) && (begun || (c ≠ '#' && c ≠ '~')) && !(c = '[' && bracket rest)

inductive Quoting
  | bare
  | escaped
  | single

/-- The words of a shell line. `word` is the word that has begun; there is no answer for a line with
an expansion, an operator, a comment or an open quote. -/
def fields : Quoting → Option (List Char) → List Char → Option (List (List Char))
  | .bare, word, [] => some word.toList
  | _, _, [] => none
  | .escaped, word, c :: rest =>
    if c = '\n' then fields .bare word rest else fields .bare (some (word.getD [] ++ [c])) rest
  | .single, word, c :: rest =>
    if c = '\'' then fields .bare word rest else fields .single (some (word.getD [] ++ [c])) rest
  | .bare, word, c :: rest =>
    if plain word.isSome c rest then fields .bare (some (word.getD [] ++ [c])) rest
    else if c = ' ' ∨ c = '\t' then (fields .bare none rest).map (word.toList ++ ·)
    else if c = '\\' then fields .escaped word rest
    else if c = '\'' then fields .single (some (word.getD [])) rest
    else none

def reserved : List String :=
  ["!", "\x7b", "\x7d", "if", "then", "else", "elif", "fi", "do", "done", "case", "esac", "while",
    "until", "for", "[[", "]]", "function", "select", "time"]

/-- A name, and what it is set to. -/
def isAssignment (word : List Char) : Bool :=
  match word.takeWhile (· ≠ '=') with
  | [] => false
  | c :: rest =>
    word.contains '=' && (c.isAlpha || c = '_') && rest.all fun c => c.isAlphanum || c = '_'

/-- A first word that is no option of `ssh`, no assignment and no keyword of the shell. -/
def isCommand (word : String) : Bool :=
  !(word.startsWith "-" || isAssignment word.toList || reserved.contains word)

/-- The arguments after the destination, joined by `ssh`. -/
def join : List String → List Char
  | [] => []
  | [word] => word.toList
  | word :: rest => word.toList ++ ' ' :: join rest

inductive Invocation
  | here (argv : List String)
  | ssh (words : List String)

/-- The vector that is executed in the end. -/
def Invocation.executed : Invocation → Option (List String)
  | .here argv => some argv
  | .ssh words =>
    if words.head?.any isCommand then (fields .bare none (join words)).map (·.map String.ofList)
    else none

/-- The connection URI with its scheme and path, and the credentials. -/
structure Connection where
  (uri scheme path password sshPrivateKey : String)

variable (v : Connection)

def Connection.overSSH : Bool := Go.contains v.uri.toList "ssh://".toList

def Connection.remoteVirshConnectURI : String :=
  let driver := String.ofList (v.scheme.toList.takeWhile (· ≠ '+'))
  let path := Go.trimSlashes v.path
  if driver = "" ∨ path = "" then "" else driver ++ ":///" ++ path

def Connection.pin : List String :=
  let uri := v.remoteVirshConnectURI
  if uri ≠ "" then ["-c", uri] else []

def runVirshCommandOnce : List String → Except String Invocation
  | "!" :: directArgs =>
    if directArgs = [] then .error "no command specified after '!' prefix"
    else if v.overSSH then
      if v.password ≠ "" then .ok (.ssh directArgs)
      else if Go.trimSpace v.sshPrivateKey.toList ≠ [] then .ok (.ssh directArgs)
      else .ok (.here directArgs)
    else .ok (.here directArgs)
  | args =>
    if v.password ≠ "" ∧ v.overSSH then .ok (.ssh ("virsh" :: (v.pin ++ args)))
    else .ok (.here ("virsh" :: args))

/-- The command goes through `ssh` and the shell of the host. -/
def Connection.remote (args : List String) : Bool :=
  v.overSSH &&
    (v.password ≠ "" || args.head? = some "!" && Go.trimSpace v.sshPrivateKey.toList ≠ [])

/-- What the caller asks for: the command after `!`, or `virsh` with the arguments, pinned to the
connection's libvirtd where it runs on the host. -/
def asked : List String → List String
  | "!" :: directArgs => directArgs
  | args => "virsh" :: (if v.password ≠ "" ∧ v.overSSH then v.pin ++ args else args)

/-- The rest of a word is read as it stands; a word is not empty. -/
def literalFrom (begun : Bool) : List Char → Bool
  | [] => begun
  | c :: rest => plain begun c rest && literalFrom true rest

def Literal (word : String) : Prop := literalFrom false word.toList = true

instance (word : String) : Decidable (Literal word) := inferInstanceAs (Decidable (_ = true))

/-- A word may end here. -/
def Ends (tail : List Char) : Prop := ∀ c ∈ tail.head?, c = ' ' ∨ c = '\t'

section

variable {q : Quoting} {word : Option (List Char)} {begun : Bool} {c : Char}
  {line tail text rest : List Char} {out : List (List Char)}

theorem plain_append (htail : Ends tail) : plain begun c (text ++ tail) = plain begun c text := by
  have hbody : (text ++ tail).takeWhile (fun c => decide (c ∉ [' ', '\t', '/'])) =
      text.takeWhile fun c => decide (c ∉ [' ', '\t', '/']) := by
    rw [List.takeWhile_append]
    split
    · rename_i hall
      rw [(List.takeWhile_prefix _).eq_of_length hall]
      cases tail with
      | nil => simp
      | cons c rest => rcases htail c rfl with rfl | rfl <;> simp
    · rfl
  unfold plain bracket
  rw [hbody]

/-- Literal text is taken into the word. -/
theorem fields_literal (htext : literalFrom word.isSome text = true) (htail : Ends tail) :
    fields .bare word (text ++ tail) = fields .bare (some (word.getD [] ++ text)) tail := by
  induction text generalizing word with
  | nil =>
    obtain ⟨begun, rfl⟩ := Option.isSome_iff_exists.mp htext
    simp
  | cons c text ih =>
    obtain ⟨hc, htext⟩ := Bool.and_eq_true_iff.mp htext
    have hrest := @ih (some (word.getD [] ++ [c])) htext
    rw [List.cons_append, fields, plain_append htail, if_pos hc, hrest]
    simp

/-- Literal words survive the join. -/
theorem fields_join {words : List String} (hwords : ∀ word ∈ words, Literal word) :
    fields .bare none (join words) = some (words.map String.toList) := by
  induction words with
  | nil => rfl
  | cons word rest ih =>
    have hword : literalFrom (none : Option (List Char)).isSome word.toList = true :=
      hwords word (.head _)
    have hrest := ih fun w hw => hwords w (.tail word hw)
    cases rest with
    | nil =>
      have hfields := @fields_literal none [] word.toList hword fun _ h => by cases h
      rwa [List.append_nil] at hfields
    | cons next rest =>
      have hends : Ends (' ' :: join (next :: rest)) := fun _ h => .inl (Option.some.inj h).symm
      have hspecial : ' ' ∈ special := by decide
      have hblank : plain true ' ' (join (next :: rest)) = false := by simp [plain, hspecial]
      rw [join, fields_literal hword hends, fields, Option.isSome_some, hblank,
        if_neg Bool.false_ne_true, if_pos (.inl rfl), hrest]
      · rfl
      · simp

/-- The length of a line of these words, with a blank after each. -/
def weight : List (List Char) → Nat
  | [] => 0
  | word :: rest => word.length + 1 + weight rest

theorem weight_toList (word : Option (List Char)) (out : List (List Char)) :
    weight (word.toList ++ out) = (word.elim 0 fun text => text.length + 1) + weight out := by
  cases word <;> simp [weight]

/-- What is read is not longer than the line. -/
theorem weight_le (h : fields q word line = some out) :
    weight out ≤ (word.getD []).length + line.length + 1 := by
  induction line generalizing q word out with
  | nil =>
    cases q with
    | bare =>
      obtain rfl := Option.some.inj h
      cases word <;> simp [weight]
    | escaped | single => cases h
  | cons c rest ih =>
    cases q with
    | escaped | single =>
      rw [fields] at h
      split at h
      all_goals
        have hle := ih h
        simp only [Option.getD_some, List.length_append, List.length_cons, List.length_nil] at *
        omega
    | bare =>
      rw [fields] at h
      split at h
      · have hle := ih h
        simp only [Option.getD_some, List.length_append, List.length_cons, List.length_nil] at *
        omega
      split at h
      · obtain ⟨others, hothers, rfl⟩ := Option.map_eq_some_iff.mp h
        have hle := ih hothers
        rw [weight_toList]
        cases word <;> simp at * <;> omega
      split at h
      · have hle := ih h
        simp at *
        omega
      split at h
      · have hle := ih h
        simp at *
        omega
      · cases h

/-- If nothing of the line is lost, its words are literal. -/
theorem literal_of_weight (h : fields .bare word line = some out)
    (hweight : weight out = (word.getD []).length + line.length + 1) :
    ∃ text tail others, line = text ++ tail ∧ Ends tail ∧
      out = (word.getD [] ++ text) :: others ∧ literalFrom word.isSome text = true ∧
      ∀ other ∈ others, literalFrom false other = true := by
  induction line generalizing word out with
  | nil =>
    obtain rfl := Option.some.inj h
    cases word with
    | none => simp [weight] at hweight
    | some text => exact ⟨[], [], [], rfl, nofun, by simp, rfl, nofun⟩
  | cons c rest ih =>
    rw [fields] at h
    split at h
    · rename_i hplain
      obtain ⟨text, tail, others, rfl, htail, rfl, htext, hothers⟩ := ih h (by
        simp at *
        omega)
      refine ⟨c :: text, tail, others, rfl, htail, by simp, ?_, hothers⟩
      rw [plain_append htail] at hplain
      exact Bool.and_eq_true_iff.mpr ⟨hplain, htext⟩
    split at h
    · rename_i hblank
      obtain ⟨read, hread, rfl⟩ := Option.map_eq_some_iff.mp h
      have hle := weight_le hread
      rw [weight_toList] at hweight
      cases word with
      | none =>
        simp at *
        omega
      | some begun =>
        obtain ⟨text, tail, others, rfl, htail, rfl, htext, hothers⟩ := ih hread (by
          simp at *
          omega)
        refine ⟨[], c :: (text ++ tail), text :: others, rfl, ?_, by simp, rfl, ?_⟩
        · rintro _ ⟨⟩
          exact hblank
        · exact List.forall_mem_cons.mpr ⟨htext, hothers⟩
    -- A quote is not part of what is read.
    split at h
    · have hle := weight_le h
      simp at *
      omega
    split at h
    · have hle := weight_le h
      simp at *
      omega
    · cases h

theorem weight_map_toList {words : List String} (hwords : words ≠ []) :
    weight (words.map String.toList) = (join words).length + 1 := by
  induction words with
  | nil => exact absurd rfl hwords
  | cons word rest ih =>
    cases rest with
    | nil => simp [weight, join]
    | cons next rest =>
      have hjoin : join (word :: next :: rest) = word.toList ++ ' ' :: join (next :: rest) := rfl
      have hrest := ih (List.cons_ne_nil _ _)
      rw [List.map_cons, weight, hrest, hjoin, List.length_append, List.length_cons]
      omega

/-- The shell reads the words as they were given exactly if each of them is literal. -/
theorem fields_join_iff {words : List String} :
    fields .bare none (join words) = some (words.map String.toList) ↔
      ∀ word ∈ words, Literal word := by
  refine ⟨fun h => ?_, fields_join⟩
  by_cases hempty : words = []
  · simp [hempty]
  obtain ⟨text, tail, others, -, -, hout, htext, hothers⟩ :=
    literal_of_weight h (by simpa using weight_map_toList hempty)
  have hall : ∀ other ∈ words.map String.toList, literalFrom false other = true := by
    rw [hout]
    exact List.forall_mem_cons.mpr ⟨htext, hothers⟩
  exact fun word hword => hall _ (List.mem_map_of_mem hword)

theorem executed_ssh_iff {words : List String} : (Invocation.ssh words).executed = some words ↔
    (∀ word ∈ words, Literal word) ∧ words.head?.any isCommand := by
  rw [← fields_join_iff, Invocation.executed]
  split_ifs with hcommand
  · rw [and_iff_left hcommand]
    cases fields .bare none (join words) with
    | none => simp
    | some out =>
      rw [Option.map_some, Option.some.injEq, Option.some.injEq]
      constructor <;>
      · rintro rfl
        simp [Function.comp_def]
  · exact iff_of_false nofun fun h => hcommand h.2

/-- The invocation is the vector asked for, run here or through `ssh`. -/
theorem runVirshCommandOnce_ok (v : Connection) {args : List String} (hargs : args ≠ ["!"]) :
    runVirshCommandOnce v args =
      .ok (if v.remote args then .ssh (asked v args) else .here (asked v args)) := by
  unfold runVirshCommandOnce asked Connection.remote
  split
  · have hne : ‹List String› ≠ [] := fun h => hargs (by rw [h])
    rw [if_neg hne]
    split_ifs <;> simp_all
  · rename_i hdirect
    have hhead : args.head? ≠ some "!" := by
      cases args with
      | nil => simp
      | cons arg rest => exact fun h => hdirect rest (by rw [Option.some.inj h])
    split_ifs <;> simp_all

/-- A vector reaches its process unchanged exactly if each word that goes through the shell of the
host is literal, and the first is a command. -/
theorem arguments_arrive (v : Connection) (args : List String) (hargs : args ≠ ["!"]) :
    (∃ invocation, runVirshCommandOnce v args = .ok invocation ∧
      invocation.executed = some (asked v args)) ↔
      (v.remote args = true →
        (∀ word ∈ asked v args, Literal word) ∧ (asked v args).head?.any isCommand) := by
  rw [runVirshCommandOnce_ok v hargs, ← executed_ssh_iff]
  cases v.remote args <;> simp [Invocation.executed]

end

def deleteDiskFile (diskPath : String) : List String := ["!", "sudo", "rm", "-f", diskPath]

def downloadOnHost (url dstPath : String) : List String :=
  ["!", "curl", "-fsSL", url, "-o", dstPath]

def shellQuote (s : String) : String :=
  "'" ++ String.ofList (s.toList.flatMap fun c => if c = '\'' then "'\\''".toList else [c]) ++ "'"

/-- The command by which `exportDiskToS3` flattens the disk. -/
def flattenDisk (srcPath hostTmp : String) : List String :=
  ["!", "qemu-img", "convert", "-U", "-f", "qcow2", "-O", "qcow2", shellQuote srcPath,
    shellQuote hostTmp]

namespace Sample

def keyed : Connection := ⟨"qemu+ssh://virt@kvm1/system", "qemu+ssh", "/system", "", "KEY"⟩

def withPassword : Connection := { keyed with password := "secret", sshPrivateKey := "" }

def executed (args : List String) : Option (List String) :=
  (runVirshCommandOnce v args).toOption.bind Invocation.executed

end Sample

open Commands.Sample

/-- Also a comment sign and a tilde inside a word arrive. -/
theorem arguments_arrive_pinned :
    ∃ invocation, runVirshCommandOnce withPassword ["domstate", "web~1#a"] = .ok invocation ∧
      invocation.executed = some ["virsh", "-c", "qemu:///system", "domstate", "web~1#a"] := by
  have hasked : asked withPassword ["domstate", "web~1#a"] =
      ["virsh", "-c", "qemu:///system", "domstate", "web~1#a"] := by decide +kernel
  rw [← hasked]
  refine (arguments_arrive withPassword _ (by decide)).mpr fun _ => ?_
  rw [hasked]
  decide +kernel

/-- A disk path is split, the query of a URL ends the command, and a path quoted by its caller is
not the one given. -/
theorem arguments_reinterpreted :
    executed keyed (deleteDiskFile "/images/web 1.qcow2") =
        some ["sudo", "rm", "-f", "/images/web", "1.qcow2"] ∧
      executed withPassword (downloadOnHost "https://mirror/img?id=7&sig=x" "/images/i") = none ∧
      executed keyed (flattenDisk "/a" "/b") =
        some ["qemu-img", "convert", "-U", "-f", "qcow2", "-O", "qcow2", "/a", "/b"] ∧
      asked keyed (flattenDisk "/a" "/b") =
        ["qemu-img", "convert", "-U", "-f", "qcow2", "-O", "qcow2", "'/a'", "'/b'"] := by
  decide +kernel

structure VirshResult where
  exitCode : Int
  stdout : String := ""
  stderr : String
  deriving DecidableEq

/-- What an attempt returns, and whether its command was executed on the host. -/
structure Attempt where
  result : Option VirshResult
  err : Option String
  executed : Bool
  deriving DecidableEq

def Attempt.stderr (a : Attempt) : String := (a.result.map VirshResult.stderr).getD ""

def transientSSHConnectError (stderr : String) : Bool :=
  ["kex_exchange_identification", "connection closed by remote host", "connection reset by peer",
    "connection refused", "connection timed out", "no route to host", "ssh: connect to host",
    "temporary failure in name resolution"].any
    fun m => Go.contains (Go.toLower stderr.toList) m.toList

def sshConnectMaxAttempts : Nat := 3

/-- The attempts from the `n`-th one on, and what is returned. -/
def retryFrom (attempt : Nat → Attempt) (cancelled : Nat → Bool) (n : Nat) :
    Nat → List Attempt × Option VirshResult × Option String
  | 0 => ([], none, none)
  | left + 1 =>
    if (attempt n).err = none ∨ left = 0 ∨ transientSSHConnectError (attempt n).stderr = false ∨
        cancelled n then ([attempt n], (attempt n).result, (attempt n).err)
    else
      let (made, returned) := retryFrom attempt cancelled (n + 1) left
      (attempt n :: made, returned)

/-- The context may end any wait between two attempts. -/
def retryOnTransientSSH (attempt : Nat → Attempt) (cancelled : Nat → Bool) :
    List Attempt × Option VirshResult × Option String :=
  retryFrom attempt cancelled 1 sshConnectMaxAttempts

/-- Only a command that was not executed is tried again, and the last attempt counts. -/
structure Retried (limit : Nat) (run : List Attempt × Option VirshResult × Option String) :
    Prop where
  bounded : run.1.length ≤ limit
  unexecuted : ∀ a ∈ run.1.dropLast, a.executed = false
  last : ∃ a, run.1.getLast? = some a ∧ run.2 = (a.result, a.err)

theorem retried_cons {limit : Nat} {run : List Attempt × Option VirshResult × Option String}
    {a : Attempt} (h : Retried limit run) (ha : a.executed = false) :
    Retried (limit + 1) (a :: run.1, run.2) := by
  obtain ⟨hbounded, hunexecuted, last, hlast, hreturned⟩ := h
  obtain ⟨_ | ⟨first, rest⟩, returned⟩ := run
  · cases hlast
  · exact ⟨Nat.succ_le_succ hbounded, List.forall_mem_cons.mpr ⟨ha, hunexecuted⟩, last,
      (List.getLast?_cons_cons ..).trans hlast, hreturned⟩

/-- A command that was executed and fails prints none of the texts of ssh. -/
theorem executed_at_most_once (attempt : Nat → Attempt) (cancelled : Nat → Bool)
    (hsilent : ∀ n, (attempt n).executed = true → (attempt n).err ≠ none →
      transientSSHConnectError (attempt n).stderr = false) :
    Retried 3 (retryOnTransientSSH attempt cancelled) := by
  have hfrom : ∀ left n, Retried (left + 1) (retryFrom attempt cancelled n (left + 1)) := by
    intro left
    induction left with
    | zero =>
      intro n
      rw [retryFrom, if_pos (.inr (.inl rfl))]
      exact ⟨le_rfl, nofun, attempt n, rfl, rfl⟩
    | succ left ih =>
      intro n
      unfold retryFrom
      split
      · exact ⟨Nat.le_add_left 1 _, nofun, attempt n, rfl, rfl⟩
      · rename_i hagain
        refine retried_cons (ih (n + 1)) ?_
        by_contra hran
        exact hagain (.inr (.inr (.inl (hsilent n (by simpa using hran) fun h => hagain (.inl h)))))
  exact hfrom 2 1

namespace Sample

/-- ssh is refused at first. -/
def throttled (n : Nat) : Attempt :=
  if n = 1 then ⟨some ⟨255, "", "kex_exchange_identification: read"⟩, some "exit 255", false⟩
  else ⟨some ⟨0, "running", ""⟩, none, true⟩

/-- The mirror refuses the download. -/
def refused : Attempt :=
  ⟨some ⟨7, "", "curl: (7) Failed to connect: Connection refused"⟩, some "exit 7", true⟩

end Sample

theorem executed_at_most_once_throttled :
    (retryOnTransientSSH throttled fun _ => false).1 = [throttled 1, throttled 2] ∧
      Retried 3 (retryOnTransientSSH throttled fun _ => false) := by
  refine ⟨by decide +kernel, executed_at_most_once throttled _ fun n hran _ => ?_⟩
  unfold throttled at hran ⊢
  split at hran
  · cases hran
  · rw [if_neg ‹_›]
    decide +kernel

/-- A download that ran on the host is made three times. -/
theorem executed_command_repeated :
    (retryOnTransientSSH (fun _ => refused) fun _ => false).1 = [refused, refused, refused] ∧
      refused.executed = true := by
  decide +kernel

end Virtrigaud.Libvirt.Commands
