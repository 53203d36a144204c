import Virtrigaud.Go.Strings

/-!
# JSON values

What `encoding/json` writes and reads, as trees: `Unmarshal` of what `Marshal` has written
sees the same tree. Numbers are integers, and an object is its members in order.

A member belongs to the field whose name it has, in any case of letters. A value of another
type than the field's is an error, null leaves the field alone, and other members are skipped.
-/

namespace Go

inductive Json where
  | null
  | bool (b : Bool)
  | num (n : Int)
  | str (s : String)
  | arr (items : List Json)
  | obj (members : List (String × Json))
  deriving Repr

/-- `strings.EqualFold`, for ASCII. -/
def equalFold (s t : String) : Bool := toLower s.toList = toLower t.toList

namespace Json

variable {α : Type}

/-- One member's part in a field of a struct. -/
def fieldStep (name : String) (decode : Json → Option α) (value : α) (member : String × Json) :
    Option α :=
  if equalFold member.1 name then
    match member.2 with
    | .null => some value
    | json => decode json
  else some value

/-- A field of a struct, from its zero value; none is a type mismatch. -/
def field (name : String) (decode : Json → Option α) (zero : α)
    (members : List (String × Json)) : Option α :=
  members.foldlM (fieldStep name decode) zero

/-- A struct, from its members. -/
def struct (decode : List (String × Json) → Option α) : Json → Option α
  | .obj members => decode members
  | .null => decode []
  | _ => none

def int32? : Json → Option Int
  | .num n => if -2147483648 ≤ n ∧ n ≤ 2147483647 then some n else none
  | _ => none

def str? : Json → Option String
  | .str s => some s
  | _ => none

end Json

end Go
