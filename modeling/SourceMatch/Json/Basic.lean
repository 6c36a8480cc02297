import SourceMatch.Json.Binary64

/-!
JSON values. Objects keep the order of their members and integers of 64 bits stay exact; every
other number is a binary floating point value.
-/
namespace SourceMatch

namespace Json

/-- A number: an integer from `-2 ^ 63` up to `2 ^ 64 - 1`, or a finite floating point value. -/
inductive Number where
  | int (n : Int)
  | real (x : Binary64)
deriving DecidableEq, Repr, Inhabited

end Json

inductive Json where
  | null
  | bool (b : Bool)
  | number (n : Json.Number)
  | string (s : String)
  | array (items : List Json)
  | object (members : List (String × Json))
deriving Repr, Inhabited

namespace Json

def nat (n : Nat) : Json := .number (.int n)

def optional {α : Type} (encode : α → Json) : Option α → Json
  | none => .null
  | some a => encode a

def strings (items : List String) : Json := .array (items.map .string)

def member? (name : String) : Json → Option Json
  | .object members => members.lookup name
  | _ => none

def items : Json → List Json
  | .array items => items
  | _ => []

def members : Json → List (String × Json)
  | .object members => members
  | _ => []

def string? : Json → Option String
  | .string s => some s
  | _ => none

def nat? : Json → Option Nat
  | .number (.int n) => if n < 0 then none else some n.toNat
  | _ => none

/-- Puts a member at the end, or in place of the one with its name. -/
def putMember (members : List (String × Json)) (name : String) (value : Json) :
    List (String × Json) :=
  if members.any (·.1 == name) then
    members.map fun m => if m.1 == name then (name, value) else m
  else members ++ [(name, value)]

end Json

end SourceMatch
