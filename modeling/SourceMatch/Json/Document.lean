import SourceMatch.Json.Basic

/-!
What a JSON text holds, read as far as it can be read. A document is a tree like a value, with the
place where reading stopped as one more kind of leaf, so that a consumer meets the faults of the
text and the faults of its shape in the order in which they stand. A part that nobody asks for may
be skipped although it could not be kept: the numbers, escapes and depths of skipped parts are free.
-/
namespace SourceMatch.Json

inductive Category where
  | malformed
  | endOfText
  | wrongShape
deriving DecidableEq, Repr, Inhabited

/-- A document. `close` says how a list or an object ended: `none` for its bracket. A name that may
be skipped but not kept stands as its fault. -/
inductive Document where
  | null
  | bool (b : Bool)
  | number (n : Number)
  | string (s : String)
  | list (items : List Document) (close : Option Category)
  | object (members : List (Except Category String × Document)) (close : Option Category)
  | broken (fault : Category)
  | frail (fault : Category) (rest : Document)
deriving Inhabited

namespace Document

mutual

def ofJson : Json → Document
  | .null => .null
  | .bool b => .bool b
  | .number n => .number n
  | .string s => .string s
  | .array items => .list (ofItems items) none
  | .object members => .object (ofMembers members) none

def ofItems : List Json → List Document
  | [] => []
  | item :: items => ofJson item :: ofItems items

def ofMembers : List (String × Json) → List (Except Category String × Document)
  | [] => []
  | (name, value) :: members => (.ok name, ofJson value) :: ofMembers members

end

mutual

/-- The document as a value. A name that comes twice keeps its first place and its last value. -/
def keep : Document → Except Category Json
  | .null => .ok .null
  | .bool b => .ok (.bool b)
  | .number n => .ok (.number n)
  | .string s => .ok (.string s)
  | .list items close => do
    let items ← keepItems items
    match close with
    | none => return .array items
    | some fault => throw fault
  | .object members close => do
    let members ← keepMembers members []
    match close with
    | none => return .object members
    | some fault => throw fault
  | .broken fault => .error fault
  | .frail fault _ => .error fault

def keepItems : List Document → Except Category (List Json)
  | [] => .ok []
  | item :: items => do return (← keep item) :: (← keepItems items)

def keepMembers : List (Except Category String × Document) → List (String × Json) →
    Except Category (List (String × Json))
  | [], seen => .ok seen
  | (name, value) :: members, seen => do
    let name ← name
    let value ← keep value
    keepMembers members (putMember seen name value)

end

mutual

def skip : Document → Except Category Unit
  | .list items close => do
    skipItems items
    match close with
    | none => return ()
    | some fault => throw fault
  | .object members close => do
    skipMembers members
    match close with
    | none => return ()
    | some fault => throw fault
  | .broken fault => .error fault
  | .frail _ rest => skip rest
  | _ => .ok ()

def skipItems : List Document → Except Category Unit
  | [] => .ok ()
  | item :: items => do
    skip item
    skipItems items

def skipMembers : List (Except Category String × Document) → Except Category Unit
  | [] => .ok ()
  | (_, value) :: members => do
    skip value
    skipMembers members

end

/-- The fault of a document that does not have the shape asked for: its own, if it has one at its
head, which is read first. -/
def mismatch {α : Type} : Document → Except Category α
  | .broken fault => .error fault
  | .frail fault _ => .error fault
  | _ => .error .wrongShape

end Document

end SourceMatch.Json
