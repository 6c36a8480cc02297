import SourceMatch.Json.Reader

/-!
Decoders: how a document becomes a value of the domain. Faults are met in the order of the text; a
record may be given as an object, whose unknown members are skipped, or as an array of its fields
in the order of their declaration.
-/
namespace SourceMatch.Json

inductive Origin where
  | text
  | value
deriving DecidableEq, Repr

abbrev Decoder (α : Type) := Origin → Document → Except Category α

namespace Decoder

variable {α β : Type}

def map (f : α → β) (d : Decoder α) : Decoder β := fun o doc => (d o doc).map f

def ofText (d : Decoder α) (text : String) : Except Category α := do
  let t := Reader.readText text
  let a ← d .text t.body
  match t.tail with
  | none => return a
  | some fault => throw fault

def ofValue (d : Decoder α) (v : Json) : Except Category α := d .value (.ofJson v)

def value : Decoder Json := fun _ doc => doc.keep

def string : Decoder String := fun _ doc =>
  match doc with
  | .string s => .ok s
  | doc => doc.mismatch

def nullable (d : Decoder α) : Decoder (Option α) := fun o doc =>
  match doc with
  | .null => .ok none
  | doc => (d o doc).map some

def finish (close : Option Category) : Except Category Unit :=
  match close with
  | none => .ok ()
  | some fault => .error fault

def list (d : Decoder α) : Decoder (List α) := fun o doc =>
  match doc with
  | .list items close => do
    let items ← items.mapM (d o)
    finish close
    return items
  | doc => doc.mismatch

/-- The members of an object with all its names, in their order, repeated ones included. -/
def members (d : Decoder α) : Decoder (List (String × α)) := fun o doc =>
  match doc with
  | .object members close => do
    let members ← members.mapM fun m => do
      let name ← m.1
      return (name, ← d o m.2)
    finish close
    return members
  | doc => doc.mismatch

/-- One of several names, written as a string or as an object with that one name and `null`. In a
text nothing else can stand for a name. -/
def variant (choose : String → Option α) : Decoder α := fun o doc =>
  let chosen (s : String) : Except Category α :=
    match choose s with
    | some a => .ok a
    | none => .error .wrongShape
  match doc, o with
  | .string s, _ => chosen s
  | .object [] none, .text => .error .malformed
  | .object [(name, value)] close, _ => do
    let a ← chosen (← name)
    match value with
    | .null =>
      finish close
      return a
    | doc => doc.mismatch
  | .object ((name, value) :: _) _, .text => do
    let _ ← chosen (← name)
    match value with
    | .null => throw .malformed
    | doc => doc.mismatch
  | .broken fault, _ => .error fault
  | .frail fault _, _ => .error fault
  | _, .text => .error .malformed
  | _, .value => .error .wrongShape

inductive Form where
  | object
  | array
deriving DecidableEq, Repr

structure Fields where
  origin : Origin
  form : Form
  given : List (String × Document)

abbrev Probe := String × (Origin → Document → Except Category Unit)

def probe (name : String) (d : Decoder α) : Probe := (name, fun o doc => (d o doc).map fun _ => ())

def scanMembers (probes : List Probe) (o : Origin) :
    List (Except Category String × Document) → List (String × Document) →
    Except Category (List (String × Document))
  | [], seen => .ok seen
  | (name, doc) :: members, seen => do
    let name ← name
    match probes.lookup name with
    | none => doc.skip
    | some check => do
      if seen.any (·.1 == name) then throw .wrongShape
      check o doc
    scanMembers probes o members (seen ++ [(name, doc)])

def scanItems (o : Origin) : List Probe → List Document →
    Except Category (List (String × Document) × List Document)
  | [], items => .ok ([], items)
  | _, [] => .ok ([], [])
  | (name, check) :: probes, doc :: items => do
    check o doc
    let (given, rest) ← scanItems o probes items
    return ((name, doc) :: given, rest)

def surplus : Origin → Category
  | .text => .malformed
  | .value => .wrongShape

def record (probes : List Probe) (build : Fields → Except Category α) : Decoder α := fun o doc =>
  match doc with
  | .object members close => do
    let given ← scanMembers probes o members []
    finish close
    build ⟨o, .object, given⟩
  | .list items close => do
    let (given, rest) ← scanItems o probes items
    if rest.isEmpty then
      finish close
      build ⟨o, .array, given⟩
    else
      let _ ← build ⟨o, .array, given⟩
      throw (surplus o)
  | doc => doc.mismatch

namespace Fields

def required (f : Fields) (name : String) (d : Decoder α) : Except Category α :=
  match f.given.lookup name with
  | some doc => d f.origin doc
  | none => .error .wrongShape

def orElse (f : Fields) (name : String) (d : Decoder α) (default : α) : Except Category α :=
  match f.given.lookup name with
  | some doc => d f.origin doc
  | none => .ok default

/-- A field that an object may leave out and an array may not. -/
def named (f : Fields) (name : String) (d : Decoder α) (default : α) : Except Category α :=
  match f.given.lookup name, f.form with
  | some doc, _ => d f.origin doc
  | none, .object => .ok default
  | none, .array => .error .wrongShape

end Fields

end Decoder

end SourceMatch.Json
