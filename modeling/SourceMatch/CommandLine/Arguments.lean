import SourceMatch.CommandLine.Parameter

/-!
Reading the arguments of a command from left to right. An option whose value stands in an argument
of its own is pending: its value is read once something else follows. Behind two hyphens that stand
alone everything is a path.
-/
namespace SourceMatch.CommandLine

structure Grammar where
  parameters : List Parameter
  takesPaths : Bool

inductive Pending where
  | none
  | valueless (p : Parameter)
  | unread (p : Parameter) (raw : String)

structure Arguments where
  values : List ((p : Parameter) × p.Value) := []
  paths : List String := []
  pending : Pending := .none

namespace Arguments

def get? (a : Arguments) (p : Parameter) : Option p.Value :=
  a.values.findSome? fun v => if h : v.1 = p then some (h ▸ v.2) else none

def has (a : Arguments) (p : Parameter) : Bool := (a.get? p).isSome

def require (a : Arguments) (p : Parameter) : Except Refusal p.Value :=
  match a.get? p with
  | some v => .ok v
  | none => .error .missing

/-- Takes up an option; a second value of it is not even read. -/
def add (d : Disk) (a : Arguments) (p : Parameter) (raw : String) : Except Refusal Arguments :=
  if a.has p then .error .repeated
  else do
    let v ← p.read d raw
    return { a with values := a.values ++ [⟨p, v⟩] }

def settle (d : Disk) (a : Arguments) : Except Refusal Arguments :=
  match a.pending with
  | .none => .ok a
  | .valueless _ => .error .badValue
  | .unread p raw => { a with pending := .none }.add d p raw

def addPath (d : Disk) (g : Grammar) (a : Arguments) (path : String) : Except Refusal Arguments :=
  if g.takesPaths then do
    let a ← a.settle d
    return { a with paths := a.paths ++ [path] }
  else .error .unknownArgument

def addOption (d : Disk) (g : Grammar) (a : Arguments) (name : String) (value : Option String) :
    Except Refusal Arguments :=
  if name = "help" then
    if value.isSome then .error .surplusValue
    else do
      let _ ← a.settle d
      throw .help
  else
    match g.parameters.find? (·.name = name) with
    | none => .error .unknownArgument
    | some p =>
      match p.isFlag, value with
      | true, some _ => .error .surplusValue
      | true, none => do (← a.settle d).add d p ""
      | false, some raw => do (← a.settle d).add d p raw
      | false, none => do return { ← a.settle d with pending := .valueless p }

def addShort (d : Disk) (a : Arguments) (flag : Char) : Except Refusal Arguments :=
  if flag = 'h' then do
    let _ ← a.settle d
    throw .help
  else .error .unknownArgument

def splitOption (cs : List Char) : String × Option String :=
  match cs.span (· ≠ '=') with
  | (name, []) => (String.ofList name, none)
  | (name, _ :: value) => (String.ofList name, some (String.ofList value))

def step (d : Disk) (g : Grammar) (a : Arguments) (arg : String) : Except Refusal Arguments :=
  match arg.toList with
  | '-' :: '-' :: option =>
    let (name, value) := splitOption option
    a.addOption d g name value
  | '-' :: flag :: _ => a.addShort d flag
  | _ =>
    match a.pending with
    | .valueless p => .ok { a with pending := .unread p arg }
    | _ => a.addPath d g arg

def readFrom (d : Disk) (g : Grammar) (a : Arguments) : List String → Except Refusal Arguments
  | [] => a.settle d
  | "--" :: paths => do (← paths.foldlM (addPath d g) a).settle d
  | arg :: rest => do readFrom d g (← a.step d g arg) rest

def read (d : Disk) (g : Grammar) (args : List String) : Except Refusal Arguments :=
  readFrom d g {} args

end Arguments

end SourceMatch.CommandLine
