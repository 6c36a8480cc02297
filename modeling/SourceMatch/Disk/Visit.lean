import SourceMatch.Disk.Basic

/-!
Visiting all files below a folder. Symbolic links are followed; one that leads back to a folder on
the way to it is a fault.
-/
namespace SourceMatch.Disk

inductive VisitFault where
  | broken (path : String) (fault : Fault)
  | cycle (path ancestor : String)
deriving DecidableEq, Repr

def VisitFault.message : VisitFault → String
  | .broken path fault => "IO error for operation on " ++ path ++ ": " ++ fault.message
  | .cycle path ancestor =>
    "File system loop found: " ++ path ++ " points to an ancestor " ++ ancestor

structure Visited where
  path : String
  relative : String
deriving DecidableEq, Repr

structure Step where
  loc : Location
  path : String
  relative : String
deriving DecidableEq, Repr

def children (d : Disk) (loc : Location) : List (List Char × Entry) :=
  let inside := d.entries.filterMap fun e =>
    if e.1 ≠ [] ∧ e.1.dropLast = loc then e.1.getLast?.map (·, e.2) else none
  inside.mergeSort fun a b => (Path.compareChars a.1 b.1).isLE

/-- A link counts as what it leads to, unless that is a folder on the way. -/
def follow (d : Disk) (way : List Step) (path : String) : Except VisitFault (Location × Entry) :=
  match d.stat path with
  | .error fault => .error (.broken path fault)
  | .ok (loc, .folder) =>
    match way.find? (·.loc = loc) with
    | some step => .error (.cycle path step.path)
    | none => .ok (loc, .folder)
  | .ok found => .ok found

def visit (d : Disk) (fuel : Nat) (way : List Step) (path relative : String) (loc : Location)
    (e : Entry) : List (Except VisitFault Visited) :=
  match (match e with | .link _ => follow d way path | e => .ok (loc, e)) with
  | .error fault => [.error fault]
  | .ok (_, .text _) | .ok (_, .binary) => [.ok ⟨path, relative⟩]
  | .ok (_, .link _) => []
  | .ok (loc, .folder) =>
    match fuel with
    | 0 => []
    | fuel + 1 =>
      (children d loc).flatMap fun child =>
        let name := String.ofList child.1
        visit d fuel (⟨loc, path, relative⟩ :: way) (Path.join path name) (Path.join relative name)
          (loc ++ [child.1]) child.2

def depth (d : Disk) : Nat := (d.entries.map (·.1.length)).foldr max 0

/-- A way is shorter than this: each link on it leads to a folder that is not on the way before, and
between two links it leads down. -/
def wayLimit (d : Disk) : Nat := (d.entries.length + 1) * (d.depth + 1)

def visitAll (d : Disk) (root : String) : List (Except VisitFault Visited) :=
  match d.find root false with
  | .error fault => [.error (.broken root fault)]
  | .ok (.free _) => [.error (.broken root .absent)]
  | .ok (.entry loc e) => visit d d.wayLimit [] root "" loc e

end SourceMatch.Disk
