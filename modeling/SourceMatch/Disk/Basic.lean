import SourceMatch.Path

/-!
A disk as a table of entries. Paths lead through folders and symbolic links to an entry or to a free
place in a folder; reading, writing and making folders follow them.
-/
namespace SourceMatch

abbrev Disk.Location := List (List Char)

inductive Disk.Entry where
  | folder
  | text (content : String)
  | binary
  | link (target : String)
deriving DecidableEq, Repr, Inhabited

structure Disk where
  entries : List (Disk.Location × Disk.Entry) := []
  here : Disk.Location := []
deriving DecidableEq, Repr, Inhabited

inductive Disk.Fault where
  | absent
  | notFolder
  | isFolder
  | present
  | tooManyLinks
  | nameTooLong
  | zeroByte
  | notText
deriving DecidableEq, Repr, Inhabited

namespace Disk

def Fault.message : Fault → String
  | .absent => "No such file or directory (os error 2)"
  | .notFolder => "Not a directory (os error 20)"
  | .isFolder => "Is a directory (os error 21)"
  | .present => "File exists (os error 17)"
  | .tooManyLinks => "Too many levels of symbolic links (os error 40)"
  | .nameTooLong => "File name too long (os error 36)"
  | .zeroByte => "file name contained an unexpected NUL byte"
  | .notText => "stream did not contain valid UTF-8"

def get? (d : Disk) (loc : Location) : Option Entry :=
  if loc = [] then some .folder else d.entries.lookup loc

def put (d : Disk) (loc : Location) (e : Entry) : Disk :=
  { d with entries := (loc, e) :: d.entries.filter (·.1 ≠ loc) }

inductive Place where
  | entry (loc : Location) (e : Entry)
  | free (loc : Location)
deriving DecidableEq, Repr

/-- The names of a path. A slash at the end means the folder that the path leads to. -/
def names (path : String) : List (List Char) :=
  let pieces := Text.splitAtChar '/' path.toList
  pieces.filter (· ≠ []) ++ (if pieces.getLast? = some [] then [['.']] else [])

def isAbsolute (path : String) : Bool := path.toList.head? = some '/'

def linkLimit : Nat := 40

def nameLimit : Nat := 255

/-- Follows names from the folder `loc`. A link in the last place is followed if `follow` says so.
Each link that is followed uses up one of the `links` that are left. -/
def walk (d : Disk) (follow : Bool) (links : Nat) (loc : Location) :
    List (List Char) → Except Fault Place
  | [] => .ok (.entry loc .folder)
  | name :: rest =>
    if name = ['.'] then walk d follow links loc rest
    else if name = ['.', '.'] then walk d follow links loc.dropLast rest
    else if nameLimit < (String.ofList name).utf8ByteSize then .error .nameTooLong
    else
      let below := loc ++ [name]
      match d.get? below with
      | none => if rest = [] then .ok (.free below) else .error .absent
      | some .folder => walk d follow links below rest
      | some (.link target) =>
        if rest = [] ∧ !follow then .ok (.entry below (.link target))
        else
          match links with
          | 0 => .error .tooManyLinks
          | links + 1 =>
            if target = "" then .error .absent
            else walk d follow links (if isAbsolute target then [] else loc) (names target ++ rest)
      | some e => if rest = [] then .ok (.entry below e) else .error .notFolder
termination_by names => (links, names.length)

def find (d : Disk) (path : String) (follow : Bool) : Except Fault Place :=
  if path.toList.contains '\x00' then .error .zeroByte
  else if path = "" then .error .absent
  else walk d follow linkLimit (if isAbsolute path then [] else d.here) (names path)

def stat (d : Disk) (path : String) : Except Fault (Location × Entry) := do
  match ← find d path true with
  | .entry loc e => return (loc, e)
  | .free _ => throw .absent

def present (d : Disk) (path : String) : Bool := (stat d path).isOk

def isFolder (d : Disk) (path : String) : Bool :=
  match stat d path with
  | .ok (_, .folder) => true
  | _ => false

def read (d : Disk) (path : String) : Except Fault String := do
  match ← stat d path with
  | (_, .text content) => return content
  | (_, .binary) => throw .notText
  | (_, .folder) => throw .isFolder
  | (_, .link _) => throw .absent

def write (d : Disk) (path content : String) : Except Fault Disk := do
  if path.toList.getLast? = some '/' then
    let _ ← find d (String.ofList (path.toList.reverse.dropWhile (· = '/')).reverse) true
    throw .isFolder
  match ← find d path true with
  | .entry _ .folder => throw .isFolder
  | .entry loc _ => return d.put loc (.text content)
  | .free loc => return d.put loc (.text content)

def makeFolder (d : Disk) (path : String) : Except Fault Disk := do
  let bare := String.ofList (path.toList.reverse.dropWhile (· = '/')).reverse
  match ← find d (if bare = "" then path else bare) false with
  | .entry _ _ => throw .present
  | .free loc => return d.put loc .folder

/-- A path and the folders above it, the innermost first. The fuel is at least their number. -/
def chain : Nat → String → List String
  | 0, _ => []
  | fuel + 1, path =>
    if path = "" then [] else path :: ((Path.parent? path).map (chain fuel)).getD []

def isOrphan (d : Disk) (path : String) : Bool :=
  match makeFolder d path with
  | .error .absent => true
  | _ => false

def ensureFolder (d : Disk) (path : String) : Except Fault Disk :=
  match makeFolder d path with
  | .ok d => .ok d
  | .error fault => if isFolder d path then .ok d else .error fault

def makeChain (d : Disk) : List String → Except Fault Disk
  | [] => .ok d
  | path :: outer =>
    if isOrphan d path then do
      let d ← makeChain d outer
      ensureFolder d path
    else ensureFolder d path

def makeFolders (d : Disk) (path : String) : Except Fault Disk :=
  makeChain d (chain (path.length + 1) path)

end Disk

end SourceMatch
