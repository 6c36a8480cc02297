import SourceMatch.Import.Basic
import SourceMatch.Path
import SourceMatch.Text.Dict

/-!
Source trees: the files below a folder, each under its path from there, and finding among them the
file that an import path means.
-/
namespace SourceMatch

structure SourceTree where
  files : List (String × String) := []
deriving DecidableEq, Repr, Inhabited

namespace SourceTree

/-- Puts a file in its place; a file of the same path gives way, its spelling included. -/
def insertFile (path content : String) : List (String × String) → List (String × String)
  | [] => [(path, content)]
  | (p, c) :: files =>
    match Path.cmp path p with
    | .lt => (path, content) :: (p, c) :: files
    | .eq => (path, content) :: files
    | .gt => (p, c) :: insertFile path content files

def insert (t : SourceTree) (path content : String) : SourceTree :=
  ⟨insertFile path content t.files⟩

def ofFiles (files : List (String × String)) : SourceTree :=
  files.foldl (fun t f => t.insert f.1 f.2) {}

def isEmpty (t : SourceTree) : Bool := t.files.isEmpty

def toDict (t : SourceTree) : Dict String := Dict.ofList t.files

def segments (importPath : String) : List (List Char) :=
  (Text.splitAtChar '/' importPath.toList).filter fun s =>
    !(s = [] || s = ['.'] || s = ['.', '.'])

def endsWith (path : String) (names : List (List Char)) : Bool :=
  (names.map Path.Component.normal).isSuffixOf (Path.components path)

def shallowest? : List (String × String) → Option (String × String)
  | [] => none
  | f :: files =>
    match shallowest? files with
    | none => some f
    | some best =>
      if (Path.components best.1).length < (Path.components f.1).length then some best else some f

def single? : List (String × String) → Option (String × String)
  | [f] => some f
  | _ => none

/-- The file that an import path means: the shallowest one whose path ends in its segments, and if
there is none, the only one of its file name. -/
def lookup? (t : SourceTree) (importPath : String) : Option (String × String) :=
  let names := segments importPath
  if names.isEmpty then none
  else
    match shallowest? (t.files.filter fun f => endsWith f.1 names) with
    | some f => some f
    | none =>
      let name := Text.afterLast '/' importPath.toList
      single? (t.files.filter fun f => Path.fileName? f.1 = some name)

def fillOne (t : SourceTree) (i : Import) : Import :=
  if i.isResolved then i
  else
    match t.lookup? i.path with
    | some (path, content) => ⟨i.path, some content, some path⟩
    | none => i

def fill (t : SourceTree) (imports : List Import) : List Import := imports.map t.fillOne

end SourceTree

end SourceMatch
