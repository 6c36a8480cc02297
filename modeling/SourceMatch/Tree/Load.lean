import SourceMatch.Disk.Visit
import SourceMatch.Tree.Basic

/-!
Loading a source tree from a folder of a disk.
-/
namespace SourceMatch

inductive SourceError where
  | unreadable (path reason : String)
  | outsideRoot (path root : String)
deriving DecidableEq, Repr

namespace SourceError

def code : SourceError → String
  | .unreadable _ _ => "E026"
  | .outsideRoot _ _ => "E027"

def message : SourceError → String
  | .unreadable path reason =>
    "[E026] I/O error reading file '" ++ path ++ "': " ++ reason ++ "\n\nSuggestions:\n" ++
      "  • Check file exists and is readable\n" ++ "  • Verify file permissions"
  | .outsideRoot path root =>
    "[E027] '" ++ path ++ "' is not inside source directory '" ++ root ++ "'"

end SourceError

namespace SourceTree

def sourceExtension : List Char := "sol".toList

def readVisited (d : Disk) (root : String) (v : Except Disk.VisitFault Disk.Visited) :
    Except SourceError (Option (String × String)) :=
  match v with
  | .error fault => .error (.unreadable root fault.message)
  | .ok file =>
    if Path.extension? file.path = some sourceExtension then
      match d.read file.path with
      | .ok content => .ok (some (file.relative, content))
      | .error fault => .error (.unreadable file.path fault.message)
    else .ok none

def load (d : Disk) (root : String) : Except SourceError SourceTree := do
  let found ← (d.visitAll root).mapM (readVisited d root)
  return ofFiles (found.filterMap id)

end SourceTree

end SourceMatch
