import SourceMatch.Text.Scan

/-!
Paths as texts and as lists of components. Repeated slashes, dots inside a path and a slash at its
end say nothing; two paths are the same if their components are.
-/
namespace SourceMatch.Path

inductive Component where
  | root
  | current
  | parent
  | normal (name : List Char)
deriving DecidableEq, Repr

def pieces (path : String) : List (List Char) := Text.splitAtChar '/' path.toList

/-- A piece that is no component: behind another piece, nothing and a dot stand for nothing. -/
def isSilent (piece : List Char) : Bool := piece = [] || piece = ['.']

def Component.ofPiece (piece : List Char) : Component :=
  if piece = ['.', '.'] then .parent else .normal piece

def head (path : String) : List Component :=
  match pieces path with
  | [] | [[]] => []
  | [] :: _ => [.root]
  | ['.'] :: _ => [.current]
  | piece :: _ => [.ofPiece piece]

def components (path : String) : List Component :=
  head path ++ ((pieces path).tail.filter (!isSilent ·)).map .ofPiece

def Component.rank : Component → Nat
  | .root => 0
  | .current => 1
  | .parent => 2
  | .normal _ => 3

def compareChars : List Char → List Char → Ordering
  | [], [] => .eq
  | [], _ :: _ => .lt
  | _ :: _, [] => .gt
  | a :: as, b :: bs => (compare a.toNat b.toNat).then (compareChars as bs)

def Component.cmp : Component → Component → Ordering
  | .normal a, .normal b => compareChars a b
  | a, b => compare a.rank b.rank

def compareComponents : List Component → List Component → Ordering
  | [], [] => .eq
  | [], _ :: _ => .lt
  | _ :: _, [] => .gt
  | a :: as, b :: bs => (a.cmp b).then (compareComponents as bs)

def cmp (p q : String) : Ordering := compareComponents (components p) (components q)

/-- The name in the last component; a path that ends in a root, a dot or two dots has none. -/
def fileName? (path : String) : Option (List Char) :=
  match (components path).getLast? with
  | some (.normal name) => some name
  | _ => none

def extensionOf? (name : List Char) : Option (List Char) :=
  let tail := Text.afterLast '.' name
  if name.length ≤ tail.length + 1 then none else some tail

def extension? (path : String) : Option (List Char) := (fileName? path).bind extensionOf?

def joinPieces : List (List Char) → List Char
  | [] => []
  | [piece] => piece
  | piece :: rest => piece ++ '/' :: joinPieces rest

def parent? (path : String) : Option String :=
  match pieces path with
  | [] | [[]] => none
  | first :: rest =>
    match rest.reverse.dropWhile isSilent with
    | [] => if first = [] then none else some ""
    | _ :: before =>
      match before.dropWhile isSilent with
      | [] => some (if first = [] then "/" else String.ofList first)
      | before => some (String.ofList (joinPieces (first :: before.reverse)))

def join (folder name : String) : String :=
  if folder = "" then name
  else if folder.toList.getLast? = some '/' then folder ++ name
  else folder ++ "/" ++ name

end SourceMatch.Path
