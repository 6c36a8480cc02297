import SourceMatch.Text.Blank
import SourceMatch.Text.Scan
import SourceMatch.Text.Word

/-!
Import statements in the text of a source: the word `import`, blanks, then a path between quotes, in
front of which may stand names in braces or a star with a new name, each followed by `from`.
Statements are found from left to right; where one ends the search goes on behind it.
-/
namespace SourceMatch.Import

open Text

def isQuote (c : Char) : Bool := c = '"' || c = '\''

def afterBlanks? (cs : List Char) : Option (List Char) :=
  match cs.span isBlank with
  | ([], _) => none
  | (_, rest) => some rest

def afterWord? (word : String) (cs : List Char) : Option (List Char) := do
  afterBlanks? (← after? word.toList cs)

def afterNames? (cs : List Char) : Option (List Char) :=
  match cs.dropWhile (· ≠ '\x7d') with
  | _ :: rest => afterWord? "from" (trimLeft rest)
  | [] => none

def afterAlias? (cs : List Char) : Option (List Char) := do
  let cs ← afterWord? "as" (← afterBlanks? cs)
  match cs.span isWord with
  | ([], _) => none
  | (_, rest) => afterWord? "from" (← afterBlanks? rest)

def afterClause? : List Char → Option (List Char)
  | '\x7b' :: rest => afterNames? rest
  | '*' :: rest => afterAlias? rest
  | cs => some cs

/-- A path between quotes, which need not be of one kind. -/
def quoted? : List Char → Option (List Char × List Char)
  | q :: rest =>
    if isQuote q then
      match rest.span (!isQuote ·) with
      | ([], _) => none
      | (_, []) => none
      | (path, _ :: rest) => some (path, rest)
    else none
  | [] => none

def statement? (cs : List Char) : Option (List Char × List Char) := do
  quoted? (← afterClause? (← afterWord? "import" cs))

/-- The paths of all statements; the first `skipped` characters belong to a statement before. -/
def statementPaths (skipped : Nat) : List Char → List (List Char)
  | [] => []
  | c :: cs =>
    match skipped with
    | skipped + 1 => statementPaths skipped cs
    | 0 =>
      match statement? (c :: cs) with
      | some (path, rest) => path :: statementPaths (cs.length - rest.length) cs
      | none => statementPaths 0 cs

def pathsIn (source : String) : List String :=
  (statementPaths 0 source.toList).map String.ofList

end SourceMatch.Import
