import SourceMatch.Text.Blank
import SourceMatch.Text.Scan

/-!
The version clause of a source: the words `pragma` and `solidity`, blanks behind each, and a text
up to a semicolon. The first complete clause of a source counts, wherever it stands.
-/
namespace SourceMatch.Version.Pragma

open Text

def blanks? (cs : List Char) : Option (List Char × List Char) :=
  match cs.span isBlank with
  | ([], _) => none
  | (blanks, rest) => some (blanks, rest)

/-- The text of a clause that begins here. It is not empty: where a semicolon follows the blanks at
once, the last of several blanks is the text, and trimming leaves nothing of it. -/
def clause? (cs : List Char) : Option (List Char) := do
  let cs ← after? "pragma".toList cs
  let (_, cs) ← blanks? cs
  let cs ← after? "solidity".toList cs
  let (blanks, cs) ← blanks? cs
  match cs.span (· ≠ ';') with
  | (_, []) => none
  | ([], _ :: _) => if 2 ≤ blanks.length then some [] else none
  | (text, _ :: _) => some (trim text)

def first? : List Char → Option (List Char)
  | [] => none
  | c :: cs =>
    match clause? (c :: cs) with
    | some text => some text
    | none => first? cs

def extract? (source : String) : Option String := (first? source.toList).map String.ofList

end SourceMatch.Version.Pragma
