import SourceMatch.Text.Blank
import SourceMatch.Version.Requirement

/-!
Version ranges as package managers write them: alternatives between doubled bars, each of them a
range between two versions or a list of comparators. A comparator without operator and without
wildcard means equality.
-/
namespace SourceMatch.Version.Range

open Text

def isNumeral (c : Char) : Bool := c.isDigit || isWildcard c

def isSuffixChar (c : Char) : Bool := c.isAlphanum || c = '.' || c = '-'

/-- One or more characters of a kind, behind a mark; without them not even the mark is taken. -/
def marked (mark : Char) (kind : Char → Bool) (cs : List Char) : List Char × List Char :=
  match cs with
  | c :: rest =>
    if c = mark then
      match rest.span kind with
      | ([], _) => ([], cs)
      | (taken, rest) => (c :: taken, rest)
    else ([], cs)
  | [] => ([], cs)

def versionText? (cs : List Char) : Option (List Char × List Char) :=
  match cs.span isNumeral with
  | ([], _) => none
  | (first, rest) =>
    let (second, rest) := marked '.' isNumeral rest
    let (third, rest) := if second.isEmpty then ([], rest) else marked '.' isNumeral rest
    let (prerelease, rest) := marked '-' isSuffixChar rest
    let (build, rest) := marked '+' isSuffixChar rest
    some (first ++ second ++ third ++ prerelease ++ build, rest)

structure Token where
  op : Option Operator
  version : List Char
deriving DecidableEq, Repr

def token? (cs : List Char) : Option (Token × List Char) := do
  let (op, rest) := operator? cs
  let rest := trimLeft rest
  let rest := (after? ['v'] rest).getD rest
  let (version, rest) ← versionText? rest
  return (⟨op, version⟩, rest)

def isGap (c : Char) : Bool := isBlank c || c = ','

/-- All comparators of a set: blanks and commas may stand before each, blanks behind the last. The
fuel is the length of the text. -/
def tokens? : Nat → List Char → Option (List Token)
  | 0, _ => none
  | fuel + 1, cs => do
    let (token, rest) ← token? (cs.dropWhile isGap)
    if rest.all isBlank then return [token]
    return token :: (← tokens? fuel rest)

def Token.toChars (t : Token) : List Char :=
  match t.op with
  | some op => op.toChars ++ t.version
  | none => if t.version.any isWildcard then t.version else '=' :: t.version

def hyphenEnds? (cs : List Char) : Option (List Char × List Char) :=
  match cs.span (!isBlank ·) with
  | ([], _) => none
  | (low, rest) =>
    match rest.span isBlank with
    | ([], _) => none
    | (_, '-' :: rest) =>
      match rest.span isBlank with
      | ([], _) => none
      | (_, high) =>
        if high.isEmpty || high.any isBlank then none else some (low, high)
    | _ => none

def dropVs (cs : List Char) : List Char := cs.dropWhile (· = 'v')

def alternative? (cs : List Char) : Option Requirement :=
  match cs with
  | [] => some []
  | [c] => if isWildcard c then some [] else set? [c]
  | cs =>
    match hyphenEnds? cs with
    | some (low, high) =>
      Requirement.ofChars? ('>' :: '=' :: dropVs low ++ ", <=".toList ++ dropVs high)
    | none => set? cs
where
  set? (cs : List Char) : Option Requirement := do
    Requirement.ofPieces? ((← tokens? (cs.length + 1) cs).map Token.toChars)

def parse? (text : String) : Option (List Requirement) :=
  (splitAtDouble '|' text.toList).mapM fun piece => alternative? (trim piece)

def holds (range : List Requirement) (v : Version) : Bool := range.any (·.holds v)

end SourceMatch.Version.Range
