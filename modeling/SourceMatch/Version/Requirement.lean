import SourceMatch.Version.Basic

/-!
Requirements on versions: a list of comparators that all have to hold. A prerelease satisfies a
requirement only if one of its comparators names a prerelease of the same three numbers.
-/
namespace SourceMatch.Version

inductive Operator where
  | exact
  | greater
  | greaterEq
  | less
  | lessEq
  | tilde
  | caret
  | wildcard
deriving DecidableEq, Repr

/-- A comparator; numbers from some place on may be absent. -/
structure Comparator where
  op : Operator
  major : Nat
  minor : Option Nat
  patch : Option Nat
  prerelease : List Identifier
deriving DecidableEq, Repr

abbrev Requirement := List Comparator

namespace Comparator

def equals (c : Comparator) (v : Version) : Bool :=
  v.major == c.major && c.minor.all (v.minor == ·) && c.patch.all (v.patch == ·) &&
    v.prerelease == c.prerelease

def isBelow (c : Comparator) (v : Version) : Bool :=
  if v.major ≠ c.major then c.major < v.major else
  match c.minor with
  | none => false
  | some minor =>
    if v.minor ≠ minor then minor < v.minor else
    match c.patch with
    | none => false
    | some patch =>
      if v.patch ≠ patch then patch < v.patch
      else comparePrerelease v.prerelease c.prerelease == .gt

def isAbove (c : Comparator) (v : Version) : Bool :=
  if v.major ≠ c.major then v.major < c.major else
  match c.minor with
  | none => false
  | some minor =>
    if v.minor ≠ minor then v.minor < minor else
    match c.patch with
    | none => false
    | some patch =>
      if v.patch ≠ patch then v.patch < patch
      else comparePrerelease v.prerelease c.prerelease == .lt

def prereleaseAtLeast (c : Comparator) (v : Version) : Bool :=
  comparePrerelease v.prerelease c.prerelease != .lt

def tilde (c : Comparator) (v : Version) : Bool :=
  v.major == c.major && c.minor.all (v.minor == ·) &&
    match c.patch with
    | none => c.prereleaseAtLeast v
    | some patch => if v.patch ≠ patch then patch < v.patch else c.prereleaseAtLeast v

def caret (c : Comparator) (v : Version) : Bool :=
  v.major == c.major &&
    match c.minor, c.patch with
    | none, _ => true
    | some minor, none => if 0 < c.major then minor ≤ v.minor else v.minor == minor
    | some minor, some patch =>
      if 0 < c.major then
        if v.minor ≠ minor then minor < v.minor
        else if v.patch ≠ patch then patch < v.patch
        else c.prereleaseAtLeast v
      else if 0 < minor then
        if v.minor ≠ minor then false
        else if v.patch ≠ patch then patch < v.patch
        else c.prereleaseAtLeast v
      else if v.minor ≠ minor ∨ v.patch ≠ patch then false
      else c.prereleaseAtLeast v

def holds (c : Comparator) (v : Version) : Bool :=
  match c.op with
  | .exact | .wildcard => c.equals v
  | .greater => c.isBelow v
  | .greaterEq => c.equals v || c.isBelow v
  | .less => c.isAbove v
  | .lessEq => c.equals v || c.isAbove v
  | .tilde => c.tilde v
  | .caret => c.caret v

def admitsPrerelease (c : Comparator) (v : Version) : Bool :=
  c.major == v.major && c.minor == some v.minor && c.patch == some v.patch &&
    !c.prerelease.isEmpty

end Comparator

def Requirement.holds (r : Requirement) (v : Version) : Bool :=
  r.all (·.holds v) && (v.prerelease.isEmpty || r.any (·.admitsPrerelease v))

def isWildcard (c : Char) : Bool := c = '*' || c = 'x' || c = 'X'

def operator? : List Char → Option Operator × List Char
  | '=' :: cs => (some .exact, cs)
  | '>' :: '=' :: cs => (some .greaterEq, cs)
  | '>' :: cs => (some .greater, cs)
  | '<' :: '=' :: cs => (some .lessEq, cs)
  | '<' :: cs => (some .less, cs)
  | '~' :: cs => (some .tilde, cs)
  | '^' :: cs => (some .caret, cs)
  | cs => (none, cs)

def nextNumber? : List Char → Option (Option Nat × Bool × List Char)
  | '.' :: c :: cs =>
    if isWildcard c then some (none, true, cs)
    else (number? (c :: cs)).map fun (n, rest) => (some n, false, rest)
  | ['.'] => none
  | cs => some (none, false, cs)

def isSpace (c : Char) : Bool := c = ' '

def dropSpaces (cs : List Char) : List Char := cs.dropWhile isSpace

/-- A comparator with spaces around it. Behind a wildcard no number may follow; without an operator
a wildcard makes an equality and its absence a caret. Build metadata is read and dropped. -/
def Comparator.ofChars? (cs : List Char) : Option Comparator := do
  let (op, cs) := operator? (dropSpaces cs)
  let (major, cs) ← number? (dropSpaces cs)
  let (minor, wildMinor, cs) ← nextNumber? cs
  let (patch, wildPatch, cs) ← nextNumber? cs
  if wildMinor ∧ patch.isSome then none
  let (prerelease, cs) ← if patch.isSome then prerelease? cs else some ([], cs)
  let (_, cs) ← if patch.isSome then build? cs else some ([], cs)
  if (dropSpaces cs).isEmpty then
    let op := op.getD (if wildMinor ∨ wildPatch then .wildcard else .caret)
    some ⟨op, major, minor, patch, prerelease⟩
  else none

def comparatorLimit : Nat := 32

def Requirement.ofPieces? (pieces : List (List Char)) : Option Requirement :=
  match pieces with
  | [piece] =>
    match (dropSpaces piece).span isWildcard with
    | ([_], rest) => if (dropSpaces rest).isEmpty then some [] else none
    | _ => [piece].mapM Comparator.ofChars?
  | pieces =>
    if pieces.length ≤ comparatorLimit then pieces.mapM Comparator.ofChars? else none

def Requirement.ofChars? (cs : List Char) : Option Requirement :=
  Requirement.ofPieces? (Text.splitAtChar ',' cs)

def Operator.toChars : Operator → List Char
  | .exact => ['=']
  | .greater => ['>']
  | .greaterEq => ['>', '=']
  | .less => ['<']
  | .lessEq => ['<', '=']
  | .tilde => ['~']
  | .caret => ['^']
  | .wildcard => []

def Comparator.toChars (c : Comparator) : List Char :=
  let star := if c.op = .wildcard then ['.', '*'] else []
  c.op.toChars ++ Nat.toDigits 10 c.major ++
    match c.minor, c.patch with
    | none, _ => star
    | some minor, none => '.' :: Nat.toDigits 10 minor ++ star
    | some minor, some patch =>
      '.' :: Nat.toDigits 10 minor ++ '.' :: Nat.toDigits 10 patch ++
        prereleaseChars c.prerelease

def Requirement.toText (r : Requirement) : String :=
  if r.isEmpty then "*"
  else ", ".intercalate (r.map fun c => String.ofList c.toChars)

end SourceMatch.Version
