import SourceMatch.Text.Scan

/-!
Semantic versions: three numbers, prerelease identifiers and build metadata, their text, and the
total order in which a release stands above its prereleases and build metadata comes last.
-/
namespace SourceMatch

namespace Version

def numberBound : Nat := UInt64.size

inductive Identifier where
  | number (n : Nat)
  | word (cs : List Char)
deriving DecidableEq, Repr

end Version

structure Version where
  major : Nat
  minor : Nat
  patch : Nat
  prerelease : List Version.Identifier
  build : List (List Char)
deriving DecidableEq, Repr

namespace Version

def compareLists {α : Type} (cmp : α → α → Ordering) : List α → List α → Ordering
  | [], [] => .eq
  | [], _ :: _ => .lt
  | _ :: _, [] => .gt
  | a :: as, b :: bs => (cmp a b).then (compareLists cmp as bs)

def compareChars : List Char → List Char → Ordering :=
  compareLists fun a b => compare a.toNat b.toNat

def Identifier.cmp : Identifier → Identifier → Ordering
  | .number m, .number n => compare m n
  | .number _, .word _ => .lt
  | .word _, .number _ => .gt
  | .word v, .word w => compareChars v w

def comparePrerelease : List Identifier → List Identifier → Ordering
  | [], [] => .eq
  | [], _ :: _ => .gt
  | _ :: _, [] => .lt
  | v, w => compareLists Identifier.cmp v w

/-- Digits stand below words; equal numbers are ordered by how many zeros lead them. -/
def compareBuildPart (v w : List Char) : Ordering :=
  match v.all Char.isDigit, w.all Char.isDigit with
  | true, false => .lt
  | false, true => .gt
  | false, false => compareChars v w
  | true, true =>
    let v' := v.dropWhile (· = '0')
    let w' := w.dropWhile (· = '0')
    ((compare v'.length w'.length).then (compareChars v' w')).then (compare v.length w.length)

/-- Absent metadata counts as one empty part. -/
def buildParts (v : Version) : List (List Char) :=
  if v.build.isEmpty then [[]] else v.build

def cmp (v w : Version) : Ordering :=
  (compare v.major w.major).then <|
  (compare v.minor w.minor).then <|
  (compare v.patch w.patch).then <|
  (comparePrerelease v.prerelease w.prerelease).then <|
  compareLists compareBuildPart v.buildParts w.buildParts

def number? (cs : List Char) : Option (Nat × List Char) :=
  match cs.span Char.isDigit with
  | ([], _) => none
  | (digits, rest) =>
    if digits.length > 1 ∧ digits.head? = some '0' then none
    else
      let n := digits.foldl (fun n c => n * 10 + (c.toNat - '0'.toNat)) 0
      if n < numberBound then some (n, rest) else none

def isIdentifierChar (c : Char) : Bool := c.isAlphanum || c = '-'

def dotted? (cs : List Char) : Option (List (List Char) × List Char) :=
  let (body, rest) := cs.span fun c => isIdentifierChar c || c = '.'
  let parts := Text.splitAtChar '.' body
  if parts.any List.isEmpty then none else some (parts, rest)

def Identifier.ofChars? (cs : List Char) : Option Identifier :=
  if cs.all Char.isDigit then
    if cs.length > 1 ∧ cs.head? = some '0' then none
    else some (.number (cs.foldl (fun n c => n * 10 + (c.toNat - '0'.toNat)) 0))
  else some (.word cs)

def prerelease? (cs : List Char) : Option (List Identifier × List Char) :=
  match cs with
  | '-' :: rest => do
    let (parts, rest) ← dotted? rest
    return (← parts.mapM Identifier.ofChars?, rest)
  | _ => some ([], cs)

def build? (cs : List Char) : Option (List (List Char) × List Char) :=
  match cs with
  | '+' :: rest => dotted? rest
  | _ => some ([], cs)

def ofChars? (cs : List Char) : Option Version := do
  let (major, cs) ← number? cs
  let cs ← Text.after? ['.'] cs
  let (minor, cs) ← number? cs
  let cs ← Text.after? ['.'] cs
  let (patch, cs) ← number? cs
  let (prerelease, cs) ← prerelease? cs
  let (build, cs) ← build? cs
  if cs.isEmpty then some ⟨major, minor, patch, prerelease, build⟩ else none

def parse? (text : String) : Option Version := ofChars? text.toList

def Identifier.toChars : Identifier → List Char
  | .number n => Nat.toDigits 10 n
  | .word cs => cs

def join (sep : Char) : List (List Char) → List Char
  | [] => []
  | [part] => part
  | part :: parts => part ++ sep :: join sep parts

def prereleaseChars (prerelease : List Identifier) : List Char :=
  if prerelease.isEmpty then [] else '-' :: join '.' (prerelease.map Identifier.toChars)

end Version

end SourceMatch
