import SourceMatch.Text.Scan

/-!
Runs of characters for which other characters are put, and their written form in tables: the first
and the last code point in hexadecimal, a mark for the rule, and the code points that are put, with
dots between them.
-/
namespace SourceMatch.Unicode

inductive Run.Rule where
  | same
  | along
  | alternate
deriving DecidableEq, Repr

structure Run where
  first : Nat
  last : Nat
  rule : Run.Rule
  target : List Nat
deriving DecidableEq, Repr

namespace Run

def digit (c : Char) : Nat :=
  if c.isDigit then c.toNat - '0'.toNat else c.toNat - 'A'.toNat + 10

def number (cs : List Char) : Nat := cs.foldl (fun n c => n * 16 + digit c) 0

def Rule.ofChar : Char → Rule
  | ':' => .along
  | '/' => .alternate
  | _ => .same

def ofChars? (cs : List Char) : Option Run :=
  match cs.span fun c => c.isAlphanum || c = '-' with
  | (source, mark :: target) =>
    let (first, last) := source.span (· ≠ '-')
    let first := number first
    some {
      first
      last := if last.isEmpty then first else number (last.drop 1)
      rule := .ofChar mark
      target := (Text.splitAtChar '.' target).map number }
  | (_, []) => none

def ofRows (rows : List String) : Array Run :=
  (rows.flatMap fun row => (Text.splitAtChar ' ' row.toList).filterMap ofChars?).toArray

def put? (r : Run) (n : Nat) : Option (List Nat) :=
  if n < r.first ∨ r.last < n then none
  else
    match r.rule with
    | .same => some r.target
    | .along => some (r.target.map (· + (n - r.first)))
    | .alternate =>
      if (n - r.first) % 2 = 0 then some (r.target.map (· + (n - r.first))) else none

end Run

end SourceMatch.Unicode
