/-!
Sets of characters as ranges of code points. The tables beside this module follow version 17 of the
Unicode standard.
-/
namespace SourceMatch.Unicode

/-- The first and the last code point of each range, in increasing order. -/
abbrev Ranges := Array (Nat × Nat)

def Ranges.contains (ranges : Ranges) (c : Char) : Bool :=
  ranges.any fun range => range.1 ≤ c.toNat && c.toNat ≤ range.2

theorem Ranges.contains_iff {ranges : Ranges} {c : Char} :
    ranges.contains c ↔ ∃ range ∈ ranges, range.1 ≤ c.toNat ∧ c.toNat ≤ range.2 := by
  simp only [Ranges.contains, Array.any_eq_true', Bool.and_eq_true, decide_eq_true_eq]

end SourceMatch.Unicode
