import SourceMatch.Proofs.Version.Text
import SourceMatch.Version.Requirement
import Mathlib.Data.Prod.Lex

/-!
Comparators with three numbers. A comparator that is spelled out with its operator is read again,
and of a version without prerelease it says what the operator says of three numbers each, ordered
lexicographically.
-/
namespace SourceMatch.Version

open Text (Stops stops_nil stops_cons stops_append dropWhile_of_stops)

structure Release where
  major : UInt64
  minor : UInt64
  patch : UInt64
deriving DecidableEq, Repr, Inhabited

abbrev Numbers := Nat ×ₗ Nat ×ₗ Nat

def numbers (v : Version) : Numbers := toLex (v.major, toLex (v.minor, v.patch))

namespace Release

def numbers (r : Release) : Numbers :=
  toLex (r.major.toNat, toLex (r.minor.toNat, r.patch.toNat))

def toChars (r : Release) : List Char :=
  Nat.toDigits 10 r.major.toNat ++ '.' :: (Nat.toDigits 10 r.minor.toNat ++
    '.' :: Nat.toDigits 10 r.patch.toNat)

def comparator (r : Release) (op : Operator) : Comparator :=
  ⟨op, r.major.toNat, some r.minor.toNat, some r.patch.toNat, []⟩

end Release

/-- What an operator and a release say of a version. A tilde fixes the first two numbers, a caret
all numbers up to the first one that is not zero. -/
def Operator.Relates (op : Operator) (r : Release) (v : Version) : Prop :=
  match op with
  | .exact | .wildcard => v.numbers = r.numbers
  | .greater => r.numbers < v.numbers
  | .greaterEq => r.numbers ≤ v.numbers
  | .less => v.numbers < r.numbers
  | .lessEq => v.numbers ≤ r.numbers
  | .tilde => r.numbers ≤ v.numbers ∧ v.major = r.major.toNat ∧ v.minor = r.minor.toNat
  | .caret => r.numbers ≤ v.numbers ∧ v.major = r.major.toNat ∧
      (r.major = 0 → v.minor = r.minor.toNat ∧ (r.minor = 0 → v.patch = r.patch.toNat))

section

variable {r : Release} {v : Version}

theorem numbers_eq_iff : v.numbers = r.numbers ↔
    v.major = r.major.toNat ∧ v.minor = r.minor.toNat ∧ v.patch = r.patch.toNat := by
  simp [numbers, Release.numbers]

theorem lt_numbers_iff : r.numbers < v.numbers ↔
    r.major.toNat < v.major ∨ r.major.toNat = v.major ∧
      (r.minor.toNat < v.minor ∨ r.minor.toNat = v.minor ∧ r.patch.toNat < v.patch) := by
  simp [numbers, Release.numbers, Prod.Lex.toLex_lt_toLex]

theorem numbers_lt_iff : v.numbers < r.numbers ↔
    v.major < r.major.toNat ∨ v.major = r.major.toNat ∧
      (v.minor < r.minor.toNat ∨ v.minor = r.minor.toNat ∧ v.patch < r.patch.toNat) := by
  simp [numbers, Release.numbers, Prod.Lex.toLex_lt_toLex]

theorem equals_comparator (op : Operator) (released : v.prerelease = []) :
    (r.comparator op).equals v = true ↔ v.numbers = r.numbers := by
  simp [Comparator.equals, Release.comparator, released, numbers_eq_iff, and_assoc]

theorem isBelow_comparator (op : Operator) (released : v.prerelease = []) :
    (r.comparator op).isBelow v = true ↔ r.numbers < v.numbers := by
  have level : comparePrerelease [] [] = .eq := rfl
  rw [Release.comparator, lt_numbers_iff]
  simp only [Comparator.isBelow, released, level]
  split
  · simp
    omega
  · split
    · simp
      omega
    · split <;> simp <;> omega

theorem isAbove_comparator (op : Operator) (released : v.prerelease = []) :
    (r.comparator op).isAbove v = true ↔ v.numbers < r.numbers := by
  have level : comparePrerelease [] [] = .eq := rfl
  rw [Release.comparator, numbers_lt_iff]
  simp only [Comparator.isAbove, released, level]
  split
  · simp
    omega
  · split
    · simp
      omega
    · split <;> simp <;> omega

theorem tilde_comparator (op : Operator) (released : v.prerelease = []) :
    (r.comparator op).tilde v = true ↔ Operator.tilde.Relates r v := by
  have level : comparePrerelease [] [] = .eq := rfl
  have least : (r.comparator op).prereleaseAtLeast v = true := by
    simp [Comparator.prereleaseAtLeast, Release.comparator, released, level]
  simp only [Comparator.tilde, Release.comparator, Operator.Relates, le_iff_lt_or_eq,
    lt_numbers_iff, eq_comm (a := r.numbers), numbers_eq_iff] at least ⊢
  simp only [least]
  split <;> simp <;> omega

theorem caret_comparator (op : Operator) (released : v.prerelease = []) :
    (r.comparator op).caret v = true ↔ Operator.caret.Relates r v := by
  have level : comparePrerelease [] [] = .eq := rfl
  have least : (r.comparator op).prereleaseAtLeast v = true := by
    simp [Comparator.prereleaseAtLeast, Release.comparator, released, level]
  have major_zero : r.major = 0 ↔ r.major.toNat = 0 := by
    rw [← UInt64.toNat_inj]; rfl
  have minor_zero : r.minor = 0 ↔ r.minor.toNat = 0 := by
    rw [← UInt64.toNat_inj]; rfl
  simp only [Comparator.caret, Release.comparator, Operator.Relates, le_iff_lt_or_eq,
    lt_numbers_iff, eq_comm (a := r.numbers), numbers_eq_iff, major_zero, minor_zero] at least ⊢
  simp only [least]
  split
  · split
    · simp
      omega
    · split <;> simp <;> omega
  · split
    · split
      · simp
        omega
      · split <;> simp <;> omega
    · split <;> simp <;> omega

theorem holds_comparator (op : Operator) (released : v.prerelease = []) :
    (r.comparator op).holds v = true ↔ op.Relates r v := by
  have equals := equals_comparator (r := r) op released
  cases op with
  | exact => exact equals
  | wildcard => exact equals
  | greater => exact isBelow_comparator _ released
  | less => exact isAbove_comparator _ released
  | greaterEq =>
    have below := isBelow_comparator (r := r) .greaterEq released
    rw [Comparator.holds, Release.comparator] at *
    rw [Bool.or_eq_true, equals, below, Operator.Relates, le_iff_lt_or_eq,
      eq_comm (a := r.numbers), or_comm]
  | lessEq =>
    have above := isAbove_comparator (r := r) .lessEq released
    rw [Comparator.holds, Release.comparator] at *
    rw [Bool.or_eq_true, equals, above, Operator.Relates, le_iff_lt_or_eq, or_comm]
  | tilde => exact tilde_comparator _ released
  | caret => exact caret_comparator _ released

end

def isOperatorChar (c : Char) : Bool := ['=', '>', '<', '~', '^'].contains c

theorem isOperatorChar_of_mem {op : Operator} {c : Char} (h : c ∈ op.toChars) :
    isOperatorChar c = true := by
  have all : op.toChars.all isOperatorChar = true := by cases op <;> rfl
  exact List.all_eq_true.1 all c h

theorem Operator.stops_toChars {op : Operator} {kind : Char → Bool} (proper : op ≠ .wildcard)
    (other : ∀ c, isOperatorChar c = true → kind c = false) (cs : List Char) :
    Stops kind (op.toChars ++ cs) := by
  have nonempty : op.toChars ≠ [] := by
    cases op with
    | wildcard => exact absurd rfl proper
    | _ => exact List.cons_ne_nil _ _
  refine stops_append nonempty fun c first => other c ?_
  exact isOperatorChar_of_mem (List.mem_of_mem_head? first)

theorem isSpace_of_isOperatorChar (c : Char) (sign : isOperatorChar c = true) :
    isSpace c = false := by
  cases space : isSpace c with
  | false => rfl
  | true =>
    rw [of_decide_eq_true space] at sign
    cases sign

theorem operator?_of_stops {rest : List Char} (stop : Stops isOperatorChar rest) :
    operator? rest = (none, rest) := by
  cases rest with
  | nil => rfl
  | cons c rest =>
    have other := stops_cons.1 stop
    simp [isOperatorChar] at other
    simp [operator?, other]

theorem operator?_toChars {op : Operator} {rest : List Char} (proper : op ≠ .wildcard)
    (stop : Stops isOperatorChar rest) : operator? (op.toChars ++ rest) = (some op, rest) := by
  cases op with
  | greater | less =>
    cases rest with
    | nil => rfl
    | cons c rest =>
      have other := stops_cons.1 stop
      simp [isOperatorChar] at other
      simp [operator?, Operator.toChars, other]
  | wildcard => exact absurd rfl proper
  | _ => rfl

theorem ne_of_isDigit {c d : Char} (digit : c.isDigit = true) (other : d.isDigit = false) :
    c ≠ d := by
  rintro rfl
  rw [digit] at other
  cases other

theorem isOperatorChar_of_isDigit (c : Char) (digit : c.isDigit = true) :
    isOperatorChar c = false := by
  simp [isOperatorChar, ne_of_isDigit digit (d := '=') rfl, ne_of_isDigit digit (d := '>') rfl,
    ne_of_isDigit digit (d := '<') rfl, ne_of_isDigit digit (d := '~') rfl,
    ne_of_isDigit digit (d := '^') rfl]

theorem isWildcard_of_isDigit (c : Char) (digit : c.isDigit = true) : isWildcard c = false := by
  simp [isWildcard, ne_of_isDigit digit (d := '*') rfl, ne_of_isDigit digit (d := 'x') rfl,
    ne_of_isDigit digit (d := 'X') rfl]

theorem isSpace_of_isDigit (c : Char) (digit : c.isDigit = true) : isSpace c = false :=
  decide_eq_false (ne_of_isDigit digit rfl)

theorem stops_toDigits {kind : Char → Bool} (other : ∀ c, c.isDigit = true → kind c = false)
    (n : Nat) (rest : List Char) : Stops kind (Nat.toDigits 10 n ++ rest) := by
  have numeral := isNumeral_toDigits n
  refine stops_append numeral.ne_nil fun c hc => other c ?_
  exact numeral.digits c (List.mem_of_mem_head? hc)

theorem Release.stops {kind : Char → Bool} (other : ∀ c, c.isDigit = true → kind c = false)
    (r : Release) (cs : List Char) : Stops kind (r.toChars ++ cs) := by
  rw [Release.toChars, List.append_assoc]
  exact stops_toDigits other _ _

theorem Release.mem_toChars {r : Release} {c : Char} (h : c ∈ r.toChars) :
    c.isDigit = true ∨ c = '.' := by
  simp only [Release.toChars, List.mem_append, List.mem_cons] at h
  rcases h with h | h | h | h | h
  · exact .inl ((isNumeral_toDigits _).digits c h)
  · exact .inr h
  · exact .inl ((isNumeral_toDigits _).digits c h)
  · exact .inr h
  · exact .inl ((isNumeral_toDigits _).digits c h)

theorem Release.toChars_ne_nil (r : Release) : r.toChars ≠ [] := by
  simp [Release.toChars]

theorem Release.two_le_length (r : Release) : 2 ≤ r.toChars.length := by
  simp [Release.toChars]
  omega

theorem nextNumber?_toDigits {n : Nat} {rest : List Char} (bound : n < numberBound)
    (stop : Stops Char.isDigit rest) :
    nextNumber? ('.' :: (Nat.toDigits 10 n ++ rest)) = some (some n, false, rest) := by
  have read := number?_toDigits bound stop
  have first : Stops isWildcard (Nat.toDigits 10 n ++ rest) :=
    stops_toDigits isWildcard_of_isDigit n rest
  cases text : Nat.toDigits 10 n ++ rest with
  | nil => simp [Nat.toDigits_ne_nil] at text
  | cons c cs =>
    rw [text] at read first
    simp [nextNumber?, stops_cons.1 first, read]

theorem toNat_lt_numberBound (n : UInt64) : n.toNat < numberBound := n.toNat_lt

theorem ofChars?_space (cs : List Char) :
    Comparator.ofChars? (' ' :: cs) = Comparator.ofChars? cs := by
  have dropped : dropSpaces (' ' :: cs) = dropSpaces cs := List.dropWhile_cons_of_pos rfl
  rw [Comparator.ofChars?, dropped, Comparator.ofChars?]

theorem ofChars?_comparator {op : Operator} (proper : op ≠ .wildcard) (r : Release) :
    Comparator.ofChars? (op.toChars ++ r.toChars) = some (r.comparator op) := by
  have noSpace : Stops isSpace r.toChars := stops_toDigits isSpace_of_isDigit _ _
  have noOperator : Stops isOperatorChar r.toChars := stops_toDigits isOperatorChar_of_isDigit _ _
  have operator : Stops isSpace (op.toChars ++ r.toChars) :=
    op.stops_toChars proper isSpace_of_isOperatorChar r.toChars
  have dot (cs : List Char) : Stops Char.isDigit ('.' :: cs) := stops_cons.2 rfl
  have major := number?_toDigits (toNat_lt_numberBound r.major)
    (dot (Nat.toDigits 10 r.minor.toNat ++ '.' :: Nat.toDigits 10 r.patch.toNat))
  have minor := nextNumber?_toDigits (toNat_lt_numberBound r.minor)
    (dot (Nat.toDigits 10 r.patch.toNat))
  have patch := nextNumber?_toDigits (toNat_lt_numberBound r.patch) (stops_nil Char.isDigit)
  rw [List.append_nil] at patch
  rw [Comparator.ofChars?, dropSpaces, dropWhile_of_stops operator,
    operator?_toChars proper noOperator]
  dsimp only
  rw [dropSpaces, dropWhile_of_stops noSpace, Release.toChars, major]
  simp only [Option.bind_eq_bind, Option.bind_some, minor, patch]
  have prerelease : prerelease? [] = some ([], []) := rfl
  have build : build? [] = some ([], []) := rfl
  simp only [prerelease, build, Bool.false_eq_true, false_and, if_false, Option.isSome_some, if_true,
    Option.bind_some]
  rfl

end SourceMatch.Version
