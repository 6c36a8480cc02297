import SourceMatch.Proofs.Version.Requirement
import SourceMatch.Version.Range

/-!
Ranges as they are written: alternatives between doubled bars, each two releases around a hyphen
or up to 32 terms, with blanks, commas and a letter `v` wherever they may stand. Beside their text
stand what they mean and which characters begin, end and make up their parts.
-/
namespace SourceMatch.Version.Range

open Text (isBlank isBlank_of_isDigit Stops stops_cons stops_append)

abbrev Blanks := { cs : List Char // ∀ c ∈ cs, isBlank c = true }

abbrev Space := { cs : List Char // cs ≠ [] ∧ ∀ c ∈ cs, isBlank c = true }

abbrev Separator := { cs : List Char // cs ≠ [] ∧ ∀ c ∈ cs, isGap c = true }

abbrev Sign := { op : Operator // op ≠ .wildcard }

structure Bound where
  marked : Bool
  release : Release

structure Term where
  sign : Option (Sign × Blanks)
  bound : Bound

inductive Alternative where
  | between (low : Bound) (before after : Space) (high : Bound)
  | all (first : Term) (rest : List (Separator × Term)) (short : rest.length < comparatorLimit)

structure Padded where
  before : Blanks
  alternative : Alternative
  after : Blanks

structure Written where
  first : Padded
  rest : List Padded

def Bound.toChars (b : Bound) : List Char :=
  (if b.marked then ['v'] else []) ++ b.release.toChars

def Term.signChars (t : Term) : List Char :=
  match t.sign with
  | some (sign, blanks) => sign.1.toChars ++ blanks.1
  | none => []

def Term.toChars (t : Term) : List Char := t.signChars ++ t.bound.toChars

def following (rest : List (Separator × Term)) : List Char :=
  rest.flatMap fun p => p.1.1 ++ p.2.toChars

def Alternative.toChars : Alternative → List Char
  | .between low before after high =>
    low.toChars ++ (before.1 ++ '-' :: (after.1 ++ high.toChars))
  | .all first rest _ => first.toChars ++ following rest

def Padded.toChars (p : Padded) : List Char := p.before.1 ++ p.alternative.toChars ++ p.after.1

namespace Written

def alternatives (r : Written) : List Alternative :=
  r.first.alternative :: r.rest.map (·.alternative)

def text (r : Written) : String :=
  String.ofList (r.first.toChars ++ r.rest.flatMap fun p => '|' :: '|' :: p.toChars)

end Written

variable {v : Version}

def Term.operator (t : Term) : Operator := (t.sign.map (·.1.1)).getD .exact

def Term.Holds (t : Term) (v : Version) : Prop := t.operator.Relates t.bound.release v

/-- Both ends of a hyphen belong to the range; terms have to hold all. -/
def Alternative.Holds (v : Version) : Alternative → Prop
  | .between low _ _ high =>
    low.release.numbers ≤ v.numbers ∧ v.numbers ≤ high.release.numbers
  | .all first rest _ => first.Holds v ∧ ∀ p ∈ rest, p.2.Holds v

theorem isGap_of_isDigit (c : Char) (digit : c.isDigit = true) : isGap c = false := by
  simp [isGap, isBlank_of_isDigit c digit, ne_of_isDigit digit (d := ',') rfl]

theorem isBlank_of_not_isGap (c : Char) (other : isGap c = false) : isBlank c = false := by
  simp only [isGap, Bool.or_eq_false_iff] at other
  exact other.1

theorem Bound.toChars_ne_nil (b : Bound) : b.toChars ≠ [] := by
  simp [Bound.toChars, Release.toChars_ne_nil]

theorem Bound.stops {kind : Char → Bool} (other : ∀ c, c.isDigit = true → kind c = false)
    (mark : kind 'v' = false) (b : Bound) (cs : List Char) : Stops kind (b.toChars ++ cs) := by
  rw [Bound.toChars]
  cases b.marked with
  | true => exact stops_cons.2 mark
  | false => exact Release.stops other b.release cs

theorem Bound.stops_reverse (front : List Char) (b : Bound) :
    Stops isBlank (front ++ b.toChars).reverse := by
  have numeral := isNumeral_toDigits b.release.patch.toNat
  have split : (front ++ b.toChars).reverse =
      (Nat.toDigits 10 b.release.patch.toNat).reverse ++
        (front ++ (if b.marked then ['v'] else []) ++ Nat.toDigits 10 b.release.major.toNat ++
          '.' :: (Nat.toDigits 10 b.release.minor.toNat ++ ['.'])).reverse := by
    simp [Bound.toChars, Release.toChars]
  rw [split]
  refine stops_append (by simp) fun c hc => isBlank_of_isDigit c ?_
  exact numeral.digits c (List.mem_reverse.1 (List.mem_of_mem_head? hc))

theorem Term.stops {kind : Char → Bool} (other : ∀ c, c.isDigit = true → kind c = false)
    (mark : kind 'v' = false) (signs : ∀ c, isOperatorChar c = true → kind c = false)
    (t : Term) (cs : List Char) : Stops kind (t.toChars ++ cs) := by
  rw [Term.toChars, Term.signChars]
  cases t.sign with
  | none => exact t.bound.stops other mark cs
  | some s =>
    obtain ⟨⟨op, proper⟩, blanks⟩ := s
    cases op with
    | wildcard => exact absurd rfl proper
    | _ => exact stops_cons.2 (signs _ rfl)

theorem isGap_of_isOperatorChar (c : Char) (sign : isOperatorChar c = true) : isGap c = false := by
  simp only [isOperatorChar, List.contains_iff_mem, List.mem_cons, List.not_mem_nil, or_false]
    at sign
  rcases sign with rfl | rfl | rfl | rfl | rfl <;> rfl

theorem Term.stops_isGap (t : Term) (cs : List Char) : Stops isGap (t.toChars ++ cs) :=
  t.stops isGap_of_isDigit rfl isGap_of_isOperatorChar cs

theorem Term.stops_isBlank (t : Term) (cs : List Char) : Stops isBlank (t.toChars ++ cs) :=
  (t.stops_isGap cs).imp isBlank_of_not_isGap

theorem Term.toChars_ne_nil (t : Term) : t.toChars ≠ [] := by
  simp [Term.toChars, t.bound.toChars_ne_nil]

def isTermChar (c : Char) : Bool :=
  isGap c || isOperatorChar c || c.isDigit || c = '.' || c = 'v'

theorem Bound.isTermChar_of_mem {b : Bound} {c : Char} (h : c ∈ b.toChars) :
    isTermChar c = true := by
  rw [Bound.toChars, List.mem_append] at h
  rcases h with h | h
  · split at h
    · simp [isTermChar, List.mem_singleton.1 h]
    · cases h
  · rcases Release.mem_toChars h with digit | dot
    · simp [isTermChar, digit]
    · simp [isTermChar, dot]

theorem isTermChar_of_isBlank {c : Char} (h : isBlank c = true) : isTermChar c = true := by
  simp [isTermChar, isGap, h]

theorem Term.isTermChar_of_mem {t : Term} {c : Char} (h : c ∈ t.toChars) :
    isTermChar c = true := by
  rw [Term.toChars, List.mem_append, Term.signChars] at h
  rcases h with h | h
  · split at h
    · rename_i sign blanks _
      rcases List.mem_append.1 h with h | h
      · simp [isTermChar, isOperatorChar_of_mem h]
      · exact isTermChar_of_isBlank (blanks.2 c h)
    · cases h
  · exact Bound.isTermChar_of_mem h

theorem isTermChar_of_mem_following {rest : List (Separator × Term)} {c : Char}
    (h : c ∈ following rest) : isTermChar c = true := by
  obtain ⟨p, -, h⟩ := List.mem_flatMap.1 h
  rcases List.mem_append.1 h with h | h
  · simp [isTermChar, p.1.2.2 c h]
  · exact Term.isTermChar_of_mem h

theorem Alternative.mem_toChars {a : Alternative} {c : Char} (h : c ∈ a.toChars) :
    isTermChar c = true ∨ c = '-' := by
  cases a with
  | between low before after high =>
    simp only [Alternative.toChars, List.mem_append, List.mem_cons] at h
    rcases h with h | h | h | h | h
    · exact .inl (Bound.isTermChar_of_mem h)
    · exact .inl (isTermChar_of_isBlank (before.2.2 c h))
    · exact .inr h
    · exact .inl (isTermChar_of_isBlank (after.2.2 c h))
    · exact .inl (Bound.isTermChar_of_mem h)
  | all first rest _ =>
    rcases List.mem_append.1 h with h | h
    · exact .inl (Term.isTermChar_of_mem h)
    · exact .inl (isTermChar_of_mem_following h)

theorem Padded.bar_not_mem (p : Padded) : '|' ∉ p.toChars := by
  intro h
  simp only [Padded.toChars, List.mem_append] at h
  have bar : isTermChar '|' = false := by decide
  rcases h with (h | h) | h
  · rw [isTermChar_of_isBlank (p.before.2 _ h)] at bar
    cases bar
  · rcases Alternative.mem_toChars h with h | h
    · rw [h] at bar
      cases bar
    · cases h
  · rw [isTermChar_of_isBlank (p.after.2 _ h)] at bar
    cases bar

end SourceMatch.Version.Range
