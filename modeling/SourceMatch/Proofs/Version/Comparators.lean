import SourceMatch.Proofs.Version.Comparator
import SourceMatch.Proofs.Version.Range
import SourceMatch.Proofs.Version.Scan

/-!
A set that is read is spelled out by its comparators, with nothing between them but blanks and
commas: the requirement has one comparator for each of them, of the same version. Its operator is
the one that is written, and without a sign equality. The one exception is a version without a sign
and without wildcards that has an `x` in its prerelease or build metadata: the letter is taken for
a wildcard, and the version is read as a caret range.
-/
namespace SourceMatch.Version.Range

open Text

variable {cs : List Char} {r : Requirement} {c : Comparator} {l : Lexeme} {s : ComparatorSet}

namespace Lexeme

def operator (l : Lexeme) : Operator :=
  (l.sign.map (·.1)).getD (if l.version.hasWildcard then .wildcard else .exact)

/-- There is no sign and no wildcard, but a letter of the suffixes looks like one. -/
def slips (l : Lexeme) : Bool :=
  l.sign.isNone && !l.version.hasWildcard && l.version.suffixChars.any isWildcard

def readOperator (l : Lexeme) : Operator := if l.slips then .caret else l.operator

def IsWildcard (l : Lexeme) : Prop :=
  l.sign = none ∧ ∃ w, isWildcard w = true ∧ l.version.toChars = [w]

def readSign (l : Lexeme) : Option Sign :=
  match l.sign with
  | some sign => some sign
  | none => if l.version.toChars.any isWildcard then none else some ⟨.exact, by decide⟩

theorem toChars_token (l : Lexeme) :
    l.token.toChars = signChars l.readSign ++ l.version.toChars := by
  rw [Token.toChars, token, readSign]
  cases l.sign with
  | some sign => rfl
  | none =>
    dsimp only [Option.map_none]
    split <;> rfl

end Lexeme

theorem any_isWildcard_part (numeral : Option Numeral) :
    (part '.' numeral).any isWildcard = numeral.toList.any Numeral.isWild := by
  cases numeral with
  | none => rfl
  | some numeral =>
    rw [part, List.any_cons, Option.toList_some, List.any_cons, List.any_nil, Bool.or_false]
    rfl

theorem VersionText.any_isWildcard (v : VersionText) :
    v.toChars.any isWildcard = (v.hasWildcard || v.suffixChars.any isWildcard) := by
  simp only [toChars, hasWildcard, numerals, List.any_append, List.any_cons, any_isWildcard_part,
    Numeral.isWild, Bool.or_assoc]

theorem Lexeme.sign_eq_none (l : Lexeme) (h : l.readSign = none) : l.sign = none := by
  rw [readSign] at h
  cases sign : l.sign with
  | none => rfl
  | some o =>
    rw [sign] at h
    cases h

theorem Lexeme.operator_of_readSign (l : Lexeme) :
    (l.readSign.map (·.1)).getD (if l.version.hasWildcard then .wildcard else .caret) =
      l.readOperator := by
  rw [readOperator, slips, operator, readSign]
  cases l.sign with
  | some sign => rfl
  | none =>
    dsimp only
    rw [l.version.any_isWildcard]
    cases l.version.hasWildcard with
    | true => rfl
    | false => cases l.version.suffixChars.any isWildcard <;> rfl

theorem ofChars?_token (h : Comparator.ofChars? l.token.toChars = some c) :
    l.version.Spells c ∧ c.op = l.readOperator := by
  rw [l.toChars_token] at h
  obtain ⟨spelled, op⟩ := ofChars?_spells h
  exact ⟨spelled, op.trans l.operator_of_readSign⟩

/-- A requirement has a comparator for each of a set, with the same version and the operator given
for it; a single wildcard requires nothing. -/
def ComparatorSet.Spells (operator : Lexeme → Operator) (s : ComparatorSet) (r : Requirement) :
    Prop :=
  (List.Forall₂ (fun l c => l.version.Spells c) s.lexemes r ∧
      r.map (·.op) = s.lexemes.map operator) ∨
    r = [] ∧ ∃ l, s.lexemes = [l] ∧ l.IsWildcard

theorem mapM_token {ls : List Lexeme}
    (h : ls.mapM (fun l => Comparator.ofChars? l.token.toChars) = some r) :
    List.Forall₂ (fun l c => l.version.Spells c) ls r ∧
      r.map (·.op) = ls.map Lexeme.readOperator := by
  induction ls generalizing r with
  | nil =>
    cases h
    exact ⟨.nil, rfl⟩
  | cons l ls ih =>
    rw [List.mapM_cons] at h
    obtain ⟨c, read, h⟩ := Option.bind_eq_some_iff.1 h
    obtain ⟨r, readRest, h⟩ := Option.bind_eq_some_iff.1 h
    cases h
    obtain ⟨version, operator⟩ := ofChars?_token read
    obtain ⟨versions, operators⟩ := ih readRest
    exact ⟨.cons version versions, by rw [List.map_cons, List.map_cons, operator, operators]⟩

theorem ofPieces?_eq_some {pieces : List (List Char)} (h : Requirement.ofPieces? pieces = some r) :
    pieces.mapM Comparator.ofChars? = some r ∨
      r = [] ∧ ∃ piece w rest, pieces = [piece] ∧ dropSpaces piece = w :: rest ∧
        isWildcard w = true ∧ dropSpaces rest = [] := by
  match pieces with
  | [] => exact .inl h
  | [piece] =>
    rw [Requirement.ofPieces?] at h
    split at h
    · rename_i w rest run
      obtain ⟨split, wild, -⟩ := span_eq_iff.1 run
      split at h
      · rename_i finished
        cases h
        exact .inr ⟨rfl, piece, w, rest, rfl, split, wild w List.mem_cons_self,
          List.isEmpty_iff.1 finished⟩
      · cases h
    · exact .inl h
  | piece :: piece' :: pieces =>
    rw [Requirement.ofPieces?] at h
    · split at h
      · exact .inl h
      · cases h
    · simp

theorem isWildcard_of_isOperatorChar (c : Char) (sign : isOperatorChar c = true) :
    isWildcard c = false := by
  cases wild : isWildcard c with
  | false => rfl
  | true =>
    rw [isOperatorChar_of_isNumeral c (by rw [isNumeral, wild, Bool.or_true])] at sign
    cases sign

theorem spells_of_ofPieces?
    (h : Requirement.ofPieces? (s.lexemes.map (·.token.toChars)) = some r) :
    s.Spells Lexeme.readOperator r := by
  rcases ofPieces?_eq_some h with read | ⟨rfl, piece, w, rest, single, split, wild, finished⟩
  · rw [List.mapM_map] at read
    exact .inl (mapM_token read)
  · obtain ⟨l, only, rfl⟩ := List.map_eq_singleton_iff.1 single
    refine .inr ⟨rfl, l, only, ?_⟩
    have solid : Stops isSpace l.version.toChars := l.version.stops_toChars isSpace_of_isNumeral
    rw [l.toChars_token, dropSpaces,
      dropWhile_of_stops (signChars_stops isSpace_of_isOperatorChar solid)] at split
    cases sign : l.readSign with
    | some o =>
      have stop : Stops isWildcard (signChars (some o) ++ l.version.toChars) :=
        o.1.stops_toChars o.2 isWildcard_of_isOperatorChar l.version.toChars
      rw [← sign, split, stops_cons, wild] at stop
      cases stop
    | none =>
      rw [sign, signChars, Option.map_none, Option.getD_none, List.nil_append] at split
      have nothing : rest = [] := by
        refine eq_nil_of_dropSpaces finished fun space => ?_
        have inside : ' ' ∈ l.version.toChars := by
          rw [split]
          exact List.mem_cons_of_mem w space
        cases VersionText.isVersionChar_of_mem inside
      rw [nothing] at split
      exact ⟨l.sign_eq_none sign, w, wild, split⟩

theorem Lexeme.count_caret (l : Lexeme) :
    l.toChars.count '^' = if l.operator = .caret then 1 else 0 := by
  have blanks : l.blanks.1.count '^' = 0 := List.count_eq_zero.2 fun h => by
    cases l.blanks.2 _ h
  have mark : (if l.marked then ['v'] else []).count '^' = 0 := by cases l.marked <;> rfl
  have version : l.version.toChars.count '^' = 0 := List.count_eq_zero.2 fun h => by
    cases VersionText.isVersionChar_of_mem h
  rw [toChars, List.count_append, List.count_append, List.count_append, blanks, mark, version,
    operator]
  cases l.sign with
  | none => cases l.version.hasWildcard <;> rfl
  | some o =>
    obtain ⟨op, proper⟩ := o
    cases op <;> rfl

theorem ComparatorSet.count_caret (s : ComparatorSet) :
    s.toChars.count '^' = (s.lexemes.map Lexeme.operator).count .caret := by
  have after : s.after.1.count '^' = 0 := List.count_eq_zero.2 fun h => by
    cases s.after.2 _ h
  rw [toChars, List.count_append, after, lexemes, Nat.add_zero]
  induction s.items with
  | nil => rfl
  | cons i items ih =>
    have gap : i.1.1.count '^' = 0 := List.count_eq_zero.2 fun h => by
      cases i.1.2 _ h
    rw [List.flatMap_cons, List.count_append, List.count_append, gap, i.2.count_caret, ih]
    simp [List.count_cons]
    omega

theorem Lexeme.operator_of_slips (h : l.slips = true) : l.operator = .exact := by
  simp only [slips, Bool.and_eq_true, Option.isNone_iff_eq_none, Bool.not_eq_true'] at h
  rw [operator, h.1.1, h.1.2]
  rfl

theorem Lexeme.IsWildcard.operator_eq (h : l.IsWildcard) :
    l.operator = .wildcard ∧ l.readOperator = .wildcard := by
  obtain ⟨sign, w, wild, text⟩ := h
  have found : l.version.hasWildcard = true := by
    rw [VersionText.toChars] at text
    have nonempty := l.version.first.2.1
    cases first : l.version.first.1 with
    | nil => exact absurd first nonempty
    | cons c cs =>
      rw [first, List.cons_append] at text
      rw [VersionText.hasWildcard, VersionText.numerals, List.any_cons, Numeral.isWild, first,
        List.any_cons, (List.cons.inj text).1, wild, Bool.true_or, Bool.true_or]
  simp [operator, readOperator, slips, sign, found]

theorem count_readOperator (ls : List Lexeme) :
    (ls.map Lexeme.readOperator).count .caret =
      (ls.map Lexeme.operator).count .caret + ls.countP Lexeme.slips := by
  induction ls with
  | nil => rfl
  | cons l ls ih =>
    rw [List.map_cons, List.map_cons, List.count_cons, List.count_cons, List.countP_cons, ih,
      Lexeme.readOperator]
    cases slip : l.slips with
    | false =>
      simp only [Bool.false_eq_true, if_false]
      omega
    | true =>
      have unwritten : (Operator.exact == .caret) = false := rfl
      rw [Lexeme.operator_of_slips slip, unwritten, if_pos rfl, beq_self_eq_true, if_pos rfl]
      simp only [Bool.false_eq_true, if_false]
      omega

theorem ComparatorSet.Spells.count {operator : Lexeme → Operator} (h : s.Spells operator r)
    (wildcard : ∀ l : Lexeme, l.IsWildcard → operator l = .wildcard) :
    (r.map (·.op)).count .caret = (s.lexemes.map operator).count .caret := by
  rcases h with ⟨-, operators⟩ | ⟨rfl, l, only, wild⟩
  · rw [operators]
  · rw [only, List.map_singleton, wildcard l wild]
    rfl

theorem count_of_spells (h : s.Spells Lexeme.operator r) :
    (r.map (·.op)).count .caret = s.toChars.count '^' := by
  rw [s.count_caret, h.count fun _ wild => wild.operator_eq.1]

theorem spells_operator_iff (h : s.Spells Lexeme.readOperator r) :
    (∃ s' : ComparatorSet, s.toChars = s'.toChars ∧ s'.Spells Lexeme.operator r) ↔
      ∀ l ∈ s.lexemes, l.slips = false := by
  constructor
  · rintro ⟨s', same, spelled⟩
    have written := count_of_spells spelled
    -- `s'` may cut the text in another way, but it has the same characters
    rw [← same, s.count_caret, h.count fun _ wild => wild.operator_eq.2, count_readOperator]
      at written
    have none : s.lexemes.countP Lexeme.slips = 0 := by omega
    intro l hl
    exact Bool.eq_false_iff.2 (List.countP_eq_zero.1 none l hl)
  · intro proper
    refine ⟨s, rfl, ?_⟩
    have same : s.lexemes.map Lexeme.readOperator = s.lexemes.map Lexeme.operator := by
      refine List.map_congr_left fun l hl => ?_
      rw [Lexeme.readOperator, proper l hl]
      rfl
    rcases h with ⟨versions, operators⟩ | wildcard
    · exact .inl ⟨versions, operators.trans same⟩
    · exact .inr wildcard

theorem alternative?_eq_set? (nonempty : cs ≠ [])
    (noWildcard : ∀ c, cs = [c] → isWildcard c = false) (noHyphen : hyphenEnds? cs = none) :
    alternative? cs = alternative?.set? cs := by
  match cs with
  | [] => exact absurd rfl nonempty
  | [c] =>
    rw [alternative?, noWildcard c rfl]
    rfl
  | c :: d :: cs => rw [alternative?_eq (by simp), noHyphen]

/-- The scan never takes a slice out of order, and a set that is read, which is no hyphen range and
no single wildcard, is nothing but its comparators. Their operators are those that are written
unless one of them slips. -/
theorem reads_comparators_iff (cs : List Char) :
    scan cs = some (tokens? (cs.length + 1) cs) ∧
    ((find 0 0 cs).Pairwise fun f g => f.stop ≤ g.start) ∧
    ∀ r, cs ≠ [] → (∀ c, cs = [c] → isWildcard c = false) → hyphenEnds? cs = none →
      alternative? cs = some r →
      ∃ s : ComparatorSet, cs = s.toChars ∧ scan cs = some (some (s.lexemes.map (·.token))) ∧
        s.Spells Lexeme.readOperator r ∧
        ((∃ s' : ComparatorSet, cs = s'.toChars ∧ s'.Spells Lexeme.operator r) ↔
          ∀ l ∈ s.lexemes, l.slips = false) := by
  refine ⟨scan_eq cs, find_pairwise 0 0 cs, ?_⟩
  intro r nonempty noWildcard noHyphen read
  rw [alternative?_eq_set? nonempty noWildcard noHyphen] at read
  obtain ⟨ts, tokens, pieces⟩ := Option.bind_eq_some_iff.1 read
  obtain ⟨s, rfl, rfl⟩ := tokens?_eq_some tokens
  rw [List.map_map] at pieces
  have spelled := spells_of_ofPieces? pieces
  exact ⟨s, rfl, by rw [scan_eq, tokens], spelled, spells_operator_iff spelled⟩

theorem reads_comparators_sample :
    let text := ">=0.8.0-rc.1 , 0.8.18-experimental+x 0.x".toList
    let r : Requirement := [⟨.greaterEq, 0, some 8, some 0, [.word "rc".toList, .number 1]⟩,
      ⟨.caret, 0, some 8, some 18, [.word "experimental".toList]⟩, ⟨.wildcard, 0, none, none, []⟩]
    ∃ s : ComparatorSet, text = s.toChars ∧ scan text = some (some (s.lexemes.map (·.token))) ∧
      s.Spells Lexeme.readOperator r ∧
      ((∃ s' : ComparatorSet, text = s'.toChars ∧ s'.Spells Lexeme.operator r) ↔
        ∀ l ∈ s.lexemes, l.slips = false) :=
  (reads_comparators_iff _).2.2 _ (by decide) (fun c => by simp) (by decide) (by decide)

theorem experimental_read_as_caret :
    let text := "0.8.18-experimental".toList
    let r : Requirement := [⟨.caret, 0, some 8, some 18, [.word "experimental".toList]⟩]
    trim text = text ∧ 1 < text.length ∧ hyphenEnds? text = none ∧ alternative? text = some r ∧
      ¬∃ s : ComparatorSet, text = s.toChars ∧ s.Spells Lexeme.operator r := by
  intro text r
  refine ⟨by decide, by decide, by decide, by decide, ?_⟩
  rintro ⟨s, same, spelled⟩
  have carets := count_of_spells spelled
  rw [← same] at carets
  cases carets

end SourceMatch.Version.Range
