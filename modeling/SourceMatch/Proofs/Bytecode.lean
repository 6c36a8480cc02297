import Mathlib.Tactic.Tauto
import SourceMatch.Bytecode

/-!
What a comparison of codes says. Two codes match in part exactly if both can be cut before their
last 86 bytes, between two characters, and the bytes before the cuts are the same. To match, in
whole or in part, is an equivalence of codes, and codes that match are of the same length.
-/
namespace SourceMatch.Bytecode

variable {n : Nat} {cs rest body : List Char} {code deployed compiled a b c : String}

theorem utf8ByteSize_cons (c : Char) (cs : List Char) :
    (String.ofList (c :: cs)).utf8ByteSize = c.utf8Size + (String.ofList cs).utf8ByteSize := by
  have front : String.ofList (c :: cs) = String.singleton c ++ String.ofList cs := by
    rw [String.singleton_eq_ofList, ← String.ofList_append]
    rfl
  rw [front, String.utf8ByteSize_append, String.utf8ByteSize_singleton]

theorem utf8ByteSize_reverse (cs : List Char) :
    (String.ofList cs.reverse).utf8ByteSize = (String.ofList cs).utf8ByteSize := by
  induction cs with
  | nil => rfl
  | cons c cs ih =>
    rw [List.reverse_cons, String.ofList_append, String.utf8ByteSize_append, ih,
      utf8ByteSize_cons, utf8ByteSize_cons c cs, Nat.add_comm]
    rfl

theorem dropBytes?_eq_some_iff :
    dropBytes? n cs = some rest ↔
      ∃ front, cs = front ++ rest ∧ (String.ofList front).utf8ByteSize = n := by
  induction cs generalizing n with
  | nil =>
    cases n with
    | zero =>
      rw [dropBytes?]
      cases rest <;> simp
    | succ n =>
      rw [dropBytes?]
      simp
  | cons c cs ih =>
    cases n with
    | zero =>
      rw [dropBytes?]
      simp
    | succ n =>
      have size := c.utf8Size_pos
      rw [dropBytes?]
      constructor
      · intro h
        split at h
        · rename_i fits
          obtain ⟨front, rfl, dropped⟩ := ih.1 h
          exact ⟨c :: front, rfl, by rw [utf8ByteSize_cons]; omega⟩
        · cases h
      · rintro ⟨front, split, dropped⟩
        cases front with
        | nil => cases dropped
        | cons c' front =>
          obtain ⟨rfl, rfl⟩ := List.cons.inj split
          rw [utf8ByteSize_cons] at dropped
          rw [if_pos (by omega), ih]
          exact ⟨front, rfl, by omega⟩

theorem withoutTrailer?_eq_some_iff :
    withoutTrailer? code = some body ↔
      ∃ trailer, code = String.ofList body ++ trailer ∧ trailer.utf8ByteSize = trailerLength := by
  rw [withoutTrailer?, Option.map_eq_some_iff]
  constructor
  · rintro ⟨rest, dropped, rfl⟩
    obtain ⟨front, split, size⟩ := dropBytes?_eq_some_iff.1 dropped
    refine ⟨String.ofList front.reverse, ?_, ?_⟩
    · rw [← String.ofList_append, ← List.reverse_append, ← split, List.reverse_reverse,
        String.ofList_toList]
    · rw [utf8ByteSize_reverse, size]
  · rintro ⟨trailer, rfl, size⟩
    refine ⟨body.reverse, dropBytes?_eq_some_iff.2 ⟨trailer.toList.reverse, ?_, ?_⟩, ?_⟩
    · rw [String.toList_append, String.toList_ofList, List.reverse_append]
    · rw [utf8ByteSize_reverse, String.ofList_toList, size]
    · exact List.reverse_reverse body

def cut (code : String) : String.Pos.Raw := ⟨code.utf8ByteSize - trailerLength⟩

def beforeCut (code : String) : ByteArray := code.toByteArray.extract 0 (cut code).byteIdx

/-- A code is long enough to be cut, and the cut falls between two characters. -/
structure HasTrailer (code : String) : Prop where
  long : trailerLength ≤ code.utf8ByteSize
  between : (cut code).IsValid code

theorem beforeCut_of_withoutTrailer? (h : withoutTrailer? code = some body) :
    HasTrailer code ∧ beforeCut code = (String.ofList body).toByteArray := by
  obtain ⟨trailer, rfl, size⟩ := withoutTrailer?_eq_some_iff.1 h
  have place : cut (String.ofList body ++ trailer) = (String.ofList body).rawEndPos := by
    rw [cut, String.utf8ByteSize_append, size, Nat.add_sub_cancel]
    rfl
  refine ⟨⟨?_, ?_⟩, ?_⟩
  · rw [String.utf8ByteSize_append, size]
    exact Nat.le_add_left _ _
  · rw [place]
    exact String.Pos.Raw.isValid_iff_exists_append.2 ⟨_, trailer, rfl, rfl⟩
  · rw [beforeCut, place, String.toByteArray_append]
    exact ByteArray.extract_append_eq_left String.size_toByteArray.symm

theorem exists_of_hasTrailer (h : HasTrailer code) : ∃ body, withoutTrailer? code = some body := by
  obtain ⟨front, trailer, split, place⟩ := String.Pos.Raw.isValid_iff_exists_append.1 h.between
  have long := h.long
  have front_size : code.utf8ByteSize - trailerLength = front.utf8ByteSize :=
    congrArg String.Pos.Raw.byteIdx place
  have whole : code.utf8ByteSize = front.utf8ByteSize + trailer.utf8ByteSize := by
    rw [split, String.utf8ByteSize_append]
  refine ⟨front.toList, withoutTrailer?_eq_some_iff.2 ⟨trailer, ?_, by omega⟩⟩
  rw [String.ofList_toList, split]

theorem compare_self (code : String) : compare code code = .full := if_pos rfl

theorem compare_eq_full_iff : compare deployed compiled = .full ↔ deployed = compiled := by
  rw [compare]
  split
  · rename_i same
    simp [same]
  · rename_i other
    split
    · split <;> simp [other]
    · simp [other]

theorem compare_eq_partialMatch_iff :
    compare deployed compiled = .partialMatch ↔ deployed ≠ compiled ∧
      ∃ body, withoutTrailer? deployed = some body ∧ withoutTrailer? compiled = some body := by
  rw [compare]
  split
  · rename_i same
    simp [same]
  · rename_i other
    split
    · rename_i x y first second
      rw [first, second]
      by_cases same : x = y <;> simp [other, same, eq_comm]
    · rename_i none
      simp only [reduceCtorEq, false_iff, not_and, not_exists]
      exact fun _ body first second => none body body first second

theorem isMatch_iff :
    (compare deployed compiled).isMatch = true ↔ deployed = compiled ∨
      ∃ body, withoutTrailer? deployed = some body ∧ withoutTrailer? compiled = some body := by
  rw [← compare_eq_full_iff]
  have partly : compare deployed compiled = .partialMatch ↔ _ := compare_eq_partialMatch_iff
  by_cases same : deployed = compiled
  · simp [compare_eq_full_iff.2 same, MatchKind.isMatch]
  · simp only [ne_eq, same, not_false_eq_true, true_and] at partly
    rw [← partly]
    cases compare deployed compiled <;> simp [MatchKind.isMatch]

theorem compare_comm (a b : String) : compare a b = compare b a := by
  rw [compare, compare]
  by_cases same : a = b
  · simp [same]
  · rw [if_neg same, if_neg (Ne.symm same)]
    cases withoutTrailer? a <;> cases withoutTrailer? b <;> simp [eq_comm]

theorem utf8ByteSize_eq_of_isMatch (h : (compare a b).isMatch = true) :
    a.utf8ByteSize = b.utf8ByteSize := by
  rcases isMatch_iff.1 h with rfl | ⟨body, first, second⟩
  · rfl
  · obtain ⟨trailer, rfl, size⟩ := withoutTrailer?_eq_some_iff.1 first
    obtain ⟨trailer', rfl, size'⟩ := withoutTrailer?_eq_some_iff.1 second
    rw [String.utf8ByteSize_append, String.utf8ByteSize_append, size, size']

theorem isMatch_trans (h : (compare a b).isMatch = true) (h' : (compare b c).isMatch = true) :
    (compare a c).isMatch = true := by
  rcases isMatch_iff.1 h with rfl | ⟨body, first, second⟩
  · exact h'
  · rcases isMatch_iff.1 h' with rfl | ⟨body', second', third⟩
    · exact h
    · -- a code can be cut in one way only
      obtain rfl : body = body' := Option.some.inj (second.symm.trans second')
      exact isMatch_iff.2 (.inr ⟨body, first, third⟩)

def AgreeBeforeCut (a b : String) : Prop :=
  HasTrailer a ∧ HasTrailer b ∧ beforeCut a = beforeCut b

theorem agreeBeforeCut_iff :
    AgreeBeforeCut a b ↔
      ∃ body, withoutTrailer? a = some body ∧ withoutTrailer? b = some body := by
  constructor
  · rintro ⟨first, second, same⟩
    obtain ⟨body, cut_a⟩ := exists_of_hasTrailer first
    obtain ⟨body', cut_b⟩ := exists_of_hasTrailer second
    rw [(beforeCut_of_withoutTrailer? cut_a).2, (beforeCut_of_withoutTrailer? cut_b).2,
      String.toByteArray_inj, String.ofList_inj] at same
    exact ⟨body, cut_a, same ▸ cut_b⟩
  · rintro ⟨body, cut_a, cut_b⟩
    obtain ⟨first, before_a⟩ := beforeCut_of_withoutTrailer? cut_a
    obtain ⟨second, before_b⟩ := beforeCut_of_withoutTrailer? cut_b
    exact ⟨first, second, before_a.trans before_b.symm⟩

/-- What each outcome of a comparison says, and what follows for matches. -/
theorem compare_classifies (a b : String) :
    (compare a b = .full ↔ a = b) ∧
      (compare a b = .partialMatch ↔ a ≠ b ∧ AgreeBeforeCut a b) ∧
      (compare a b = .mismatch ↔ a ≠ b ∧ ¬AgreeBeforeCut a b) ∧
      compare a b = compare b a ∧
      ((compare a b).isMatch = true → a.utf8ByteSize = b.utf8ByteSize) ∧
      Equivalence fun deployed compiled : String => (compare deployed compiled).isMatch = true := by
  have partly : compare a b = .partialMatch ↔ a ≠ b ∧ AgreeBeforeCut a b := by
    rw [compare_eq_partialMatch_iff, agreeBeforeCut_iff]
  refine ⟨compare_eq_full_iff, partly, ?_, compare_comm a b, utf8ByteSize_eq_of_isMatch, ?_⟩
  · have mismatch : compare a b = .mismatch ↔
        compare a b ≠ .full ∧ compare a b ≠ .partialMatch := by
      cases compare a b <;> simp
    rw [mismatch, ne_eq, compare_eq_full_iff, ne_eq, partly]
    tauto
  · refine ⟨fun code => ?_, fun {a b} h => ?_, isMatch_trans⟩
    · rw [compare_self]
      rfl
    · rwa [compare_comm]

end SourceMatch.Bytecode
