import SourceMatch.Version.Basic

/-!
The order of versions is total, and two versions that neither precedes have the same parts. Each
comparison is one by a list of keys, so that both facts come from those about the keys.
-/
namespace SourceMatch.Version

open Std

section

variable {α β : Type} {cmp : β → β → Ordering}

def compareBy (cmp : β → β → Ordering) (key : α → β) (a b : α) : Ordering := cmp (key a) (key b)

instance [TransCmp cmp] (key : α → β) : TransCmp (compareBy cmp key) where
  eq_swap {a b} := (OrientedCmp.eq_swap : cmp (key a) (key b) = (cmp (key b) (key a)).swap)
  isLE_trans {a _ c} hab hbc :=
    (TransCmp.isLE_trans hab hbc : (cmp (key a) (key c)).isLE = true)

theorem compareLists_eq (cmp : β → β → Ordering) : compareLists cmp = List.compareLex cmp := by
  funext v w
  induction v generalizing w with
  | nil => cases w <;> rfl
  | cons a v ih =>
    cases w with
    | nil => rfl
    | cons b w => rw [compareLists, List.compareLex_cons_cons, ih]

instance [TransCmp cmp] : TransCmp (compareLists cmp) := by
  rw [compareLists_eq]
  infer_instance

instance [LawfulEqCmp cmp] : LawfulEqCmp (compareLists cmp) := by
  rw [compareLists_eq]
  infer_instance

end

instance : LawfulEqCmp (compareOn Char.toNat) where
  eq_of_compare h := Char.toNat_inj.1 (LawfulEqOrd.eq_of_compare h)

instance : TransCmp compareChars :=
  inferInstanceAs (TransCmp (compareLists (compareOn Char.toNat)))

instance : LawfulEqCmp compareChars :=
  inferInstanceAs (LawfulEqCmp (compareLists (compareOn Char.toNat)))

namespace Identifier

def isWord : Identifier → Bool
  | .number _ => false
  | .word _ => true

def value : Identifier → Nat
  | .number n => n
  | .word _ => 0

def chars : Identifier → List Char
  | .number _ => []
  | .word cs => cs

theorem cmp_eq_keys :
    cmp = compareLex (compareOn isWord)
      (compareLex (compareOn value) (compareBy compareChars chars)) := by
  funext v w
  cases v with
  | number m =>
    cases w with
    | number n => exact Ordering.then_eq.symm
    | word _ => rfl
  | word cs =>
    cases w with
    | number _ => rfl
    | word ds => rfl

instance : TransCmp cmp := by
  rw [cmp_eq_keys]
  infer_instance

instance : LawfulEqCmp cmp where
  compare_self := ReflCmp.compare_self
  eq_of_compare {v w} h := by
    cases v with
    | number m =>
      cases w with
      | number n => exact congrArg number (LawfulEqOrd.eq_of_compare h)
      | word _ => cases h
    | word cs =>
      cases w with
      | number _ => cases h
      | word ds =>
        have chars_eq : compareChars cs ds = .eq := h
        exact congrArg word (LawfulEqCmp.eq_of_compare chars_eq)

end Identifier

theorem comparePrerelease_eq_keys :
    comparePrerelease =
      compareLex (compareOn List.isEmpty) (compareLists Identifier.cmp) := by
  funext v w
  cases v <;> cases w <;> rfl

instance : TransCmp comparePrerelease := by
  rw [comparePrerelease_eq_keys]
  infer_instance

instance : LawfulEqCmp comparePrerelease where
  compare_self := ReflCmp.compare_self
  eq_of_compare h := by
    rw [comparePrerelease_eq_keys, compareLex_eq_eq] at h
    exact LawfulEqCmp.eq_of_compare h.2

def isDigits (part : List Char) : Bool := part.all Char.isDigit

def bare (part : List Char) : List Char :=
  if isDigits part then part.dropWhile (· = '0') else part

def bareCount (part : List Char) : Nat := if isDigits part then (bare part).length else 0

def digitCount (part : List Char) : Nat := if isDigits part then part.length else 0

theorem compareBuildPart_eq_keys :
    compareBuildPart =
      compareLex (compareOn fun part => !isDigits part)
        (compareLex (compareOn bareCount)
          (compareLex (compareBy compareChars bare) (compareOn digitCount))) := by
  funext v w
  simp only [compareBuildPart, compareLex, compareOn, compareBy, bareCount, digitCount, bare,
    isDigits]
  have below : compare false true = .lt := rfl
  have above : compare true false = .gt := rfl
  by_cases hv : v.all Char.isDigit = true
  · by_cases hw : w.all Char.isDigit = true
    · simp [hv, hw, Ordering.then_assoc]
    · simp [hv, hw, below]
  · by_cases hw : w.all Char.isDigit = true
    · simp [hv, hw, above]
    · simp [hv, hw]

instance : TransCmp compareBuildPart := by
  rw [compareBuildPart_eq_keys]
  infer_instance

theorem eq_of_dropWhile {v w : List Char} (length_eq : v.length = w.length)
    (bare_eq : v.dropWhile (· = '0') = w.dropWhile (· = '0')) : v = w := by
  have zeros (part : List Char) : part.takeWhile (· = '0') =
      List.replicate (part.takeWhile (· = '0')).length '0' :=
    List.eq_replicate_of_mem fun c hc => by simpa using List.all_eq_true.1 List.all_takeWhile c hc
  have hv := v.takeWhile_append_dropWhile (p := (· = '0'))
  have hw := w.takeWhile_append_dropWhile (p := (· = '0'))
  have zeros_eq : (v.takeWhile (· = '0')).length = (w.takeWhile (· = '0')).length := by
    have lv := congrArg List.length hv
    have lw := congrArg List.length hw
    rw [List.length_append] at lv lw
    rw [bare_eq] at lv
    omega
  rw [← hv, ← hw, bare_eq, zeros v, zeros w, zeros_eq]

instance : LawfulEqCmp compareBuildPart where
  compare_self := ReflCmp.compare_self
  eq_of_compare {v w} h := by
    simp only [compareBuildPart_eq_keys, compareLex_eq_eq] at h
    obtain ⟨digits_eq, -, bare_eq, count_eq⟩ := h
    have digits_eq : isDigits v = isDigits w :=
      Bool.not_inj (LawfulEqOrd.eq_of_compare digits_eq)
    have bare_eq : bare v = bare w := LawfulEqCmp.eq_of_compare bare_eq
    have count_eq : digitCount v = digitCount w := LawfulEqOrd.eq_of_compare count_eq
    cases hw : isDigits w with
    | false => simpa [bare, digits_eq, hw] using bare_eq
    | true =>
      simp only [bare, digitCount, digits_eq, hw, if_true] at bare_eq count_eq
      exact eq_of_dropWhile count_eq bare_eq

theorem cmp_eq_keys :
    cmp = compareLex (compareOn major)
      (compareLex (compareOn minor)
        (compareLex (compareOn patch)
          (compareLex (compareBy comparePrerelease prerelease)
            (compareBy (compareLists compareBuildPart) buildParts)))) := rfl

instance : TransCmp cmp := by
  rw [cmp_eq_keys]
  infer_instance

theorem build_of_buildParts {v w : Version} (hv : v.build ≠ [[]]) (hw : w.build ≠ [[]])
    (h : v.buildParts = w.buildParts) : v.build = w.build := by
  rw [buildParts, buildParts] at h
  split at h
  · rename_i empty
    split at h
    · rename_i empty'
      rw [List.isEmpty_iff.1 empty, List.isEmpty_iff.1 empty']
    · exact absurd h.symm hw
  · split at h
    · exact absurd h hv
    · exact h

/-- Versions that neither precedes are equal, unless one of them has metadata without any
character. -/
theorem eq_of_cmp {v w : Version} (hv : v.build ≠ [[]]) (hw : w.build ≠ [[]])
    (h : v.cmp w = .eq) : v = w := by
  simp only [cmp_eq_keys, compareLex_eq_eq] at h
  obtain ⟨major_eq, minor_eq, patch_eq, prerelease_eq, parts_eq⟩ := h
  have major_eq : v.major = w.major := LawfulEqOrd.eq_of_compare major_eq
  have minor_eq : v.minor = w.minor := LawfulEqOrd.eq_of_compare minor_eq
  have patch_eq : v.patch = w.patch := LawfulEqOrd.eq_of_compare patch_eq
  have prerelease_eq : v.prerelease = w.prerelease := LawfulEqCmp.eq_of_compare prerelease_eq
  have parts_eq : v.buildParts = w.buildParts := LawfulEqCmp.eq_of_compare parts_eq
  have build_eq := build_of_buildParts hv hw parts_eq
  cases v
  cases w
  rw [mk.injEq]
  exact ⟨major_eq, minor_eq, patch_eq, prerelease_eq, build_eq⟩

end SourceMatch.Version
