import SourceMatch.Path

/-!
Paths are ordered by their components: the order is total, and two paths neither of which precedes
the other have the same components.
-/
namespace SourceMatch.Path

open Std

variable {p q : String}

theorem compareChars_eq : compareChars = List.compareLex (compareOn Char.toNat) := by
  funext as bs
  induction as generalizing bs with
  | nil => cases bs <;> rfl
  | cons a as ih =>
    cases bs with
    | nil => rfl
    | cons b bs => rw [compareChars, List.compareLex_cons_cons, ih, compareOn]

instance : TransCmp compareChars := by
  rw [compareChars_eq]
  infer_instance

instance : LawfulEqCmp compareChars := by
  have : LawfulEqCmp (compareOn Char.toNat) :=
    ⟨fun h => Char.toNat_inj.1 (LawfulEqOrd.eq_of_compare h)⟩
  rw [compareChars_eq]
  infer_instance

namespace Component

/-- The name of a component; all but the normal ones have the empty name. -/
def name : Component → List Char
  | .normal name => name
  | _ => []

theorem cmp_eq_keys :
    cmp = compareLex (compareOn rank) fun a b => compareChars a.name b.name := by
  funext a b
  cases a <;> cases b <;> rfl

instance : TransCmp fun a b : Component => compareChars a.name b.name where
  eq_swap {a b} := (OrientedCmp.eq_swap : compareChars a.name b.name = _)
  isLE_trans {a _ c} ab bc :=
    (TransCmp.isLE_trans ab bc : (compareChars a.name c.name).isLE = true)

instance : TransCmp cmp := by
  rw [cmp_eq_keys]
  infer_instance

instance : LawfulEqCmp cmp where
  compare_self := ReflCmp.compare_self
  eq_of_compare {a b} h := by
    cases a <;> cases b <;>
      first | rfl | cases h | exact congrArg normal (LawfulEqCmp.eq_of_compare h)

end Component

theorem compareComponents_eq : compareComponents = List.compareLex Component.cmp := by
  funext as bs
  induction as generalizing bs with
  | nil => cases bs <;> rfl
  | cons a as ih =>
    cases bs with
    | nil => rfl
    | cons b bs => rw [compareComponents, List.compareLex_cons_cons, ih]

instance : TransCmp compareComponents := by
  rw [compareComponents_eq]
  infer_instance

instance : TransCmp cmp where
  eq_swap {p q} :=
    (OrientedCmp.eq_swap : compareComponents (components p) (components q) = _)
  isLE_trans {p _ r} pq qr :=
    (TransCmp.isLE_trans pq qr :
      (compareComponents (components p) (components r)).isLE = true)

instance : LawfulEqCmp compareComponents := by
  rw [compareComponents_eq]
  infer_instance

theorem cmp_eq_iff : cmp p q = .eq ↔ components p = components q := by
  rw [cmp]
  exact LawfulEqCmp.compare_eq_iff_eq

end SourceMatch.Path
