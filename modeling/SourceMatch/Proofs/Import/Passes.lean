import SourceMatch.Proofs.Import.Resolver
import Mathlib.Data.List.Basic

/-!
What a pass over an import list adds, and in which order. A statement stands at a place of the
content of an import; statements are ordered by the import and then by the place. A pass appends the
paths of statements that are neither built-in nor listed, each once, in the order of their first
statements. It finds all of them, so the loop ends with a pass that finds nothing, at the second
one at the latest.
-/
namespace SourceMatch

variable {imports : List Import} {i : Import} {path p q : String} {spec place : Nat}

namespace Import

def stated? (imports : List Import) (spec place : Nat) : Option String := do
  let i ← imports[spec]?
  let content ← i.source
  (pathsIn content)[place]?

/-- A path has a statement before all statements of another one: in the content of an earlier
import, or earlier in the same content. -/
def StatedBefore (imports : List Import) (p q : String) : Prop :=
  ∃ spec place, stated? imports spec place = some p ∧
    ∀ spec' place', stated? imports spec' place' = some q →
      spec < spec' ∨ spec = spec' ∧ place < place'

def ownPaths (i : Import) : List String := (i.source.map pathsIn).getD []

def allPaths (imports : List Import) : List String := imports.flatMap ownPaths

theorem allPaths_cons (i : Import) (imports : List Import) :
    allPaths (i :: imports) = i.ownPaths ++ allPaths imports := rfl

theorem stated?_zero : stated? (i :: imports) 0 place = i.ownPaths[place]? := by
  rw [ownPaths]
  cases i with
  | mk path source name => cases source <;> rfl

theorem stated?_succ : stated? (i :: imports) (spec + 1) place = stated? imports spec place := rfl

theorem mem_allPaths : path ∈ allPaths imports ↔
    ∃ spec place, stated? imports spec place = some path := by
  induction imports with
  | nil => simp [allPaths, stated?]
  | cons i imports ih =>
    rw [allPaths_cons, List.mem_append, ih, List.mem_iff_getElem?]
    constructor
    · rintro (⟨place, here⟩ | ⟨spec, place, later⟩)
      · exact ⟨0, place, stated?_zero.trans here⟩
      · exact ⟨spec + 1, place, stated?_succ.trans later⟩
    · rintro ⟨_ | spec, place, stated⟩
      · exact .inl ⟨place, stated?_zero.symm.trans stated⟩
      · exact .inr ⟨spec, place, stated?_succ.symm.trans stated⟩

theorem idxOf_le_of_getElem? {paths : List String} (listed : paths[place]? = some path) :
    paths.idxOf path ≤ place := by
  obtain ⟨inside, rfl⟩ := List.getElem?_eq_some_iff.1 listed
  by_contra before
  have differs := List.not_of_lt_findIdx (Nat.lt_of_not_le before)
  simp at differs

theorem statedBefore_of_idxOf (first : (allPaths imports).idxOf p < (allPaths imports).idxOf q) :
    StatedBefore imports p q := by
  induction imports with
  | nil => exact absurd first (Nat.lt_irrefl _)
  | cons i imports ih =>
    rw [allPaths_cons, List.idxOf_append, List.idxOf_append] at first
    by_cases here : p ∈ i.ownPaths
    · -- the first statement of `p` stands in this content
      rw [if_pos here] at first
      have found := List.idxOf_lt_length_iff.2 here
      refine ⟨0, i.ownPaths.idxOf p, ?_, ?_⟩
      · rw [stated?_zero, List.getElem?_eq_getElem found, List.getElem_idxOf found]
      · rintro (_ | spec') place' stated
        · rw [stated?_zero] at stated
          refine .inr ⟨rfl, ?_⟩
          have listed : q ∈ i.ownPaths := List.mem_of_getElem? stated
          rw [if_pos listed] at first
          exact Nat.lt_of_lt_of_le first (idxOf_le_of_getElem? stated)
        · exact .inl (Nat.succ_pos spec')
    · rw [if_neg here] at first
      have absent : q ∉ i.ownPaths := by
        intro listed
        have found := List.idxOf_lt_length_iff.2 listed
        rw [if_pos listed] at first
        omega
      rw [if_neg absent] at first
      obtain ⟨spec, place, stated, before⟩ := ih (by omega)
      refine ⟨spec + 1, place, stated?_succ.trans stated, ?_⟩
      rintro (_ | spec') place' stated'
      · rw [stated?_zero] at stated'
        exact absurd (List.mem_of_getElem? stated') absent
      · have := before spec' place' stated'
        omega

end Import

namespace ImportResolver

variable {r : ImportResolver} {result : List Import}

theorem distinct_append_distinct {α : Type} [DecidableEq α] {known seen : List α} (as bs : List α)
    (sub : ∀ a ∈ known, a ∈ seen) :
    distinct seen (distinct known as ++ bs) = distinct seen (as ++ bs) := by
  -- both sets grow by the same elements, so what the inner one drops the outer one would drop too
  induction as generalizing known seen with
  | nil => rfl
  | cons a as ih =>
    have next : ∀ b ∈ a :: known, b ∈ a :: seen := fun b listed =>
      List.mem_cons.2 ((List.mem_cons.1 listed).imp_right (sub b))
    by_cases before : a ∈ seen
    · have within : ∀ b ∈ a :: known, b ∈ seen := List.forall_mem_cons.2 ⟨before, sub⟩
      by_cases old : a ∈ known
      · simp only [distinct, List.cons_append, if_pos before, if_pos old]
        exact ih sub
      · simp only [distinct, List.cons_append, if_pos before, if_neg old]
        exact ih within
    · have new : a ∉ known := fun listed => before (sub a listed)
      simp only [distinct, List.cons_append, if_neg before, if_neg new]
      rw [ih next]

theorem distinct_append_congr {α : Type} [DecidableEq α] {bs cs : List α}
    (same : ∀ seen, distinct seen bs = distinct seen cs) (seen as : List α) :
    distinct seen (as ++ bs) = distinct seen (as ++ cs) := by
  induction as generalizing seen with
  | nil => exact same seen
  | cons a as ih =>
    simp only [List.cons_append, distinct]
    split
    · exact ih seen
    · rw [ih (a :: seen)]

theorem pairwise_idxOf_distinct (seen paths : List String) :
    (distinct seen paths).Pairwise fun p q => paths.idxOf p < paths.idxOf q := by
  induction paths generalizing seen with
  | nil => exact .nil
  | cons path paths ih =>
    have shift {known : List String} (old : path ∈ known) :
        (distinct known paths).Pairwise fun p q =>
          (path :: paths).idxOf p < (path :: paths).idxOf q := by
      refine (ih known).imp_of_mem fun {p q} hp hq before => ?_
      have other {a : String} (new : a ∈ distinct known paths) : path ≠ a := by
        rintro rfl
        exact (mem_distinct.1 new).2 old
      rw [List.idxOf_cons_ne _ (other hp), List.idxOf_cons_ne _ (other hq)]
      exact Nat.succ_lt_succ before
    rw [distinct]
    split
    · rename_i old
      exact shift old
    · refine List.pairwise_cons.2 ⟨fun q later => ?_, shift List.mem_cons_self⟩
      have other : path ≠ q := by
        rintro rfl
        exact (mem_distinct.1 later).2 List.mem_cons_self
      rw [List.idxOf_cons_self, List.idxOf_cons_ne _ other]
      exact Nat.succ_pos _

theorem idxOf_lt_of_filter {keep : String → Bool} {paths : List String}
    (hp : keep p = true) (hq : keep q = true)
    (before : (paths.filter keep).idxOf p < (paths.filter keep).idxOf q) :
    paths.idxOf p < paths.idxOf q := by
  induction paths with
  | nil => exact absurd before (Nat.lt_irrefl _)
  | cons path paths ih =>
    by_cases kept : keep path = true
    · rw [List.filter_cons_of_pos kept] at before
      have other : path ≠ q := by
        rintro rfl
        rw [List.idxOf_cons_self] at before
        exact absurd before (Nat.not_lt_zero _)
      rw [List.idxOf_cons_ne _ other] at before ⊢
      by_cases same : path = p
      · rw [same, List.idxOf_cons_self]
        exact Nat.succ_pos _
      · rw [List.idxOf_cons_ne _ same] at before ⊢
        exact Nat.succ_lt_succ (ih (Nat.lt_of_succ_lt_succ before))
    · rw [List.filter_cons_of_neg kept] at before
      have other {a : String} (ha : keep a = true) : path ≠ a := by
        rintro rfl
        exact kept ha
      rw [List.idxOf_cons_ne _ (other hp), List.idxOf_cons_ne _ (other hq)]
      exact Nat.succ_lt_succ (ih before)

theorem missing_eq (r : ImportResolver) (imports : List Import) :
    r.missing imports =
      distinct (imports.map (·.path)) ((Import.allPaths imports).filter (!r.isBuiltin ·)) := by
  rw [missing]
  generalize imports.map (·.path) = seen
  induction imports generalizing seen with
  | nil => rfl
  | cons i imports ih =>
    have own : (i.source.map r.importsOf).getD [] =
        distinct [] (i.ownPaths.filter (!r.isBuiltin ·)) := by
      rw [Import.ownPaths]
      cases i.source <;> rfl
    rw [mentioned, List.flatMap_cons, own, ← mentioned, Import.allPaths_cons, List.filter_append,
      distinct_append_distinct _ _ (List.forall_mem_nil _)]
    exact distinct_append_congr ih seen _

theorem mem_missing : path ∈ r.missing imports ↔
    r.isBuiltin path = false ∧ path ∉ imports.map (·.path) ∧
      ∃ spec place, Import.stated? imports spec place = some path := by
  rw [missing_eq, mem_distinct, List.mem_filter, Import.mem_allPaths, Bool.not_eq_true']
  tauto

theorem pairwise_missing (r : ImportResolver) (imports : List Import) :
    (r.missing imports).Pairwise (Import.StatedBefore imports) := by
  have order := pairwise_idxOf_distinct (imports.map (·.path))
    ((Import.allPaths imports).filter (!r.isBuiltin ·))
  rw [← missing_eq] at order
  refine order.imp_of_mem fun {p q} hp hq before => Import.statedBefore_of_idxOf ?_
  have kept {a : String} (lacking : a ∈ r.missing imports) : (!r.isBuiltin a) = true := by
    rw [(mem_missing.1 lacking).1]
    rfl
  exact idxOf_lt_of_filter (kept hp) (kept hq) before

/-- The passes of the loop from a list: each but the last lets it grow. -/
inductive Passes (r : ImportResolver) : List Import → Nat → List Import → Prop
  | last {imports : List Import} (same : (r.resolve imports).length = imports.length) :
      Passes r imports 1 (r.resolve imports)
  | next {imports result : List Import} {count : Nat}
      (grown : (r.resolve imports).length ≠ imports.length)
      (rest : Passes r (r.resolve imports) count result) : Passes r imports (count + 1) result

theorem Passes.eq_settle {count : Nat} (passes : r.Passes imports count result) :
    result = r.settle imports := by
  induction passes with
  | last same => rw [settle, if_pos same]
  | next grown rest ih => rw [settle, if_neg grown, ih]

theorem passes_resolve (r : ImportResolver) (imports : List Import) :
    ∃ count ≤ 2, r.Passes imports count (r.resolve imports) := by
  by_cases same : (r.resolve imports).length = imports.length
  · exact ⟨1, Nat.le_succ 1, .last same⟩
  · have second : (r.resolve (r.resolve imports)).length = (r.resolve imports).length := by
      rw [resolve_resolve]
    have passes := Passes.next same (.last second)
    rw [resolve_resolve] at passes
    exact ⟨2, Nat.le_refl 2, passes⟩

/-- A pass keeps the list and appends imports without content: those of the paths that a content
states, that are not built-in and not listed, each once, in the order of their first statements. It
finds them all, so the loop ends after two passes at most with what the first one gave, and a list
has a path twice behind a pass only if it had it twice before. -/
theorem resolve_appends_stated (r : ImportResolver) (imports : List Import) :
    (∃ added : List String,
      r.resolve imports = imports ++ added.map Import.unresolved ∧ added.Nodup ∧
        (∀ path, path ∈ added ↔
          r.isBuiltin path = false ∧ path ∉ imports.map (·.path) ∧
            ∃ spec place, Import.stated? imports spec place = some path) ∧
        added.Pairwise (Import.StatedBefore imports)) ∧
    r.resolve (r.resolve imports) = r.resolve imports ∧
    (∃ count ≤ 2, r.Passes imports count (r.resolve imports)) ∧
    r.settle imports = r.resolve imports ∧
    (((r.resolve imports).map (·.path)).Nodup ↔ (imports.map (·.path)).Nodup) := by
  refine ⟨⟨r.missing imports, rfl, nodup_distinct _ _, fun _ => mem_missing,
    pairwise_missing r imports⟩, resolve_resolve r imports, ?_⟩
  obtain ⟨count, few, passes⟩ := passes_resolve r imports
  refine ⟨⟨count, few, passes⟩, passes.eq_settle.symm, fun nodup => ?_, nodup_paths_resolve⟩
  rw [map_path_resolve] at nodup
  exact (List.nodup_append.1 nodup).1

example : ({ builtins := ["Std.sol"] } : ImportResolver).missing
      [⟨"./A.sol", some "import './B.sol'; import './Std.sol'; import './C.sol';", none⟩,
        ⟨"./B.sol", some "import './D.sol'; import './C.sol';", none⟩] =
    ["./C.sol", "./D.sol"] := by
  decide +kernel

end ImportResolver

end SourceMatch
