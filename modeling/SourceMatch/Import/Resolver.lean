import SourceMatch.Import.Basic
import SourceMatch.Import.Statement

/-!
Finding the imports that a source needs, those of its imports included. Files that the compiler
itself brings along are never looked for.
-/
namespace SourceMatch

/-- Finds imports; `builtins` are the file names that the compiler brings along. -/
structure ImportResolver where
  builtins : List String := []
deriving DecidableEq, Repr, Inhabited

namespace ImportResolver

def isBuiltin (r : ImportResolver) (path : String) : Bool :=
  r.builtins.contains (Import.fileNameOf path)

def distinct {α : Type} [DecidableEq α] (seen : List α) : List α → List α
  | [] => []
  | a :: as => if a ∈ seen then distinct seen as else a :: distinct (a :: seen) as

def importsOf (r : ImportResolver) (source : String) : List String :=
  distinct [] ((Import.pathsIn source).filter (!r.isBuiltin ·))

def seed (r : ImportResolver) (source : String) : List Import :=
  (r.importsOf source).map Import.unresolved

def mentioned (r : ImportResolver) (imports : List Import) : List String :=
  imports.flatMap fun i => (i.source.map r.importsOf).getD []

def missing (r : ImportResolver) (imports : List Import) : List String :=
  distinct (imports.map (·.path)) (r.mentioned imports)

def resolve (r : ImportResolver) (imports : List Import) : List Import :=
  imports ++ (r.missing imports).map Import.unresolved

theorem mentioned_append (r : ImportResolver) (is js : List Import) :
    r.mentioned (is ++ js) = r.mentioned is ++ r.mentioned js :=
  List.flatMap_append

theorem mentioned_unresolved (r : ImportResolver) (paths : List String) :
    r.mentioned (paths.map Import.unresolved) = [] := by
  simp [mentioned, Import.unresolved, List.flatMap_map]

theorem mem_distinct {α : Type} [DecidableEq α] {seen as : List α} {a : α} :
    a ∈ distinct seen as ↔ a ∈ as ∧ a ∉ seen := by
  induction as generalizing seen with
  | nil => simp [distinct]
  | cons b as ih =>
    rw [distinct]
    split
    · rename_i hb
      rw [ih, List.mem_cons]
      constructor
      · exact fun h => ⟨Or.inr h.1, h.2⟩
      · rintro ⟨h | h, hs⟩
        · exact absurd (h ▸ hb) hs
        · exact ⟨h, hs⟩
    · rename_i hb
      rw [List.mem_cons, ih, List.mem_cons]
      by_cases hab : a = b
      · subst hab; simp [hb]
      · simp [hab]

theorem distinct_of_subset {α : Type} [DecidableEq α] {seen as : List α}
    (h : ∀ a ∈ as, a ∈ seen) : distinct seen as = [] := by
  refine List.eq_nil_iff_forall_not_mem.2 fun a ha => ?_
  exact (mem_distinct.1 ha).2 (h a (mem_distinct.1 ha).1)

theorem missing_resolve (r : ImportResolver) (imports : List Import) :
    r.missing (r.resolve imports) = [] := by
  have h : r.mentioned (r.resolve imports) = r.mentioned imports := by
    rw [resolve, mentioned_append, mentioned_unresolved, List.append_nil]
  rw [missing, h]
  refine distinct_of_subset fun p hp => ?_
  rw [resolve, List.map_append, List.mem_append, List.map_map]
  by_cases hin : p ∈ imports.map (·.path)
  · exact Or.inl hin
  · exact Or.inr (List.mem_map.2 ⟨p, mem_distinct.2 ⟨hp, hin⟩, rfl⟩)

def settle (r : ImportResolver) (imports : List Import) : List Import :=
  let next := r.resolve imports
  if next.length = imports.length then next else settle r next
termination_by (r.missing imports).length
decreasing_by
  rename_i h
  rw [missing_resolve]
  simpa [next, resolve, List.length_pos_iff] using h

end ImportResolver

end SourceMatch
