import SourceMatch.Import.Resolver

/-!
Passes over an import list. A pass adds exactly the paths that contents mention and the list lacks,
and what it adds has no content yet, so a second pass adds nothing: one pass settles a list. No
path is listed twice.
-/
namespace SourceMatch.ImportResolver

variable {r : ImportResolver} {imports : List Import} {path : String}

theorem mem_mentioned :
    path ∈ r.mentioned imports ↔
      ∃ i ∈ imports, ∃ content, i.source = some content ∧ path ∈ r.importsOf content := by
  rw [mentioned, List.mem_flatMap]
  refine exists_congr fun i => and_congr_right fun _ => ?_
  cases i.source <;> simp

theorem mentioned_resolve (r : ImportResolver) (imports : List Import) :
    r.mentioned (r.resolve imports) = r.mentioned imports := by
  rw [resolve, mentioned_append, mentioned_unresolved, List.append_nil]

theorem map_path_unresolved (paths : List String) :
    (paths.map Import.unresolved).map (·.path) = paths := by
  rw [List.map_map]
  exact List.map_id _

theorem map_path_resolve (r : ImportResolver) (imports : List Import) :
    (r.resolve imports).map (·.path) = imports.map (·.path) ++ r.missing imports := by
  rw [resolve, List.map_append, map_path_unresolved]

theorem mem_paths_resolve :
    path ∈ (r.resolve imports).map (·.path) ↔
      path ∈ imports.map (·.path) ∨ path ∈ r.mentioned imports := by
  rw [map_path_resolve, List.mem_append, missing, mem_distinct]
  by_cases known : path ∈ imports.map (·.path) <;> simp [known]

theorem resolve_resolve (r : ImportResolver) (imports : List Import) :
    r.resolve (r.resolve imports) = r.resolve imports := by
  rw [resolve, missing_resolve, List.map_nil, List.append_nil]

theorem settle_eq_resolve (r : ImportResolver) (imports : List Import) :
    r.settle imports = r.resolve imports := by
  rw [settle]
  split
  · rfl
  · rw [settle, resolve_resolve]
    simp

theorem nodup_distinct {α : Type} [DecidableEq α] (seen as : List α) :
    (distinct seen as).Nodup := by
  induction as generalizing seen with
  | nil => exact List.nodup_nil
  | cons a as ih =>
    rw [distinct]
    split
    · exact ih seen
    · refine List.nodup_cons.2 ⟨fun later => ?_, ih _⟩
      exact (mem_distinct.1 later).2 List.mem_cons_self

theorem nodup_paths_resolve (nodup : (imports.map (·.path)).Nodup) :
    ((r.resolve imports).map (·.path)).Nodup := by
  rw [map_path_resolve]
  refine List.nodup_append.2 ⟨nodup, nodup_distinct _ _, fun path listed p added same => ?_⟩
  exact (mem_distinct.1 added).2 (same ▸ listed)

theorem settle_seed (r : ImportResolver) (source : String) :
    r.settle (r.seed source) = r.seed source := by
  rw [settle_eq_resolve, resolve, missing, seed, mentioned_unresolved, distinct, List.map_nil,
    List.append_nil]

theorem resolved_resolve (r : ImportResolver) (imports : List Import) :
    (r.resolve imports).countP (·.isResolved) = imports.countP (·.isResolved) := by
  rw [resolve, List.countP_append, List.countP_map]
  have none : (r.missing imports).countP ((·.isResolved) ∘ Import.unresolved) = 0 :=
    List.countP_eq_zero.2 fun path _ => Bool.false_ne_true
  rw [none, Nat.add_zero]

end SourceMatch.ImportResolver
