import Mathlib.Data.List.Basic
import Mathlib.Data.List.Perm.Subperm
import SourceMatch.Proofs.Import.Resolver
import SourceMatch.Tree.Basic

/-!
Import lists whose contents come from a tree. The paths that a source needs are its own imports and,
for each needed path that the tree has a file for, the imports of that file. A list that is filled
from the tree and settled over and over holds needed paths only. Each filling that changes something
resolves one import more, and the needed paths are finitely many; when nothing changes any more, all
of them are listed, and each has the content that the tree has for it.
-/
namespace SourceMatch

namespace SourceTree

variable {t : SourceTree} {path : String} {file : String × String} {i : Import}
  {imports : List Import}

theorem mem_of_shallowest? {files : List (String × String)} (h : shallowest? files = some file) :
    file ∈ files := by
  induction files generalizing file with
  | nil => cases h
  | cons f files ih =>
    cases best : shallowest? files with
    | none =>
      simp only [shallowest?, best, Option.some.injEq] at h
      exact h ▸ List.mem_cons_self
    | some g =>
      simp only [shallowest?, best] at h
      split at h
      · exact List.mem_cons_of_mem _ (ih (best.trans h))
      · exact Option.some.inj h ▸ List.mem_cons_self

theorem single?_eq_some {files : List (String × String)} :
    single? files = some file ↔ files = [file] := by
  match files with
  | [] => simp [single?]
  | [f] => simp [single?]
  | f :: g :: files => simp [single?]

theorem mem_of_lookup? (found : t.lookup? path = some file) : file ∈ t.files := by
  simp only [lookup?] at found
  split at found
  · cases found
  · split at found
    · rename_i f shallowest
      rw [← Option.some.inj found]
      exact (List.mem_filter.1 (mem_of_shallowest? shallowest)).1
    · have only := single?_eq_some.1 found
      have listed : file ∈ [file] := List.mem_singleton_self file
      rw [← only] at listed
      exact (List.mem_filter.1 listed).1

def importOf (t : SourceTree) (path : String) : Import := t.fillOne (Import.unresolved path)

theorem fillOne_path (t : SourceTree) (i : Import) : (t.fillOne i).path = i.path := by
  rw [fillOne]
  split
  · rfl
  · split <;> rfl

theorem fillOne_of_isResolved (resolved : i.isResolved) : t.fillOne i = i := by
  rw [fillOne, if_pos resolved]

theorem importOf_of_lookup? {name content : String}
    (found : t.lookup? path = some (name, content)) :
    t.importOf path = ⟨path, some content, some name⟩ := by
  simp [importOf, fillOne, Import.unresolved, Import.isResolved, found]

theorem importOf_of_missing (missing : t.lookup? path = none) :
    t.importOf path = Import.unresolved path := by
  simp [importOf, fillOne, Import.unresolved, Import.isResolved, missing]

theorem importOf_path (t : SourceTree) (path : String) : (t.importOf path).path = path :=
  fillOne_path t _

theorem isResolved_importOf (t : SourceTree) (path : String) :
    (t.importOf path).isResolved = (t.lookup? path).isSome := by
  cases found : t.lookup? path with
  | none => rw [importOf_of_missing found]; rfl
  | some file => rw [importOf_of_lookup? found]; rfl

theorem fillOne_importOf (t : SourceTree) (path : String) :
    t.fillOne (t.importOf path) = t.importOf path := by
  cases found : t.lookup? path with
  | none => rw [importOf_of_missing found, ← importOf, importOf_of_missing found]
  | some file => exact fillOne_of_isResolved (by rw [isResolved_importOf, found]; rfl)

@[simp]
theorem map_path_fill (t : SourceTree) (imports : List Import) :
    (t.fill imports).map (·.path) = imports.map (·.path) := by
  rw [fill, List.map_map]
  exact List.map_congr_left fun i _ => fillOne_path t i

theorem fillOne_eq_self_or (t : SourceTree) (i : Import) :
    t.fillOne i = i ∨ i.isResolved = false ∧ (t.fillOne i).isResolved = true := by
  rw [fillOne]
  split
  · exact .inl rfl
  · rename_i waiting
    split
    · exact .inr ⟨by simpa using waiting, rfl⟩
    · exact .inl rfl

theorem isResolved_fillOne (resolved : i.isResolved = true) :
    (t.fillOne i).isResolved = true := by
  rw [fillOne_of_isResolved resolved]
  exact resolved

theorem resolved_le_fill (t : SourceTree) (imports : List Import) :
    imports.countP (·.isResolved) ≤ (t.fill imports).countP (·.isResolved) := by
  rw [fill, List.countP_map]
  exact List.countP_mono_left fun i _ resolved => isResolved_fillOne resolved

theorem resolved_lt_fill (changed : t.fill imports ≠ imports) :
    imports.countP (·.isResolved) < (t.fill imports).countP (·.isResolved) := by
  induction imports with
  | nil => exact absurd rfl changed
  | cons i imports ih =>
    have rest := resolved_le_fill t imports
    have split : t.fill (i :: imports) = t.fillOne i :: t.fill imports := rfl
    rw [split] at changed ⊢
    rw [List.countP_cons, List.countP_cons]
    rcases fillOne_eq_self_or t i with same | ⟨before, after⟩
    · have later : t.fill imports ≠ imports := fun h => changed (by rw [same, h])
      have := ih later
      rw [same]
      omega
    · simp only [before, after, if_true, Bool.false_eq_true, if_false]
      omega

theorem fillOne_of_fill_eq (settled : t.fill imports = imports) (listed : i ∈ imports) :
    t.fillOne i = i := by
  have same : imports.map t.fillOne = imports.map id := by rwa [List.map_id]
  exact List.map_inj_left.1 same i listed

end SourceTree

namespace ImportResolver

/-- The paths that a source needs: its imports, and the imports of the files that a tree has for
them, and so on. -/
inductive Needs (r : ImportResolver) (t : SourceTree) (source : String) : String → Prop
  | direct {path : String} (imported : path ∈ r.importsOf source) : Needs r t source path
  | through {path name content other : String} (needed : Needs r t source path)
      (found : t.lookup? path = some (name, content)) (imported : other ∈ r.importsOf content) :
      Needs r t source other

variable {r : ImportResolver} {t : SourceTree} {source : String} {imports : List Import}

theorem mem_paths_of_mem_importsOf {path : String} (imported : path ∈ r.importsOf source) :
    path ∈ Import.pathsIn source :=
  (List.mem_filter.1 (mem_distinct.1 imported).1).1

def reachable (r : ImportResolver) (t : SourceTree) (source : String) : List String :=
  r.importsOf source ++ t.files.flatMap fun f => Import.pathsIn f.2

theorem Needs.reachable {path : String} (needed : r.Needs t source path) :
    path ∈ r.reachable t source := by
  cases needed with
  | direct imported => exact List.mem_append_left _ imported
  | through needed found imported =>
    refine List.mem_append_right _ (List.mem_flatMap.2 ⟨_, SourceTree.mem_of_lookup? found, ?_⟩)
    exact mem_paths_of_mem_importsOf imported

/-- A list on the way: it holds needed paths only, each once, and is closed under the contents that
came from the tree so far. -/
structure Gathers (r : ImportResolver) (t : SourceTree) (source : String) (imports : List Import) :
    Prop where
  nodup : (imports.map (·.path)).Nodup
  entry : ∀ path ∈ r.importsOf source, path ∈ imports.map (·.path)
  closed : ∀ path ∈ r.mentioned imports, path ∈ imports.map (·.path)
  contents : ∀ i ∈ imports, i = Import.unresolved i.path ∨ i = t.importOf i.path
  needed : ∀ path ∈ imports.map (·.path), r.Needs t source path

theorem gathers_seed (r : ImportResolver) (t : SourceTree) (source : String) :
    r.Gathers t source (r.seed source) where
  nodup := by
    rw [seed, map_path_unresolved]
    exact nodup_distinct _ _
  entry path imported := by rwa [seed, map_path_unresolved]
  closed path mentioned := by
    rw [seed, mentioned_unresolved] at mentioned
    cases mentioned
  contents i listed := by
    obtain ⟨path, -, rfl⟩ := List.mem_map.1 listed
    exact .inl rfl
  needed path listed := by
    rw [seed, map_path_unresolved] at listed
    exact .direct listed

namespace Gathers

theorem fillOne_eq (h : r.Gathers t source imports) {i : Import} (listed : i ∈ imports) :
    t.fillOne i = t.importOf i.path := by
  rcases h.contents i listed with waiting | filled
  · rw [waiting]
    rfl
  · rw [filled, SourceTree.fillOne_importOf, SourceTree.importOf_path]

theorem needs_of_mentioned_fill (h : r.Gathers t source imports) {path : String}
    (mentioned : path ∈ r.mentioned (t.fill imports)) : r.Needs t source path := by
  obtain ⟨i, filled, content, source_eq, imported⟩ := mem_mentioned.1 mentioned
  obtain ⟨i, listed, rfl⟩ := List.mem_map.1 filled
  rw [h.fillOne_eq listed] at source_eq
  have needed := h.needed i.path (List.mem_map_of_mem listed)
  cases found : t.lookup? i.path with
  | none =>
    rw [SourceTree.importOf_of_missing found] at source_eq
    cases source_eq
  | some file =>
    rw [SourceTree.importOf_of_lookup? found] at source_eq
    cases source_eq
    exact .through needed found imported

theorem round (h : r.Gathers t source imports) :
    r.Gathers t source (r.resolve (t.fill imports)) where
  nodup := nodup_paths_resolve (by simpa using h.nodup)
  entry path imported := mem_paths_resolve.2 (.inl (by simpa using h.entry path imported))
  closed path mentioned := by
    rw [mentioned_resolve] at mentioned
    exact mem_paths_resolve.2 (.inr mentioned)
  contents i listed := by
    rcases List.mem_append.1 listed with old | new
    · obtain ⟨j, before, rfl⟩ := List.mem_map.1 old
      rw [h.fillOne_eq before, SourceTree.importOf_path]
      exact .inr rfl
    · obtain ⟨path, -, rfl⟩ := List.mem_map.1 new
      exact .inl rfl
  needed path listed := by
    rcases mem_paths_resolve.1 listed with old | new
    · exact h.needed path (by simpa using old)
    · exact h.needs_of_mentioned_fill new

theorem length_le (h : r.Gathers t source imports) :
    imports.length ≤ (r.reachable t source).length := by
  have within : imports.map (·.path) ⊆ r.reachable t source :=
    fun path listed => (h.needed path listed).reachable
  simpa using (List.subperm_of_subset h.nodup within).length_le

theorem resolved_le (h : r.Gathers t source imports) :
    (t.fill imports).countP (·.isResolved) ≤ (r.reachable t source).length := by
  calc (t.fill imports).countP (·.isResolved)
      ≤ (t.fill imports).length := List.countP_le_length
    _ = imports.length := List.length_map _
    _ ≤ _ := h.length_le

theorem importOf_eq (h : r.Gathers t source imports) (settled : t.fill imports = imports)
    {i : Import} (listed : i ∈ imports) : i = t.importOf i.path := by
  rw [← h.fillOne_eq listed, SourceTree.fillOne_of_fill_eq settled listed]

theorem mem_paths_iff (h : r.Gathers t source imports) (settled : t.fill imports = imports)
    (path : String) : path ∈ imports.map (·.path) ↔ r.Needs t source path := by
  refine ⟨h.needed path, fun needed => ?_⟩
  induction needed with
  | direct imported => exact h.entry _ imported
  | @through path name content other needed found imported ih =>
    obtain ⟨i, listed, rfl⟩ := List.mem_map.1 ih
    refine h.closed _ (mem_mentioned.2 ⟨i, listed, content, ?_, imported⟩)
    rw [h.importOf_eq settled listed, SourceTree.importOf_of_lookup? found]

end Gathers

end ImportResolver

end SourceMatch
