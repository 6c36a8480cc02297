import SourceMatch.Proofs.Workflow.Paths

/-!
Contents that are supplied one after the other. Each goes to the entries of its path, and its own
imports are listed behind them. On a settled list the entries end up with the same contents in
whatever order these come, and what is appended are the imports of all of them that were not listed
before: the order of the supplies shows only in the order of those.
-/
namespace SourceMatch

namespace Import

variable {imports : List Import} {i : Import} {path content : String}

structure Supply where
  path : String
  source : String
  fileName : Option String := none
deriving DecidableEq, Repr

def supplyAll (imports : List Import) (supplies : List Supply) : List Import :=
  supplies.foldl (fun imports x => supply imports x.path x.source x.fileName) imports

theorem supplyAll_concat (imports : List Import) (supplies : List Supply) (x : Supply) :
    supplyAll imports (supplies ++ [x]) =
      supply (supplyAll imports supplies) x.path x.source x.fileName := by
  rw [supplyAll, List.foldl_append]
  rfl

@[simp]
theorem map_path_supplyAll (imports : List Import) (supplies : List Supply) :
    (supplyAll imports supplies).map (·.path) = imports.map (·.path) := by
  induction supplies using List.reverseRecOn with
  | nil => rfl
  | append_singleton supplies x ih => rw [supplyAll_concat, map_path_supply, ih]

theorem length_supplyAll (imports : List Import) (supplies : List Supply) :
    (supplyAll imports supplies).length = imports.length := by
  have paths := congrArg List.length (map_path_supplyAll imports supplies)
  rwa [List.length_map, List.length_map] at paths

theorem supply_append (imports later : List Import) (path source : String)
    (name : Option String) :
    supply (imports ++ later) path source name =
      supply imports path source name ++ supply later path source name :=
  List.map_append

theorem supply_of_not_mem (source : String) (name : Option String)
    (missing : path ∉ imports.map (·.path)) : supply imports path source name = imports := by
  refine (List.map_congr_left fun i listed => if_neg ?_).trans (List.map_id imports)
  rintro rfl
  exact missing (List.mem_map_of_mem listed)

theorem mem_supply {source : String} {name : Option String}
    (h : i ∈ supply imports path source name) : i = ⟨path, some source, name⟩ ∨ i ∈ imports := by
  obtain ⟨j, listed, rfl⟩ := List.mem_map.1 h
  split
  · rename_i same
    exact .inl (by rw [same])
  · exact .inr listed

theorem mem_supply_self (source : String) (name : Option String)
    (listed : path ∈ imports.map (·.path)) :
    ⟨path, some source, name⟩ ∈ supply imports path source name := by
  obtain ⟨i, here, rfl⟩ := List.mem_map.1 listed
  exact List.mem_map.2 ⟨i, here, if_pos rfl⟩

theorem source_of_mem_supplyAll {supplies : List Supply} (h : i ∈ supplyAll imports supplies)
    (has : i.source = some content) :
    (∃ x ∈ supplies, x.source = content) ∨ ∃ j ∈ imports, j.source = some content := by
  induction supplies using List.reverseRecOn with
  | nil => exact .inr ⟨i, h, has⟩
  | append_singleton supplies x ih =>
    rw [supplyAll_concat] at h
    rcases mem_supply h with rfl | before
    · exact .inl ⟨x, List.mem_append_right _ List.mem_cons_self, Option.some.inj has⟩
    · refine (ih before).imp_left ?_
      rintro ⟨y, listed, same⟩
      exact ⟨y, List.mem_append_left _ listed, same⟩

theorem supply_comm {p q : String} (differ : p ≠ q) (imports : List Import)
    (source source' : String) (name name' : Option String) :
    supply (supply imports p source name) q source' name' =
      supply (supply imports q source' name') p source name := by
  simp only [supply, List.map_map]
  refine List.map_congr_left fun i _ => ?_
  by_cases hp : i.path = p
  · simp [hp, differ]
  · by_cases hq : i.path = q <;> simp [hp, hq, differ.symm]

theorem supplyAll_perm {first second : List Supply} (perm : first.Perm second)
    (nodup : (first.map (·.path)).Nodup) (imports : List Import) :
    supplyAll imports first = supplyAll imports second := by
  refine perm.foldl_eq' (fun x hx y hy imports => ?_) imports
  by_cases same : x.path = y.path
  · rw [List.inj_on_of_nodup_map nodup hx hy same]
  · exact supply_comm same ..

end Import

namespace ImportResolver

variable {r : ImportResolver} {imports result : List Import} {added : List String}
  {supplies : List Import.Supply} {path : String}

def supplyAll (r : ImportResolver) (imports : List Import) (supplies : List Import.Supply) :
    List Import :=
  supplies.foldl
    (fun imports x => r.settle (Import.supply imports x.path x.source x.fileName)) imports

theorem supplyAll_concat (r : ImportResolver) (imports : List Import)
    (supplies : List Import.Supply) (x : Import.Supply) :
    r.supplyAll imports (supplies ++ [x]) =
      r.settle (Import.supply (r.supplyAll imports supplies) x.path x.source x.fileName) := by
  rw [supplyAll, List.foldl_append]
  rfl

/-- What supplies make of a settled list: its entries with their contents, and behind them the paths
that these import and the list lacks, each once. -/
structure Supplied (r : ImportResolver) (imports : List Import) (supplies : List Import.Supply)
    (result : List Import) (added : List String) : Prop where
  result_eq : result = Import.supplyAll imports supplies ++ added.map Import.unresolved
  grows : Workflow.Grows (imports.map (·.path)) (result.map (·.path)) added
  mem_iff : ∀ path, path ∉ imports.map (·.path) →
    (path ∈ added ↔ ∃ x ∈ supplies, path ∈ r.importsOf x.source)

namespace Supplied

theorem initial (r : ImportResolver) (imports : List Import) :
    r.Supplied imports [] imports [] :=
  ⟨(List.append_nil _).symm, .refl _, by simp⟩

variable {x : Import.Supply}

theorem supply_eq (h : r.Supplied imports supplies result added)
    (listed : x.path ∈ imports.map (·.path)) :
    Import.supply result x.path x.source x.fileName =
      Import.supplyAll imports (supplies ++ [x]) ++ added.map Import.unresolved := by
  have missing : x.path ∉ (added.map Import.unresolved).map (·.path) := by
    rw [map_path_unresolved]
    exact fun new => h.grows.new x.path new listed
  rw [h.result_eq, Import.supply_append, Import.supply_of_not_mem _ _ missing,
    Import.supplyAll_concat]

theorem mem_mentioned_iff (settled : r.resolve imports = imports)
    (listed : x.path ∈ imports.map (·.path)) (new : path ∉ imports.map (·.path)) :
    (∃ y ∈ supplies, path ∈ r.importsOf y.source) ∨
        path ∈ r.mentioned (Import.supplyAll imports (supplies ++ [x])) ↔
      ∃ y ∈ supplies ++ [x], path ∈ r.importsOf y.source := by
  constructor
  · rintro (⟨y, before, imported⟩ | mentioned)
    · exact ⟨y, List.mem_append_left _ before, imported⟩
    · obtain ⟨i, here, content, has, imported⟩ := mem_mentioned.1 mentioned
      rcases Import.source_of_mem_supplyAll here has with ⟨y, given, rfl⟩ | ⟨j, old, has⟩
      · exact ⟨y, given, imported⟩
      · -- the contents of the list itself import nothing that it lacks
        have known : path ∈ (r.resolve imports).map (·.path) :=
          mem_paths_resolve.2 (.inr (mem_mentioned.2 ⟨j, old, content, has, imported⟩))
        rw [settled] at known
        exact absurd known new
  · rintro ⟨y, given, imported⟩
    rcases List.mem_append.1 given with before | last
    · exact .inl ⟨y, before, imported⟩
    · obtain rfl := List.mem_singleton.1 last
      have filled := Import.mem_supply_self y.source y.fileName
        ((Import.map_path_supplyAll imports supplies).symm ▸ listed)
      rw [← Import.supplyAll_concat] at filled
      exact .inr (mem_mentioned.2 ⟨_, filled, y.source, rfl, imported⟩)

theorem next (h : r.Supplied imports supplies result added) (settled : r.resolve imports = imports)
    (listed : x.path ∈ imports.map (·.path)) :
    ∃ added', r.Supplied imports (supplies ++ [x])
      (r.settle (Import.supply result x.path x.source x.fileName)) added' := by
  have filled := h.supply_eq listed
  have before : Workflow.Grows (imports.map (·.path))
      ((Import.supply result x.path x.source x.fileName).map (·.path)) added := by
    rw [Import.map_path_supply]
    exact h.grows
  generalize Import.supply result x.path x.source x.fileName = list at filled before ⊢
  rw [settle_eq_resolve]
  refine ⟨added ++ r.missing list, ?_, before.resolve r, fun path new => ?_⟩
  · rw [resolve, List.map_append, ← List.append_assoc, ← filled]
  · have mentioned :
        r.mentioned list = r.mentioned (Import.supplyAll imports (supplies ++ [x])) := by
      rw [filled, mentioned_append, mentioned_unresolved, List.append_nil]
    rw [← mem_mentioned_iff settled listed new, ← h.mem_iff path new, ← mentioned,
      List.mem_append, missing, mem_distinct, before.paths_eq, List.mem_append]
    tauto

end Supplied

theorem supplied_supplyAll (settled : r.resolve imports = imports)
    (listed : ∀ x ∈ supplies, x.path ∈ imports.map (·.path)) :
    ∃ added, r.Supplied imports supplies (r.supplyAll imports supplies) added := by
  induction supplies using List.reverseRecOn with
  | nil => exact ⟨[], .initial r imports⟩
  | append_singleton supplies x ih =>
    obtain ⟨added, before⟩ := ih fun y given => listed y (List.mem_append_left _ given)
    rw [supplyAll_concat]
    exact before.next settled (listed x (List.mem_append_right _ List.mem_cons_self))

end ImportResolver

namespace Workflow

variable {w : Workflow} {s : State} {first second : List Import.Supply}

def supplyImports (w : Workflow) (s : State) (supplies : List Import.Supply) : State :=
  supplies.foldl (fun s x => w.supplyImport s x.path x.source x.fileName) s

theorem supplyImports_eq (w : Workflow) (s : State) (supplies : List Import.Supply) :
    w.supplyImports s supplies =
      { s with imports := w.resolver.supplyAll s.imports supplies } := by
  induction supplies using List.reverseRecOn with
  | nil => rfl
  | append_singleton supplies x ih =>
    have last : w.supplyImports s (supplies ++ [x]) =
        w.supplyImport (w.supplyImports s supplies) x.path x.source x.fileName := by
      rw [supplyImports, List.foldl_append]
      rfl
    rw [last, ih, ImportResolver.supplyAll_concat]
    rfl

theorem isReady_congr {imports imports' : List Import}
    (same : Import.unresolvedCount imports = Import.unresolvedCount imports') (w : Workflow)
    (s : State) (step : Step) :
    w.isReady { s with imports, step } = w.isReady { s with imports := imports', step } := by
  cases step with
  | importResolution =>
    simp only [isReady, unresolvedCount, same]
    rfl
  | _ => rfl

/-- Contents for paths of a settled list may be supplied in any order: the entries of the list come
out the same, and the appended ones are the same up to their order. They all lack their content, so
as many imports do, and each step is complete in the one case exactly if it is in the other. -/
theorem supplies_in_any_order (w : Workflow) (s : State)
    (settled : w.resolver.resolve s.imports = s.imports)
    (nodup : (first.map (·.path)).Nodup) (listed : ∀ x ∈ first, x.path ∈ s.imports.map (·.path))
    (perm : first.Perm second) :
    let a := w.supplyImports s first
    let b := w.supplyImports s second
    ∃ kept added added',
      a = { s with imports := kept ++ added } ∧ b = { s with imports := kept ++ added' } ∧
        kept.length = s.imports.length ∧ added.Perm added' ∧
        (∀ i ∈ added, i.isResolved = false) ∧ unresolvedCount a = unresolvedCount b ∧
        ∀ step, w.isReady { a with step } = w.isReady { b with step } := by
  intro a b
  obtain ⟨added, ha⟩ := ImportResolver.supplied_supplyAll settled listed
  obtain ⟨added', hb⟩ := ImportResolver.supplied_supplyAll settled fun x given =>
    listed x (perm.mem_iff.2 given)
  have appended : added.Perm added' := by
    refine (List.perm_ext_iff_of_nodup ha.grows.nodup hb.grows.nodup).2 fun path => ?_
    by_cases old : path ∈ s.imports.map (·.path)
    · exact iff_of_false (ha.grows.new path · old) (hb.grows.new path · old)
    · rw [ha.mem_iff path old, hb.mem_iff path old]
      exact exists_congr fun x => and_congr_left fun _ => perm.mem_iff
  have a_eq := supplyImports_eq w s first
  have b_eq := supplyImports_eq w s second
  rw [ha.result_eq] at a_eq
  rw [hb.result_eq, ← Import.supplyAll_perm perm nodup] at b_eq
  have count : unresolvedCount a = unresolvedCount b := by
    rw [show a = _ from a_eq, show b = _ from b_eq]
    exact ((appended.map Import.unresolved).append_left _).countP_eq _
  refine ⟨_, _, _, a_eq, b_eq, Import.length_supplyAll _ _, appended.map _, ?_, count, ?_⟩
  · intro i new
    obtain ⟨path, -, rfl⟩ := List.mem_map.1 new
    rfl
  · intro step
    rw [show a = _ from a_eq, show b = _ from b_eq] at count ⊢
    exact isReady_congr count w s step

def sampleListed : State :=
  { imports := [.unresolved "./Lib.sol", .unresolved "./Math.sol"] }

def sampleSupplies : List Import.Supply :=
  [⟨"./Lib.sol", "import './A.sol';", some "Lib.sol"⟩, ⟨"./Math.sol", "import './B.sol';", none⟩]

theorem supplies_in_any_order_sample :
    sample.resolver.resolve sampleListed.imports = sampleListed.imports ∧
      (sampleSupplies.map (·.path)).Nodup ∧
      (∀ x ∈ sampleSupplies, x.path ∈ sampleListed.imports.map (·.path)) ∧
      ∃ kept added added',
        (sample.supplyImports sampleListed sampleSupplies).imports = kept ++ added ∧
          (sample.supplyImports sampleListed sampleSupplies.reverse).imports = kept ++ added' ∧
          added ≠ added' ∧ added.Perm added' := by
  have settled : sample.resolver.resolve sampleListed.imports = sampleListed.imports := by
    decide +kernel
  have nodup : (sampleSupplies.map (·.path)).Nodup := by decide
  have given : ∀ x ∈ sampleSupplies, x.path ∈ sampleListed.imports.map (·.path) := by decide
  have differ : sample.resolver.supplyAll sampleListed.imports sampleSupplies ≠
      sample.resolver.supplyAll sampleListed.imports sampleSupplies.reverse := by
    decide +kernel
  obtain ⟨kept, added, added', a_eq, b_eq, -, appended, -⟩ :=
    supplies_in_any_order sample sampleListed settled nodup given
      (List.reverse_perm sampleSupplies).symm
  refine ⟨settled, nodup, given, kept, added, added', by rw [a_eq], by rw [b_eq], ?_, appended⟩
  rintro rfl
  refine differ ?_
  have same := congrArg State.imports (a_eq.trans b_eq.symm)
  rwa [supplyImports_eq, supplyImports_eq] at same

end Workflow

end SourceMatch
