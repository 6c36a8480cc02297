import SourceMatch.Proofs.Import.Resolver
import SourceMatch.Proofs.Workflow.Inputs

/-!
The paths of a verification's imports. A source and a list that replaces the imports each begin the
list anew; what is added to it afterwards is added once. So a path is listed twice exactly if the
list that came last had it twice.
-/
namespace SourceMatch.Workflow

variable {w : Workflow} {e : Event} {imports : List Import} {base : List String}

structure Grows (base paths : List String) (added : List String) : Prop where
  paths_eq : paths = base ++ added
  nodup : added.Nodup
  new : ∀ path ∈ added, path ∉ base

namespace Grows

theorem refl (base : List String) : Grows base base [] :=
  ⟨(List.append_nil _).symm, List.nodup_nil, nofun⟩

theorem nodup_iff {paths added : List String} (h : Grows base paths added) :
    paths.Nodup ↔ base.Nodup := by
  rw [h.paths_eq, List.nodup_append]
  constructor
  · exact fun all => all.1
  · intro start
    refine ⟨start, h.nodup, ?_⟩
    rintro path old _ later rfl
    exact h.new path later old

theorem resolve {added : List String} (r : ImportResolver)
    (h : Grows base (imports.map (·.path)) added) :
    Grows base ((r.resolve imports).map (·.path)) (added ++ r.missing imports) := by
  have missing : ∀ path ∈ r.missing imports, path ∉ base ++ added := by
    intro path lacking
    rw [← h.paths_eq]
    exact (ImportResolver.mem_distinct.1 lacking).2
  refine ⟨?_, List.nodup_append.2 ⟨h.nodup, ImportResolver.nodup_distinct _ _, ?_⟩, ?_⟩
  · rw [ImportResolver.map_path_resolve, h.paths_eq, List.append_assoc]
  · rintro path before _ lacking rfl
    exact missing path lacking (List.mem_append_right _ before)
  · intro path listed old
    rcases List.mem_append.1 listed with before | lacking
    · exact h.new path before old
    · exact missing path lacking (List.mem_append_left _ old)

theorem settle {added : List String} (r : ImportResolver)
    (h : Grows base (imports.map (·.path)) added) :
    ∃ added', Grows base ((r.settle imports).map (·.path)) added' := by
  rw [ImportResolver.settle_eq_resolve]
  exact ⟨_, h.resolve r⟩

end Grows

def Event.beginsList : Event → Bool
  | .setSource .. | .replaceImports _ => true
  | _ => false

def Event.list? (w : Workflow) : Event → Option (List Import)
  | .setSource _ source => some ((source.map w.resolver.seed).getD [])
  | .replaceImports imports => some imports
  | _ => none

theorem list?_eq_none_iff : e.list? w = none ↔ e.beginsList = false := by
  cases e <;> simp [Event.list?, Event.beginsList]

/-- The list that came last. -/
def lastList (w : Workflow) (events : List Event) : List Import :=
  (events.filterMap (Event.list? w)).getLastD []

theorem lastList_concat (w : Workflow) (events : List Event) (e : Event) :
    lastList w (events ++ [e]) = (e.list? w).getD (lastList w events) := by
  rw [lastList, lastList, List.filterMap_append]
  cases begun : e.list? w <;> simp [begun]

theorem lastList_of_list? {before after : List Event} (begun : e.list? w = some imports)
    (later : ∀ e ∈ after, e.beginsList = false) : lastList w (before ++ e :: after) = imports := by
  have nothing : after.filterMap (Event.list? w) = [] :=
    List.filterMap_eq_nil_iff.2 fun e listed => list?_eq_none_iff.2 (later e listed)
  simp [lastList, List.filterMap_append, begun, nothing]

theorem lastList_of_none {events : List Event} (later : ∀ e ∈ events, e.beginsList = false) :
    lastList w events = [] := by
  rw [lastList, List.filterMap_eq_nil_iff.2 fun e listed => list?_eq_none_iff.2 (later e listed)]
  rfl

theorem grows_after {i : Inputs} {added : List String}
    (h : Grows base (i.imports.map (·.path)) added) :
    ∃ added', Grows (((e.list? w).map (·.map (·.path))).getD base)
      ((i.after w e).imports.map (·.path)) added' := by
  cases e with
  | setSource fileName source =>
    cases source with
    | none => exact ⟨[], .refl _⟩
    | some source => exact (Grows.refl _).settle w.resolver
  | replaceImports imports => exact (Grows.refl _).settle w.resolver
  | supplyImport path source fileName =>
    have supplied : Grows base
        ((Import.supply i.imports path source fileName).map (·.path)) added := by
      rwa [Import.map_path_supply]
    exact supplied.settle w.resolver
  | _ => exact ⟨added, h⟩

theorem run_grows (w : Workflow) (events : List Event) :
    ∃ added, Grows ((lastList w events).map (·.path))
      ((run w events).state.imports.map (·.path)) added := by
  induction events using List.reverseRecOn with
  | nil => exact ⟨[], .refl []⟩
  | append_singleton events e ih =>
    obtain ⟨added, grown⟩ := ih
    have after := grows_after (w := w) (e := e) (i := (run w events).state.inputs) grown
    rw [← step_inputs, ← run_concat] at after
    rw [lastList_concat]
    cases begun : e.list? w <;> rw [begun] at after <;> exact after

theorem nodup_seed (r : ImportResolver) (source : String) :
    ((r.seed source).map (·.path)).Nodup := by
  rw [ImportResolver.seed, ImportResolver.map_path_unresolved]
  exact ImportResolver.nodup_distinct _ _

/-- The paths of a verification's imports are pairwise distinct, unless the last event that began
the list anew is a replacement that has a path twice. -/
theorem nodup_paths_iff (w : Workflow) (events : List Event) :
    ((run w events).state.imports.map (·.path)).Nodup ↔
      ∀ before imports after, events = before ++ .replaceImports imports :: after →
        (∀ e ∈ after, e.beginsList = false) → (imports.map (·.path)).Nodup := by
  obtain ⟨added, grown⟩ := run_grows w events
  rw [grown.nodup_iff]
  constructor
  · rintro nodup before imports after rfl later
    rwa [lastList_of_list? rfl later] at nodup
  · intro distinct
    by_cases begun : ∃ e ∈ events, e.beginsList = true
    · obtain ⟨before, e, after, rfl, last, later⟩ := exists_last begun
      simp only [Bool.not_eq_true] at later
      cases e with
      | setSource fileName source =>
        rw [lastList_of_list? rfl later]
        cases source with
        | none => exact List.nodup_nil
        | some source => exact nodup_seed w.resolver source
      | replaceImports imports =>
        rw [lastList_of_list? rfl later]
        exact distinct before imports after rfl later
      | _ => cases last
    · simp only [not_exists, not_and, Bool.not_eq_true] at begun
      rw [lastList_of_none begun]
      exact List.nodup_nil

theorem lists_path_twice :
    ¬∀ (w : Workflow) (events : List Event), ((run w events).state.imports.map (·.path)).Nodup := by
  intro h
  have twice := h sample [.replaceImports [.unresolved "./Math.sol", .unresolved "./Math.sol"]]
  obtain ⟨added, grown⟩ :=
    run_grows sample [.replaceImports [.unresolved "./Math.sol", .unresolved "./Math.sol"]]
  exact absurd (grown.nodup_iff.1 twice) (by decide)

end SourceMatch.Workflow
