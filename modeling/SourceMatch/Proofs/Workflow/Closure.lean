import SourceMatch.Proofs.Compiler.Input
import SourceMatch.Proofs.Import.Resolver
import SourceMatch.Proofs.Workflow.Inputs

/-!
What a verification compiles is closed under imports. The import list always has all paths that the
source and the listed contents name, as long as a list that replaces it keeps its paths: each setter
settles the list anew. A compilation is started when every import has its content, and then every
path that a content names is a name the compiler is given.
-/
namespace SourceMatch.Workflow

variable {w : Workflow} {i : Inputs} {e : Event}

structure Inputs.Closed (w : Workflow) (i : Inputs) : Prop where
  source : ∀ path ∈ w.resolver.importsOf (i.source.getD ""), path ∈ i.imports.map (·.path)
  imports : ∀ path ∈ w.resolver.mentioned i.imports, path ∈ i.imports.map (·.path)

def Event.KeepsPaths (imports : List Import) : Event → Prop
  | .replaceImports replacement => ∀ i ∈ imports, i.path ∈ replacement.map (·.path)
  | _ => True

/-- Every import list that is replaced along a run is replaced by one that holds its paths. -/
def KeepPaths (w : Workflow) (events : List Event) : Prop :=
  ∀ before e after, events = before ++ e :: after → e.KeepsPaths (run w before).state.imports

namespace Inputs.Closed

theorem of_settle {list : List Import} (himports : i.imports = w.resolver.settle list)
    (source : ∀ path ∈ w.resolver.importsOf (i.source.getD ""), path ∈ list.map (·.path)) :
    i.Closed w := by
  rw [ImportResolver.settle_eq_resolve] at himports
  refine ⟨fun path hp => ?_, fun path hp => ?_⟩
  · rw [himports, ImportResolver.mem_paths_resolve]
    exact .inl (source path hp)
  · rw [himports, ImportResolver.mentioned_resolve] at hp
    rw [himports, ImportResolver.mem_paths_resolve]
    exact .inr hp

theorem initial (w : Workflow) : Inputs.Closed w (run w []).state.inputs := by
  refine ⟨fun path hp => ?_, fun path hp => ?_⟩ <;> cases hp

theorem after (h : i.Closed w) (keeps : e.KeepsPaths i.imports) : (i.after w e).Closed w := by
  cases e with
  | setSource fileName source =>
    -- the old list goes; the new one starts from what the source names
    cases source with
    | none => refine ⟨fun path hp => ?_, fun path hp => ?_⟩ <;> cases hp
    | some source =>
      refine of_settle rfl fun path hp => ?_
      rw [ImportResolver.seed, List.map_map]
      exact List.mem_map.2 ⟨path, hp, rfl⟩
  | supplyImport path source fileName =>
    refine of_settle rfl fun p hp => ?_
    rw [Import.map_path_supply]
    exact h.source p hp
  | replaceImports imports =>
    refine of_settle rfl fun p hp => ?_
    obtain ⟨j, hj, rfl⟩ := List.mem_map.1 (h.source p hp)
    exact keeps j hj
  | _ => exact ⟨h.source, h.imports⟩

end Inputs.Closed

theorem run_closed {events : List Event} (keep : KeepPaths w events) :
    (run w events).state.inputs.Closed w := by
  induction events using List.reverseRecOn with
  | nil => exact .initial w
  | append_singleton events e ih =>
    have before : KeepPaths w events := fun l e' rest h =>
      keep l e' (rest ++ [e]) (by rw [h]; simp)
    rw [run_concat, step_inputs]
    exact (ih before).after (keep events e [] rfl)

theorem isResolved_of_unresolvedCount {imports : List Import}
    (h : Import.unresolvedCount imports = 0) {j : Import} (hj : j ∈ imports) :
    j.isResolved = true := by
  have := List.countP_eq_zero.1 h j hj
  simpa using this

/-- Every compile call of a run in which replaced import lists keep their paths is closed under
imports: a path that one of its contents imports is one of its names. Each content is the entry
source, empty if there is none, or that of a listed import; no import takes a name away. -/
theorem compile_call_closed (w : Workflow) (events : List Event) (keep : KeepPaths w events)
    (e : Event) (generation : Nat) (input : CompilerInput)
    (called : ((run w events).step w e).call = some (.compile generation input)) :
    let s := (run w events).state
    (∀ name content, input.sources.get? name = some content →
      (∀ path ∈ w.resolver.importsOf content, input.sources.contains path = true) ∧
        (content = s.source.getD "" ∨ ∃ i ∈ s.imports, i.source = some content)) ∧
      ∀ name, input.sources.contains name = true ↔
        name = s.sourceFileName ∨ ∃ i ∈ s.imports, name = i.path ∨ name = i.fileName := by
  intro s
  obtain ⟨-, -, -, -, resolved, -, version, -, rfl⟩ := (compile_call_iff w _ _ _ _).1 called
  have closed : s.inputs.Closed w := run_closed keep
  have hresolved {j : Import} : j ∈ s.imports → j.isResolved = true :=
    isResolved_of_unresolvedCount resolved
  have names (name : String) :
      (w.compilerInput s version).sources.contains name = true ↔
        name = s.sourceFileName ∨ ∃ i ∈ s.imports, name = i.path ∨ name = i.fileName := by
    rw [compilerInput, CompilerInput.contains_sources]
    refine or_congr_right (exists_congr fun j => and_congr_right fun hj => ?_)
    exact and_iff_right (hresolved hj)
  refine ⟨fun name content hc => ?_, names⟩
  have origin := CompilerInput.content_of_get? hc
  refine ⟨fun path hp => (names path).2 (.inr ?_), origin⟩
  -- the list is closed, and each of its paths is a name because each import has its content
  have listed : path ∈ s.imports.map (·.path) := by
    rcases origin with rfl | ⟨j, hj, hsource⟩
    · exact closed.source path hp
    · exact closed.imports path (ImportResolver.mem_mentioned.2 ⟨j, hj, content, hsource, hp⟩)
  obtain ⟨j, hj, rfl⟩ := List.mem_map.1 listed
  exact ⟨j, hj, .inl rfl⟩

def librarySource : String := "import './Math.sol';"

def sampleLinked : List Event :=
  [.setSource "Token.sol" (some "import './Lib.sol';"),
    .replaceImports [⟨"./Lib.sol", some librarySource, none⟩, ⟨"./Math.sol", some "", none⟩],
    .setCompilerVersion (some "0.8.18"), .next default, .next default]

theorem run_entered : run sample [.setSource "Token.sol" (some "import './Lib.sol';")] =
    { state :=
        { sourceFileName := "Token.sol", source := some "import './Lib.sol';",
          imports := [⟨"./Lib.sol", none, none⟩], generation := 1 } } := by
  have himports : sample.resolver.resolve (sample.resolver.seed "import './Lib.sol';") =
      [⟨"./Lib.sol", none, none⟩] := by decide +kernel
  simp only [run, List.foldl_cons, List.foldl_nil, Run.step, Run.withState, Workflow.setSource,
    ImportResolver.settle_eq_resolve, Option.map_some, Option.getD_some, himports]
  rfl

theorem run_sampleLinked : run sample sampleLinked =
    { state :=
        { step := .importResolution, sourceFileName := "Token.sol",
          source := some "import './Lib.sol';", compilerVersion := some "0.8.18",
          imports := [⟨"./Lib.sol", some librarySource, none⟩, ⟨"./Math.sol", some "", none⟩],
          generation := 1 }
      rounds := [none, none] } := by
  have himports : sample.resolver.resolve
      [⟨"./Lib.sol", some librarySource, none⟩, ⟨"./Math.sol", some "", none⟩] =
      [⟨"./Lib.sol", some librarySource, none⟩, ⟨"./Math.sol", some "", none⟩] := by
    decide +kernel
  rw [sampleLinked, ← List.singleton_append, run, List.foldl_append, ← run, run_entered]
  simp only [List.foldl_cons, List.foldl_nil, Run.step, Run.withState, Workflow.replaceImports,
    ImportResolver.settle_eq_resolve, himports]
  rfl

theorem keepPaths_sampleLinked : KeepPaths sample sampleLinked := by
  intro before e after h
  rcases before with _ | ⟨a, _ | ⟨b, before⟩⟩ <;>
    simp only [sampleLinked, List.nil_append, List.cons_append, List.cons.injEq] at h
  · obtain ⟨rfl, -⟩ := h
    trivial
  · obtain ⟨rfl, rfl, -⟩ := h
    rw [run_entered]
    intro i hi
    simp only [List.mem_singleton] at hi
    simp [hi]
  · -- behind the replacement nothing replaces the list
    obtain ⟨-, -, h⟩ := h
    have he : e ∈ before ++ e :: after := by simp
    rw [← h] at he
    simp only [List.mem_cons, List.not_mem_nil, or_false] at he
    rcases he with rfl | rfl | rfl <;> trivial

theorem compile_call_closed_sample :
    KeepPaths sample sampleLinked ∧
    ∃ input, ((run sample sampleLinked).step sample (.next default)).call =
        some (.compile 2 input) ∧
      (∀ name content, input.sources.get? name = some content →
        (∀ path ∈ sample.resolver.importsOf content, input.sources.contains path = true) ∧
          (content = (run sample sampleLinked).state.source.getD "" ∨
            ∃ i ∈ (run sample sampleLinked).state.imports, i.source = some content)) ∧
      ∀ name, input.sources.contains name = true ↔
        name = (run sample sampleLinked).state.sourceFileName ∨
          ∃ i ∈ (run sample sampleLinked).state.imports, name = i.path ∨ name = i.fileName := by
  have called : ((run sample sampleLinked).step sample (.next default)).call = some
      (.compile 2 (sample.compilerInput (run sample sampleLinked).state "0.8.18")) := by
    rw [run_sampleLinked]
    rfl
  exact ⟨keepPaths_sampleLinked, _, called,
    compile_call_closed sample sampleLinked keepPaths_sampleLinked _ _ _ called⟩

end SourceMatch.Workflow
