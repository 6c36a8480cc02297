import SourceMatch.Proofs.CommandLine.Verify.Course
import SourceMatch.Proofs.Tree.Filling

/-!
The imports of a verification. Rounds of filling the import list from the tree come to an end,
since each of them resolves one import more and only finitely many paths can be needed. Behind the
last one the list is complete: it holds exactly the needed paths, each once and with the content
that the tree has for it. So the imports that the command misses are the needed paths without a file
in the tree.
-/
namespace SourceMatch

namespace ImportResolver

variable {r : ImportResolver} {t : SourceTree} {source : String} {imports : List Import}

/-- All that a source needs is listed, and the contents are there as far as the tree has them. -/
structure Complete (r : ImportResolver) (t : SourceTree) (source : String)
    (imports : List Import) : Prop where
  nodup : (imports.map (·.path)).Nodup
  mem_paths_iff : ∀ path, path ∈ imports.map (·.path) ↔ r.Needs t source path
  found : ∀ i ∈ imports, ∀ name content, t.lookup? i.path = some (name, content) →
    i.source = some content ∧ i.sourceFileName = some name
  missing : ∀ i ∈ imports, t.lookup? i.path = none → i.source = none ∧ i.sourceFileName = none

theorem Gathers.complete (h : r.Gathers t source imports) (settled : t.fill imports = imports) :
    r.Complete t source imports where
  nodup := h.nodup
  mem_paths_iff := h.mem_paths_iff settled
  found i listed name content found := by
    rw [h.importOf_eq settled listed, SourceTree.importOf_of_lookup? found]
    exact ⟨rfl, rfl⟩
  missing i listed missing := by
    rw [h.importOf_eq settled listed, SourceTree.importOf_of_missing missing]
    exact ⟨rfl, rfl⟩

theorem Complete.isResolved_iff (h : r.Complete t source imports) {i : Import}
    (listed : i ∈ imports) : i.isResolved = false ↔ t.lookup? i.path = none := by
  cases looked : t.lookup? i.path with
  | none => simp [Import.isResolved, (h.missing i listed looked).1]
  | some file => simp [Import.isResolved, (h.found i listed _ _ looked).1]

end ImportResolver

namespace CommandLine.VerifyCommand

open SourceMatch.CommandLine.Action

variable {w : Workflow} {tree : SourceTree} {source : String} {s t : Workflow.State}

/-- Rounds of filling, until one changes nothing. -/
inductive Fills (w : Workflow) (tree : SourceTree) : Workflow.State → Workflow.State → Prop
  | done {s : Workflow.State} (settled : tree.fill s.imports = s.imports) : Fills w tree s s
  | again {s t : Workflow.State} (changed : tree.fill s.imports ≠ s.imports)
      (rest : Fills w tree (w.replaceImports s (tree.fill s.imports)) t) : Fills w tree s t

theorem Fills.unique {t' : Workflow.State} (h : Fills w tree s t) (h' : Fills w tree s t') :
    t' = t := by
  induction h with
  | done settled =>
    cases h' with
    | done => rfl
    | again changed => exact absurd settled changed
  | again changed rest ih =>
    cases h' with
    | done settled => exact absurd settled changed
    | again _ rest' => exact ih rest'

theorem gathers_replaceImports (h : w.resolver.Gathers tree source s.imports) :
    w.resolver.Gathers tree source (w.replaceImports s (tree.fill s.imports)).imports := by
  have imports : (w.replaceImports s (tree.fill s.imports)).imports =
      w.resolver.resolve (tree.fill s.imports) := ImportResolver.settle_eq_resolve _ _
  rw [imports]
  exact h.round

theorem Fills.gathers (h : Fills w tree s t) (start : w.resolver.Gathers tree source s.imports) :
    w.resolver.Gathers tree source t.imports ∧ tree.fill t.imports = t.imports := by
  induction h with
  | done settled => exact ⟨start, settled⟩
  | again changed rest ih => exact ih (gathers_replaceImports start)

theorem fills_fillFrom {fuel : Nat} (h : w.resolver.Gathers tree source s.imports)
    (enough : (w.resolver.reachable tree source).length ≤
      s.imports.countP (·.isResolved) + fuel) : Fills w tree s (fillFrom w tree fuel s) := by
  induction fuel generalizing s with
  | zero =>
    refine .done (by_contra fun changed => ?_)
    have more := SourceTree.resolved_lt_fill changed
    have most := h.resolved_le
    omega
  | succ fuel ih =>
    rw [fillFrom]
    by_cases settled : tree.fill s.imports = s.imports
    · rw [if_pos settled]
      exact .done settled
    · rw [if_neg settled]
      refine .again settled (ih (gathers_replaceImports h) ?_)
      have more := SourceTree.resolved_lt_fill settled
      have kept : (w.replaceImports s (tree.fill s.imports)).imports.countP (·.isResolved) =
          (tree.fill s.imports).countP (·.isResolved) := by
        rw [Workflow.replaceImports, ImportResolver.settle_eq_resolve,
          ImportResolver.resolved_resolve]
      omega

theorem fills_fill (start : s.imports = w.resolver.seed source) :
    Fills w tree s (fill w tree s) := by
  refine fills_fillFrom (start ▸ ImportResolver.gathers_seed w.resolver tree source) ?_
  have entry : s.imports.length = (w.resolver.importsOf source).length := by
    rw [start, ImportResolver.seed, List.length_map]
  rw [ImportResolver.reachable, List.length_append, entry]
  exact Nat.le_add_left _ _

theorem complete_fill (start : s.imports = w.resolver.seed source) :
    w.resolver.Complete tree source (fill w tree s).imports := by
  have fills : Fills w tree s (fill w tree s) := fills_fill start
  have gathers := fills.gathers (start ▸ ImportResolver.gathers_seed w.resolver tree source)
  exact gathers.1.complete gathers.2

theorem mem_unresolvedPaths {r : ImportResolver} (h : r.Complete tree source s.imports)
    (path : String) :
    path ∈ unresolvedPaths s ↔ r.Needs tree source path ∧ tree.lookup? path = none := by
  rw [unresolvedPaths, List.mem_map, ← h.mem_paths_iff, List.mem_map]
  constructor
  · rintro ⟨i, missing, rfl⟩
    obtain ⟨listed, unresolved⟩ := List.mem_filter.1 missing
    exact ⟨⟨i, listed, rfl⟩, (h.isResolved_iff listed).1 (by simpa using unresolved)⟩
  · rintro ⟨⟨i, listed, rfl⟩, missing⟩
    have unresolved := (h.isResolved_iff listed).2 missing
    exact ⟨i, List.mem_filter.2 ⟨listed, by simpa using unresolved⟩, rfl⟩

theorem nodup_unresolvedPaths {r : ImportResolver} (h : r.Complete tree source s.imports) :
    (unresolvedPaths s).Nodup :=
  h.nodup.sublist (List.filter_sublist.map _)

variable {a : VerifyArguments} {p : Setup} {world opened : World}

theorem complete_gathered (version : String) (prepared : Prepared a world p opened) :
    ImportResolver.Complete {} p.tree p.source (gathered p version).imports := by
  have resolver : p.workflow.resolver = {} := by rw [prepared.workflow]; rfl
  rw [← resolver]
  exact complete_fill (ImportResolver.settle_seed _ _)

/-- What the command does with the imports once everything is read and a compiler is selected: the
rounds lead to a complete list, the paths in it without content are refused, and if there are none
the list is compiled. -/
structure ResolvesImports (p : Setup) (version : String) (opened : World)
    (result : Except CommandError Unit) (w' : World) : Prop where
  fills : Fills p.workflow p.tree (entered p version) (gathered p version)
  complete : ImportResolver.Complete {} p.tree p.source (gathered p version).imports
  nodup : (unresolvedPaths (gathered p version)).Nodup
  mem_missing_iff : ∀ path, path ∈ unresolvedPaths (gathered p version) ↔
    ImportResolver.Needs {} p.tree p.source path ∧ p.tree.lookup? path = none
  refused_iff : ∀ paths, result = .error (.unresolvedImports paths) ↔
    paths = unresolvedPaths (gathered p version) ∧ paths ≠ []
  unsent : unresolvedPaths (gathered p version) ≠ [] → w'.network = opened.network
  compiled : unresolvedPaths (gathered p version) = [] → ∃ answer,
    p.services.compiler.compile opened.network
      (p.workflow.compilerInput (gathered p version) version) = (answer, w'.network)

theorem fills_gathered (p : Setup) (version : String) :
    Fills p.workflow p.tree (entered p version) (gathered p version) := by
  rw [← fill_entered]
  exact fills_fill (ImportResolver.settle_seed _ _)

variable {result : Except CommandError Unit} {world' : World} {version : String}

theorem resolvesImports_of_missing (prepared : Prepared a world p opened)
    (missing : unresolvedPaths (gathered p version) ≠ [])
    (refused : result = .error (.unresolvedImports (unresolvedPaths (gathered p version))))
    (network : world'.network = opened.network) :
    ResolvesImports p version opened result world' where
  fills := fills_gathered p version
  complete := complete_gathered version prepared
  nodup := nodup_unresolvedPaths (complete_gathered version prepared)
  mem_missing_iff := mem_unresolvedPaths (complete_gathered version prepared)
  refused_iff paths := by
    rw [refused]
    constructor
    · rintro ⟨⟩
      exact ⟨rfl, missing⟩
    · rintro ⟨rfl, -⟩
      rfl
  unsent _ := network
  compiled none := absurd none missing

theorem resolvesImports_of_compiles {answer : Except CompileError CompileOutput}
    (compiles : Compiles a world p opened version answer world'.network)
    (passed : ∀ paths, result ≠ .error (.unresolvedImports paths)) :
    ResolvesImports p version opened result world' where
  fills := fills_gathered p version
  complete := complete_gathered version compiles.prepared
  nodup := nodup_unresolvedPaths (complete_gathered version compiles.prepared)
  mem_missing_iff := mem_unresolvedPaths (complete_gathered version compiles.prepared)
  refused_iff paths := by
    refine iff_of_false (passed paths) ?_
    rintro ⟨rfl, missing⟩
    exact missing compiles.resolved
  unsent missing := absurd compiles.resolved missing
  compiled _ := ⟨answer, compiles.compiled⟩

theorem resolvesImports_of_course (course : Course a world result world')
    (prepared : Prepared a world p opened) (selects : Selects p a.compilerVersion version) :
    ResolvesImports p version opened result world' := by
  -- the setup and the version of the course are the ones that are given
  have same {p' : Setup} {opened' : World} {version' : String}
      {answer : Except CompileError CompileOutput}
      (compiles : Compiles a world p' opened' version' answer world'.network) :
      Compiles a world p opened version answer world'.network := by
    obtain ⟨rfl, -, network⟩ := prepared.unique compiles.prepared
    obtain rfl := selects.unique compiles.selects
    exact ⟨prepared, selects, compiles.resolved, network ▸ compiles.compiled⟩
  cases course with
  | unread _ unprepared => exact absurd prepared (unprepared p opened)
  | unselected prepared' _ unselected =>
    obtain ⟨rfl, -⟩ := prepared.unique prepared'
    exact absurd selects (unselected version)
  | unresolved prepared' selects' missing _ network =>
    obtain ⟨rfl, -, network'⟩ := prepared.unique prepared'
    obtain rfl := selects.unique selects'
    exact resolvesImports_of_missing prepared missing rfl (network.trans network')
  | mismatched compiles => exact resolvesImports_of_compiles (same compiles) nofun
  | unregistered compiles => exact resolvesImports_of_compiles (same compiles) nofun
  | verified verified => exact resolvesImports_of_compiles (same verified.toCompiles) nofun

/-- Whatever the entry source and the tree are, cyclic imports included, the rounds of filling come
to an end, in which the import list is complete and nothing else has changed. A run of the command
that has read everything and selected a compiler makes these rounds: it refuses exactly the needed
paths that the tree has no file for, and without one it compiles the list. -/
theorem fills_needed_imports :
    (∀ (w : Workflow) (tree : SourceTree) (source : String) (s : Workflow.State),
      let entered := { s with imports := w.resolver.settle (w.resolver.seed source) }
      let filled := fill w tree entered
      (∀ t, Fills w tree entered t ↔ t = filled) ∧
        filled = { s with imports := filled.imports } ∧
        w.resolver.Complete tree source filled.imports) ∧
    ∀ (a : VerifyArguments) (world : World),
      (run a).Meets world fun result world' =>
        (∀ p opened version, Prepared a world p opened → Selects p a.compilerVersion version →
          ResolvesImports p version opened result world') ∧
        (result = .ok () ∨ (∃ paths, result = .error (.unresolvedImports paths)) →
          ∃ p opened version, Prepared a world p opened ∧ Selects p a.compilerVersion version) := by
  constructor
  · intro w tree source s entered filled
    have start : entered.imports = w.resolver.seed source := ImportResolver.settle_seed _ _
    have fills : Fills w tree entered filled := fills_fill start
    refine ⟨fun t => ⟨fills.unique, fun same => same ▸ fills⟩, fill_eq _ _ _, ?_⟩
    exact complete_fill start
  · intro a world
    refine .imp (meets_run a world) fun result world' course => ⟨fun p opened version => ?_, ?_⟩
    · exact resolvesImports_of_course course
    · intro late
      cases course with
      | unread cause =>
        rcases late with ⟨⟨⟩⟩ | ⟨paths, ⟨⟩⟩
        cases cause
      | unselected _ cause =>
        rcases late with ⟨⟨⟩⟩ | ⟨paths, ⟨⟩⟩
        cases cause
      | unresolved prepared selects => exact ⟨_, _, _, prepared, selects⟩
      | mismatched compiles => exact ⟨_, _, _, compiles.prepared, compiles.selects⟩
      | unregistered compiles => exact ⟨_, _, _, compiles.prepared, compiles.selects⟩
      | verified verified => exact ⟨_, _, _, verified.prepared, verified.selects⟩

theorem fills_needed_imports_sample :
    let a := sampleArguments none
    let w := sampleWorld "import \"./B.sol\"; import \"./C.sol\";" []
    (∃ p opened, Prepared a w p opened ∧ Selects p a.compilerVersion "0.8.18") ∧
      (run a).Meets w fun result _ => result = .error (.unresolvedImports ["./C.sol"]) := by
  intro a w
  have prepared := prepared_sample "import \"./B.sol\"; import \"./C.sol\";" [] none
  have selects := selects_sample "import \"./B.sol\"; import \"./C.sol\";" none
  refine ⟨⟨_, _, prepared, selects⟩, .imp (fills_needed_imports.2 a w) ?_⟩
  intro result _ ⟨resolves, _⟩
  refine ((resolves _ _ _ prepared selects).refused_iff _).2 ⟨?_, by simp⟩
  decide +kernel

-- two files that import each other, and a third one that is not there
example :
    let w : Workflow := ⟨{}, {}, none, ""⟩
    let tree : SourceTree :=
      ⟨[("A.sol", "import \"./B.sol\";"), ("B.sol", "import \"./A.sol\"; import \"C.sol\";")]⟩
    let filled := fill w tree (w.setSource {} "A.sol" (some "import \"./B.sol\";"))
    filled.imports.map (·.path) = ["./B.sol", "./A.sol", "C.sol"] ∧
      unresolvedPaths filled = ["C.sol"] := by
  decide +kernel

end CommandLine.VerifyCommand

end SourceMatch
