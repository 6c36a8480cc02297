import SourceMatch.Compiler.Input
import Mathlib.Data.List.Basic
import Mathlib.Data.List.Induction

/-!
What the compiler is given under a name: the content of the last import with that path or file name,
else the entry source under its own name. So an import has its own content under its own path
unless a later one has that path as its file name.
-/
namespace SourceMatch

variable {imports : List Import} {i : Import} {name content : String}

namespace Import

def lastNamed? (imports : List Import) (name : String) : Option Import :=
  imports.reverse.find? fun i => i.isResolved && (name = i.path || name = i.fileName)

theorem mem_of_lastNamed? (found : lastNamed? imports name = some i) : i ∈ imports :=
  List.mem_reverse.1 (List.mem_of_find?_eq_some found)

theorem exists_of_lastNamed? (found : lastNamed? imports name = some i) :
    ∃ content, i.source = some content := by
  have named := List.find?_some found
  exact Option.isSome_iff_exists.1 (Bool.and_eq_true_iff.1 named).1

theorem isSome_lastNamed? : (lastNamed? imports name).isSome = true ↔
    ∃ i ∈ imports, i.isResolved = true ∧ (name = i.path ∨ name = i.fileName) := by
  rw [lastNamed?, List.find?_isSome]
  simp only [List.mem_reverse, Bool.and_eq_true, Bool.or_eq_true, decide_eq_true_eq]

def lastCalled? (imports : List Import) (name : String) : Option Import :=
  imports.reverse.find? fun i => i.isResolved && name = i.fileName

theorem exists_of_lastCalled? (found : lastCalled? imports name = some i) :
    ∃ content, i.source = some content := by
  have called := List.find?_some found
  exact Option.isSome_iff_exists.1 (Bool.and_eq_true_iff.1 called).1

theorem lastNamed?_of_not_mem (other : name ∉ imports.map (·.path)) :
    lastNamed? imports name = lastCalled? imports name := by
  rw [lastNamed?, lastCalled?, ← List.head?_filter, ← List.head?_filter]
  congr 1
  refine List.filter_congr fun i listed => ?_
  have differs : name ≠ i.path := by
    rintro rfl
    exact other (List.mem_map_of_mem (List.mem_reverse.1 listed))
  simp [differs]

theorem lastNamed?_append_cons {before after : List Import} (resolved : i.isResolved = true) :
    lastNamed? (before ++ i :: after) i.path =
      (lastNamed? after i.path).or (some i) := by
  rw [lastNamed?, lastNamed?, List.reverse_append, List.reverse_cons, List.append_assoc,
    List.find?_append]
  simp [resolved]

end Import

namespace CompileRequest

theorem lookup_importEntries (i : Import) (name : String) :
    (importEntries i).reverse.lookup name =
      if i.isResolved && (name = i.path || name = i.fileName) then i.source else none := by
  obtain ⟨path, source, found⟩ := i
  cases source with
  | none => rfl
  | some content =>
    have entries : (importEntries ⟨path, some content, found⟩).reverse =
        [(Import.fileNameOf path, content), (path, content)] := rfl
    have named : (Import.mk path (some content) found).fileName = Import.fileNameOf path := rfl
    rw [entries, named]
    simp only [List.lookup_cons, List.lookup_nil, Import.isResolved, Option.isSome_some]
    by_cases byName : name = Import.fileNameOf path
    · simp [byName]
    · simp only [beq_eq_false_iff_ne.2 byName]
      by_cases byPath : name = path <;> simp [byName, byPath, beq_eq_false_iff_ne.2]

theorem get?_importSources (fileName source : String) (imports : List Import)
    (version name : String) :
    (ofImports fileName source imports version).importSources.get? name =
      (Import.lastNamed? imports name).bind (·.source) := by
  have last : (ofImports fileName source imports version).importSources.get? name =
      (imports.flatMap importEntries).reverse.lookup name := Dict.get?_ofList _ name
  rw [last, Import.lastNamed?]
  clear last
  induction imports using List.reverseRecOn with
  | nil => rfl
  | append_singleton imports i ih =>
    rw [List.flatMap_append, List.reverse_append, List.lookup_append, ih, List.reverse_append,
      List.reverse_singleton, List.singleton_append, List.find?_cons, List.flatMap_singleton,
      lookup_importEntries]
    cases named : i.isResolved && (name = i.path || name = i.fileName) with
    | true =>
      obtain ⟨content, has⟩ := Option.isSome_iff_exists.1 (Bool.and_eq_true_iff.1 named).1
      simp [has]
    | false => rfl

theorem source_of_get? {fileName source version : String}
    (h : (ofImports fileName source imports version).importSources.get? name = some content) :
    ∃ i ∈ imports, i.source = some content := by
  rw [get?_importSources] at h
  obtain ⟨i, found, has⟩ := Option.bind_eq_some_iff.1 h
  exact ⟨i, Import.mem_of_lastNamed? found, has⟩

theorem contains_importSources {fileName source version : String} :
    (ofImports fileName source imports version).importSources.contains name = true ↔
      ∃ i ∈ imports, i.isResolved = true ∧ (name = i.path ∨ name = i.fileName) := by
  rw [← Import.isSome_lastNamed?, Dict.contains, get?_importSources]
  cases found : Import.lastNamed? imports name with
  | none => rfl
  | some i =>
    obtain ⟨content, has⟩ := Import.exists_of_lastNamed? found
    simp [has]

/-- Of imports with distinct paths, one with content gives its path the content of the last import
behind it that has content and this path as its file name, and only without one its own. So its own
content stands under its path exactly if that import, if there is one, has the very same content. -/
theorem own_content_iff (fileName source version : String) (before : List Import)
    {after : List Import} (distinct : ((before ++ i :: after).map (·.path)).Nodup)
    (has : i.source = some content) :
    let sources := (ofImports fileName source (before ++ i :: after) version).importSources
    let later := Import.lastCalled? after i.path
    sources.get? i.path = some ((later.bind (·.source)).getD content) ∧
      (sources.get? i.path = some content ↔ ∀ j, later = some j → j.source = some content) := by
  intro sources later
  have other : i.path ∉ after.map (·.path) := by
    rw [List.map_append, List.map_cons] at distinct
    exact (List.nodup_cons.1 (List.nodup_append.1 distinct).2.1).1
  have resolved : i.isResolved = true := by rw [Import.isResolved, has]; rfl
  have given : sources.get? i.path = some ((later.bind (·.source)).getD content) := by
    rw [get?_importSources, Import.lastNamed?_append_cons resolved,
      Import.lastNamed?_of_not_mem other]
    change (later.or (some i)).bind (·.source) = _
    cases found : later with
    | none => exact has
    | some j =>
      obtain ⟨taken, holds⟩ := Import.exists_of_lastCalled? found
      simp [holds]
  refine ⟨given, ?_⟩
  rw [given, Option.some_inj]
  cases found : later with
  | none => simp
  | some j =>
    obtain ⟨taken, holds⟩ := Import.exists_of_lastCalled? found
    simp [holds]

theorem own_content_sample :
    let imports : List Import := [⟨"Math.sol", some "library Math \x7b\x7d", none⟩,
      ⟨"./Token.sol", some "contract Token \x7b\x7d", none⟩,
      ⟨"./lib/Math.sol", some "library LibMath \x7b\x7d", none⟩]
    let sources := (ofImports "Main.sol" "" imports "0.8.18").importSources
    (imports.map (·.path)).Nodup ∧
      sources.get? "Math.sol" = some "library LibMath \x7b\x7d" ∧
      sources.get? "./Token.sol" = some "contract Token \x7b\x7d" := by
  intro imports sources
  have distinct : (imports.map (·.path)).Nodup := by decide
  have first : sources.get? "Math.sol" = some _ :=
    (own_content_iff "Main.sol" "" "0.8.18" [] distinct rfl).1
  have second : sources.get? "./Token.sol" = some _ :=
    (own_content_iff "Main.sol" "" "0.8.18" [⟨"Math.sol", some _, none⟩] distinct rfl).1
  refine ⟨distinct, first.trans ?_, second.trans ?_⟩ <;> decide +kernel

theorem file_name_takes_path :
    ¬∀ (fileName source version : String) (imports : List Import),
      (imports.map (·.path)).Nodup → ∀ i ∈ imports, i.isResolved = true →
        (ofImports fileName source imports version).importSources.get? i.path = i.source := by
  intro h
  have kept := h "Main.sol" "" "0.8.18" [⟨"Math.sol", some "library Math \x7b\x7d", none⟩,
    ⟨"./lib/Math.sol", some "library LibMath \x7b\x7d", none⟩] (by decide) _
    List.mem_cons_self rfl
  exact absurd kept (by decide +kernel)

end CompileRequest

namespace CompilerInput

theorem get?_sources (request : CompileRequest) (index : CompilerIndex) (name : String) :
    (ofRequest request index).sources.get? name =
      (request.importSources.get? name).or
        (if name = request.sourceFileName then some request.source else none) := by
  rw [ofRequest, Dict.get?_insertAll_entries, Dict.get?_insert]
  rfl

theorem contains_sources {fileName source version : String} {index : CompilerIndex} :
    (ofRequest (.ofImports fileName source imports version) index).sources.contains name = true ↔
      name = fileName ∨
        ∃ i ∈ imports, i.isResolved = true ∧ (name = i.path ∨ name = i.fileName) := by
  rw [← CompileRequest.contains_importSources, Dict.contains, Dict.contains, get?_sources,
    Option.isSome_or, Bool.or_eq_true, or_comm]
  refine or_congr_left ?_
  change (if name = fileName then some source else none).isSome = true ↔ name = fileName
  split <;> simp [*]

theorem content_of_get? {fileName source version : String} {index : CompilerIndex}
    (h : (ofRequest (.ofImports fileName source imports version) index).sources.get? name =
      some content) : content = source ∨ ∃ i ∈ imports, i.source = some content := by
  rw [get?_sources, Option.or_eq_some_iff] at h
  rcases h with h | ⟨-, h⟩
  · exact .inr (CompileRequest.source_of_get? h)
  · split at h
    · exact .inl (Option.some.inj h).symm
    · cases h

/-- Under the name of the entry source the compiler is given the content of the last import with
content that has it as its path or its file name, and only without one the entry source. So it is
given the entry source exactly if that import, if there is one, has the very same content. -/
theorem entry_content_iff (fileName source : String) (imports : List Import) (version : String)
    (index : CompilerIndex) :
    let input := ofRequest (.ofImports fileName source imports version) index
    let named := Import.lastNamed? imports fileName
    input.entryFileName = fileName ∧
      input.sources.get? input.entryFileName = some ((named.bind (·.source)).getD source) ∧
      (input.sources.get? input.entryFileName = some source ↔
        ∀ i, named = some i → i.source = some source) := by
  intro input named
  have given : input.sources.get? input.entryFileName =
      some ((named.bind (·.source)).getD source) := by
    rw [get?_sources, CompileRequest.get?_importSources]
    change (named.bind (·.source)).or (if fileName = fileName then some source else none) = _
    rw [if_pos rfl, Option.or_some]
  refine ⟨rfl, given, ?_⟩
  rw [given, Option.some_inj]
  cases found : named with
  | none => simp
  | some i =>
    obtain ⟨content, has⟩ := Import.exists_of_lastNamed? found
    simp [has]

theorem import_takes_entry_name :
    ¬∀ (fileName source : String) (imports : List Import) (version : String)
      (index : CompilerIndex),
      let input := ofRequest (.ofImports fileName source imports version) index
      input.sources.get? input.entryFileName = some source := by
  intro h
  have carried := h "Token.sol" "import './lib/Token.sol';\ncontract Token \x7b\x7d"
    [⟨"./lib/Token.sol", some "library Token \x7b\x7d", some "lib/Token.sol"⟩] "0.8.18" {}
  exact absurd carried (by decide +kernel)

end CompilerInput

end SourceMatch
