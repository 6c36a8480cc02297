import SourceMatch.Proofs.Disk.Faultless
import SourceMatch.Proofs.Json.Decoding
import SourceMatch.Proofs.Tree.Lookup
import SourceMatch.Tree.Load

/-!
Loading the sources below a folder. If no link below it dangles or loops and the sources are texts,
loading succeeds, and only then. The tree has each source under its path from the folder, and
nothing else.
-/
namespace SourceMatch

namespace Path

variable {folder : String} {name : List Char} {names : List (List Char)}

theorem fileName?_join (isName : Disk.IsName name) :
    fileName? (join folder (String.ofList name)) = some name := by
  by_cases named : folder = ""
  · subst named
    have whole : pieces (join "" (String.ofList name)) = [] ++ [name] := by
      rw [join, if_pos rfl, pieces_of_not_mem (by simpa using isName.slash), String.toList_ofList]
      rfl
    exact fileName?_of_pieces whole isName.heard isName.ne_up
  · obtain ⟨front, whole, -, -⟩ := pieces_join named isName.slash
    exact fileName?_of_pieces whole isName.heard isName.ne_up

theorem components_of_names (nonempty : names ≠ []) (isName : ∀ name ∈ names, Disk.IsName name) :
    components (under "" names) = names.map .normal :=
  components_under nonempty (fun name listed => (isName name listed).heard)
    (fun name listed => (isName name listed).ne_up) fun name listed => (isName name listed).slash

theorem extension?_under (root : String) (nonempty : names ≠ [])
    (isName : ∀ name ∈ names, Disk.IsName name) :
    extension? (under root names) = extension? (under "" names) := by
  obtain ⟨front, name, rfl⟩ := (List.eq_nil_or_concat' names).resolve_left nonempty
  have last := isName name (by simp)
  rw [under_concat, under_concat, extension?, extension?, fileName?_join last, fileName?_join last]

end Path

namespace SourceTree

open Disk (Below)
open SourceMatch.Path (under)

variable {d : Disk} {root path content : String} {loc : Disk.Location} {e : Disk.Entry}
  {names : List (List Char)} {f g : String × String} {files : List (String × String)}

theorem self_mem_insertFile (path content : String) (files : List (String × String)) :
    (path, content) ∈ insertFile path content files := by
  induction files with
  | nil => exact List.mem_singleton_self _
  | cons g files ih =>
    rw [insertFile]
    split
    · exact List.mem_cons_self
    · exact List.mem_cons_self
    · exact List.mem_cons_of_mem g ih

theorem mem_insertFile_of_ne (listed : f ∈ files)
    (other : Path.components path ≠ Path.components f.1) : f ∈ insertFile path content files := by
  induction files with
  | nil => cases listed
  | cons g files ih =>
    rw [insertFile]
    split
    · exact List.mem_cons_of_mem _ listed
    · rename_i same
      rcases List.mem_cons.1 listed with rfl | later
      · exact absurd (Path.cmp_eq_iff.1 same) other
      · exact List.mem_cons_of_mem _ later
    · rcases List.mem_cons.1 listed with rfl | later
      · exact List.mem_cons_self
      · exact List.mem_cons_of_mem _ (ih later)

theorem mem_ofFiles
    (distinct : ∀ f ∈ files, ∀ g ∈ files, Path.components f.1 = Path.components g.1 → f = g) :
    f ∈ (ofFiles files).files ↔ f ∈ files := by
  induction files using List.reverseRecOn with
  | nil => rfl
  | append_singleton files g ih =>
    have last : (ofFiles (files ++ [g])).files = insertFile g.1 g.2 (ofFiles files).files := by
      rw [ofFiles, List.foldl_append]
      rfl
    have before := ih fun f hf g hg => distinct f (by simp [hf]) g (by simp [hg])
    rw [last, List.mem_append, List.mem_singleton]
    constructor
    · intro listed
      exact (mem_insertFile listed).elim .inr fun old => .inl (before.1 old)
    · rintro (old | rfl)
      · by_cases same : Path.components g.1 = Path.components f.1
        · rw [distinct f (by simp [old]) g (by simp) same.symm]
          exact self_mem_insertFile _ _ _
        · exact mem_insertFile_of_ne (before.2 old) same
      · exact self_mem_insertFile _ _ _

def SourceBelow (d : Disk) (root : String) (file : String × String) : Prop :=
  ∃ names loc, Below d root names loc (.text file.2) ∧ file.1 = under "" names ∧
    Path.extension? file.1 = some sourceExtension

def IsReadable (d : Disk) (root : String) : Prop :=
  ∀ names loc, Below d root names loc .binary →
    Path.extension? (under "" names) ≠ some sourceExtension

theorem isReadable_of_texts (texts : ∀ entry ∈ d.entries, entry.2 ≠ .binary) (root : String) :
    IsReadable d root :=
  fun _ _ below => absurd rfl
    (texts _ (Disk.mem_of_find (Disk.stat_eq_ok_iff.1 below.2) nofun))

theorem ne_nil_of_below (folder : d.stat root = .ok (loc, .folder)) {end_ : Disk.Location}
    (below : Below d root names end_ e) (isFile : e.isFile = true) : names ≠ [] := by
  rintro rfl
  have same := below.2.symm.trans folder
  cases same
  cases isFile

theorem SourceBelow.eq_of_components (folder : d.stat root = .ok (loc, .folder))
    (hf : SourceBelow d root f) (hg : SourceBelow d root g)
    (same : Path.components f.1 = Path.components g.1) : f = g := by
  obtain ⟨names, end_, below, path, -⟩ := hf
  obtain ⟨names', end', below', path', -⟩ := hg
  rw [path, path', Path.components_of_names (ne_nil_of_below folder below rfl) below.1,
    Path.components_of_names (ne_nil_of_below folder below' rfl) below'.1] at same
  obtain rfl : names = names' :=
    List.map_injective_iff.2 (fun _ _ => Path.Component.normal.inj) same
  obtain ⟨-, text⟩ := below.unique below'
  exact Prod.ext (path.trans path'.symm) (Disk.Entry.text.inj text).symm

theorem readVisited_eq_ok (readable : IsReadable d root) (folder : d.stat root = .ok (loc, .folder))
    {end_ : Disk.Location} (below : Below d root names end_ e) (isFile : e.isFile = true) :
    ∃ found, readVisited d root (.ok ⟨under root names, under "" names⟩) = .ok found ∧
      ∀ file, found = some file ↔ e = .text file.2 ∧ file.1 = under "" names ∧
        Path.extension? file.1 = some sourceExtension := by
  have nonempty := ne_nil_of_below folder below isFile
  rw [readVisited, Path.extension?_under root nonempty below.1]
  by_cases source : Path.extension? (under "" names) = some sourceExtension
  · rw [if_pos source]
    cases e with
    | text content =>
      rw [Disk.read_of_find (Disk.stat_eq_ok_iff.1 below.2)]
      refine ⟨some (under "" names, content), rfl, fun file => ?_⟩
      constructor
      · rintro ⟨⟩
        exact ⟨rfl, rfl, source⟩
      · rintro ⟨⟨⟩, path, -⟩
        rw [← path]
    | binary => exact absurd source (readable names end_ below)
    | folder | link => cases isFile
  · rw [if_neg source]
    refine ⟨none, rfl, fun file => ⟨nofun, ?_⟩⟩
    rintro ⟨-, path, extension⟩
    exact absurd (path ▸ extension) source

theorem load_eq_ok (proper : d.IsProper) (sound : d.IsSound root) (readable : IsReadable d root)
    (folder : d.stat root = .ok (loc, .folder)) :
    ∃ t, load d root = .ok t ∧ ∀ file, file ∈ t.files ↔ SourceBelow d root file := by
  have visited (r : Except Disk.VisitFault Disk.Visited) :
      r ∈ d.visitAll root ↔ Disk.FileBelow d root [] r := Disk.mem_visitAll proper sound folder
  have each : ∀ r ∈ d.visitAll root, ∃ found, readVisited d root r = .ok found := by
    intro r listed
    obtain ⟨names, end_, e, below, isFile, rfl⟩ := (visited r).1 listed
    exact (readVisited_eq_ok readable folder below isFile).imp fun _ => And.left
  obtain ⟨found, read⟩ := Json.exists_mapM_eq_ok each
  have mem_found (file : String × String) :
      file ∈ found.filterMap id ↔ SourceBelow d root file := by
    rw [List.mem_filterMap]
    simp only [id, Json.mem_iff_of_mapM read]
    constructor
    · rintro ⟨_, ⟨r, listed, result⟩, rfl⟩
      obtain ⟨names, end_, e, below, isFile, rfl⟩ := (visited r).1 listed
      obtain ⟨found, given, spec⟩ := readVisited_eq_ok readable folder below isFile
      cases given.symm.trans result
      obtain ⟨rfl, path, extension⟩ := (spec file).1 rfl
      exact ⟨names, end_, below, path, extension⟩
    · rintro ⟨names, end_, below, path, extension⟩
      obtain ⟨found, given, spec⟩ := readVisited_eq_ok readable folder below rfl
      refine ⟨found, ⟨_, (visited _).2 ⟨names, end_, _, below, rfl, rfl⟩, given⟩, ?_⟩
      exact (spec file).2 ⟨rfl, path, extension⟩
  refine ⟨ofFiles (found.filterMap id), by rw [load, read]; rfl, fun file => ?_⟩
  rw [mem_ofFiles fun f hf g hg same =>
    ((mem_found f).1 hf).eq_of_components folder ((mem_found g).1 hg) same, mem_found]

theorem load_of_only {name : List Char} {content : String}
    (found : d.find root false = .ok (.entry loc .folder))
    (only : d.children loc = [(name, .text content)])
    (source : Path.extension? (Path.join root (String.ofList name)) = some sourceExtension)
    (read : d.read (Path.join root (String.ofList name)) = .ok content) :
    load d root = .ok ⟨[(Path.join "" (String.ofList name), content)]⟩ := by
  have visited : d.visitAll root =
      [.ok ⟨Path.join root (String.ofList name), Path.join "" (String.ofList name)⟩] := by
    rw [Disk.visitAll, found]
    obtain ⟨fuel, enough⟩ := Nat.exists_eq_succ_of_ne_zero
      (show d.wayLimit ≠ 0 by simp [Disk.wayLimit])
    simp [enough, Disk.visit, only]
  rw [load, visited]
  simp only [List.mapM_cons, List.mapM_nil, readVisited, source, read, if_true]
  rfl

theorem isSound_of_load {t : SourceTree} (proper : d.IsProper)
    (folder : d.stat root = .ok (loc, .folder)) (loaded : load d root = .ok t) :
    d.IsSound root ∧ IsReadable d root := by
  obtain ⟨found, read, -⟩ := Json.bind_eq_ok.1 loaded
  have faultless : d.IsFaultless root := by
    intro r listed
    obtain ⟨file, result⟩ := Json.exists_eq_ok_of_mapM read listed
    cases r with
    | ok v => exact ⟨v, rfl⟩
    | error fault => cases result
  have sound := Disk.isSound_of_faultless proper faultless folder
  refine ⟨sound, fun names end_ below extension => ?_⟩
  have visited : .ok ⟨under root names, under "" names⟩ ∈ d.visitAll root :=
    (Disk.mem_visitAll proper sound folder).2 ⟨names, end_, _, below, rfl, rfl⟩
  obtain ⟨file, result⟩ := Json.exists_eq_ok_of_mapM read visited
  rw [readVisited, Path.extension?_under root (ne_nil_of_below folder below rfl) below.1,
    if_pos extension, Disk.read, below.2] at result
  cases result

theorem mem_files_of_load {t : SourceTree} (proper : d.IsProper)
    (folder : d.stat root = .ok (loc, .folder)) (loaded : load d root = .ok t)
    (file : String × String) : file ∈ t.files ↔ SourceBelow d root file := by
  obtain ⟨sound, readable⟩ := isSound_of_load proper folder loaded
  obtain ⟨t', loaded', files⟩ := load_eq_ok proper sound readable folder
  cases loaded.symm.trans loaded'
  exact files file

end SourceTree

end SourceMatch
