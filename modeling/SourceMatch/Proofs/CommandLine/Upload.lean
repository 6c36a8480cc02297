import SourceMatch.CommandLine.Upload
import SourceMatch.Proofs.CommandLine.Action
import SourceMatch.Proofs.Tree.Loading

/-!
The files that are sent to a server. A path hands over the file it leads to under its bare name, or
the sources below the folder it leads to under their paths from there. One path never hands over two
files under one name. Of all paths the last one counts: a name has the content that the last path
with a source of this name gives it. So each source is sent exactly if no two of them that are
different files have one name.
-/
namespace SourceMatch.CommandLine.Upload

open SourceMatch.CommandLine.Action
open SourceTree (SourceBelow sourceExtension)
open SourceMatch.Path (under)
open Disk (Below)

variable {d : Disk} {w w' : World} {path name content : String} {loc : Disk.Location}
  {paths : List String} {files : List (String × String)}

theorem looks_filesAt (path : String) : (filesAt path).Looks := by
  refine .bind_get (fun w => ?_) fun w w' same => by rw [same]
  split
  · exact .bind (.loadTree path) fun _ => .pure _
  · split
    · exact .bind (.readFile path) fun _ => .pure _
    · exact .throw _

theorem looks_collect (paths : List String) : (collect paths).Looks :=
  .bind (.mapM looks_filesAt paths) fun _ => .pure _

theorem filesAt_of_file {name : List Char} (found : w.disk.stat path = .ok (loc, .text content))
    (named : Path.fileName? path = some name) :
    (filesAt path).Meets w fun r _ => r = .ok [(String.ofList name, content)] := by
  have folder : w.disk.isFolder path = false := by rw [Disk.isFolder, found]
  have read : w.disk.read path = .ok content := by rw [Disk.read, found]; rfl
  unfold filesAt
  refine .bind_get ?_
  rw [folder, if_neg Bool.false_ne_true, named]
  refine .bind (.bind_get ?_)
  rw [read]
  rfl

theorem filesAt_of_folder {t : SourceTree} (folder : w.disk.stat path = .ok (loc, .folder))
    (loaded : SourceTree.load w.disk path = .ok t) :
    (filesAt path).Meets w fun r _ => r = .ok t.toDict.entries := by
  have isFolder : w.disk.isFolder path = true := by rw [Disk.isFolder, folder]
  unfold filesAt
  refine .bind_get ?_
  rw [isFolder, if_pos rfl]
  refine .bind (.bind_get ?_)
  rw [loaded]
  rfl

theorem meets_collect (found : String → List (String × String))
    (each : ∀ path ∈ paths, (filesAt path).Meets w fun r _ => r = .ok (found path)) :
    (collect paths).Meets w fun r _ => r = .ok (Dict.ofList (paths.map found).flatten) := by
  have all : (paths.mapM filesAt).Meets w fun r _ => r = .ok (paths.map found) := by
    induction paths with
    | nil => rfl
    | cons path paths ih =>
      have later := ih fun path listed => each path (List.mem_cons_of_mem _ listed)
      rw [List.mapM_cons]
      refine .followed ((looks_filesAt path).meets (each path List.mem_cons_self) rfl) ?_ ?_
      · rintro _ _ ⟨⟨⟩, rfl⟩
        refine .followed later ?_ ?_
        · rintro _ w' ⟨⟩
          rfl
        · rintro _ _ ⟨⟩
      · rintro _ _ ⟨⟨⟩, -⟩
  unfold collect
  refine .followed all ?_ ?_
  · rintro _ w' ⟨⟩
    rfl
  · rintro _ _ ⟨⟩

theorem collect_file {name : List Char} (found : w.disk.stat path = .ok (loc, .text content))
    (named : Path.fileName? path = some name) :
    (collect [path]).Meets w fun r _ => r = .ok (Dict.ofList [(String.ofList name, content)]) := by
  refine meets_collect (fun _ => [(String.ofList name, content)]) fun p listed => ?_
  obtain rfl := List.mem_singleton.1 listed
  exact filesAt_of_file found named

structure Source where
  name : String
  loc : Disk.Location
  content : String

variable {s s' : Source}

/-- A path that leads to a file hands it over under its bare name, one that leads to a folder the
sources below it under their paths from there. -/
inductive Hands (d : Disk) (path : String) : Source → Prop
  | file {loc : Disk.Location} {name : List Char} {content : String}
      (found : d.stat path = .ok (loc, .text content)) (named : Path.fileName? path = some name) :
      Hands d path ⟨String.ofList name, loc, content⟩
  | below {root loc : Disk.Location} {names : List (List Char)} {content : String}
      (folder : d.stat path = .ok (root, .folder)) (inside : Below d path names loc (.text content))
      (extension : Path.extension? (under "" names) = some sourceExtension) :
      Hands d path ⟨under "" names, loc, content⟩

namespace Hands

theorem unique (h : Hands d path s) (h' : Hands d path s') (same : s.name = s'.name) : s = s' := by
  cases h with
  | file found named =>
    cases h' with
    | file found' named' =>
      cases found.symm.trans found'
      cases named.symm.trans named'
      rfl
    | below folder' => cases found.symm.trans folder'
  | below folder inside =>
    cases h' with
    | file found' => cases folder.symm.trans found'
    | below folder' inside' =>
      have components := congrArg Path.components same
      dsimp only at components
      rw [Path.components_of_names (SourceTree.ne_nil_of_below folder inside rfl) inside.1,
        Path.components_of_names (SourceTree.ne_nil_of_below folder inside' rfl) inside'.1]
        at components
      obtain rfl := List.map_injective_iff.2 (fun _ _ => Path.Component.normal.inj) components
      obtain ⟨rfl, text⟩ := inside.unique inside'
      cases text
      rfl

theorem get? (h : Hands d path s) : d.get? s.loc = some (.text s.content) := by
  cases h with
  | file found =>
    exact (Disk.find_eq_ok_iff.1 (Disk.stat_eq_ok_iff.1 found)).2.2.get?_of_entry nofun
  | below folder inside =>
    exact (Disk.find_eq_ok_iff.1 (Disk.stat_eq_ok_iff.1 inside.2)).2.2.get?_of_entry nofun

end Hands

structure Gives (d : Disk) (path : String) (files : List (String × String)) : Prop where
  nodup : (files.map (·.1)).Nodup
  mem_iff : ∀ name content, (name, content) ∈ files ↔ ∃ loc, Hands d path ⟨name, loc, content⟩

theorem gives_of_load {t : SourceTree} (proper : d.IsProper)
    (folder : d.stat path = .ok (loc, .folder)) (loaded : SourceTree.load d path = .ok t) :
    Gives d path t.toDict.entries := by
  refine ⟨List.pairwise_map.2 t.toDict.distinct_keys, fun name content => ?_⟩
  have ordered : SourceTree.IsOrdered t.files := by
    obtain ⟨found, -, made⟩ := Json.bind_eq_ok.1 loaded
    cases made
    exact SourceTree.isOrdered_ofFiles _
  have distinct : t.files.reverse.Pairwise fun f g => f.1 ≠ g.1 := by
    refine List.pairwise_reverse.2 (ordered.imp fun {f g} less same => ?_)
    rw [same, Path.cmp_eq_iff.2 rfl] at less
    cases less
  rw [← Dict.get?_eq_some_iff, SourceTree.toDict, Dict.get?_ofList,
    Dict.lookup_eq_some_iff_mem distinct, List.mem_reverse,
    SourceTree.mem_files_of_load proper folder loaded]
  constructor
  · rintro ⟨names, loc, inside, path_eq, extension⟩
    dsimp only at path_eq extension
    subst path_eq
    exact ⟨loc, .below folder inside extension⟩
  · rintro ⟨loc, handed⟩
    generalize source_eq : (⟨name, loc, content⟩ : Source) = s at handed
    cases handed with
    | file found => cases folder.symm.trans found
    | below _ inside extension =>
      cases source_eq
      exact ⟨_, _, inside, rfl, extension⟩

theorem meets_filesAt (proper : w.disk.IsProper) (path : String) :
    (filesAt path).Meets w fun r _ => ∀ files, r = .ok files → Gives w.disk path files := by
  unfold filesAt
  refine .bind_get ?_
  split
  · rename_i folder
    unfold Disk.isFolder at folder
    split at folder
    · rename_i loc stat
      refine .bind (.bind_get (meets_lift (fun t loaded => ?_) fun _ _ => nofun))
      rintro _ ⟨⟩
      exact gives_of_load proper stat loaded
    · cases folder
  · split
    · rename_i name named
      refine .bind (.bind_get (meets_lift (fun content read => ?_) fun _ _ => nofun))
      rintro _ ⟨⟩
      obtain ⟨loc, stat⟩ := Disk.stat_of_read read
      refine ⟨List.nodup_singleton _, fun name' content' => ?_⟩
      rw [List.mem_singleton]
      constructor
      · rintro ⟨⟩
        exact ⟨loc, .file stat named⟩
      · rintro ⟨loc', handed⟩
        generalize source_eq : (⟨name', loc', content'⟩ : Source) = s at handed
        cases handed with
        | file found' named' =>
          cases source_eq
          cases stat.symm.trans found'
          cases named.symm.trans named'
          rfl
        | below folder' => cases stat.symm.trans folder'
    · exact fun _ => nofun

theorem meets_mapM (proper : w.disk.IsProper) (paths : List String) :
    (paths.mapM filesAt).Meets w fun r w' =>
      ∀ found, r = .ok found → w' = w ∧ List.Forall₂ (Gives w.disk) paths found := by
  induction paths with
  | nil =>
    rintro _ ⟨⟩
    exact ⟨rfl, .nil⟩
  | cons path paths ih =>
    have stays : (filesAt path).Meets w fun _ w' => w' = w :=
      congrArg Prod.snd (looks_filesAt path w w rfl)
    rw [List.mapM_cons]
    refine .followed ((meets_filesAt proper path).and stays) ?_ fun _ _ _ _ => nofun
    rintro files _ ⟨gives, rfl⟩
    refine .followed ih ?_ fun _ _ _ _ => nofun
    intro found w' later
    obtain ⟨rfl, all⟩ := later found rfl
    rintro _ ⟨⟩
    exact ⟨rfl, .cons (gives files rfl) all⟩

def Handed (d : Disk) (paths : List String) (s : Source) : Prop := ∃ path ∈ paths, Hands d path s

def IsLast (d : Disk) (paths : List String) (s : Source) : Prop :=
  ∃ before path after, paths = before ++ path :: after ∧ Hands d path s ∧
    ∀ s', Handed d after s' → s'.name ≠ s.name

theorem IsLast.handed (h : IsLast d paths s) : Handed d paths s := by
  obtain ⟨before, path, after, rfl, handed, -⟩ := h
  exact ⟨path, by simp, handed⟩

theorem handed_cons {first : String} :
    Handed d (first :: paths) s ↔ Hands d first s ∨ Handed d paths s := by
  simp [Handed]

variable {found : List (List (String × String))}

theorem lookup_found_eq_none_iff (gives : List.Forall₂ (Gives d) paths found) :
    found.flatten.reverse.lookup name = none ↔ ∀ s, Handed d paths s → s.name ≠ name := by
  induction gives with
  | nil => simp [Handed]
  | @cons path files paths found gives _ ih =>
    rw [List.flatten_cons, List.reverse_append, List.lookup_append, Option.or_eq_none_iff, ih,
      List.lookup_eq_none_iff]
    simp only [handed_cons, or_imp, forall_and, List.mem_reverse]
    refine and_comm.trans (and_congr_left fun _ => ⟨fun absent s handed same => ?_, ?_⟩)
    · have listed := (gives.mem_iff s.name s.content).2 ⟨s.loc, handed⟩
      simpa [same] using absent _ listed
    · intro absent e listed
      obtain ⟨loc, handed⟩ := (gives.mem_iff e.1 e.2).1 listed
      simpa using Ne.symm (absent _ handed)

theorem lookup_found_iff (gives : List.Forall₂ (Gives d) paths found) :
    found.flatten.reverse.lookup name = some content ↔
      ∃ loc, IsLast d paths ⟨name, loc, content⟩ := by
  induction gives with
  | nil => simp [IsLast]
  | @cons path files paths found gives later ih =>
    rw [List.flatten_cons, List.reverse_append, List.lookup_append, Option.or_eq_some_iff, ih,
      lookup_found_eq_none_iff later,
      Dict.lookup_eq_some_iff_mem (List.pairwise_reverse.2
        ((List.pairwise_map.1 gives.nodup).imp Ne.symm)), List.mem_reverse, gives.mem_iff]
    constructor
    · rintro (⟨loc, before, path', after, rfl, handed, last⟩ | ⟨none, loc, handed⟩)
      · exact ⟨loc, path :: before, path', after, rfl, handed, last⟩
      · exact ⟨loc, [], path, paths, rfl, handed, none⟩
    · rintro ⟨loc, before, path', after, split, handed, last⟩
      rcases List.cons_eq_append_iff.1 split with ⟨rfl, here⟩ | ⟨before', rfl, rfl⟩
      · cases here
        exact .inr ⟨last, loc, handed⟩
      · exact .inl ⟨loc, before', path', after, rfl, handed, last⟩

def KeepsAll (d : Disk) (paths : List String) (files : Dict String) : Prop :=
  ∀ s, Handed d paths s → files.get? s.name = some s.content ∧
    ∀ s', Handed d paths s' → s'.loc ≠ s.loc → s'.name ≠ s.name

theorem keepsAll_iff (gives : List.Forall₂ (Gives d) paths found) :
    KeepsAll d paths (Dict.ofList found.flatten) ↔
      ∀ s s', Handed d paths s → Handed d paths s' → s.name = s'.name → s.loc = s'.loc := by
  constructor
  · intro keeps s s' handed handed' named
    by_contra other
    exact (keeps s' handed').2 s handed other named
  · intro apart s handed
    refine ⟨?_, fun s' handed' other named => other (apart s' s handed' handed named)⟩
    rw [Dict.get?_ofList]
    cases last : found.flatten.reverse.lookup s.name with
    | none => exact absurd rfl ((lookup_found_eq_none_iff gives).1 last s handed)
    | some content =>
      -- the last source of the name is the same file, so that it has the same text
      obtain ⟨loc, isLast⟩ := (lookup_found_iff gives).1 last
      obtain rfl : loc = s.loc := apart _ s isLast.handed handed rfl
      obtain ⟨path, -, hands⟩ := isLast.handed
      obtain ⟨path', -, hands'⟩ := handed
      cases hands.get?.symm.trans hands'.get?
      rfl

theorem gives_of_collect {files : Dict String} (proper : w.disk.IsProper)
    (collected : (collect paths).run.run w = (.ok files, w')) :
    w' = w ∧
      ∃ found, List.Forall₂ (Gives w.disk) paths found ∧ files = Dict.ofList found.flatten := by
  have all : (collect paths).Meets w fun r w' => ∀ files, r = .ok files → w' = w ∧
      ∃ found, List.Forall₂ (Gives w.disk) paths found ∧ files = Dict.ofList found.flatten := by
    unfold collect
    refine .followed (meets_mapM proper paths) ?_ fun _ _ _ _ => nofun
    intro found w' all
    obtain ⟨rfl, gives⟩ := all found rfl
    rintro _ ⟨⟩
    exact ⟨rfl, found, gives, rfl⟩
  rw [Meets, collected] at all
  exact all files rfl

/-- What is collected: the last source of each name, so that none is lost exactly if different files
have different names. -/
theorem collects_last_of_name {files : Dict String} (proper : w.disk.IsProper)
    (collected : (collect paths).run.run w = (.ok files, w')) :
    w' = w ∧
      (∀ name content, files.get? name = some content ↔
        ∃ loc, IsLast w.disk paths ⟨name, loc, content⟩) ∧
      (∀ path s s', Hands w.disk path s → Hands w.disk path s' → s.name = s'.name → s = s') ∧
      (KeepsAll w.disk paths files ↔ ∀ s s', Handed w.disk paths s → Handed w.disk paths s' →
        s.name = s'.name → s.loc = s'.loc) := by
  obtain ⟨same, found, gives, rfl⟩ := gives_of_collect proper collected
  refine ⟨same, fun name content => ?_, fun path s s' => Hands.unique, keepsAll_iff gives⟩
  rw [Dict.get?_ofList, lookup_found_iff gives]

def sampleDisk : Disk :=
  { entries := [(["a".toList], .folder),
      (["a".toList, "Token.sol".toList], .text "contract A \x7b\x7d"), (["b".toList], .folder),
      (["b".toList, "Token.sol".toList], .text "contract B \x7b\x7d"), (["lib".toList], .folder),
      (["lib".toList, "Math.sol".toList], .text "library Math \x7b\x7d")] }

def sampleWorld : World := ⟨sampleDisk, {}, none, default, [], []⟩

def samplePaths : List String := ["a/Token.sol", "lib", "b/Token.sol"]

theorem isProper_sampleDisk : sampleDisk.IsProper := by decide +kernel

theorem stat_first : sampleDisk.stat "a/Token.sol" =
    .ok (["a".toList, "Token.sol".toList], .text "contract A \x7b\x7d") :=
  Disk.stat_eq_ok_iff.2 (Disk.find_of_names
    (show _ ∧ _ ∧ _ = ["a".toList, "Token.sol".toList] by decide +kernel)
    (.folder (by decide) (by decide) (.file (by decide) (by decide) rfl)))

theorem stat_second : sampleDisk.stat "b/Token.sol" =
    .ok (["b".toList, "Token.sol".toList], .text "contract B \x7b\x7d") :=
  Disk.stat_eq_ok_iff.2 (Disk.find_of_names
    (show _ ∧ _ ∧ _ = ["b".toList, "Token.sol".toList] by decide +kernel)
    (.folder (by decide) (by decide) (.file (by decide) (by decide) rfl)))

theorem stat_lib : sampleDisk.stat "lib" = .ok (["lib".toList], .folder) :=
  Disk.stat_eq_ok_iff.2 (Disk.find_of_names (show _ ∧ _ ∧ _ = ["lib".toList] by decide +kernel)
    (.folder (by decide) (by decide) .here))

theorem stat_math : sampleDisk.stat "lib/Math.sol" =
    .ok (["lib".toList, "Math.sol".toList], .text "library Math \x7b\x7d") :=
  Disk.stat_eq_ok_iff.2 (Disk.find_of_names
    (show _ ∧ _ ∧ _ = ["lib".toList, "Math.sol".toList] by decide +kernel)
    (.folder (by decide) (by decide) (.file (by decide) (by decide) rfl)))

theorem fileName?_first : Path.fileName? "a/Token.sol" = some "Token.sol".toList := by
  decide +kernel

theorem fileName?_second : Path.fileName? "b/Token.sol" = some "Token.sol".toList := by
  decide +kernel

theorem hands_math : Hands sampleDisk "lib"
    ⟨"Math.sol", ["lib".toList, "Math.sol".toList], "library Math \x7b\x7d"⟩ := by
  have inside : Below sampleDisk "lib" ["Math.sol".toList] _ _ :=
    ⟨List.forall_mem_singleton.2 (by decide), stat_math⟩
  exact .below stat_lib inside (by decide +kernel)

theorem exists_collected_sample :
    ∃ files, (collect samplePaths).run.run sampleWorld = (.ok files, sampleWorld) := by
  obtain ⟨t, loaded, -⟩ := SourceTree.load_eq_ok isProper_sampleDisk
    (Disk.isSound_of_linkless (by simp [sampleDisk]) "lib")
    (SourceTree.isReadable_of_texts (by simp [sampleDisk]) "lib") stat_lib
  have collected := (looks_collect samplePaths).meets (meets_collect (w := sampleWorld)
    (fun path => if path = "lib" then t.toDict.entries else
      if path = "a/Token.sol" then [("Token.sol", "contract A \x7b\x7d")]
      else [("Token.sol", "contract B \x7b\x7d")])
    fun path listed => by
      simp only [samplePaths, List.mem_cons, List.not_mem_nil, or_false] at listed
      obtain rfl | rfl | rfl := listed
      · exact filesAt_of_file stat_first fileName?_first
      · exact filesAt_of_folder stat_lib loaded
      · exact filesAt_of_file stat_second fileName?_second) rfl
  exact ⟨_, Prod.ext collected.1 collected.2⟩

theorem collects_last_of_name_sample :
    sampleWorld.disk.IsProper ∧
      ∃ files, (collect samplePaths).run.run sampleWorld = (.ok files, sampleWorld) ∧
        files.get? "Token.sol" = some "contract B \x7b\x7d" ∧
        files.get? "Math.sol" = some "library Math \x7b\x7d" := by
  obtain ⟨files, collected⟩ := exists_collected_sample
  obtain ⟨-, last, -⟩ := collects_last_of_name isProper_sampleDisk collected
  refine ⟨isProper_sampleDisk, files, collected, (last _ _).2 ?_, (last _ _).2 ?_⟩
  · exact ⟨_, ["a/Token.sol", "lib"], "b/Token.sol", [], rfl, .file stat_second fileName?_second,
      fun s' ⟨_, listed, _⟩ => absurd listed List.not_mem_nil⟩
  · refine ⟨_, ["a/Token.sol"], "lib", ["b/Token.sol"], rfl, hands_math, ?_⟩
    rintro s' ⟨path, listed, handed⟩ same
    obtain rfl := List.mem_singleton.1 listed
    cases handed with
    | file found named =>
      cases named.symm.trans fileName?_second
      exact absurd same (show String.ofList "Token.sol".toList ≠ "Math.sol" by decide)
    | below folder => cases folder.symm.trans stat_second

theorem same_names_merged :
    ¬ ∀ (w : World) (paths : List String) (files : Dict String), w.disk.IsProper →
      (collect paths).run.run w = (.ok files, w) → KeepsAll w.disk paths files := by
  intro all
  obtain ⟨files, collected⟩ := exists_collected_sample
  have keeps := all sampleWorld samplePaths files isProper_sampleDisk collected
  have first : Handed sampleDisk samplePaths _ :=
    ⟨"a/Token.sol", by simp [samplePaths], .file stat_first fileName?_first⟩
  have second : Handed sampleDisk samplePaths _ :=
    ⟨"b/Token.sol", by simp [samplePaths], .file stat_second fileName?_second⟩
  exact (keeps _ first).2 _ second (by decide) rfl

end SourceMatch.CommandLine.Upload
