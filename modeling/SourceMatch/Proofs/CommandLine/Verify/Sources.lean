import SourceMatch.Proofs.CommandLine.Verify.Course
import SourceMatch.Proofs.Tree.Loading

/-!
The folder in which the verify command looks for imports by itself. A source whose path has a slash
lies in it, and what is below it is loaded. The folder above a path without a slash has the empty
path, which leads nowhere, so that a bare file name is never loaded.
-/
namespace SourceMatch.CommandLine.VerifyCommand

open SourceMatch.CommandLine.Action
open SourceTree (SourceBelow IsReadable load sourceExtension)

variable {a : VerifyArguments} {w : World} {content : String} {t : SourceTree}

/-- Loading the tree is no reason to stop, and it is the tree that the command goes on with. -/
structure GoesOnWith (a : VerifyArguments) (w : World) (t : SourceTree) : Prop where
  loaded : load w.disk (importsRoot a) = .ok t
  prepared : (prepare a).Meets w fun r _ => ∀ p, r = .ok p → p.tree = t
  passed : (run a).Meets w fun r _ => ∀ cause, r ≠ .error (.sources cause)

theorem meets_prepare_of_loaded (loaded : load w.disk (importsRoot a) = .ok t) :
    (prepare a).Meets w fun r _ => ∀ cause, r ≠ .error (.sources cause) := by
  unfold prepare
  refine .bind (.bind_get (meets_lift (fun source read => ?_) fun _ _ => nofun))
  cases Path.fileName? a.source with
  | none => exact nofun
  | some fileName =>
    refine .bind (.bind_get (meets_lift (fun tree _ => ?_) fun cause failed => ?_))
    · refine .bind (.bind_get (.bind_modify ?_))
      refine meets_lift (fun index fetched => ?_) fun _ _ => nofun
      refine .bind (meets_openRegistry (fun registry disk opened => ?_) fun _ => nofun)
      exact .bind_lift (fun compiler usable => nofun) fun _ _ => nofun
    · rw [importsRoot] at loaded
      rw [loaded] at failed
      cases failed

theorem goesOnWith_of_loaded (loaded : load w.disk (importsRoot a) = .ok t) :
    GoesOnWith a w t where
  loaded := loaded
  prepared := by
    refine .imp (meets_prepare a w) ?_
    rintro _ w' prepared p rfl
    exact Except.ok.inj (prepared.tree.symm.trans loaded)
  passed := by
    unfold run
    refine .followed ((meets_prepare a w).and (meets_prepare_of_loaded loaded)) ?_ ?_
    · rintro p opened ⟨prepared, -⟩
      refine .imp (meets_goOn prepared) ?_
      rintro _ w' ⟨-, other⟩ cause rfl
      cases other _ rfl
    · rintro e w' ⟨-, other⟩ cause ⟨⟩
      exact other cause rfl

def noFolder : SourceError :=
  .unreadable "" "IO error for operation on : No such file or directory (os error 2)"

theorem load_empty (disk : Disk) : load disk "" = .error noFolder := by
  have nowhere : disk.find "" false = .error .absent := by
    rw [Disk.find, if_neg (by decide), if_pos rfl]
  have visited : disk.visitAll "" = [.error (.broken "" .absent)] := by
    rw [Disk.visitAll, nowhere]
  rw [load, visited]
  rfl

theorem importsRoot_of_bare {loc : Disk.Location} {e : Disk.Entry} (own : a.imports = none)
    (found : w.disk.stat a.source = .ok (loc, e)) (isFile : e.isFile = true)
    (bare : '/' ∉ a.source.toList) :
    importsRoot a = "" ∧ ∃ name, Path.fileName? a.source = some name := by
  obtain ⟨front, name, whole, isName⟩ := Disk.exists_name_of_stat found isFile
  have first : front = [] := by
    by_contra before
    exact bare ((Path.slash_mem_iff whole).2 before)
  have above := Path.parent?_of_single (by rw [whole, first]; rfl) isName.heard
  refine ⟨by rw [importsRoot, own, above]; rfl, name, ?_⟩
  exact Path.fileName?_of_pieces whole isName.heard isName.ne_up

theorem meets_run_of_bare (read : w.disk.read a.source = .ok content)
    (named : ∃ name, Path.fileName? a.source = some name) (root : importsRoot a = "") :
    (run a).Meets w fun r w' => r = .error (.sources noFolder) ∧ w' = w := by
  obtain ⟨name, named⟩ := named
  have prepared : (prepare a).Meets w fun r w' => r = .error (.sources noFolder) ∧ w' = w := by
    unfold prepare
    refine .bind (.bind_get (meets_lift (fun source _ => ?_) fun e failed => ?_))
    · rw [named]
      refine .bind (.bind_get (meets_lift (fun tree loaded => ?_) fun e failed => ?_))
      · rw [importsRoot] at root
        rw [root, load_empty] at loaded
        cases loaded
      · rw [importsRoot] at root
        rw [root, load_empty] at failed
        cases failed
        exact ⟨rfl, rfl⟩
    · rw [read] at failed
      cases failed
  unfold run
  refine .followed prepared (fun p w' h => nomatch h.1) ?_
  rintro e w' ⟨⟨⟩, rfl⟩
  exact ⟨rfl, rfl⟩

/-- Without a folder for its imports, the command loads the folder that the source lies in, if the
path of the source has a slash: if no link below that folder dangles or loops and the sources below
it are texts, loading succeeds and gives every source below it, the one that is verified included if
it has the extension of a source. If the path is a bare file name, the command fails, since there is
no folder with the empty path. -/
theorem loads_folder_of_source (proper : w.disk.IsProper) (own : a.imports = none)
    (read : w.disk.read a.source = .ok content) :
    ('/' ∈ a.source.toList →
      ∃ folder name e, Path.fileName? a.source = some name ∧
        w.disk.find a.source false = .ok (.entry (folder ++ [name]) e) ∧
        w.disk.stat (importsRoot a) = .ok (folder, .folder) ∧
        (w.disk.IsSound (importsRoot a) → IsReadable w.disk (importsRoot a) →
          ∃ t, GoesOnWith a w t ∧
            (∀ file, file ∈ t.files ↔ SourceBelow w.disk (importsRoot a) file) ∧
            (Path.extension? a.source = some sourceExtension →
              (String.ofList name, content) ∈ t.files))) ∧
      ('/' ∉ a.source.toList →
        (run a).Meets w fun r w' => r = .error (.sources noFolder) ∧ w' = w) := by
  obtain ⟨end_, found⟩ := Disk.stat_of_read read
  constructor
  · intro slash
    obtain ⟨root, loc, name, e, above, folder, isName, named, inside, below⟩ :=
      Disk.exists_folder_of_stat found rfl slash
    have root_eq : importsRoot a = root := by rw [importsRoot, own, above]; rfl
    rw [root_eq]
    refine ⟨loc, name, e, named, inside, folder, fun sound readable => ?_⟩
    obtain ⟨t, loaded, files⟩ := SourceTree.load_eq_ok proper sound readable folder
    refine ⟨t, goesOnWith_of_loaded (root_eq ▸ loaded), files, fun extension => ?_⟩
    refine (files _).2 ⟨[name], end_, ⟨?_, below⟩, rfl, ?_⟩
    · simpa using isName
    · change Path.extension? (Path.join "" (String.ofList name)) = _
      rw [Path.extension?, Path.fileName?_join isName]
      rwa [Path.extension?, named] at extension
  · intro bare
    obtain ⟨root, named⟩ := importsRoot_of_bare own found rfl bare
    exact meets_run_of_bare read named root

theorem loads_folder_of_sample :
    let token := "contract Token \x7b\x7d"
    let disk : Disk :=
      { entries := [(["c".toList], .folder), (["c".toList, "lib".toList], .folder),
          (["c".toList, "Token.sol".toList], .text token),
          (["c".toList, "lib".toList, "Math.sol".toList], .text "library Math \x7b\x7d")] }
    let w : World := ⟨disk, {}, none, default, [], []⟩
    let a : VerifyArguments := ⟨"./c//Token.sol", none, "6001", none, none, default, default, none⟩
    w.disk.IsProper ∧ a.imports = none ∧ w.disk.read a.source = .ok token ∧
      importsRoot a = "./c" ∧
      ∃ t, GoesOnWith a w t ∧ ("Token.sol", token) ∈ t.files ∧
        ("lib/Math.sol", "library Math \x7b\x7d") ∈ t.files := by
  intro token disk w a
  have proper : w.disk.IsProper := by decide +kernel
  have read : w.disk.read a.source = .ok token :=
    Disk.read_of_find (Disk.find_of_names
      (show _ ∧ _ ∧ _ = [['.'], "c".toList, "Token.sol".toList] by decide +kernel)
      (.dot (.folder (by decide) (by decide) (.file (by decide) (by decide) rfl))))
  have math : w.disk.find "./c/lib/Math.sol" true = .ok (.entry
      ["c".toList, "lib".toList, "Math.sol".toList] (.text "library Math \x7b\x7d")) :=
    Disk.find_of_names
      (show _ ∧ _ ∧ _ = [['.'], "c".toList, "lib".toList, "Math.sol".toList] by decide +kernel)
      (.dot (.folder (by decide) (by decide) (.folder (by decide) (by decide)
        (.file (by decide) (by decide) rfl))))
  have root : importsRoot a = "./c" := by decide +kernel
  obtain ⟨folder, name, e, named, -, -, loads⟩ :=
    (loads_folder_of_source proper rfl read).1 (by decide +kernel)
  obtain ⟨t, goesOn, files, own⟩ :=
    loads (Disk.isSound_of_linkless (by simp [w, disk]) _)
      (SourceTree.isReadable_of_texts (by simp [w, disk]) _)
  have name_eq : Path.fileName? a.source = some "Token.sol".toList := by decide +kernel
  obtain rfl : "Token.sol".toList = name := Option.some.inj (name_eq.symm.trans named)
  refine ⟨proper, rfl, read, root, t, goesOn, own (by decide +kernel), ?_⟩
  rw [files, root]
  have below : Path.under "./c" ["lib".toList, "Math.sol".toList] = "./c/lib/Math.sol" := by
    decide +kernel
  refine ⟨["lib".toList, "Math.sol".toList], ["c".toList, "lib".toList, "Math.sol".toList],
    ⟨?_, ?_⟩, ?_, ?_⟩
  · decide +kernel
  · rw [below]
    exact Disk.stat_eq_ok_iff.2 math
  · decide +kernel
  · decide +kernel

theorem bare_source_unloaded :
    ¬∀ (a : VerifyArguments) (w : World) (content : String), w.disk.IsProper → a.imports = none →
      w.disk.read a.source = .ok content →
      (∀ root, w.disk.IsSound root ∧ IsReadable w.disk root) →
      ∃ t, load w.disk (importsRoot a) = .ok t := by
  intro loads
  let disk : Disk := { entries := [(["Token.sol".toList], .text "pragma solidity ^0.8.0;")] }
  let a : VerifyArguments := ⟨"Token.sol", none, "6001", none, none, default, default, none⟩
  have read : disk.read a.source = .ok "pragma solidity ^0.8.0;" :=
    Disk.read_of_find (Disk.find_of_names
      (show _ ∧ _ ∧ _ = ["Token.sol".toList] by decide +kernel)
      (.file (by decide) (by decide) rfl))
  have root : importsRoot a = "" := by decide +kernel
  obtain ⟨t, loaded⟩ := loads a ⟨disk, {}, none, default, [], []⟩ _ (by decide +kernel) rfl read
    fun root => ⟨Disk.isSound_of_linkless (by simp [disk]) root,
      SourceTree.isReadable_of_texts (by simp [disk]) root⟩
  rw [root, load_empty] at loaded
  cases loaded

end SourceMatch.CommandLine.VerifyCommand
