import Mathlib.Data.List.TakeWhile
import SourceMatch.Proofs.Disk.Walk
import SourceMatch.Proofs.Json.Decoding
import SourceMatch.Proofs.Text.Cut

/-!
Folders that were made are there, under the path that they were made for.
-/
namespace SourceMatch.Disk

variable {d d' : Disk} {path : String}

def bare (path : String) : String := String.ofList (path.toList.reverse.dropWhile (· = '/')).reverse

theorem toList_eq_bare (path : String) :
    ∃ count, path.toList = (bare path).toList ++ List.replicate count '/' := by
  have cut := List.takeWhile_append_dropWhile (p := (· = '/')) (l := path.toList.reverse)
  have slashes : path.toList.reverse.takeWhile (· = '/') =
      List.replicate (path.toList.reverse.takeWhile (· = '/')).length '/' := by
    refine List.eq_replicate_iff.2 ⟨rfl, fun c listed => ?_⟩
    simpa using List.mem_takeWhile_imp listed
  refine ⟨(path.toList.reverse.takeWhile (· = '/')).length, ?_⟩
  rw [bare, String.toList_ofList, ← List.reverse_replicate, ← List.reverse_append, ← slashes, cut,
    List.reverse_reverse]

theorem getLast?_bare (path : String) : (bare path).toList.getLast? ≠ some '/' := by
  rw [bare, String.toList_ofList, List.getLast?_reverse]
  intro h
  have other := List.head?_dropWhile_not (· = '/') path.toList.reverse
  rw [h] at other
  simp at other

theorem splitAtChar_append_slashes (cs : List Char) (count : Nat) :
    Text.splitAtChar '/' (cs ++ List.replicate count '/') =
      Text.splitAtChar '/' cs ++ List.replicate count [] := by
  induction count with
  | zero => simp
  | succ count ih =>
    rw [List.replicate_succ', ← List.append_assoc, Text.splitAtChar_append_sep, ih,
      List.replicate_succ', List.append_assoc]
    rfl

theorem names_of_slashes {path bare : String} {count : Nat} (nonempty : bare ≠ "")
    (last : bare.toList.getLast? ≠ some '/')
    (slashes : path.toList = bare.toList ++ List.replicate (count + 1) '/') :
    names path = names bare ++ [['.']] := by
  have ends := Text.getLast?_splitAtChar (by simpa using nonempty) last
  rw [names, names, slashes, splitAtChar_append_slashes, if_neg ends, List.filter_append]
  simp [List.replicate_succ', ← List.append_assoc]

theorem find_of_bare {loc : Location} (nonempty : bare path ≠ "")
    (h : find d (bare path) true = .ok (.entry loc .folder)) :
    find d path true = .ok (.entry loc .folder) := by
  obtain ⟨count, slashes⟩ := toList_eq_bare path
  cases count with
  | zero =>
    have same : bare path = path := String.toList_inj.1 (by simpa using slashes.symm)
    rw [same] at h
    exact h
  | succ count =>
    obtain ⟨zero, -, leads⟩ := find_eq_ok_iff.1 h
    have begins : start d path = start d (bare path) := by
      have filled : (bare path).toList ≠ [] := by simpa using nonempty
      obtain ⟨c, cs, filled⟩ := List.exists_cons_of_ne_nil filled
      rw [start, start, isAbsolute, isAbsolute, slashes, filled]
      rfl
    refine find_eq_ok_iff.2 ⟨?_, ?_, ?_⟩
    · rw [slashes]
      simpa using zero
    · rintro rfl
      simp at slashes
    · rw [begins, names_of_slashes nonempty (getLast?_bare path) slashes]
      exact leads.append_dot

theorem find_of_makeFolder (h : d.makeFolder path = .ok d') :
    ∃ loc, Fits d loc .folder ∧ d' = d.put loc .folder ∧
      find d' path true = .ok (.entry loc .folder) := by
  rw [makeFolder] at h
  change (find d (if bare path = "" then path else bare path) false >>= _) = _ at h
  cases found : find d (if bare path = "" then path else bare path) false with
  | error fault => rw [found] at h; cases h
  | ok place =>
    rw [found] at h
    cases place with
    | entry loc e => cases h
    | free loc =>
      cases h
      have fits : Fits d loc .folder := .folder (find_eq_ok_iff.1 found).2.2.get?_of_free
      have made := find_put fits found
      rw [Place.after, if_pos rfl] at made
      obtain ⟨zero, nonempty, leads⟩ := find_eq_ok_iff.1 made
      have real (target : String) : Entry.folder ≠ .link target := by simp
      have followed := find_eq_ok_iff.2 ⟨zero, nonempty, leads.followed real⟩
      refine ⟨loc, fits, rfl, ?_⟩
      split at followed
      · exact followed
      · rename_i named
        exact find_of_bare named followed

theorem present_of_isFolder (h : d.isFolder path = true) : d.present path = true := by
  rw [isFolder] at h
  rw [present]
  cases found : d.stat path with
  | ok _ => rfl
  | error fault => rw [found] at h; cases h

theorem present_of_makeFolder (h : d.makeFolder path = .ok d') : d'.present path = true := by
  obtain ⟨loc, -, -, found⟩ := find_of_makeFolder h
  exact present_iff.2 ⟨loc, .folder, found⟩

theorem present_of_ensureFolder (h : d.ensureFolder path = .ok d') : d'.present path = true := by
  rw [ensureFolder] at h
  cases made : d.makeFolder path with
  | ok d =>
    rw [made] at h
    cases h
    exact present_of_makeFolder made
  | error fault =>
    rw [made] at h
    dsimp only at h
    split at h
    · rename_i known
      cases h
      exact present_of_isFolder known
    · cases h

theorem present_of_makeChain {outer : List String} (h : d.makeChain (path :: outer) = .ok d') :
    d'.present path = true := by
  rw [makeChain] at h
  split at h
  · obtain ⟨between, -, made⟩ := Json.bind_eq_ok.1 h
    exact present_of_ensureFolder made
  · exact present_of_ensureFolder h

theorem present_of_makeFolders (nonempty : path ≠ "") (h : d.makeFolders path = .ok d') :
    d'.present path = true := by
  rw [makeFolders, chain, if_neg nonempty] at h
  exact present_of_makeChain h

end SourceMatch.Disk
