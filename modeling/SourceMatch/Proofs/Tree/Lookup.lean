import SourceMatch.Proofs.Path.Order
import SourceMatch.Proofs.Path.Parts
import SourceMatch.Proofs.Tree.Filling

/-!
Which file an import path means. The files of a tree stand in the order of their paths, so of the
files that lie least deep the first one that a lookup comes to is the least in that order. A file
whose path consists of names is found under that path: another file whose path ends in these names
lies deeper.
-/
namespace SourceMatch

namespace Path

variable {path : String} {names : List (List Char)} {piece : List Char}
  {ps : List (List Char)}

def depth (path : String) : Nat := (components path).length

def EndsIn (path : String) (names : List (List Char)) : Prop :=
  ∃ front, components path = front ++ names.map .normal

def IsPlain (path : String) : Prop :=
  ∃ names, names ≠ [] ∧ components path = names.map .normal

theorem length_le_depth (h : EndsIn path names) : names.length ≤ depth path := by
  obtain ⟨front, split⟩ := h
  rw [depth, split, List.length_append, List.length_map]
  exact Nat.le_add_left _ _

theorem components_of_depth (h : EndsIn path names) (shallow : depth path = names.length) :
    components path = names.map .normal := by
  obtain ⟨front, split⟩ := h
  rw [depth, split, List.length_append, List.length_map, Nat.add_eq_right,
    List.length_eq_zero_iff] at shallow
  rw [split, shallow, List.nil_append]

theorem isSilent_of_plain (nonempty : names ≠ []) (plain : components path = names.map .normal)
    (whole : pieces path = piece :: ps) : isSilent piece = false := by
  have front : ∀ c ∈ head path, ∃ name, c = .normal name := by
    intro c listed
    have among : c ∈ names.map Component.normal := by
      rw [← plain]
      exact List.mem_append_left _ listed
    obtain ⟨name, -, rfl⟩ := List.mem_map.1 among
    exact ⟨name, rfl⟩
  by_contra silent
  rw [Bool.not_eq_false, isSilent, Bool.or_eq_true, decide_eq_true_eq, decide_eq_true_eq] at silent
  rcases silent with rfl | rfl
  · cases ps with
    | nil =>
      have none : components path = [] := by rw [components, head, whole]; rfl
      rw [none] at plain
      exact nonempty (List.map_eq_nil_iff.1 plain.symm)
    | cons piece' ps =>
      obtain ⟨name, root⟩ := front .root (by rw [head, whole]; exact List.mem_singleton_self _)
      cases root
  · obtain ⟨name, dot⟩ := front .current (by rw [head, whole]; exact List.mem_singleton_self _)
    cases dot

end Path

namespace SourceTree

open SourceMatch.Path (EndsIn IsPlain depth)

variable {t : SourceTree} {path content importPath : String} {files : List (String × String)}
  {f g : String × String} {names ps : List (List Char)}

def IsOrdered (files : List (String × String)) : Prop :=
  files.Pairwise fun f g => Path.cmp f.1 g.1 = .lt

theorem mem_insertFile (h : f ∈ insertFile path content files) :
    f = (path, content) ∨ f ∈ files := by
  induction files with
  | nil => exact .inl (List.mem_singleton.1 h)
  | cons g files ih =>
    rw [insertFile] at h
    split at h
    · exact List.mem_cons.1 h
    · exact (List.mem_cons.1 h).imp_right (List.mem_cons_of_mem g)
    · rcases List.mem_cons.1 h with rfl | later
      · exact .inr List.mem_cons_self
      · exact (ih later).imp_right (List.mem_cons_of_mem g)

theorem isOrdered_insertFile (h : IsOrdered files) :
    IsOrdered (insertFile path content files) := by
  induction files with
  | nil => exact List.pairwise_singleton _ _
  | cons g files ih =>
    obtain ⟨first, rest⟩ := List.pairwise_cons.1 h
    rw [insertFile]
    split
    · rename_i before
      refine List.pairwise_cons.2 ⟨fun f listed => ?_, h⟩
      rcases List.mem_cons.1 listed with rfl | later
      · exact before
      · exact Std.TransCmp.lt_trans before (first f later)
    · rename_i same
      exact List.pairwise_cons.2
        ⟨fun f later => Std.TransCmp.lt_of_eq_of_lt same (first f later), rest⟩
    · rename_i behind
      refine List.pairwise_cons.2 ⟨fun f listed => ?_, ih rest⟩
      rcases mem_insertFile listed with rfl | later
      · exact Std.OrientedCmp.gt_iff_lt.1 behind
      · exact first f later

theorem isOrdered_ofFiles (files : List (String × String)) : IsOrdered (ofFiles files).files := by
  rw [ofFiles]
  have none : IsOrdered ({} : SourceTree).files := .nil
  generalize ({} : SourceTree) = t at none ⊢
  induction files generalizing t with
  | nil => exact none
  | cons f files ih => exact ih _ (isOrdered_insertFile none)

theorem IsOrdered.around {before after : List (String × String)}
    (h : IsOrdered (before ++ f :: after)) :
    (∀ g ∈ before, Path.cmp g.1 f.1 = .lt) ∧ ∀ g ∈ after, Path.cmp f.1 g.1 = .lt := by
  obtain ⟨-, behind, across⟩ := List.pairwise_append.1 h
  exact ⟨fun g listed => across g listed f List.mem_cons_self, (List.pairwise_cons.1 behind).1⟩

theorem IsOrdered.eq_of_components (ordered : IsOrdered files) (hf : f ∈ files) (hg : g ∈ files)
    (same : Path.components f.1 = Path.components g.1) : f = g := by
  obtain ⟨before, after, rfl⟩ := List.append_of_mem hf
  obtain ⟨earlier, later⟩ := ordered.around
  rcases List.mem_append.1 hg with listed | listed
  · have less := earlier g listed
    rw [Path.cmp_eq_iff.2 same.symm] at less
    cases less
  · rcases List.mem_cons.1 listed with rfl | listed
    · rfl
    · have less := later g listed
      rw [Path.cmp_eq_iff.2 same] at less
      cases less

theorem IsOrdered.nodup (h : IsOrdered files) : files.Nodup := by
  refine h.imp fun {f g} less => ?_
  rintro rfl
  rw [Path.cmp_eq_iff.2 rfl] at less
  cases less

theorem shallowest?_eq_none_iff : shallowest? files = none ↔ files = [] := by
  refine ⟨fun h => ?_, fun h => h ▸ rfl⟩
  cases files with
  | nil => rfl
  | cons f files =>
    rw [shallowest?] at h
    split at h
    · cases h
    · split at h <;> cases h

theorem exists_split_of_shallowest? (h : shallowest? files = some f) :
    ∃ before after, files = before ++ f :: after ∧ (∀ g ∈ before, depth f.1 < depth g.1) ∧
      ∀ g ∈ after, depth f.1 ≤ depth g.1 := by
  induction files generalizing f with
  | nil => cases h
  | cons g files ih =>
    rw [shallowest?] at h
    cases best : shallowest? files with
    | none =>
      rw [best] at h
      cases h
      rw [shallowest?_eq_none_iff.1 best]
      exact ⟨[], [], rfl, List.forall_mem_nil _, List.forall_mem_nil _⟩
    | some b =>
      rw [best] at h
      obtain ⟨before, after, split, deeper, least⟩ := ih best
      dsimp only at h
      split at h
      · rename_i less
        cases h
        refine ⟨g :: before, after, by rw [split]; rfl, fun g' listed => ?_, least⟩
        rcases List.mem_cons.1 listed with rfl | listed
        · exact less
        · exact deeper g' listed
      · rename_i most
        cases h
        have upper : depth g.1 ≤ depth b.1 := Nat.le_of_not_lt most
        refine ⟨[], files, rfl, List.forall_mem_nil _, fun g' listed => ?_⟩
        rw [split] at listed
        rcases List.mem_append.1 listed with listed | listed
        · exact Nat.le_of_lt (Nat.lt_of_le_of_lt upper (deeper g' listed))
        · rcases List.mem_cons.1 listed with rfl | listed
          · exact upper
          · exact Nat.le_trans upper (least g' listed)

/-- A file is taken before another one if it lies less deep, or as deep and comes first in the order
of the paths. -/
def Precedes (f g : String × String) : Prop :=
  depth f.1 < depth g.1 ∨ depth f.1 = depth g.1 ∧ Path.cmp f.1 g.1 = .lt

theorem precedes_of_shallowest? (ordered : IsOrdered files) (h : shallowest? files = some f)
    (listed : g ∈ files) : g = f ∨ Precedes f g := by
  obtain ⟨before, after, rfl, deeper, least⟩ := exists_split_of_shallowest? h
  rcases List.mem_append.1 listed with listed | listed
  · exact .inr (.inl (deeper g listed))
  · rcases List.mem_cons.1 listed with same | listed
    · exact .inl same
    · rcases Nat.lt_or_eq_of_le (least g listed) with less | equal
      · exact .inr (.inl less)
      · exact .inr (.inr ⟨equal, ordered.around.2 g listed⟩)

theorem IsOrdered.eq_of_plain (ordered : IsOrdered files) (hf : f ∈ files) (hg : g ∈ files)
    (plain : Path.components f.1 = names.map .normal) (ends : EndsIn g.1 names)
    (taken : f = g ∨ Precedes g f) : g = f := by
  have length : depth f.1 = names.length := by rw [depth, plain, List.length_map]
  rcases taken with same | less | ⟨equal, -⟩
  · exact same.symm
  · have := Path.length_le_depth ends
    omega
  · have alike := Path.components_of_depth ends (equal.trans length)
    exact ordered.eq_of_components hg hf (alike.trans plain.symm)

theorem segments_up (lead : String) (among : lead = "./" ∨ lead = "../") (path : String) :
    segments (lead ++ path) = segments path := by
  rcases among with rfl | rfl
  · have split : ("./" ++ path).toList = ['.'] ++ '/' :: path.toList := String.toList_append
    rw [segments, split, Text.splitAtChar_append _ (by decide)]
    rfl
  · have split : ("../" ++ path).toList = ['.', '.'] ++ '/' :: path.toList := String.toList_append
    rw [segments, split, Text.splitAtChar_append _ (by decide)]
    rfl

theorem segments_join (leads : List String) (among : ∀ lead ∈ leads, lead = "./" ∨ lead = "../")
    (path : String) : segments (String.join leads ++ path) = segments path := by
  induction leads with
  | nil => simp
  | cons lead leads ih =>
    rw [String.join_cons, String.append_assoc, segments_up lead (among lead List.mem_cons_self),
      ih fun l listed => among l (List.mem_cons_of_mem _ listed)]

theorem filter_of_components
    (h : (Path.spoken ps).map Path.Component.ofPiece = names.map .normal) :
    (ps.filter fun s => !(s = [] || s = ['.'] || s = ['.', '.'])) = names := by
  induction ps generalizing names with
  | nil => simpa using h.symm
  | cons piece ps ih =>
    cases silent : Path.isSilent piece with
    | true =>
      rw [Path.spoken_cons_silent silent] at h
      rw [List.filter_cons_of_neg, ih h]
      rw [Path.isSilent] at silent
      simp [silent]
    | false =>
      rw [Path.spoken_cons silent, List.map_cons] at h
      cases names with
      | nil => cases h
      | cons name names =>
        obtain ⟨first, rest⟩ := List.cons.inj h
        rw [Path.Component.ofPiece] at first
        split at first
        · cases first
        · rename_i other
          cases first
          rw [Path.isSilent] at silent
          rw [List.filter_cons_of_pos, ih rest]
          simp [silent, other]

theorem segments_of_plain (nonempty : names ≠ [])
    (plain : Path.components path = names.map .normal) : segments path = names := by
  cases whole : Path.pieces path with
  | nil => exact absurd whole (Text.splitAtChar_ne_nil _ _)
  | cons piece ps =>
    rw [Path.components_of_pieces whole (Path.isSilent_of_plain nonempty plain whole)] at plain
    exact filter_of_components plain

theorem endsWith_iff : endsWith path names = true ↔ EndsIn path names := by
  rw [endsWith, List.isSuffixOf_iff_suffix]
  exact exists_congr fun front => eq_comm

theorem lookup?_of_ends (ordered : IsOrdered t.files) (named : segments path ≠ [])
    (ends : ∃ f ∈ t.files, EndsIn f.1 (segments path)) :
    ∃ f ∈ t.files, t.lookup? path = some f ∧ EndsIn f.1 (segments path) ∧
      ∀ g ∈ t.files, EndsIn g.1 (segments path) → g = f ∨ Precedes f g := by
  have filled : (segments path).isEmpty = false := by simpa using named
  cases best : shallowest? (t.files.filter fun f => endsWith f.1 (segments path)) with
  | none =>
    obtain ⟨f, listed, ends⟩ := ends
    have kept : f ∈ t.files.filter fun f => endsWith f.1 (segments path) :=
      List.mem_filter.2 ⟨listed, endsWith_iff.2 ends⟩
    rw [shallowest?_eq_none_iff.1 best] at kept
    cases kept
  | some f =>
    obtain ⟨listed, ends⟩ := List.mem_filter.1 (mem_of_shallowest? best)
    refine ⟨f, listed, ?_, endsWith_iff.1 ends, fun g among also => ?_⟩
    · simp [lookup?, filled, best]
    · exact precedes_of_shallowest? (ordered.filter _) best
        (List.mem_filter.2 ⟨among, endsWith_iff.2 also⟩)

theorem single?_filter {keep : String × String → Bool} (nodup : files.Nodup) :
    single? (files.filter keep) = some f ↔
      f ∈ files ∧ keep f = true ∧ ∀ g ∈ files, keep g = true → g = f := by
  rw [single?_eq_some]
  constructor
  · intro only
    have kept : ∀ g, g ∈ files ∧ keep g = true ↔ g = f := by
      intro g
      rw [← List.mem_filter, only, List.mem_singleton]
    obtain ⟨listed, passes⟩ := (kept f).2 rfl
    exact ⟨listed, passes, fun g among also => (kept g).1 ⟨among, also⟩⟩
  · rintro ⟨listed, passes, only⟩
    refine List.Perm.eq_singleton ((List.perm_ext_iff_of_nodup (nodup.filter keep)
      (List.pairwise_singleton _ f)).2 fun g => ?_)
    rw [List.mem_filter, List.mem_singleton]
    constructor
    · exact fun kept => only g kept.1 kept.2
    · rintro rfl
      exact ⟨listed, passes⟩

theorem lookup?_of_name (ordered : IsOrdered t.files) (named : segments path ≠ [])
    (none_ends : ¬∃ f ∈ t.files, EndsIn f.1 (segments path)) (f : String × String) :
    t.lookup? path = some f ↔
      f ∈ t.files ∧ Path.fileName? f.1 = some (Text.afterLast '/' path.toList) ∧
        ∀ g ∈ t.files, Path.fileName? g.1 = some (Text.afterLast '/' path.toList) → g = f := by
  have filled : (segments path).isEmpty = false := by simpa using named
  have none : t.files.filter (fun f => endsWith f.1 (segments path)) = [] :=
    List.filter_eq_nil_iff.2 fun f listed ends => none_ends ⟨f, listed, endsWith_iff.1 ends⟩
  have byName : t.lookup? path = single? (t.files.filter fun f =>
      Path.fileName? f.1 = some (Text.afterLast '/' path.toList)) := by
    simp [lookup?, filled, none, shallowest?]
  rw [byName, single?_filter ordered.nodup]
  simp

/-- What an import path means. It means nothing if it has no segments. If the paths of files end in
its segments, it means the one of them that lies least deep, and of equally deep ones the first.
Else it means the file with the name behind its last slash if exactly one file has that name. So a
file whose path consists of names is found under its path, with dots in front or without. -/
theorem lookup?_finds (files : List (String × String)) (importPath : String) :
    let t : SourceTree := ofFiles files
    let names := segments importPath
    let name := Text.afterLast '/' importPath.toList
    (names = [] → t.lookup? importPath = none) ∧
      (names ≠ [] → (∃ f ∈ t.files, EndsIn f.1 names) →
        ∃ f ∈ t.files, t.lookup? importPath = some f ∧ EndsIn f.1 names ∧
          ∀ g ∈ t.files, EndsIn g.1 names → g = f ∨ Precedes f g) ∧
      (names ≠ [] → (¬∃ f ∈ t.files, EndsIn f.1 names) →
        ∀ f, t.lookup? importPath = some f ↔
          f ∈ t.files ∧ Path.fileName? f.1 = some name ∧
            ∀ g ∈ t.files, Path.fileName? g.1 = some name → g = f) ∧
      ∀ f ∈ t.files, IsPlain f.1 →
        ∀ leads : List String, (∀ lead ∈ leads, lead = "./" ∨ lead = "../") →
          t.lookup? (String.join leads ++ f.1) = some f := by
  intro t names name
  have ordered : IsOrdered t.files := isOrdered_ofFiles files
  have suffix (path : String) (named : segments path ≠ [])
      (some_ends : ∃ f ∈ t.files, EndsIn f.1 (segments path)) :
      ∃ f ∈ t.files, t.lookup? path = some f ∧ EndsIn f.1 (segments path) ∧
        ∀ g ∈ t.files, EndsIn g.1 (segments path) → g = f ∨ Precedes f g :=
    lookup?_of_ends ordered named some_ends
  refine ⟨fun none => ?_, suffix importPath, fun named no_ends f => ?_, ?_⟩
  · simp [lookup?, show segments importPath = [] from none]
  · exact lookup?_of_name ordered named no_ends f
  · rintro f listed ⟨own, nonempty, plain⟩ leads among
    have same : segments (String.join leads ++ f.1) = own := by
      rw [segments_join leads among, segments_of_plain nonempty plain]
    have ends : EndsIn f.1 own := ⟨[], plain⟩
    -- the file's own path ends in these names, so that the first stage of the search finds one
    obtain ⟨g, listed', found, ends', least⟩ := suffix (String.join leads ++ f.1)
      (by rwa [same]) ⟨f, listed, by rwa [same]⟩
    rw [same] at ends'
    rw [found, ordered.eq_of_plain listed listed' plain ends' (least f listed (by rwa [same]))]

end SourceTree

end SourceMatch
