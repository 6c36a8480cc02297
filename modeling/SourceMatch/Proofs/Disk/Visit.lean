import SourceMatch.Disk.Visit
import SourceMatch.Proofs.Disk.Reach
import SourceMatch.Text.Dict

/-!
What a visit comes to. On a proper disk, below a folder without links that dangle or loop, it comes
to every file and to nothing else, and it has no faults. It does not run out of fuel: a link that
is followed leads to a folder that is not on the way, and between two links the way leads down.
-/
namespace SourceMatch.Disk

open SourceMatch.Path (under)

variable {d : Disk} {root path : String} {loc mid end_ : Location} {name : List Char}
  {names above below : List (List Char)} {e : Entry} {way : List Step} {fuel : Nat}

/-- A disk as it can be: each place has one entry, which lies in a folder under a name. -/
structure IsProper (d : Disk) : Prop where
  distinct : (d.entries.map (·.1)).Nodup
  named : ∀ entry ∈ d.entries, ∀ name ∈ entry.1, IsName name
  above : ∀ entry ∈ d.entries, d.get? entry.1.dropLast = some .folder
  here : d.get? d.here = some .folder

instance (d : Disk) : Decidable d.IsProper :=
  decidable_of_iff ((d.entries.map (·.1)).Nodup ∧
      (∀ entry ∈ d.entries, ∀ name ∈ entry.1, IsName name) ∧
      (∀ entry ∈ d.entries, d.get? entry.1.dropLast = some .folder) ∧
      d.get? d.here = some .folder)
    ⟨fun ⟨distinct, named, above, here⟩ => ⟨distinct, named, above, here⟩,
      fun h => ⟨h.distinct, h.named, h.above, h.here⟩⟩

theorem get?_eq_some_iff (proper : d.IsProper) (inside : loc ≠ []) :
    d.get? loc = some e ↔ (loc, e) ∈ d.entries := by
  rw [get?, if_neg inside]
  exact Dict.lookup_eq_some_iff_mem (List.pairwise_map.1 proper.distinct)

theorem IsProper.isName (proper : d.IsProper) (found : d.get? (loc ++ [name]) = some e) :
    IsName name := by
  rw [get?_eq_some_iff proper (by simp)] at found
  exact proper.named _ found name (by simp)

theorem IsProper.dropLast (proper : d.IsProper) (found : d.get? loc = some e) :
    d.get? loc.dropLast = some .folder := by
  by_cases root : loc = []
  · subst root
    rfl
  · rw [get?_eq_some_iff proper root] at found
    exact proper.above _ found

theorem IsProper.folder_of_reaches (proper : d.IsProper) {links left : Nat}
    {rest : List (List Char)} (h : Reaches d links loc rest left end_)
    (begins : d.get? loc = some .folder) : d.get? end_ = some .folder := by
  induction h with
  | here => exact begins
  | dot _ ih => exact ih begins
  | up _ ih => exact ih (proper.dropLast begins)
  | folder _ found _ ih => exact ih found
  | link _ _ _ _ ih =>
    refine ih ?_
    split
    · rfl
    · exact begins

theorem IsProper.folder_of_stat (proper : d.IsProper) (h : d.stat path = .ok (loc, .folder)) :
    d.get? loc = some .folder := by
  obtain ⟨-, -, left, reached⟩ := stat_folder_iff.1 h
  refine proper.folder_of_reaches reached ?_
  rw [start]
  split
  · rfl
  · exact proper.here

theorem mem_children (proper : d.IsProper) :
    (name, e) ∈ children d loc ↔ d.get? (loc ++ [name]) = some e := by
  rw [get?_eq_some_iff proper (by simp), children, List.mem_mergeSort, List.mem_filterMap]
  constructor
  · rintro ⟨⟨place, old⟩, listed, kept⟩
    split at kept
    · rename_i inside
      obtain ⟨last, ends, same⟩ := Option.map_eq_some_iff.1 kept
      cases same
      obtain ⟨before, rfl⟩ := List.getLast?_eq_some_iff.1 ends
      rw [List.dropLast_concat] at inside
      rwa [← inside.2]
    · cases kept
  · intro listed
    exact ⟨_, listed, by simp⟩

def Below (d : Disk) (root : String) (names : List (List Char)) (loc : Location) (e : Entry) :
    Prop :=
  (∀ name ∈ names, IsName name) ∧ d.stat (under root names) = .ok (loc, e)

def LinkBelow (d : Disk) (root : String) (names : List (List Char)) : Prop :=
  (∀ name ∈ names, IsName name) ∧
    ∃ loc target, d.find (under root names) false = .ok (.entry loc (.link target))

/-- No link below the path dangles, and none leads back to a folder on the way to it. -/
structure IsSound (d : Disk) (root : String) : Prop where
  linked : ∀ names, LinkBelow d root names → ∃ loc e, Below d root names loc e
  unlooped : ∀ above below loc, below ≠ [] → LinkBelow d root (above ++ below) →
    Below d root above loc .folder → ¬Below d root (above ++ below) loc .folder

theorem under_ne_empty (named : root ≠ "") (isName : ∀ name ∈ names, IsName name) :
    under root names ≠ "" := by
  cases names using List.reverseRecOn with
  | nil => exact named
  | append_singleton names name =>
    rw [Path.under_concat]
    exact Path.join_ne_empty (isName name (by simp)).nonempty

namespace Below

theorem unique {e' : Entry} (h : Below d root names loc e) (h' : Below d root names end_ e') :
    end_ = loc ∧ e' = e := by
  have same := h'.2.symm.trans h.2
  cases same
  exact ⟨rfl, rfl⟩

theorem folder (named : root ≠ "") (h : Below d root (above ++ name :: below) end_ e) :
    ∃ mid old, Below d root above mid .folder ∧ d.get? (mid ++ [name]) = some old := by
  obtain ⟨isName, found⟩ := h
  induction below using List.reverseRecOn generalizing end_ e with
  | nil =>
    have here : ∀ n ∈ above, IsName n := fun n listed => isName n (by simp [listed])
    rw [Path.under_concat, stat_eq_ok_iff] at found
    obtain ⟨mid, old, stat, child⟩ :=
      exists_above (under_ne_empty named here) (isName name (by simp)) found
    exact ⟨mid, old, ⟨here, stat⟩, child⟩
  | append_singleton below last ih =>
    have whole : above ++ name :: (below ++ [last]) = (above ++ name :: below) ++ [last] := by simp
    rw [whole] at isName found
    have before : ∀ n ∈ above ++ name :: below, IsName n := fun n listed =>
      isName n (List.mem_append_left _ listed)
    rw [Path.under_concat, stat_eq_ok_iff] at found
    obtain ⟨mid, old, stat, -⟩ :=
      exists_above (under_ne_empty named before) (isName last (by simp)) found
    exact ih before stat

theorem eq_nil {e' : Entry} (named : root ≠ "") (h : Below d root above loc e)
    (isFile : e.isFile = true) (further : Below d root (above ++ below) end_ e') : below = [] := by
  cases below with
  | nil => rfl
  | cons name below =>
    obtain ⟨mid, old, folder, -⟩ := further.folder named
    obtain ⟨-, rfl⟩ := folder.unique h
    cases isFile

theorem isFile_or (h : Below d root names loc e) : e.isFile = true ∨ e = .folder := by
  by_cases folder : e = .folder
  · exact .inr folder
  · exact .inl ((find_eq_ok_iff.1 (stat_eq_ok_iff.1 h.2)).2.2.isFile_of_follow folder)

end Below

theorem mem_of_find {follow : Bool} (h : d.find path follow = .ok (.entry loc e))
    (inside : e ≠ .folder) : (loc, e) ∈ d.entries := by
  have found := (find_eq_ok_iff.1 h).2.2.get?_of_entry inside
  rw [get?] at found
  split at found
  · exact absurd (Option.some.inj found).symm inside
  · obtain ⟨before, after, split, -⟩ := List.lookup_eq_some_iff.1 found
    simp [split]

theorem isSound_of_linkless (linkless : ∀ entry ∈ d.entries, ∀ target, entry.2 ≠ .link target)
    (root : String) : d.IsSound root := by
  have none : ∀ names, ¬LinkBelow d root names := by
    rintro names ⟨-, loc, target, found⟩
    exact linkless _ (mem_of_find found nofun) target rfl
  exact ⟨fun names link => absurd link (none names),
    fun above below _ _ link => absurd link (none (above ++ below))⟩

theorem below_of_find (isName : ∀ name ∈ names, IsName name)
    (found : d.find (under root names) false = .ok (.entry loc e))
    (real : ∀ target, e ≠ .link target) : Below d root names loc e := by
  obtain ⟨zero, named, leads⟩ := find_eq_ok_iff.1 found
  exact ⟨isName, stat_eq_ok_iff.2 (find_eq_ok_iff.2 ⟨zero, named, leads.followed real⟩)⟩

def ahead (d : Disk) (way : List Location) : Nat :=
  ([] :: d.entries.map (·.1)).countP (· ∉ way)

/-- The fuel lasts for what lies below a folder: each folder that is not on the way may be reached
by a link, and from there the way leads down. -/
def Lasts (d : Disk) (fuel : Nat) (way : List Location) (loc : Location) : Prop :=
  ahead d (loc :: way) * (d.depth + 1) + (d.depth - loc.length) < fuel

variable {locs : List Location}

theorem length_le_depth (h : (loc, e) ∈ d.entries) : loc.length ≤ d.depth := by
  rw [depth]
  generalize d.entries = entries at h
  induction entries with
  | nil => cases h
  | cons entry entries ih =>
    rw [List.map_cons, List.foldr_cons]
    rcases List.mem_cons.1 h with rfl | later
    · exact Nat.le_max_left _ _
    · exact Nat.le_trans (ih later) (Nat.le_max_right _ _)

theorem ahead_cons_le (d : Disk) (loc : Location) (locs : List Location) :
    ahead d (loc :: locs) ≤ ahead d locs :=
  List.countP_mono_left fun l _ other => by simp_all

theorem ahead_cons_lt (there : loc ∈ [] :: d.entries.map (·.1)) (new : loc ∉ locs) :
    ahead d (loc :: locs) < ahead d locs := by
  rw [ahead, ahead]
  obtain ⟨before, after, split⟩ := List.append_of_mem there
  rw [split, List.countP_append, List.countP_append, List.countP_cons_of_neg (by simp),
    List.countP_cons_of_pos (by simpa using new)]
  have first : before.countP (· ∉ loc :: locs) ≤ before.countP (· ∉ locs) :=
    List.countP_mono_left fun l _ other => by simp_all
  have last : after.countP (· ∉ loc :: locs) ≤ after.countP (· ∉ locs) :=
    List.countP_mono_left fun l _ other => by simp_all
  omega

theorem mem_places (proper : d.IsProper) (found : d.get? loc = some e) :
    loc ∈ [] :: d.entries.map (·.1) := by
  by_cases root : loc = []
  · exact root ▸ List.mem_cons_self
  · exact List.mem_cons_of_mem _
      (List.mem_map.2 ⟨_, (get?_eq_some_iff proper root).1 found, rfl⟩)

theorem Lasts.down (proper : d.IsProper) (found : d.get? (mid ++ [name]) = some .folder)
    (h : Lasts d (fuel + 1) locs mid) : Lasts d fuel (mid :: locs) (mid ++ [name]) := by
  have deep := length_le_depth ((get?_eq_some_iff proper (by simp)).1 found)
  have less := Nat.mul_le_mul_right (d.depth + 1) (ahead_cons_le d (mid ++ [name]) (mid :: locs))
  rw [Lasts] at h ⊢
  rw [List.length_append, List.length_singleton] at deep ⊢
  omega

theorem Lasts.over (proper : d.IsProper) (found : d.get? loc = some .folder)
    (new : loc ∉ mid :: locs) (h : Lasts d (fuel + 1) locs mid) :
    Lasts d fuel (mid :: locs) loc := by
  have less := Nat.mul_le_mul_right (d.depth + 1) (ahead_cons_lt (mem_places proper found) new)
  rw [Nat.succ_mul] at less
  rw [Lasts] at h ⊢
  omega

theorem lasts_wayLimit (proper : d.IsProper) (found : d.get? loc = some .folder) :
    Lasts d d.wayLimit [] loc := by
  have less : ahead d [loc] < ahead d [] :=
    ahead_cons_lt (mem_places proper found) List.not_mem_nil
  have all : ahead d [] = d.entries.length + 1 := by simp [ahead]
  have places : ahead d [loc] ≤ d.entries.length := by omega
  have product := Nat.mul_le_mul_right (d.depth + 1) places
  -- the way is empty, so that all places are ahead but the first folder
  rw [Lasts, wayLimit, Nat.succ_mul]
  omega

variable {relative : String} {r : Except VisitFault Visited}

def meant (d : Disk) (way : List Step) (path : String) (loc : Location) :
    Entry → Except VisitFault (Location × Entry)
  | .link _ => follow d way path
  | e => .ok (loc, e)

theorem visit_eq (d : Disk) (fuel : Nat) (way : List Step) (path relative : String)
    (loc : Location) (e : Entry) :
    visit d fuel way path relative loc e =
      match meant d way path loc e with
      | .error fault => [.error fault]
      | .ok (_, .text _) | .ok (_, .binary) => [.ok ⟨path, relative⟩]
      | .ok (_, .link _) => []
      | .ok (loc, .folder) =>
        match fuel with
        | 0 => []
        | fuel + 1 =>
          (children d loc).flatMap fun child =>
            visit d fuel (⟨loc, path, relative⟩ :: way) (Path.join path (String.ofList child.1))
              (Path.join relative (String.ofList child.1)) (loc ++ [child.1]) child.2 := by
  rw [visit.eq_def]
  cases e <;> rfl

theorem visit_of_file {e' : Entry} (counts : meant d way path loc e = .ok (mid, e'))
    (isFile : e'.isFile = true) :
    visit d fuel way path relative loc e = [.ok ⟨path, relative⟩] := by
  rw [visit_eq, counts]
  cases e' with
  | text | binary => rfl
  | folder | link => cases isFile

theorem visit_of_folder (counts : meant d way path loc e = .ok (mid, .folder)) :
    visit d (fuel + 1) way path relative loc e =
      (children d mid).flatMap fun child =>
        visit d fuel (⟨mid, path, relative⟩ :: way) (Path.join path (String.ofList child.1))
          (Path.join relative (String.ofList child.1)) (mid ++ [child.1]) child.2 := by
  rw [visit_eq, counts]

def Along (d : Disk) (root : String) (names : List (List Char)) (way : List Step) : Prop :=
  ∀ step ∈ way, ∃ above below, below ≠ [] ∧ names = above ++ below ∧
    Below d root above step.loc .folder

theorem Along.cons (h : Along d root names way) (folder : Below d root names mid .folder) :
    Along d root (names ++ [name]) (⟨mid, path, relative⟩ :: way) := by
  intro step listed
  rcases List.mem_cons.1 listed with rfl | before
  · exact ⟨names, [name], List.cons_ne_nil _ _, rfl, folder⟩
  · obtain ⟨above, below, -, rfl, found⟩ := h step before
    exact ⟨above, below ++ [name], by simp, List.append_assoc .., found⟩

theorem Along.not_mem (h : Along d root names way) (sound : d.IsSound root)
    (link : LinkBelow d root names) (folder : Below d root names loc .folder) :
    loc ∉ way.map (·.loc) := by
  intro listed
  obtain ⟨step, before, rfl⟩ := List.mem_map.1 listed
  obtain ⟨above, below, further, rfl, found⟩ := h step before
  exact sound.unlooped above below step.loc further link found folder

theorem exists_meant (sound : d.IsSound root) (along : Along d root names way)
    (isName : ∀ name ∈ names, IsName name)
    (found : d.find (under root names) false = .ok (.entry loc e)) :
    ∃ mid e', Below d root names mid e' ∧ meant d way (under root names) loc e = .ok (mid, e') := by
  by_cases link : ∃ target, e = .link target
  · obtain ⟨target, rfl⟩ := link
    have linkBelow : LinkBelow d root names := ⟨isName, loc, target, found⟩
    obtain ⟨mid, e, below⟩ := sound.linked names linkBelow
    refine ⟨mid, e, below, ?_⟩
    rw [meant, follow, below.2]
    cases e with
    | folder =>
      have other : way.find? (·.loc = mid) = none := by
        rw [List.find?_eq_none]
        intro step listed same
        refine along.not_mem sound linkBelow below (List.mem_map.2 ⟨step, listed, ?_⟩)
        simpa using same
      dsimp only
      rw [other]
    | _ => rfl
  · have real : ∀ target, e ≠ .link target := fun target same => link ⟨target, same⟩
    refine ⟨loc, e, below_of_find isName found real, ?_⟩
    cases e with
    | link target => exact absurd rfl (real target)
    | _ => rfl

def FileBelow (d : Disk) (root : String) (names : List (List Char))
    (r : Except VisitFault Visited) : Prop :=
  ∃ further end_ e, Below d root (names ++ further) end_ e ∧ e.isFile = true ∧
    r = .ok ⟨under root (names ++ further), under "" (names ++ further)⟩

theorem FileBelow.up (h : FileBelow d root (names ++ [name]) r) : FileBelow d root names r := by
  obtain ⟨further, end_, e, below, isFile, rfl⟩ := h
  rw [List.append_assoc] at below ⊢
  exact ⟨[name] ++ further, end_, e, below, isFile, rfl⟩

theorem fileBelow_of_file (named : root ≠ "") (counts : Below d root names mid e)
    (isFile : e.isFile = true) :
    FileBelow d root names r ↔ r = .ok ⟨under root names, under "" names⟩ := by
  constructor
  · rintro ⟨further, end_, e', below, -, rfl⟩
    rw [counts.eq_nil named isFile below, List.append_nil]
  · rintro rfl
    exact ⟨[], mid, e, by rwa [List.append_nil], isFile, by rw [List.append_nil]⟩

theorem fileBelow_of_folder (named : root ≠ "") (counts : Below d root names mid .folder) :
    FileBelow d root names r ↔
      ∃ name old, d.get? (mid ++ [name]) = some old ∧ FileBelow d root (names ++ [name]) r := by
  constructor
  · rintro ⟨further, end_, e, below, isFile, rfl⟩
    cases further with
    | nil =>
      rw [List.append_nil] at below
      obtain ⟨-, rfl⟩ := counts.unique below
      cases isFile
    | cons name further =>
      obtain ⟨mid', old, folder, child⟩ := below.folder named
      obtain ⟨rfl, -⟩ := counts.unique folder
      rw [List.append_cons] at below ⊢
      exact ⟨name, old, child, further, end_, e, below, isFile, rfl⟩
  · rintro ⟨name, old, -, below⟩
    exact below.up

theorem Below.find_child (folder : Below d root names mid .folder) (isName : IsName name)
    (child : d.get? (mid ++ [name]) = some e) :
    (∀ n ∈ names ++ [name], IsName n) ∧
      d.find (under root (names ++ [name])) false = .ok (.entry (mid ++ [name]) e) := by
  refine ⟨fun n listed => ?_, by rw [Path.under_concat]; exact find_join folder.2 isName child⟩
  rcases List.mem_append.1 listed with before | last
  · exact folder.1 n before
  · rwa [List.mem_singleton.1 last]

theorem Lasts.child (proper : d.IsProper) (sound : d.IsSound root) (along : Along d root names way)
    (folder : Below d root names mid .folder) (child : d.get? (mid ++ [name]) = some e)
    (h : Lasts d (fuel + 1) (way.map (·.loc)) mid)
    (counts : Below d root (names ++ [name]) end_ .folder) :
    Lasts d fuel (mid :: way.map (·.loc)) end_ := by
  obtain ⟨isName, found⟩ := folder.find_child (proper.isName child) child
  by_cases link : ∃ target, e = .link target
  · obtain ⟨target, rfl⟩ := link
    have new : end_ ∉ (⟨mid, root, root⟩ :: way).map (·.loc) :=
      (along.cons folder).not_mem sound ⟨isName, _, target, found⟩ counts
    exact h.over proper (proper.folder_of_stat counts.2) new
  · have real : ∀ target, e ≠ .link target := fun target same => link ⟨target, same⟩
    obtain ⟨rfl, rfl⟩ := (below_of_find isName found real).unique counts
    exact h.down proper child

theorem mem_visit (proper : d.IsProper) (sound : d.IsSound root) (named : root ≠ "")
    (isName : ∀ name ∈ names, IsName name)
    (found : d.find (under root names) false = .ok (.entry loc e)) (along : Along d root names way)
    (lasts : ∀ mid, Below d root names mid .folder → Lasts d fuel (way.map (·.loc)) mid) :
    r ∈ visit d fuel way (under root names) (under "" names) loc e ↔ FileBelow d root names r := by
  -- one step down adds a name and a folder to the way, and takes one of the fuel
  induction fuel generalizing names loc e way with
  | zero =>
    obtain ⟨mid, e', counts, meant⟩ := exists_meant sound along isName found
    rcases counts.isFile_or with isFile | rfl
    · rw [visit_of_file meant isFile, List.mem_singleton, fileBelow_of_file named counts isFile]
    · exact absurd (lasts mid counts) (Nat.not_lt_zero _)
  | succ fuel ih =>
    obtain ⟨mid, e', counts, meant⟩ := exists_meant sound along isName found
    rcases counts.isFile_or with isFile | rfl
    · rw [visit_of_file meant isFile, List.mem_singleton, fileBelow_of_file named counts isFile]
    · have each : ∀ name old, d.get? (mid ++ [name]) = some old →
          (r ∈ visit d fuel (⟨mid, under root names, under "" names⟩ :: way)
              (Path.join (under root names) (String.ofList name))
              (Path.join (under "" names) (String.ofList name)) (mid ++ [name]) old ↔
            FileBelow d root (names ++ [name]) r) := by
        intro name old child
        obtain ⟨isName, found⟩ := counts.find_child (proper.isName child) child
        rw [← Path.under_concat, ← Path.under_concat]
        exact ih isName found (along.cons counts) fun below folder =>
          (lasts mid counts).child proper sound along counts child folder
      rw [visit_of_folder meant, List.mem_flatMap, fileBelow_of_folder named counts]
      constructor
      · rintro ⟨⟨name, old⟩, listed, inside⟩
        have child := (mem_children proper).1 listed
        exact ⟨name, old, child, (each name old child).1 inside⟩
      · rintro ⟨name, old, child, below⟩
        exact ⟨(name, old), (mem_children proper).2 child, (each name old child).2 below⟩

theorem mem_visitAll (proper : d.IsProper) (sound : d.IsSound root)
    (folder : d.stat root = .ok (loc, .folder)) :
    r ∈ visitAll d root ↔ FileBelow d root [] r := by
  obtain ⟨zero, named, leads⟩ := find_eq_ok_iff.1 (stat_eq_ok_iff.1 folder)
  obtain ⟨end_, e, leads⟩ := leads.unfollowed
  have found : d.find root false = .ok (.entry end_ e) := find_eq_ok_iff.2 ⟨zero, named, leads⟩
  rw [visitAll, found]
  change r ∈ visit d d.wayLimit [] (under root []) (under "" []) end_ e ↔ _
  refine mem_visit proper sound named (List.forall_mem_nil _) found (List.forall_mem_nil _) ?_
  exact fun mid below => lasts_wayLimit proper (proper.folder_of_stat below.2)

end SourceMatch.Disk
