import SourceMatch.Proofs.Disk.Visit

/-!
What a visit without faults tells. It has come to every entry below the folder, with all folders
above the entry on its way. So it has tried every link there: one that dangles, or leads back to a
folder on the way, would have been a fault, and the folder is sound.
-/
namespace SourceMatch.Disk

open SourceMatch.Path (under)

variable {d : Disk} {root path : String} {loc mid : Location} {name : List Char}
  {names : List (List Char)} {e e' : Entry} {way : List Step}

theorem stat_of_meant (found : d.find path false = .ok (.entry loc e))
    (h : meant d way path loc e = .ok (mid, e')) : d.stat path = .ok (mid, e') := by
  by_cases link : ∃ target, e = .link target
  · obtain ⟨target, rfl⟩ := link
    rw [meant, follow] at h
    split at h
    · cases h
    · rename_i folder stat
      split at h
      · cases h
      · cases h
        exact stat
    · rename_i stat
      cases h
      exact stat
  · have real : ∀ target, e ≠ .link target := fun target same => link ⟨target, same⟩
    obtain ⟨zero, named, leads⟩ := find_eq_ok_iff.1 found
    have stat : d.stat path = .ok (loc, e) :=
      stat_eq_ok_iff.2 (find_eq_ok_iff.2 ⟨zero, named, leads.followed real⟩)
    have same : meant d way path loc e = .ok (loc, e) := by
      cases e with
      | link target => exact absurd rfl (real target)
      | _ => rfl
    cases same.symm.trans h
    exact stat

theorem not_mem_of_meant {target : String}
    (h : meant d way path loc (.link target) = .ok (mid, .folder)) : mid ∉ way.map (·.loc) := by
  intro listed
  obtain ⟨step, before, same⟩ := List.mem_map.1 listed
  rw [meant, follow] at h
  split at h
  · cases h
  · rename_i folder stat
    split at h
    · cases h
    · rename_i other
      cases h
      exact absurd (decide_eq_true same) (List.find?_eq_none.1 other step before)
  · rename_i folder stat
    cases h
    exact folder _ rfl

def IsFaultless (d : Disk) (root : String) : Prop := ∀ r ∈ visitAll d root, ∃ v, r = .ok v

/-- The visit of the folder comes to the entry to which the names lead: the visit from there, with
some fuel and on some way, is a part of it. -/
structure ComesTo (d : Disk) (root : String) (names : List (List Char)) (loc : Location)
    (e : Entry) (fuel : Nat) (way : List Step) : Prop where
  found : d.find (under root names) false = .ok (.entry loc e)
  inside : ∀ r ∈ visit d fuel way (under root names) (under "" names) loc e, r ∈ visitAll d root
  passed : ∀ above below mid, below ≠ [] → names = above ++ below →
    Below d root above mid .folder → mid ∈ way.map (·.loc)
  lasts : ∀ mid, meant d way (under root names) loc e = .ok (mid, .folder) →
    Lasts d fuel (way.map (·.loc)) mid

namespace ComesTo

variable {fuel : Nat}

theorem exists_meant (h : ComesTo d root names loc e fuel way) (faultless : IsFaultless d root) :
    ∃ mid e', meant d way (under root names) loc e = .ok (mid, e') ∧
      d.stat (under root names) = .ok (mid, e') := by
  cases counts : meant d way (under root names) loc e with
  | ok found =>
    obtain ⟨mid, e'⟩ := found
    exact ⟨mid, e', rfl, stat_of_meant h.found counts⟩
  | error fault =>
    have visited : .error fault ∈ visit d fuel way (under root names) (under "" names) loc e := by
      rw [visit_eq, counts]
      exact List.mem_singleton_self _
    have inside := h.inside (.error fault) visited
    obtain ⟨v, ok⟩ := faultless _ inside
    cases ok

theorem first (proper : d.IsProper) (found : d.find root false = .ok (.entry loc e)) :
    ComesTo d root [] loc e d.wayLimit [] where
  found := found
  inside r listed := by
    rw [visitAll, found]
    exact listed
  passed above below mid nonempty split _ :=
    absurd (List.append_eq_nil_iff.1 split.symm).2 nonempty
  lasts mid counts := lasts_wayLimit proper (proper.folder_of_stat (stat_of_meant found counts))

theorem child (proper : d.IsProper) (faultless : IsFaultless d root)
    (h : ComesTo d root names loc e fuel way) (isName : ∀ n ∈ names, IsName n)
    (above : d.stat (under root names) = .ok (mid, .folder))
    (inside : d.get? (mid ++ [name]) = some e') :
    ∃ fuel way, ComesTo d root (names ++ [name]) (mid ++ [name]) e' fuel way := by
  have here : Below d root names mid .folder := ⟨isName, above⟩
  obtain ⟨-, found⟩ := here.find_child (proper.isName inside) inside
  obtain ⟨mid', old, counts, stat⟩ := h.exists_meant faultless
  cases above.symm.trans stat
  have lasts := h.lasts mid counts
  cases fuel with
  | zero => exact absurd lasts (Nat.not_lt_zero _)
  | succ fuel =>
    refine ⟨fuel, ⟨mid, under root names, under "" names⟩ :: way, found, fun r listed => ?_, ?_, ?_⟩
    · refine h.inside r ?_
      rw [visit_of_folder counts, List.mem_flatMap]
      rw [Path.under_concat, Path.under_concat] at listed
      exact ⟨(name, e'), (mem_children proper).2 inside, listed⟩
    · intro before behind loc nonempty split folder
      -- either the names themselves are meant, or some above them
      rcases List.eq_nil_or_concat' behind with rfl | ⟨behind, last, rfl⟩
      · exact absurd rfl nonempty
      · rw [← List.append_assoc] at split
        obtain ⟨rfl, -⟩ := List.append_inj' split rfl
        by_cases none : behind = []
        · subst none
          rw [List.append_nil] at here
          rw [(folder.unique here).1]
          exact List.mem_cons_self
        · exact List.mem_cons_of_mem _ (h.passed before behind loc none rfl folder)
    · intro end_ counts'
      have folder := proper.folder_of_stat (stat_of_meant found counts')
      by_cases link : ∃ target, e' = .link target
      · obtain ⟨target, rfl⟩ := link
        exact lasts.over proper folder (not_mem_of_meant counts')
      · have same : meant d (⟨mid, under root names, under "" names⟩ :: way)
            (under root (names ++ [name])) (mid ++ [name]) e' = .ok (mid ++ [name], e') := by
          cases e' with
          | link target => exact absurd ⟨target, rfl⟩ link
          | _ => rfl
        cases same.symm.trans counts'
        exact lasts.down proper inside

end ComesTo

theorem exists_comesTo (proper : d.IsProper) (faultless : IsFaultless d root)
    (folder : d.stat root = .ok (loc, .folder)) (isName : ∀ name ∈ names, IsName name)
    (found : d.find (under root names) false = .ok (.entry mid e)) :
    ∃ fuel way, ComesTo d root names mid e fuel way := by
  obtain ⟨-, named, -⟩ := find_eq_ok_iff.1 (stat_eq_ok_iff.1 folder)
  induction names using List.reverseRecOn generalizing mid e with
  | nil => exact ⟨_, _, .first proper found⟩
  | append_singleton names name ih =>
    have before : ∀ n ∈ names, IsName n := fun n listed => isName n (by simp [listed])
    have last := isName name (by simp)
    obtain ⟨above, old, stat, inside⟩ := exists_above (under_ne_empty named before) last
      (by rw [← Path.under_concat]; exact found)
    obtain ⟨-, same⟩ := Below.find_child ⟨before, stat⟩ last inside
    cases same.symm.trans found
    obtain ⟨zero, filled, leads⟩ := find_eq_ok_iff.1 (stat_eq_ok_iff.1 stat)
    obtain ⟨end_, e', leads⟩ := leads.unfollowed
    obtain ⟨fuel, way, comes⟩ := ih before (find_eq_ok_iff.2 ⟨zero, filled, leads⟩)
    exact comes.child proper faultless before stat inside

theorem isSound_of_faultless (proper : d.IsProper) (faultless : IsFaultless d root)
    (folder : d.stat root = .ok (loc, .folder)) : d.IsSound root where
  linked := by
    rintro names ⟨isName, place, target, found⟩
    obtain ⟨fuel, way, comes⟩ := exists_comesTo proper faultless folder isName found
    obtain ⟨mid, e, -, stat⟩ := comes.exists_meant faultless
    exact ⟨mid, e, isName, stat⟩
  unlooped := by
    rintro above below place nonempty ⟨isName, link, target, found⟩ passes back
    obtain ⟨fuel, way, comes⟩ := exists_comesTo proper faultless folder isName found
    obtain ⟨mid, e, counts, stat⟩ := comes.exists_meant faultless
    cases back.2.symm.trans stat
    exact not_mem_of_meant counts (comes.passed above below place nonempty rfl passes)

end SourceMatch.Disk
