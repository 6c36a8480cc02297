import SourceMatch.Proofs.Disk.Walk
import SourceMatch.Proofs.Path.Parts

/-!
Walks in two parts. A walk over several names comes to a folder before it goes on, and from there it
depends on that folder and on the links that are left. So what a path leads to is decided by the
folder above it and by its last name, and two paths that say the same up to their last name lead to
the same place.
-/
namespace SourceMatch.Disk

open SourceMatch.Path (spoken pieces isSilent)

variable {d : Disk} {follow : Bool} {links left : Nat} {loc mid end_ : Location}
  {name : List Char} {xs ys rest front : List (List Char)} {place : Place} {e : Entry}
  {path folder target : String}

/-- The names lead from a folder to a folder, and so many of the links are left. -/
inductive Reaches (d : Disk) : Nat → Location → List (List Char) → Nat → Location → Prop
  | here {links : Nat} {loc : Location} : Reaches d links loc [] links loc
  | dot {links left : Nat} {loc end_ : Location} {rest : List (List Char)}
      (onward : Reaches d links loc rest left end_) : Reaches d links loc (['.'] :: rest) left end_
  | up {links left : Nat} {loc end_ : Location} {rest : List (List Char)}
      (onward : Reaches d links loc.dropLast rest left end_) :
      Reaches d links loc (['.', '.'] :: rest) left end_
  | folder {links left : Nat} {loc end_ : Location} {name : List Char} {rest : List (List Char)}
      (plain : IsPlain name) (found : d.get? (loc ++ [name]) = some .folder)
      (onward : Reaches d links (loc ++ [name]) rest left end_) :
      Reaches d links loc (name :: rest) left end_
  | link {links left : Nat} {loc end_ : Location} {name : List Char} {rest : List (List Char)}
      {target : String} (plain : IsPlain name)
      (found : d.get? (loc ++ [name]) = some (.link target)) (named : target ≠ "")
      (onward : Reaches d links (if isAbsolute target then [] else loc) (names target ++ rest)
        left end_) :
      Reaches d (links + 1) loc (name :: rest) left end_

theorem leads_folder_iff :
    Leads d true links loc rest (.entry end_ .folder) ↔
      ∃ left, Reaches d links loc rest left end_ := by
  constructor
  · intro h
    generalize place_eq : Place.entry end_ .folder = place at h
    induction h with
    | here => cases place_eq; exact ⟨_, .here⟩
    | dot _ ih => exact (ih place_eq).imp fun _ => .dot
    | up _ ih => exact (ih place_eq).imp fun _ => .up
    | folder plain found _ ih => exact (ih place_eq).imp fun _ => .folder plain found
    | link plain found _ named _ ih => exact (ih place_eq).imp fun _ => .link plain found named
    | free | stay => cases place_eq
    | file plain found isFile => cases place_eq; cases isFile
  · rintro ⟨left, h⟩
    induction h with
    | here => exact .here
    | dot _ ih => exact .dot ih
    | up _ ih => exact .up ih
    | folder plain found _ ih => exact .folder plain found ih
    | link plain found named _ ih => exact .link plain found (by simp) named ih

theorem leads_append_iff (nonempty : ys ≠ []) :
    Leads d follow links loc (xs ++ ys) place ↔
      ∃ left mid, Reaches d links loc xs left mid ∧ Leads d follow left mid ys place := by
  have alone {xs : List (List Char)} {name : List Char} (split : xs ++ ys = [name]) :
      xs = [] ∧ ys = [name] :=
    (List.append_eq_singleton_iff.1 split).resolve_right fun h => nonempty h.2
  constructor
  · intro h
    generalize split : xs ++ ys = all at h
    induction h generalizing xs with
    | here => exact absurd (List.append_eq_nil_iff.1 split).2 nonempty
    | @dot links loc rest place onward ih =>
      rcases List.append_eq_cons_iff.1 split with ⟨rfl, rfl⟩ | ⟨xs, rfl, rfl⟩
      · exact ⟨_, _, .here, .dot onward⟩
      · obtain ⟨left, mid, reached, leads⟩ := ih rfl
        exact ⟨left, mid, .dot reached, leads⟩
    | @up links loc rest place onward ih =>
      rcases List.append_eq_cons_iff.1 split with ⟨rfl, rfl⟩ | ⟨xs, rfl, rfl⟩
      · exact ⟨_, _, .here, .up onward⟩
      · obtain ⟨left, mid, reached, leads⟩ := ih rfl
        exact ⟨left, mid, .up reached, leads⟩
    | @folder links loc name rest place plain found onward ih =>
      rcases List.append_eq_cons_iff.1 split with ⟨rfl, rfl⟩ | ⟨xs, rfl, rfl⟩
      · exact ⟨_, _, .here, .folder plain found onward⟩
      · obtain ⟨left, mid, reached, leads⟩ := ih rfl
        exact ⟨left, mid, .folder plain found reached, leads⟩
    | @link links loc name rest place target plain found inner named onward ih =>
      -- the names of the target come before those left, so the cut behind them stays where it is
      rcases List.append_eq_cons_iff.1 split with ⟨rfl, rfl⟩ | ⟨xs, rfl, rfl⟩
      · exact ⟨_, _, .here, .link plain found inner named onward⟩
      · obtain ⟨left, mid, reached, leads⟩ := ih (List.append_assoc ..)
        exact ⟨left, mid, .link plain found named reached, leads⟩
    | free plain found =>
      obtain ⟨rfl, rfl⟩ := alone split
      exact ⟨_, _, .here, .free plain found⟩
    | file plain found isFile =>
      obtain ⟨rfl, rfl⟩ := alone split
      exact ⟨_, _, .here, .file plain found isFile⟩
    | stay plain found last =>
      obtain ⟨rfl, rfl⟩ := alone split
      exact ⟨_, _, .here, .stay plain found last⟩
  · rintro ⟨left, mid, reached, leads⟩
    induction reached with
    | here => exact leads
    | dot _ ih => exact .dot (ih leads)
    | up _ ih => exact .up (ih leads)
    | folder plain found _ ih => exact .folder plain found (ih leads)
    | link plain found named _ ih =>
      have onward := ih leads
      rw [List.append_assoc] at onward
      exact .link plain found (by simp [nonempty]) named onward

theorem reaches_append_iff :
    Reaches d links loc (xs ++ ys) left end_ ↔
      ∃ between mid, Reaches d links loc xs between mid ∧ Reaches d between mid ys left end_ := by
  constructor
  · intro h
    generalize split : xs ++ ys = all at h
    induction h generalizing xs with
    | here =>
      obtain ⟨rfl, rfl⟩ := List.append_eq_nil_iff.1 split
      exact ⟨_, _, .here, .here⟩
    | dot onward ih =>
      rcases List.append_eq_cons_iff.1 split with ⟨rfl, rfl⟩ | ⟨xs, rfl, rfl⟩
      · exact ⟨_, _, .here, .dot onward⟩
      · obtain ⟨between, mid, reached, further⟩ := ih rfl
        exact ⟨between, mid, .dot reached, further⟩
    | up onward ih =>
      rcases List.append_eq_cons_iff.1 split with ⟨rfl, rfl⟩ | ⟨xs, rfl, rfl⟩
      · exact ⟨_, _, .here, .up onward⟩
      · obtain ⟨between, mid, reached, further⟩ := ih rfl
        exact ⟨between, mid, .up reached, further⟩
    | folder plain found onward ih =>
      rcases List.append_eq_cons_iff.1 split with ⟨rfl, rfl⟩ | ⟨xs, rfl, rfl⟩
      · exact ⟨_, _, .here, .folder plain found onward⟩
      · obtain ⟨between, mid, reached, further⟩ := ih rfl
        exact ⟨between, mid, .folder plain found reached, further⟩
    | link plain found named onward ih =>
      rcases List.append_eq_cons_iff.1 split with ⟨rfl, rfl⟩ | ⟨xs, rfl, rfl⟩
      · exact ⟨_, _, .here, .link plain found named onward⟩
      · obtain ⟨between, mid, reached, further⟩ := ih (List.append_assoc ..)
        exact ⟨between, mid, .link plain found named reached, further⟩
  · rintro ⟨between, mid, reached, further⟩
    induction reached with
    | here => exact further
    | dot _ ih => exact .dot (ih further)
    | up _ ih => exact .up (ih further)
    | folder plain found _ ih => exact .folder plain found (ih further)
    | link plain found named _ ih =>
      have onward := ih further
      rw [List.append_assoc] at onward
      exact .link plain found named onward

theorem reaches_dot_iff :
    Reaches d links loc (['.'] :: rest) left end_ ↔ Reaches d links loc rest left end_ := by
  refine ⟨fun h => ?_, .dot⟩
  cases h with
  | dot onward => exact onward
  | folder plain | link plain => exact absurd rfl plain.ne_dot

theorem reaches_filter_iff :
    Reaches d links loc (rest.filter (· ≠ ['.'])) left end_ ↔
      Reaches d links loc rest left end_ := by
  induction rest generalizing links loc with
  | nil => rfl
  | cons name rest ih =>
    by_cases dot : name = ['.']
    · subst dot
      rw [List.filter_cons_of_neg (by simp), ih, reaches_dot_iff]
    · rw [List.filter_cons_of_pos (by simpa using dot), ← List.singleton_append,
        ← List.singleton_append (l := rest), reaches_append_iff, reaches_append_iff]
      simp only [ih]

structure IsName (name : List Char) : Prop extends IsPlain name where
  nonempty : name ≠ []
  slash : '/' ∉ name
  zero : '\x00' ∉ name

instance : DecidablePred IsName := fun name =>
  decidable_of_iff (IsPlain name ∧ name ≠ [] ∧ '/' ∉ name ∧ '\x00' ∉ name)
    ⟨fun ⟨plain, nonempty, slash, zero⟩ => ⟨plain, nonempty, slash, zero⟩,
      fun h => ⟨h.toIsPlain, h.nonempty, h.slash, h.zero⟩⟩

theorem IsName.heard (h : IsName name) : isSilent name = false := by
  simp [isSilent, h.nonempty, h.ne_dot]

theorem isPlain_of_leads_file (isFile : e.isFile = true)
    (h : Leads d follow links loc [name] (.entry end_ e)) : IsPlain name := by
  cases h with
  | dot onward | up onward =>
    cases onward
    cases isFile
  | folder plain _ _ | file plain _ _ | stay plain _ _ | link plain _ _ _ _ => exact plain

theorem exists_get?_of_leads (named : IsPlain name)
    (h : Leads d follow links loc [name] (.entry end_ e)) :
    ∃ old, d.get? (loc ++ [name]) = some old := by
  cases h with
  | dot => exact absurd rfl named.ne_dot
  | up => exact absurd rfl named.ne_up
  | folder _ found | file _ found | stay _ found | link _ found => exact ⟨_, found⟩

theorem leads_of_get? (plain : IsPlain name) (found : d.get? (loc ++ [name]) = some e) :
    Leads d false links loc [name] (.entry (loc ++ [name]) e) := by
  cases e with
  | folder => exact .folder plain found .here
  | text content => exact .file plain found rfl
  | binary => exact .file plain found rfl
  | link target => exact .stay plain found rfl

theorem filter_names (path : String) :
    (names path).filter (· ≠ ['.']) = spoken (pieces path) := by
  have dots : (if (pieces path).getLast? = some [] then [['.']] else []).filter (· ≠ ['.']) =
      ([] : List (List Char)) := by
    split <;> simp
  rw [names, List.filter_append, Path.filter_filter_eq_spoken]
  change spoken (pieces path) ++
    (if (pieces path).getLast? = some [] then [['.']] else []).filter (· ≠ ['.']) = _
  rw [dots, List.append_nil]

theorem names_of_pieces (whole : pieces path = front ++ [name]) :
    names path = front.filter (· ≠ []) ++ [if name = [] then ['.'] else name] := by
  change (pieces path).filter _ ++ (if (pieces path).getLast? = some [] then _ else _) = _
  rw [whole, List.filter_append, List.getLast?_concat]
  by_cases empty : name = [] <;> simp [empty]

theorem stat_folder_iff :
    d.stat path = .ok (loc, .folder) ↔ '\x00' ∉ path.toList ∧ path ≠ "" ∧
      ∃ left, Reaches d linkLimit (start d path) (spoken (pieces path)) left loc := by
  rw [stat_eq_ok_iff, find_eq_ok_iff, leads_folder_iff, ← filter_names]
  simp only [reaches_filter_iff]
  simp

theorem find_iff_of_pieces (whole : pieces path = front ++ [name]) (heard : isSilent name = false) :
    find d path follow = .ok place ↔ '\x00' ∉ path.toList ∧
      ∃ left mid, Reaches d linkLimit (start d path) (spoken front) left mid ∧
        Leads d follow left mid [name] place := by
  have nonempty : name ≠ [] := Path.ne_nil_of_heard heard
  have filled : path ≠ "" := by
    rintro rfl
    have single : [[]] = front ++ [name] := whole
    cases front with
    | nil => exact nonempty (List.cons.inj single).1.symm
    | cons piece front => simp at single
  rw [find_eq_ok_iff, names_of_pieces whole, if_neg nonempty,
    leads_append_iff (List.cons_ne_nil _ _), ← Path.filter_filter_eq_spoken]
  simp only [reaches_filter_iff]
  simp [filled]

theorem start_eq_of_head? {other : String}
    (same : other.toList.head? = some '/' ↔ path.toList.head? = some '/') :
    start d other = start d path := by
  simp [start, isAbsolute, same]

theorem find_join_iff (named : folder ≠ "") (isName : IsName name) :
    find d (Path.join folder (String.ofList name)) follow = .ok place ↔ '\x00' ∉ folder.toList ∧
      ∃ left mid, Reaches d linkLimit (start d folder) (spoken (pieces folder)) left mid ∧
        Leads d follow left mid [name] place := by
  obtain ⟨front, whole, -, same⟩ := Path.pieces_join named isName.slash
  have begins : start d (Path.join folder (String.ofList name)) = start d folder :=
    start_eq_of_head? (by rw [Path.head?_join named])
  rw [find_iff_of_pieces whole isName.heard, same, begins, Path.mem_join_iff named (by decide)]
  simp [isName.zero]

theorem find_join (above : d.stat folder = .ok (mid, .folder)) (isName : IsName name)
    (found : d.get? (mid ++ [name]) = some e) :
    find d (Path.join folder (String.ofList name)) false = .ok (.entry (mid ++ [name]) e) := by
  obtain ⟨zero, named, left, reached⟩ := stat_folder_iff.1 above
  exact (find_join_iff named isName).2
    ⟨zero, left, mid, reached, leads_of_get? isName.toIsPlain found⟩

theorem exists_above (named : folder ≠ "") (isName : IsName name)
    (h : find d (Path.join folder (String.ofList name)) follow = .ok (.entry loc e)) :
    ∃ mid old, d.stat folder = .ok (mid, .folder) ∧ d.get? (mid ++ [name]) = some old := by
  obtain ⟨zero, left, mid, reached, leads⟩ := (find_join_iff named isName).1 h
  obtain ⟨old, found⟩ := exists_get?_of_leads isName.toIsPlain leads
  exact ⟨mid, old, stat_folder_iff.2 ⟨zero, named, left, reached⟩, found⟩

theorem find_parent_iff (whole : pieces path = front ++ [name]) (slash : '/' ∈ path.toList)
    (isName : IsName name) (zero : '\x00' ∉ path.toList) :
    ∃ folder, Path.parent? path = some folder ∧ folder ≠ "" ∧ ∀ follow place,
      find d (Path.join folder (String.ofList name)) follow = .ok place ↔
        find d path follow = .ok place := by
  obtain ⟨piece, more, rfl⟩ := List.exists_cons_of_ne_nil ((Path.slash_mem_iff whole).1 slash)
  obtain ⟨folder, above, named, begins, said, among⟩ := Path.parent?_of_pieces whole isName.heard
  have clean : '\x00' ∉ folder.toList := by
    have other : '\x00' ≠ '/' := by decide
    rw [Text.mem_iff_of_splitAtChar other]
    rintro ⟨p, listed, inside⟩
    refine zero ((Text.mem_iff_of_splitAtChar other _).2 ⟨p, ?_, inside⟩)
    change p ∈ pieces path
    rw [whole]
    exact List.mem_append_left _ (among listed)
  refine ⟨folder, above, named, fun follow place => ?_⟩
  rw [find_join_iff named isName, find_iff_of_pieces whole isName.heard, said,
    start_eq_of_head? begins]
  simp [clean, zero]

theorem stat_of_read {content : String} (h : d.read path = .ok content) :
    ∃ loc, d.stat path = .ok (loc, .text content) := by
  rw [read] at h
  cases found : d.stat path with
  | error fault => rw [found] at h; cases h
  | ok place =>
    rw [found] at h
    obtain ⟨loc, e⟩ := place
    cases e with
    | text content => cases h; exact ⟨loc, rfl⟩
    | folder | binary | link => cases h

theorem exists_name_of_stat (h : d.stat path = .ok (loc, e)) (isFile : e.isFile = true) :
    ∃ front name, pieces path = front ++ [name] ∧ IsName name := by
  obtain ⟨zero, -, leads⟩ := find_eq_ok_iff.1 (stat_eq_ok_iff.1 h)
  obtain ⟨front, name, whole⟩ :=
    (List.eq_nil_or_concat' (pieces path)).resolve_left (Path.pieces_ne_nil path)
  rw [names_of_pieces whole, leads_append_iff (List.cons_ne_nil _ _)] at leads
  obtain ⟨left, mid, -, last⟩ := leads
  have plain := isPlain_of_leads_file isFile last
  have listed : name ∈ pieces path := by simp [whole]
  have nonempty : name ≠ [] := by
    intro empty
    rw [if_pos empty] at plain
    exact plain.ne_dot rfl
  rw [if_neg nonempty] at plain
  refine ⟨front, name, whole, ⟨plain, nonempty, Path.slash_not_mem listed, fun inside => ?_⟩⟩
  have among := (Text.mem_iff_of_splitAtChar (by decide) _).2 ⟨name, listed, inside⟩
  rw [List.contains_iff_mem.2 among] at zero
  cases zero

theorem exists_folder_of_stat (h : d.stat path = .ok (end_, e)) (isFile : e.isFile = true)
    (slash : '/' ∈ path.toList) :
    ∃ folder loc name old, Path.parent? path = some folder ∧ d.stat folder = .ok (loc, .folder) ∧
      IsName name ∧ Path.fileName? path = some name ∧
      d.find path false = .ok (.entry (loc ++ [name]) old) ∧
      d.stat (Path.join folder (String.ofList name)) = .ok (end_, e) := by
  obtain ⟨front, name, whole, isName⟩ := exists_name_of_stat h isFile
  obtain ⟨zero, -, -⟩ := (find_iff_of_pieces whole isName.heard).1 (stat_eq_ok_iff.1 h)
  obtain ⟨folder, above, named, same⟩ := find_parent_iff whole slash isName zero
  have below := (same true _).2 (stat_eq_ok_iff.1 h)
  obtain ⟨loc, old, stat, found⟩ := exists_above named isName below
  exact ⟨folder, loc, name, old, above, stat, isName,
    Path.fileName?_of_pieces whole isName.heard isName.ne_up,
    (same false _).1 (find_join stat isName found), stat_eq_ok_iff.2 below⟩

end SourceMatch.Disk
