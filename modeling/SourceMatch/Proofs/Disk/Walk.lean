import SourceMatch.Disk.Basic

/-!
Where paths lead when the disk changes. A walk is seen as a sequence of steps, one for each name on
the way. Something new at a free place, or another text in place of a file, hides nothing from a
walk: it leads where it led before, and finds the new entry if that place is its end.
-/
namespace SourceMatch.Disk

variable {d : Disk} {follow : Bool} {links : Nat} {loc end_ : Location} {name : List Char}
  {rest : List (List Char)} {place : Place} {e : Entry} {target path : String}

def Entry.isFile : Entry → Bool
  | .text _ | .binary => true
  | .folder | .link _ => false

structure IsPlain (name : List Char) : Prop where
  ne_dot : name ≠ ['.']
  ne_up : name ≠ ['.', '.']
  short : ¬ nameLimit < (String.ofList name).utf8ByteSize

instance : DecidablePred IsPlain := fun name =>
  decidable_of_iff (name ≠ ['.'] ∧ name ≠ ['.', '.'] ∧
      ¬nameLimit < (String.ofList name).utf8ByteSize)
    ⟨fun ⟨dot, up, short⟩ => ⟨dot, up, short⟩, fun h => ⟨h.ne_dot, h.ne_up, h.short⟩⟩

/-- The walk over names from a folder leads to a place. -/
inductive Leads (d : Disk) (follow : Bool) : Nat → Location → List (List Char) → Place → Prop
  | here {links : Nat} {loc : Location} : Leads d follow links loc [] (.entry loc .folder)
  | dot {links : Nat} {loc : Location} {rest : List (List Char)} {place : Place}
      (onward : Leads d follow links loc rest place) :
      Leads d follow links loc (['.'] :: rest) place
  | up {links : Nat} {loc : Location} {rest : List (List Char)} {place : Place}
      (onward : Leads d follow links loc.dropLast rest place) :
      Leads d follow links loc (['.', '.'] :: rest) place
  | free {links : Nat} {loc : Location} {name : List Char} (plain : IsPlain name)
      (found : d.get? (loc ++ [name]) = none) :
      Leads d follow links loc [name] (.free (loc ++ [name]))
  | folder {links : Nat} {loc : Location} {name : List Char} {rest : List (List Char)}
      {place : Place} (plain : IsPlain name) (found : d.get? (loc ++ [name]) = some .folder)
      (onward : Leads d follow links (loc ++ [name]) rest place) :
      Leads d follow links loc (name :: rest) place
  | file {links : Nat} {loc : Location} {name : List Char} {e : Entry} (plain : IsPlain name)
      (found : d.get? (loc ++ [name]) = some e) (isFile : e.isFile = true) :
      Leads d follow links loc [name] (.entry (loc ++ [name]) e)
  | stay {links : Nat} {loc : Location} {name : List Char} {target : String}
      (plain : IsPlain name) (found : d.get? (loc ++ [name]) = some (.link target))
      (last : follow = false) :
      Leads d follow links loc [name] (.entry (loc ++ [name]) (.link target))
  | link {links : Nat} {loc : Location} {name : List Char} {rest : List (List Char)}
      {place : Place} {target : String} (plain : IsPlain name)
      (found : d.get? (loc ++ [name]) = some (.link target))
      (inner : ¬ (rest = [] ∧ (!follow) = true)) (named : target ≠ "")
      (onward : Leads d follow links (if isAbsolute target then [] else loc)
        (names target ++ rest) place) :
      Leads d follow (links + 1) loc (name :: rest) place

theorem leads_of_walk (h : walk d follow links loc rest = .ok place) :
    Leads d follow links loc rest place := by
  fun_induction walk d follow links loc rest with
  | case1 => cases h; exact .here
  | case2 links loc rest ih => exact .dot (ih h)
  | case3 links loc rest _ ih => exact .up (ih h)
  | case5 links loc name dot up short below found =>
    cases h
    exact .free ⟨dot, up, short⟩ found
  | case7 links loc name rest dot up short below found ih =>
    exact .folder ⟨dot, up, short⟩ found (ih h)
  | case8 links loc name rest dot up short below target found last =>
    cases h
    obtain ⟨rfl, stays⟩ := last
    exact .stay ⟨dot, up, short⟩ found (by simpa using stays)
  | case11 loc name rest dot up short below target found inner links named ih =>
    exact .link ⟨dot, up, short⟩ found inner named (ih h)
  | case12 links loc name dot up short below e folder link found =>
    cases h
    refine .file ⟨dot, up, short⟩ found ?_
    cases e with
    | folder => exact absurd rfl folder
    | link target => exact absurd rfl (link target)
    | text => rfl
    | binary => rfl
  | _ => cases h

theorem walk_of_leads (h : Leads d follow links loc rest place) :
    walk d follow links loc rest = .ok place := by
  induction h with
  | here => rw [walk]
  | dot onward ih => rw [walk, if_pos rfl, ih]
  | up onward ih => rw [walk, if_neg (by decide), if_pos rfl, ih]
  | free plain found =>
    rw [walk, if_neg plain.ne_dot, if_neg plain.ne_up, if_neg plain.short]
    simp [found]
  | folder plain found onward ih =>
    rw [walk, if_neg plain.ne_dot, if_neg plain.ne_up, if_neg plain.short]
    simp [found, ih]
  | @file _ _ _ e plain found isFile =>
    rw [walk, if_neg plain.ne_dot, if_neg plain.ne_up, if_neg plain.short]
    cases e with
    | text => simp [found]
    | binary => simp [found]
    | _ => cases isFile
  | stay plain found last =>
    rw [walk, if_neg plain.ne_dot, if_neg plain.ne_up, if_neg plain.short]
    simp [found, last]
  | link plain found inner named onward ih =>
    rw [walk, if_neg plain.ne_dot, if_neg plain.ne_up, if_neg plain.short]
    simp only [found, if_neg inner, if_neg named, ih]

namespace Leads

theorem get?_of_free (h : Leads d follow links loc rest (.free end_)) : d.get? end_ = none := by
  generalize place_eq : Place.free end_ = place at h
  induction h with
  | free plain found => cases place_eq; exact found
  | dot _ ih | up _ ih | folder _ _ _ ih | link _ _ _ _ _ ih => exact ih place_eq
  | here | file | stay => cases place_eq

theorem get?_of_entry (h : Leads d follow links loc rest (.entry end_ e)) (inside : e ≠ .folder) :
    d.get? end_ = some e := by
  generalize place_eq : Place.entry end_ e = place at h
  induction h with
  | file plain found | stay plain found => cases place_eq; exact found
  | dot _ ih | up _ ih | folder _ _ _ ih | link _ _ _ _ _ ih => exact ih place_eq
  | here => cases place_eq; exact absurd rfl inside
  | free => cases place_eq

theorem isFile_of_follow (h : Leads d true links loc rest (.entry end_ e)) (inside : e ≠ .folder) :
    e.isFile = true := by
  generalize place_eq : Place.entry end_ e = place at h
  induction h with
  | file plain found isFile => cases place_eq; exact isFile
  | dot _ ih | up _ ih | folder _ _ _ ih | link _ _ _ _ _ ih => exact ih place_eq
  | here => cases place_eq; exact absurd rfl inside
  | free => cases place_eq
  | stay plain found last => cases last

theorem followed (h : Leads d follow links loc rest (.entry end_ e))
    (real : ∀ target, e ≠ .link target) : Leads d true links loc rest (.entry end_ e) := by
  generalize place_eq : Place.entry end_ e = place at h ⊢
  induction h with
  | here => exact .here
  | dot _ ih => exact .dot (ih place_eq)
  | up _ ih => exact .up (ih place_eq)
  | folder plain found _ ih => exact .folder plain found (ih place_eq)
  | link plain found _ named _ ih => exact .link plain found (by simp) named (ih place_eq)
  | file plain found isFile => exact .file plain found isFile
  | free => cases place_eq
  | stay => cases place_eq; exact absurd rfl (real _)

theorem unfollowed (h : Leads d true links loc rest (.entry end_ e)) :
    ∃ end' e', Leads d false links loc rest (.entry end' e') := by
  generalize place_eq : Place.entry end_ e = place at h
  induction h with
  | here => exact ⟨_, _, .here⟩
  | dot _ ih => exact (ih place_eq).imp fun _ => .imp fun _ => .dot
  | up _ ih => exact (ih place_eq).imp fun _ => .imp fun _ => .up
  | folder plain found _ ih =>
    exact (ih place_eq).imp fun _ => .imp fun _ => .folder plain found
  | file plain found isFile => exact ⟨_, _, .file plain found isFile⟩
  | @link _ _ name rest _ target plain found _ named _ ih =>
    by_cases last : rest = []
    · subst last
      exact ⟨_, _, .stay plain found rfl⟩
    · exact (ih place_eq).imp fun _ => .imp fun _ => .link plain found (by simp [last]) named
  | free => cases place_eq
  | stay _ _ last => cases last

theorem append_dot (h : Leads d true links loc rest (.entry end_ .folder)) :
    Leads d true links loc (rest ++ [['.']]) (.entry end_ .folder) := by
  generalize place_eq : Place.entry end_ .folder = place at h ⊢
  induction h with
  | here => exact .dot .here
  | dot _ ih => exact .dot (ih place_eq)
  | up _ ih => exact .up (ih place_eq)
  | folder plain found _ ih => exact .folder plain found (ih place_eq)
  | link plain found _ named _ ih =>
    refine .link plain found (by simp) named ?_
    have onward := ih place_eq
    rwa [List.append_assoc] at onward
  | free | stay => cases place_eq
  | file plain found isFile => cases place_eq; cases isFile

end Leads

theorem lookup_filter_ne {entries : List (Location × Entry)} {l : Location} (other : l ≠ loc) :
    (entries.filter (·.1 ≠ loc)).lookup l = entries.lookup l := by
  induction entries with
  | nil => rfl
  | cons entry entries ih =>
    obtain ⟨l', e⟩ := entry
    by_cases dropped : l' = loc
    · subst dropped
      have passed : (l == l') = false := by simpa using other
      rw [List.filter_cons_of_neg (by simp), ih, List.lookup_cons, passed]
    · rw [List.filter_cons_of_pos (by simpa using dropped), List.lookup_cons, ih, List.lookup_cons]

theorem get?_put (d : Disk) (loc : Location) (e : Entry) (l : Location) :
    (d.put loc e).get? l =
      if l = [] then some .folder else if l = loc then some e else d.get? l := by
  by_cases root : l = []
  · rw [get?, if_pos root, if_pos root]
  · rw [get?, if_neg root, if_neg root, put]
    by_cases new : l = loc
    · subst new
      simp
    · have other : (l == loc) = false := by simpa using new
      rw [if_neg new, List.lookup_cons, other, get?, if_neg root]
      exact lookup_filter_ne new

/-- What can stand at a place without hiding anything: a folder that is new, or a text that is new
or replaces a file. -/
inductive Fits (d : Disk) (loc : Location) : Entry → Prop
  | folder (free : d.get? loc = none) : Fits d loc .folder
  | text {content : String} (replaces : ∀ e, d.get? loc = some e → e.isFile = true) :
      Fits d loc (.text content)

def Place.after (loc : Location) (e : Entry) : Place → Place
  | .free l => if l = loc then .entry l e else .free l
  | .entry l .folder => .entry l .folder
  | .entry l old => if l = loc then .entry l e else .entry l old

theorem Place.after_of_ne {old : Entry} (l loc : Location) (e : Entry) (inside : old ≠ .folder) :
    (Place.entry l old).after loc e = if l = loc then .entry l e else .entry l old := by
  cases old with
  | folder => exact absurd rfl inside
  | _ => rfl

theorem Fits.ne_of_get? {old : Entry} (h : Fits d end_ e) (found : d.get? loc = some old)
    (leads : old.isFile = false) : loc ≠ end_ := by
  rintro rfl
  cases h with
  | folder free => rw [free] at found; cases found
  | text replaces => rw [replaces old found] at leads; cases leads

theorem Fits.ne_root (h : Fits d end_ e) : end_ ≠ [] := by
  have root : d.get? [] = some .folder := rfl
  exact (h.ne_of_get? root rfl).symm

theorem Leads.put (fits : Fits d end_ e) (h : Leads d follow links loc rest place) :
    Leads (d.put end_ e) follow links loc rest (place.after end_ e) := by
  have below : ∀ {loc : Location} {name : List Char}, loc ++ [name] ≠ end_ →
      (d.put end_ e).get? (loc ++ [name]) = d.get? (loc ++ [name]) := by
    intro loc name other
    rw [get?_put, if_neg (by simp), if_neg other]
  have new : (d.put end_ e).get? end_ = some e := by
    rw [get?_put, if_neg fits.ne_root, if_pos rfl]
  induction h with
  | here => exact .here
  | dot _ ih => exact .dot ih
  | up _ ih => exact .up ih
  | @free _ loc name plain found =>
    by_cases last : loc ++ [name] = end_
    · subst last
      rw [Place.after, if_pos rfl]
      cases fits with
      | folder => exact .folder plain new .here
      | text => exact .file plain new rfl
    · rw [Place.after, if_neg last]
      exact .free plain ((below last).trans found)
  | folder plain found _ ih =>
    exact .folder plain ((below (fits.ne_of_get? found rfl)).trans found) ih
  | @file _ loc name old plain found isFile =>
    have inside : old ≠ .folder := by
      rintro rfl
      cases isFile
    rw [Place.after_of_ne _ _ _ inside]
    split
    · rename_i last
      subst last
      cases fits with
      | folder free => rw [free] at found; cases found
      | text => exact .file plain new rfl
    · rename_i last
      exact .file plain ((below last).trans found) isFile
  | @stay _ _ _ target plain found last =>
    have other := fits.ne_of_get? found rfl
    have inside : Entry.link target ≠ .folder := nofun
    rw [Place.after_of_ne _ _ _ inside, if_neg other]
    exact .stay plain ((below other).trans found) last
  | link plain found inner named _ ih =>
    exact .link plain ((below (fits.ne_of_get? found rfl)).trans found) inner named ih

def start (d : Disk) (path : String) : Location := if isAbsolute path then [] else d.here

theorem find_eq_ok_iff :
    find d path follow = .ok place ↔ path.toList.contains '\x00' = false ∧ path ≠ "" ∧
      Leads d follow linkLimit (start d path) (names path) place := by
  rw [find]
  cases path.toList.contains '\x00' with
  | true => simp
  | false =>
    by_cases empty : path = ""
    · simp [empty]
    · rw [if_neg Bool.false_ne_true, if_neg empty]
      exact ⟨fun h => ⟨rfl, empty, leads_of_walk h⟩, fun h => walk_of_leads h.2.2⟩

theorem find_of_names {names : List (List Char)}
    (usable : '\x00' ∉ path.toList ∧ path ≠ "" ∧ Disk.names path = names)
    (leads : Leads d follow linkLimit (start d path) names place) :
    find d path follow = .ok place := by
  obtain ⟨zero, nonempty, rfl⟩ := usable
  exact find_eq_ok_iff.2 ⟨by simpa using zero, nonempty, leads⟩

theorem find_put (fits : Fits d loc e) (h : find d path follow = .ok place) :
    find (d.put loc e) path follow = .ok (place.after loc e) := by
  obtain ⟨zero, nonempty, leads⟩ := find_eq_ok_iff.1 h
  exact find_eq_ok_iff.2 ⟨zero, nonempty, leads.put fits⟩

theorem stat_eq_ok_iff :
    stat d path = .ok (loc, e) ↔ find d path true = .ok (.entry loc e) := by
  rw [stat]
  cases find d path true with
  | error fault => exact ⟨nofun, nofun⟩
  | ok place =>
    cases place with
    | free l => exact ⟨nofun, nofun⟩
    | entry l e =>
      constructor
      · rintro ⟨⟩
        rfl
      · intro h
        cases h
        rfl

theorem present_iff : d.present path = true ↔ ∃ loc e, find d path true = .ok (.entry loc e) := by
  rw [present]
  cases h : d.stat path with
  | error fault =>
    refine ⟨nofun, fun ⟨loc, e, found⟩ => ?_⟩
    rw [stat_eq_ok_iff.2 found] at h
    cases h
  | ok found => exact ⟨fun _ => ⟨_, _, stat_eq_ok_iff.1 h⟩, fun _ => rfl⟩

theorem Place.after_entry (loc end_ : Location) (old e : Entry) :
    ∃ e', (Place.entry end_ old).after loc e = .entry end_ e' := by
  by_cases inside : old = .folder
  · exact ⟨.folder, by rw [inside]; rfl⟩
  · rw [after_of_ne _ _ _ inside]
    split <;> exact ⟨_, rfl⟩

theorem present_put (fits : Fits d loc e) (h : d.present path = true) :
    (d.put loc e).present path = true := by
  obtain ⟨end_, old, found⟩ := present_iff.1 h
  obtain ⟨e', entry⟩ := Place.after_entry loc end_ old e
  have found := find_put fits found
  rw [entry] at found
  exact present_iff.2 ⟨end_, e', found⟩

theorem read_of_find {content : String}
    (h : find d path true = .ok (.entry loc (.text content))) : d.read path = .ok content := by
  rw [read, stat_eq_ok_iff.2 h]
  rfl

theorem fits_of_free {content : String} (h : find d path follow = .ok (.free loc)) :
    Fits d loc (.text content) := by
  refine .text fun e found => ?_
  rw [(find_eq_ok_iff.1 h).2.2.get?_of_free] at found
  cases found

theorem fits_of_entry {content : String} (h : find d path true = .ok (.entry loc e))
    (inside : e ≠ .folder) : Fits d loc (.text content) := by
  have leads := (find_eq_ok_iff.1 h).2.2
  refine .text fun old found => ?_
  rw [leads.get?_of_entry inside] at found
  cases found
  exact leads.isFile_of_follow inside

theorem write_eq_ok {d' : Disk} {content : String} (h : d.write path content = .ok d') :
    ∃ loc, Fits d loc (.text content) ∧ d' = d.put loc (.text content) ∧
      find d' path true = .ok (.entry loc (.text content)) := by
  rw [write] at h
  split at h
  · cases bare : find d (String.ofList (path.toList.reverse.dropWhile (· = '/')).reverse) true with
    | error fault => rw [bare] at h; cases h
    | ok place => rw [bare] at h; cases h
  · cases found : find d path true with
    | error fault => rw [found] at h; cases h
    | ok place =>
      rw [found] at h
      cases place with
      | free loc =>
        cases h
        have fits : Fits d loc (.text content) := fits_of_free found
        have written := find_put fits found
        rw [Place.after, if_pos rfl] at written
        exact ⟨loc, fits, rfl, written⟩
      | entry loc e =>
        have inside : e ≠ .folder := by
          rintro rfl
          cases h
        have same : d' = d.put loc (.text content) := by
          cases e with
          | folder => exact absurd rfl inside
          | _ => cases h; rfl
        have fits : Fits d loc (.text content) := fits_of_entry found inside
        have written := find_put fits found
        rw [Place.after_of_ne _ _ _ inside, if_pos rfl] at written
        exact ⟨loc, fits, same, same ▸ written⟩

end SourceMatch.Disk
