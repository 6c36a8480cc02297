import Mathlib.Data.List.DropRight
import SourceMatch.Path
import SourceMatch.Proofs.Text.Cut

/-!
Paths piece by piece. A path is its pieces with slashes between them; those that are not silent say
which way it goes. The last of them is its file name, and the folder above it goes the same way up
to there.
-/
namespace SourceMatch.Path

variable {path folder : String} {piece name : List Char} {ps front more names : List (List Char)}

theorem ne_nil_of_heard (heard : isSilent name = false) : name ≠ [] := by
  rintro rfl
  cases heard

def spoken (ps : List (List Char)) : List (List Char) := ps.filter (!isSilent ·)

@[simp]
theorem spoken_nil : spoken [] = [] := rfl

theorem spoken_append (ps qs : List (List Char)) : spoken (ps ++ qs) = spoken ps ++ spoken qs :=
  List.filter_append ..

theorem spoken_cons_silent (silent : isSilent piece = true) : spoken (piece :: ps) = spoken ps :=
  List.filter_cons_of_neg (by simp [silent])

theorem spoken_cons (heard : isSilent piece = false) : spoken (piece :: ps) = piece :: spoken ps :=
  List.filter_cons_of_pos (by simp [heard])

theorem spoken_eq_self (heard : ∀ piece ∈ ps, isSilent piece = false) : spoken ps = ps :=
  List.filter_eq_self.2 fun piece listed => by rw [heard piece listed]; rfl

theorem filter_filter_eq_spoken (ps : List (List Char)) :
    (ps.filter (· ≠ [])).filter (· ≠ ['.']) = spoken ps := by
  rw [List.filter_filter, spoken]
  refine List.filter_congr fun piece _ => ?_
  by_cases empty : piece = [] <;> by_cases dot : piece = ['.'] <;> simp [isSilent, empty, dot]

theorem spoken_rdropWhile (ps : List (List Char)) :
    spoken (ps.rdropWhile isSilent) = spoken ps := by
  induction ps using List.reverseRecOn with
  | nil => rfl
  | append_singleton ps piece ih =>
    rw [List.rdropWhile_concat]
    split
    · rename_i silent
      rw [ih, spoken_append, spoken_cons_silent silent, spoken_nil, List.append_nil]
    · rfl

theorem pieces_ne_nil (path : String) : pieces path ≠ [] := Text.splitAtChar_ne_nil _ _

theorem slash_not_mem (listed : piece ∈ pieces path) : '/' ∉ piece :=
  Text.not_mem_of_mem_splitAtChar listed

theorem pieces_of_not_mem (h : '/' ∉ path.toList) : pieces path = [path.toList] :=
  Text.splitAtChar_of_not_mem h

theorem slash_mem_iff (whole : pieces path = front ++ [name]) :
    '/' ∈ path.toList ↔ front ≠ [] := by
  constructor
  · rintro slash rfl
    obtain ⟨before, after, split⟩ := List.append_of_mem slash
    rw [pieces, split, Text.splitAtChar_append_sep] at whole
    have length := congrArg List.length whole
    have one := List.length_pos_iff.2 (Text.splitAtChar_ne_nil '/' before)
    have other := List.length_pos_iff.2 (Text.splitAtChar_ne_nil '/' after)
    rw [List.length_append] at length
    simp only [List.nil_append, List.length_singleton] at length
    omega
  · intro before
    by_contra slash
    rw [pieces_of_not_mem slash] at whole
    obtain ⟨piece, ps, rfl⟩ := List.exists_cons_of_ne_nil before
    simp at whole

theorem head?_eq_slash_iff (whole : pieces path = piece :: ps) :
    path.toList.head? = some '/' ↔ piece = [] ∧ ps ≠ [] := by
  rw [pieces] at whole
  cases text : path.toList with
  | nil =>
    rw [text] at whole
    cases whole
    simp
  | cons c cs =>
    rw [text] at whole
    by_cases slash : c = '/'
    · rw [Text.splitAtChar, if_pos slash] at whole
      cases whole
      simp [slash, Text.splitAtChar_ne_nil]
    · obtain ⟨first, pieces, -, split⟩ := Text.exists_splitAtChar_cons slash cs
      rw [split] at whole
      cases whole
      simp [slash]

theorem splitAtChar_joinPieces (nonempty : ps ≠ []) (inside : ∀ piece ∈ ps, '/' ∉ piece) :
    Text.splitAtChar '/' (joinPieces ps) = ps := by
  induction ps with
  | nil => exact absurd rfl nonempty
  | cons piece ps ih =>
    have first := inside piece List.mem_cons_self
    cases ps with
    | nil => exact Text.splitAtChar_of_not_mem first
    | cons piece' ps =>
      have text : joinPieces (piece :: piece' :: ps) = piece ++ '/' :: joinPieces (piece' :: ps) :=
        rfl
      rw [text, Text.splitAtChar_append _ first,
        ih (List.cons_ne_nil _ _) fun p listed => inside p (List.mem_cons_of_mem _ listed)]

theorem components_of_pieces (whole : pieces path = piece :: ps) (heard : isSilent piece = false) :
    components path = (spoken (pieces path)).map .ofPiece := by
  have nonempty : piece ≠ [] := ne_nil_of_heard heard
  have other : piece ≠ ['.'] := by
    rintro rfl
    cases heard
  have front : head path = [.ofPiece piece] := by
    rw [head, whole]
    split
    · rename_i none
      cases none
    · rename_i empty
      cases empty
      exact absurd rfl nonempty
    · rename_i empty
      cases empty
      exact absurd rfl nonempty
    · rename_i dot
      cases dot
      exact absurd rfl other
    · rename_i listed
      cases listed
      rfl
  rw [components, front, whole, spoken_cons heard]
  rfl

theorem fileName?_of_pieces (whole : pieces path = front ++ [name]) (heard : isSilent name = false)
    (other : name ≠ ['.', '.']) : fileName? path = some name := by
  have last : (components path).getLast? = some (.normal name) := by
    cases front with
    | nil =>
      rw [components_of_pieces whole heard, whole, List.nil_append, spoken_cons heard]
      simp [Component.ofPiece, other]
    | cons piece front =>
      have tail : components path =
          head path ++ ((spoken front).map .ofPiece ++ [.ofPiece name]) := by
        rw [components, whole]
        change head path ++ (spoken (front ++ [name])).map .ofPiece = _
        rw [spoken_append, spoken_cons heard, List.map_append]
        rfl
      rw [tail, ← List.append_assoc, List.getLast?_concat, Component.ofPiece, if_neg other]
  rw [fileName?, last]

theorem toList_join (named : folder ≠ "") (slash : folder.toList.getLast? ≠ some '/') :
    (join folder (String.ofList name)).toList = folder.toList ++ '/' :: name := by
  rw [join, if_neg named, if_neg slash]
  simp

theorem pieces_join_of_last (named : folder ≠ "") (slash : folder.toList.getLast? ≠ some '/')
    (inside : '/' ∉ name) :
    pieces (join folder (String.ofList name)) = pieces folder ++ [name] := by
  rw [pieces, toList_join named slash, Text.splitAtChar_append_sep,
    Text.splitAtChar_of_not_mem inside, pieces]

theorem pieces_join (named : folder ≠ "") (inside : '/' ∉ name) :
    ∃ front, pieces (join folder (String.ofList name)) = front ++ [name] ∧ front ≠ [] ∧
      spoken front = spoken (pieces folder) := by
  by_cases slash : folder.toList.getLast? = some '/'
  · obtain ⟨before, split⟩ := List.getLast?_eq_some_iff.1 slash
    refine ⟨Text.splitAtChar '/' before, ?_, Text.splitAtChar_ne_nil _ _, ?_⟩
    · rw [join, if_neg named, if_pos slash, pieces, String.toList_append, String.toList_ofList,
        split, List.append_assoc, List.singleton_append, Text.splitAtChar_append_sep,
        Text.splitAtChar_of_not_mem inside]
    · rw [pieces, split, Text.splitAtChar_append_sep, spoken_append]
      exact (List.append_nil _).symm
  · exact ⟨pieces folder, pieces_join_of_last named slash inside, pieces_ne_nil folder, rfl⟩

theorem head?_join (named : folder ≠ "") :
    (join folder (String.ofList name)).toList.head? = folder.toList.head? := by
  obtain ⟨c, cs, split⟩ := List.exists_cons_of_ne_nil (l := folder.toList) (by simpa using named)
  rw [join, if_neg named]
  split <;> simp [split]

theorem mem_join_iff {c : Char} (named : folder ≠ "") (other : c ≠ '/') :
    c ∈ (join folder (String.ofList name)).toList ↔ c ∈ folder.toList ∨ c ∈ name := by
  rw [join, if_neg named]
  split <;> simp [other]

def under (path : String) (names : List (List Char)) : String :=
  names.foldl (fun path name => join path (String.ofList name)) path

@[simp]
theorem under_nil (path : String) : under path [] = path := rfl

theorem under_concat (path : String) (names : List (List Char)) (name : List Char) :
    under path (names ++ [name]) = join (under path names) (String.ofList name) := by
  rw [under, List.foldl_append]
  rfl

theorem join_ne_empty (nonempty : name ≠ []) : join folder (String.ofList name) ≠ "" := by
  rw [join]
  split
  · simpa using nonempty
  · split <;> simp [*]

theorem pieces_under (nonempty : names ≠ []) (filled : ∀ name ∈ names, name ≠ [])
    (inside : ∀ name ∈ names, '/' ∉ name) : pieces (under "" names) = names := by
  induction names using List.reverseRecOn with
  | nil => exact absurd rfl nonempty
  | append_singleton names name ih =>
    have here : '/' ∉ name := inside name (by simp)
    rw [under_concat]
    by_cases first : names = []
    · subst first
      rw [under_nil, join, if_pos rfl, pieces, String.toList_ofList,
        Text.splitAtChar_of_not_mem here, List.nil_append]
    · have before := ih first (fun n listed => filled n (by simp [listed]))
        fun n listed => inside n (by simp [listed])
      have named : under "" names ≠ "" := by
        obtain ⟨ns, n, rfl⟩ := (List.eq_nil_or_concat' names).resolve_left first
        rw [under_concat]
        exact join_ne_empty (filled n (by simp))
      have slash : (under "" names).toList.getLast? ≠ some '/' := by
        intro last
        obtain ⟨text, split⟩ := List.getLast?_eq_some_iff.1 last
        rw [pieces, split, Text.splitAtChar_append_sep] at before
        have empty : [] ∈ names := by rw [← before]; simp [Text.splitAtChar]
        exact filled [] (by simp [empty]) rfl
      rw [pieces_join_of_last named slash here, before]

theorem components_under (nonempty : names ≠ []) (heard : ∀ name ∈ names, isSilent name = false)
    (down : ∀ name ∈ names, name ≠ ['.', '.']) (inside : ∀ name ∈ names, '/' ∉ name) :
    components (under "" names) = names.map .normal := by
  have whole := pieces_under nonempty (fun n listed => ne_nil_of_heard (heard n listed)) inside
  obtain ⟨name, rest, rfl⟩ := List.exists_cons_of_ne_nil nonempty
  rw [components_of_pieces whole (heard name List.mem_cons_self), whole, spoken_eq_self heard]
  refine List.map_congr_left fun n listed => ?_
  rw [Component.ofPiece, if_neg (down n listed)]

theorem parent?_of_single (whole : pieces path = [name]) (heard : isSilent name = false) :
    parent? path = some "" := by
  have nonempty : name ≠ [] := ne_nil_of_heard heard
  rw [parent?, whole]
  split
  · rename_i none
    cases none
  · rename_i empty
    cases empty
    exact absurd rfl nonempty
  · rename_i listed
    cases listed
    exact if_neg nonempty

theorem parent?_concat (whole : pieces path = piece :: more ++ [name])
    (heard : isSilent name = false) :
    parent? path =
      match (more.rdropWhile isSilent).reverse with
      | [] => some (if piece = [] then "/" else String.ofList piece)
      | before => some (String.ofList (joinPieces (piece :: before.reverse))) := by
  have nonempty : piece :: (more ++ [name]) ≠ [[]] := by simp
  rw [parent?, whole, List.cons_append]
  split
  · rename_i none
    cases none
  · rename_i single
    exact absurd single nonempty
  · rename_i listed
    obtain ⟨rfl, rfl⟩ := List.cons.inj listed
    have last : (more ++ [name]).reverse.dropWhile isSilent = name :: more.reverse := by
      rw [List.reverse_append, List.reverse_singleton, List.singleton_append,
        List.dropWhile_cons_of_neg (by simp [heard])]
    cases above : more.reverse.dropWhile isSilent with
    | nil => simp only [last, List.rdropWhile, List.reverse_reverse, above]
    | cons _ _ => simp only [last, List.rdropWhile, List.reverse_reverse, above]

theorem parent?_of_pieces (whole : pieces path = piece :: more ++ [name])
    (heard : isSilent name = false) :
    ∃ folder, parent? path = some folder ∧ folder ≠ "" ∧
      (folder.toList.head? = some '/' ↔ path.toList.head? = some '/') ∧
      spoken (pieces folder) = spoken (piece :: more) ∧ pieces folder ⊆ piece :: more := by
  have inside : ∀ p ∈ piece :: more, '/' ∉ p := by
    intro p listed
    have among : p ∈ pieces path := whole ▸ List.mem_append_left _ listed
    exact slash_not_mem among
  have absolute : path.toList.head? = some '/' ↔ piece = [] := by
    rw [head?_eq_slash_iff whole]
    simp
  have said : spoken (piece :: more) = spoken (piece :: more.rdropWhile isSilent) := by
    rw [← List.singleton_append, spoken_append, ← spoken_rdropWhile more, ← spoken_append]
    rfl
  have above_in : more.rdropWhile isSilent ⊆ more := (List.rdropWhile_prefix _ _).subset
  rw [parent?_concat whole heard, absolute, said]
  generalize more.rdropWhile isSilent = ps at above_in
  cases ps using List.reverseRecOn with
  | nil =>
    by_cases slash : piece = []
    · subst slash
      exact ⟨"/", rfl, by decide, by decide, rfl, by simp [pieces, Text.splitAtChar]⟩
    · have whole : pieces (String.ofList piece) = [piece] := by
        rw [pieces_of_not_mem (by simpa using inside piece List.mem_cons_self),
          String.toList_ofList]
      refine ⟨String.ofList piece, by simp [slash], by simpa using slash, ?_, ?_, ?_⟩
      · rw [head?_eq_slash_iff whole]
        simp [slash]
      · rw [whole]
      · rw [whole]
        simp
  | append_singleton ps p =>
    have whole : pieces (String.ofList (joinPieces (piece :: (ps ++ [p])))) =
        piece :: (ps ++ [p]) := by
      rw [pieces, String.toList_ofList, splitAtChar_joinPieces (List.cons_ne_nil _ _)]
      exact fun q listed => inside q (List.cons_subset_cons piece above_in listed)
    refine ⟨String.ofList (joinPieces (piece :: (ps ++ [p]))), ?_, ?_, ?_, ?_, ?_⟩
    · rw [List.reverse_concat]
      simp
    · intro empty
      rw [empty] at whole
      simp [pieces, Text.splitAtChar] at whole
    · rw [head?_eq_slash_iff whole]
      simp
    · rw [whole]
    · rw [whole]
      exact List.cons_subset_cons piece above_in

end SourceMatch.Path
