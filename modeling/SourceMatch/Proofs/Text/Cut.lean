import SourceMatch.Text.Blank
import SourceMatch.Text.Scan
import Mathlib.Data.List.TakeDrop

/-!
Cutting a text that was put together: a run of characters of one kind ends where the first other
character stands, trimming takes the blanks that were put around a text, and splitting gives the
pieces that were joined.
-/
namespace SourceMatch.Text

variable {kind : Char → Bool} {front rest : List Char}

theorem isBlank_of_isDigit (c : Char) (digit : c.isDigit = true) : isBlank c = false := by
  have bounds : 48 ≤ c.toNat ∧ c.toNat ≤ 57 := by
    simpa [Char.isDigit, UInt32.le_iff_toNat_le] using digit
  simp [isBlank]
  omega

def Stops (kind : Char → Bool) (cs : List Char) : Prop := ∀ c ∈ cs.head?, kind c = false

theorem stops_nil (kind : Char → Bool) : Stops kind [] := by
  intro c hc
  cases hc

theorem stops_cons {c : Char} {cs : List Char} : Stops kind (c :: cs) ↔ kind c = false := by
  simp [Stops]

theorem Stops.imp {kind' : Char → Bool} (h : Stops kind rest)
    (weaker : ∀ c, kind c = false → kind' c = false) : Stops kind' rest :=
  fun c hc => weaker c (h c hc)

theorem stops_append {cs : List Char} (nonempty : front ≠ []) (h : Stops kind front) :
    Stops kind (front ++ cs) := by
  cases front with
  | nil => exact absurd rfl nonempty
  | cons c front => exact h

theorem Stops.all_eq_false (nonempty : rest ≠ []) (h : Stops kind rest) :
    rest.all kind = false := by
  cases rest with
  | nil => exact absurd rfl nonempty
  | cons c rest => simp [stops_cons.1 h]

theorem takeWhile_of_stops (h : Stops kind rest) : rest.takeWhile kind = [] := by
  cases rest with
  | nil => rfl
  | cons c rest => simp [stops_cons.1 h]

theorem dropWhile_of_stops (h : Stops kind rest) : rest.dropWhile kind = rest := by
  cases rest with
  | nil => rfl
  | cons c rest => simp [stops_cons.1 h]

theorem dropWhile_append (all : ∀ c ∈ front, kind c = true) (stop : Stops kind rest) :
    (front ++ rest).dropWhile kind = rest := by
  rw [List.dropWhile_append_of_pos all, dropWhile_of_stops stop]

theorem span_append (all : ∀ c ∈ front, kind c = true) (stop : Stops kind rest) :
    (front ++ rest).span kind = (front, rest) := by
  rw [List.span_eq_takeWhile_dropWhile, dropWhile_append all stop,
    List.takeWhile_append_of_pos all, takeWhile_of_stops stop, List.append_nil]

theorem span_eq_iff {cs : List Char} : cs.span kind = (front, rest) ↔
    cs = front ++ rest ∧ (∀ c ∈ front, kind c = true) ∧ Stops kind rest := by
  constructor
  · intro run
    rw [List.span_eq_takeWhile_dropWhile, Prod.mk.injEq] at run
    obtain ⟨rfl, rfl⟩ := run
    refine ⟨List.takeWhile_append_dropWhile.symm, List.all_eq_true.1 List.all_takeWhile, ?_⟩
    intro c first
    have := List.head?_dropWhile_not kind cs
    rwa [Option.mem_def.1 first] at this
  · rintro ⟨rfl, all, stop⟩
    exact span_append all stop

theorem append_inj_of_stops {front' rest' : List Char} (all : ∀ c ∈ front, kind c = true)
    (stop : Stops kind rest) (all' : ∀ c ∈ front', kind c = true) (stop' : Stops kind rest')
    (same : front ++ rest = front' ++ rest') : front = front' ∧ rest = rest' := by
  have run := span_append all stop
  rw [same, span_append all' stop', Prod.mk.injEq] at run
  exact ⟨run.1.symm, run.2.symm⟩

theorem trim_blanks_append {blanks : List Char} (cs : List Char)
    (blank : ∀ c ∈ blanks, isBlank c = true) : trim (blanks ++ cs) = trim cs := by
  rw [trim, trimLeft, List.dropWhile_append_of_pos blank]
  rfl

theorem trim_append {before core after : List Char} (left : ∀ c ∈ before, isBlank c = true)
    (right : ∀ c ∈ after, isBlank c = true) (starts : Stops isBlank core)
    (ends : Stops isBlank core.reverse) (nonempty : core ≠ []) :
    trim (before ++ core ++ after) = core := by
  have first : trimLeft (before ++ (core ++ after)) = core ++ after :=
    dropWhile_append left (stops_append nonempty starts)
  have last : (after.reverse ++ core.reverse).dropWhile isBlank = core.reverse :=
    dropWhile_append (fun c hc => right c (List.mem_reverse.1 hc)) ends
  rw [trim, List.append_assoc, first, trimRight, List.reverse_append, last, List.reverse_reverse]

theorem splitAtChar_of_not_mem {sep : Char} {piece : List Char} (h : sep ∉ piece) :
    splitAtChar sep piece = [piece] := by
  induction piece with
  | nil => rfl
  | cons c piece ih =>
    have other : c ≠ sep := fun eq => h (eq ▸ List.mem_cons_self)
    have tail := ih fun mem => h (List.mem_cons_of_mem c mem)
    simp [splitAtChar, other, tail]

theorem splitAtChar_ne_nil (sep : Char) (cs : List Char) : splitAtChar sep cs ≠ [] := by
  cases cs with
  | nil => exact List.cons_ne_nil _ _
  | cons c cs =>
    rw [splitAtChar]
    split
    · exact List.cons_ne_nil _ _
    · split <;> exact List.cons_ne_nil _ _

theorem splitAtChar_append_sep (sep : Char) (before after : List Char) :
    splitAtChar sep (before ++ sep :: after) = splitAtChar sep before ++ splitAtChar sep after := by
  induction before with
  | nil => simp [splitAtChar]
  | cons c before ih =>
    rw [List.cons_append, splitAtChar, splitAtChar, ih]
    split
    · rfl
    · cases pieces : splitAtChar sep before with
      | nil => exact absurd pieces (splitAtChar_ne_nil sep before)
      | cons piece pieces => rfl

theorem splitAtChar_append {sep : Char} {piece : List Char} (rest : List Char) (h : sep ∉ piece) :
    splitAtChar sep (piece ++ sep :: rest) = piece :: splitAtChar sep rest := by
  rw [splitAtChar_append_sep, splitAtChar_of_not_mem h]
  rfl

theorem exists_splitAtChar_cons {sep c : Char} (other : c ≠ sep) (cs : List Char) :
    ∃ piece pieces, splitAtChar sep cs = piece :: pieces ∧
      splitAtChar sep (c :: cs) = (c :: piece) :: pieces := by
  cases rest : splitAtChar sep cs with
  | nil => exact absurd rest (splitAtChar_ne_nil sep cs)
  | cons piece pieces => exact ⟨piece, pieces, rfl, by rw [splitAtChar, if_neg other, rest]⟩

theorem not_mem_of_mem_splitAtChar {sep : Char} {cs piece : List Char}
    (h : piece ∈ splitAtChar sep cs) : sep ∉ piece := by
  induction cs generalizing piece with
  | nil =>
    rw [splitAtChar, List.mem_singleton] at h
    rw [h]
    exact List.not_mem_nil
  | cons c cs ih =>
    by_cases same : c = sep
    · rw [splitAtChar, if_pos same] at h
      rcases List.mem_cons.1 h with rfl | later
      · exact List.not_mem_nil
      · exact ih later
    · obtain ⟨first, pieces, rest, whole⟩ := exists_splitAtChar_cons same cs
      rw [rest] at ih
      rw [whole] at h
      rcases List.mem_cons.1 h with rfl | later
      · rw [List.mem_cons, not_or]
        exact ⟨Ne.symm same, ih List.mem_cons_self⟩
      · exact ih (List.mem_cons_of_mem first later)

theorem mem_iff_of_splitAtChar {sep c : Char} (other : c ≠ sep) (cs : List Char) :
    c ∈ cs ↔ ∃ piece ∈ splitAtChar sep cs, c ∈ piece := by
  induction cs with
  | nil => simp [splitAtChar]
  | cons c' cs ih =>
    by_cases same : c' = sep
    · rw [splitAtChar, if_pos same, List.mem_cons, ih]
      simp [same, other]
    · obtain ⟨first, pieces, rest, whole⟩ := exists_splitAtChar_cons same cs
      rw [rest] at ih
      rw [whole, List.mem_cons, ih]
      simp [or_assoc]

theorem getLast?_splitAtChar {sep : Char} {cs : List Char} (nonempty : cs ≠ [])
    (last : cs.getLast? ≠ some sep) : (splitAtChar sep cs).getLast? ≠ some [] := by
  induction cs with
  | nil => exact absurd rfl nonempty
  | cons c cs ih =>
    by_cases single : cs = []
    · subst single
      have other : c ≠ sep := by simpa using last
      simp [splitAtChar, other]
    · rw [List.getLast?_cons_of_ne_nil single] at last
      have tail := ih single last
      rw [splitAtChar]
      split
      · rwa [List.getLast?_cons_of_ne_nil (splitAtChar_ne_nil sep cs)]
      · cases pieces : splitAtChar sep cs with
        | nil => exact absurd pieces (splitAtChar_ne_nil sep cs)
        | cons piece pieces' =>
          rw [pieces] at tail
          cases pieces' with
          | nil => simp
          | cons piece' pieces' => simpa using tail

theorem splitAtDouble_of_not_mem {sep : Char} {piece : List Char} (h : sep ∉ piece) :
    splitAtDouble sep piece = [piece] := by
  induction piece with
  | nil => rfl
  | cons c piece ih =>
    have other : c ≠ sep := fun eq => h (eq ▸ List.mem_cons_self)
    have tail := ih fun mem => h (List.mem_cons_of_mem c mem)
    cases piece with
    | nil => rfl
    | cons d piece => simp [splitAtDouble, other, tail]

theorem splitAtDouble_append {sep : Char} {piece : List Char} (rest : List Char) (h : sep ∉ piece) :
    splitAtDouble sep (piece ++ sep :: sep :: rest) = piece :: splitAtDouble sep rest := by
  induction piece with
  | nil => simp [splitAtDouble]
  | cons c piece ih =>
    have other : c ≠ sep := fun eq => h (eq ▸ List.mem_cons_self)
    have tail := ih fun mem => h (List.mem_cons_of_mem c mem)
    cases piece with
    | nil => simp [splitAtDouble, other]
    | cons d piece =>
      rw [List.cons_append] at tail
      simp [splitAtDouble, other, tail]

end SourceMatch.Text
