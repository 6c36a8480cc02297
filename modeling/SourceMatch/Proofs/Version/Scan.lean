import SourceMatch.Proofs.Version.Lexeme
import Mathlib.Data.List.TakeWhile

/-!
A set can be read the other way round: comparators are looked for from left to right, wherever they
may stand, and what lies between them is judged afterwards. Nothing is passed over that way, since
the slices between what is found follow each other, and the answer is the same.
-/
namespace SourceMatch.Version.Range

open Text

structure Found where
  start : Nat
  stop : Nat
  token : Token

def find (place : Nat) : Nat → List Char → List Found
  | _, [] => []
  | skip + 1, _ :: cs => find (place + 1) skip cs
  | 0, c :: cs =>
    match token? (c :: cs) with
    | some (t, rest) =>
      ⟨place, place + 1 + (cs.length - rest.length), t⟩ ::
        find (place + 1) (cs.length - rest.length) cs
    | none => find (place + 1) 0 cs

def slice? (text : List Char) (start stop : Nat) : Option (List Char) :=
  if start ≤ stop ∧ stop ≤ text.length then some ((text.take stop).drop start) else none

/-- The tokens found behind a place up to which the text is consumed, if only gaps lie between them
and only blanks behind them. There is no answer at all where a slice cannot be taken. -/
def collect? (text : List Char) (consumed : Nat) : List Found → Option (Option (List Token))
  | [] => do
    let after ← slice? text consumed text.length
    return if after.all isBlank then some [] else none
  | f :: fs => do
    let gap ← slice? text consumed f.start
    if gap.all isGap then return (← collect? text f.stop fs).map (f.token :: ·)
    else return none

def scan (text : List Char) : Option (Option (List Token)) :=
  (collect? text 0 (find 0 0 text)).map (·.filter (!·.isEmpty))

variable {place skip consumed : Nat} {front cs rest : List Char} {t : Token}

theorem find_skip (front : List Char) (place : Nat) (cs : List Char) :
    find place front.length (front ++ cs) = find (place + front.length) 0 cs := by
  induction front generalizing place with
  | nil => rfl
  | cons c front ih =>
    rw [List.length_cons, List.cons_append, find, ih]
    congr 1
    omega

theorem token?_shorter (h : token? cs = some (t, rest)) : rest.length < cs.length := by
  obtain ⟨l, -, rfl⟩ := token?_eq_some h
  have := List.length_pos_iff.2 l.toChars_ne_nil
  rw [List.length_append]
  omega

theorem find_bounds {f : Found} (h : f ∈ find place skip cs) :
    place + skip ≤ f.start ∧ f.start < f.stop ∧ f.stop ≤ place + cs.length := by
  induction cs generalizing place skip with
  | nil => cases h
  | cons c cs ih =>
    rw [List.length_cons]
    cases skip with
    | succ skip =>
      have := ih h
      omega
    | zero =>
      rw [find] at h
      split at h
      · rename_i read
        have shorter := token?_shorter read
        rw [List.length_cons] at shorter
        rcases List.mem_cons.1 h with rfl | later
        · dsimp only
          omega
        · have := ih later
          omega
      · have := ih h
        omega

theorem find_pairwise (place skip : Nat) (cs : List Char) :
    (find place skip cs).Pairwise fun f g => f.stop ≤ g.start := by
  induction cs generalizing place skip with
  | nil => exact List.Pairwise.nil
  | cons c cs ih =>
    cases skip with
    | succ skip => exact ih (place + 1) skip
    | zero =>
      rw [find]
      split
      · exact List.pairwise_cons.2 ⟨fun g later => (find_bounds later).1, ih _ _⟩
      · exact ih _ _

theorem slice?_append {start n : Nat} (before : start ≤ front.length) (inside : n ≤ rest.length) :
    slice? (front ++ rest) start (front.length + n) = some (front.drop start ++ rest.take n) := by
  rw [slice?, if_pos ⟨by omega, by rw [List.length_append]; omega⟩,
    List.take_length_add_append, List.drop_append_of_le_length before]

theorem collect?_nil (before : consumed ≤ front.length) :
    collect? (front ++ rest) consumed [] =
      some (if (front.drop consumed ++ rest).all isBlank then some [] else none) := by
  rw [collect?, List.length_append, slice?_append before (Nat.le_refl _), List.take_length]
  rfl

theorem collect?_cons {n : Nat} {f : Found} (fs : List Found) (before : consumed ≤ front.length)
    (inside : n ≤ rest.length) (place : f.start = front.length + n) :
    collect? (front ++ rest) consumed (f :: fs) =
      if (front.drop consumed ++ rest.take n).all isGap then
        (collect? (front ++ rest) f.stop fs).map (·.map (f.token :: ·))
      else some none := by
  rw [collect?, place, slice?_append before inside]
  dsimp only [Option.bind_eq_bind, Option.bind_some]
  split
  · cases collect? (front ++ rest) f.stop fs <;> rfl
  · rfl

theorem isGap_of_isBlank {c : Char} (h : isBlank c = true) : isGap c = true := by
  rw [isGap, h, Bool.true_or]

theorem dropWhile_isGap_of_blank (h : cs.all isBlank = true) : cs.dropWhile isGap = [] :=
  List.dropWhile_eq_nil_iff.2 fun c hc => isGap_of_isBlank (List.all_eq_true.1 h c hc)

theorem isOperatorChar_of_isGap (c : Char) (gap : isGap c = true) : isOperatorChar c = false := by
  cases sign : isOperatorChar c with
  | false => rfl
  | true =>
    rw [isGap_of_isOperatorChar c sign] at gap
    cases gap

theorem token?_dropWhile {p : Token × List Char} (h : token? cs = some p) :
    token? (cs.dropWhile isGap) = some p := by
  cases cs with
  | nil => exact h
  | cons c cs =>
    cases gap : isGap c with
    | false => rwa [dropWhile_of_stops (stops_cons.2 gap)]
    | true =>
      rw [token?, operator?_of_stops (stops_cons.2 (isOperatorChar_of_isGap c gap))] at h
      dsimp only at h
      -- without a sign the blanks are followed by the version, so that no comma is among them
      have starts {kind : Char → Bool} (other : ∀ c, isNumeral c = true → kind c = false)
          (letter : kind 'v' = false) : Stops kind (trimLeft (c :: cs)) := by
        obtain ⟨⟨version, behind⟩, read, -⟩ := Option.bind_eq_some_iff.1 h
        obtain ⟨mark, v, -, split⟩ := versionText?_marked read
        rw [split]
        cases mark with
        | true => exact stops_cons.2 letter
        | false =>
          change Stops kind (v.toChars ++ behind)
          exact stops_append v.toChars_ne_nil (v.stops_toChars other)
      have trimmed : (c :: cs).dropWhile isGap = trimLeft (c :: cs) := by
        have split : c :: cs = (c :: cs).takeWhile isBlank ++ trimLeft (c :: cs) :=
          List.takeWhile_append_dropWhile.symm
        conv_lhs => rw [split]
        refine dropWhile_append (fun d hd => isGap_of_isBlank ?_) (starts isGap_of_isNumeral rfl)
        exact List.all_eq_true.1 List.all_takeWhile d hd
      have again : trimLeft (trimLeft (c :: cs)) = trimLeft (c :: cs) :=
        dropWhile_of_stops (starts (fun c numeral =>
          isBlank_of_not_isGap c (isGap_of_isNumeral c numeral)) rfl)
      rw [trimmed, token?, operator?_of_stops (starts isOperatorChar_of_isNumeral rfl)]
      dsimp only
      rwa [again]

theorem collect?_other {c : Char} {fs : List Found} (other : isGap c = false)
    (before : consumed ≤ front.length)
    (bounds : ∀ f ∈ fs, front.length < f.start ∧ f.start ≤ (front ++ c :: cs).length) :
    collect? (front ++ c :: cs) consumed fs = some none := by
  cases fs with
  | nil =>
    have dirty : (front.drop consumed ++ c :: cs).all isBlank = false := by
      rw [List.all_append, List.all_cons, isBlank_of_not_isGap c other, Bool.false_and,
        Bool.and_false]
    rw [collect?_nil before, dirty]
    rfl
  | cons f fs =>
    obtain ⟨behind, below⟩ := bounds f List.mem_cons_self
    rw [List.length_append] at below
    obtain ⟨n, place⟩ : ∃ n, f.start = front.length + (n + 1) :=
      ⟨f.start - front.length - 1, by omega⟩
    have dirty : (front.drop consumed ++ (c :: cs).take (n + 1)).all isGap = false := by
      rw [List.all_append, List.take_succ_cons, List.all_cons, other, Bool.false_and,
        Bool.and_false]
    rw [collect?_cons fs before (by omega) place, dirty]
    rfl

theorem all_isGap_concat {c : Char} (before : consumed ≤ front.length)
    (gap : (front.drop consumed).all isGap = true) (first : isGap c = true) :
    ((front ++ [c]).drop consumed).all isGap = true := by
  rw [List.drop_append_of_le_length before, List.all_append, gap, List.all_cons, first]
  rfl

theorem collect?_find_some (before : consumed ≤ front.length)
    (gap : (front.drop consumed).all isGap = true)
    (h : token? (cs.dropWhile isGap) = some (t, rest)) :
    ∃ front', front ++ cs = front' ++ rest ∧
      collect? (front ++ cs) consumed (find front.length 0 cs) =
        (collect? (front ++ cs) front'.length (find front'.length 0 rest)).map
          (·.map (t :: ·)) := by
  induction cs generalizing front with
  | nil => exact absurd (token?_shorter h) (Nat.not_lt_zero _)
  | cons c cs ih =>
    cases read : token? (c :: cs) with
    | some p =>
      obtain rfl : p = (t, rest) := Option.some.inj ((token?_dropWhile read).symm.trans h)
      obtain ⟨l, -, split⟩ := token?_eq_some read
      cases text : l.toChars with
      | nil => exact absurd text l.toChars_ne_nil
      | cons d taken =>
        rw [text, List.cons_append] at split
        obtain ⟨rfl, rfl⟩ := List.cons.inj split
        have size : (taken ++ rest).length - rest.length = taken.length := by simp
        refine ⟨front ++ c :: taken, by simp, ?_⟩
        rw [find, read]
        dsimp only
        rw [size, find_skip, collect?_cons _ before (Nat.zero_le _) rfl, List.take_zero,
          List.append_nil, if_pos gap]
        simp [Nat.add_assoc, Nat.add_comm 1]
    | none =>
      cases first : isGap c with
      | false =>
        rw [dropWhile_of_stops (stops_cons.2 first), read] at h
        cases h
      | true =>
        rw [List.dropWhile_cons, if_pos first] at h
        have later := ih (Nat.le_trans before (by simp)) (all_isGap_concat before gap first) h
        rw [find, read]
        simpa using later

theorem collect?_find_none (before : consumed ≤ front.length)
    (gap : (front.drop consumed).all isGap = true)
    (h : token? (cs.dropWhile isGap) = none) :
    collect? (front ++ cs) consumed (find front.length 0 cs) =
      some (if (front.drop consumed ++ cs).all isBlank then some [] else none) := by
  induction cs generalizing front with
  | nil => exact collect?_nil before
  | cons c cs ih =>
    cases read : token? (c :: cs) with
    | some p =>
      rw [token?_dropWhile read] at h
      cases h
    | none =>
      rw [find, read]
      cases first : isGap c with
      | false =>
        have dirty : (front.drop consumed ++ c :: cs).all isBlank = false := by
          rw [List.all_append, List.all_cons, isBlank_of_not_isGap c first, Bool.false_and,
            Bool.and_false]
        rw [dirty]
        -- what is found next, if anything is, stands behind `c`
        refine collect?_other first before fun f found => ?_
        have := find_bounds found
        rw [List.length_append, List.length_cons]
        omega
      | true =>
        rw [List.dropWhile_cons, if_pos first] at h
        have later := ih (Nat.le_trans before (by simp)) (all_isGap_concat before gap first) h
        rw [List.drop_append_of_le_length before] at later
        simpa using later

theorem collect?_find {fuel : Nat} (front : List Char) (enough : cs.length < fuel) :
    collect? (front ++ cs) front.length (find front.length 0 cs) =
      some (if cs.all isBlank then some [] else tokens? fuel cs) := by
  induction fuel generalizing front cs with
  | zero => exact absurd enough (Nat.not_lt_zero _)
  | succ fuel ih =>
    have gap : (front.drop front.length).all isGap = true := by simp
    rw [tokens?]
    cases read : token? (cs.dropWhile isGap) with
    | none =>
      rw [collect?_find_none (Nat.le_refl _) gap read, List.drop_length, List.nil_append]
      rfl
    | some p =>
      obtain ⟨t, rest⟩ := p
      have solid : cs.all isBlank = false := by
        cases blank : cs.all isBlank with
        | false => rfl
        | true =>
          rw [dropWhile_isGap_of_blank blank] at read
          cases read
      have shorter : rest.length < cs.length :=
        Nat.lt_of_lt_of_le (token?_shorter read) (List.dropWhile_sublist isGap).length_le
      obtain ⟨front', split, step⟩ := collect?_find_some (Nat.le_refl _) gap read
      rw [step, split, ih front' (by omega), solid]
      dsimp only [Option.bind_eq_bind, Option.bind_some]
      cases rest.all isBlank with
      | true => rfl
      | false => cases tokens? fuel rest <;> rfl

/-- The scan gives an answer for every text, so all its slices can be taken, and the answer is that
of the reading from comparator to comparator. -/
theorem scan_eq (text : List Char) : scan text = some (tokens? (text.length + 1) text) := by
  have whole := collect?_find [] (Nat.lt_succ_self text.length)
  rw [List.nil_append, List.length_nil] at whole
  rw [scan, whole, Option.map_some]
  split
  · rename_i blank
    rw [tokens?, dropWhile_isGap_of_blank blank]
    rfl
  · cases read : tokens? (text.length + 1) text with
    | none => rfl
    | some ts =>
      obtain ⟨s, rfl, -⟩ := tokens?_eq_some read
      simp [Option.filter, s.lexemes_ne_nil]

end SourceMatch.Version.Range
