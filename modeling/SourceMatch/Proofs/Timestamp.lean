import Mathlib.Algebra.Group.Nat.Defs
import SourceMatch.Proofs.Json.Reading
import SourceMatch.Proofs.Text.Cut
import SourceMatch.Proofs.Version.Text
import SourceMatch.Timestamp

/-!
Points in time that are written are read again. Years run from March to February here, so that the
day which only leap years have is the last one of its year; an era is four hundred of them.
-/
namespace SourceMatch.Timestamp

def yearStart (year : Nat) : Nat := 365 * year + year / 4 - year / 100 + year / 400

def yearOfDay (n : Nat) : Nat := (n - n / 1460 + n / 36524 - n / 146096) / 365

theorem yearOfDay_mono {m n : Nat} (le : m ≤ n) (bound : n < 146097) :
    yearOfDay m ≤ yearOfDay n := by
  rw [yearOfDay, yearOfDay]
  exact Nat.div_le_div_right (by omega)

theorem yearOfDay_ends :
    ∀ y < 400, yearOfDay (yearStart y) = y ∧ yearOfDay (yearStart (y + 1) - 1) = y := by
  decide +kernel

theorem yearStart_le {y : Nat} (h : y ≤ 400) : yearStart y ≤ 146097 := by
  rw [yearStart]
  omega

theorem day_of_year {n : Nat} (bound : n < 146097) :
    yearOfDay n < 400 ∧ yearStart (yearOfDay n) ≤ n ∧ n < yearStart (yearOfDay n + 1) := by
  have small : yearOfDay n ≤ 399 := yearOfDay_mono (show n ≤ 146096 by omega) (by decide)
  refine ⟨by omega, ?_, ?_⟩
  · by_contra early
    -- then the day is at most the last one of the year before
    obtain ⟨y, next⟩ := Nat.exists_eq_add_one_of_ne_zero (n := yearOfDay n) fun zero =>
      early (by rw [zero]; exact Nat.zero_le n)
    have start := yearStart_le (y := y + 1) (by omega)
    rw [next] at early
    have before := yearOfDay_mono (show n ≤ yearStart (y + 1) - 1 by omega) (by omega)
    have := (yearOfDay_ends y (by omega)).2
    omega
  · by_contra late
    have inside : yearOfDay n + 1 < 400 := by
      by_contra last
      have : yearOfDay n + 1 = 400 := by omega
      rw [this] at late
      have : yearStart 400 = 146097 := by decide
      omega
    have after := yearOfDay_mono (show yearStart (yearOfDay n + 1) ≤ n by omega) bound
    have := (yearOfDay_ends _ inside).1
    omega

theorem length_of_year : ∀ y < 400, yearStart (y + 1) ≤ yearStart y + 366 ∧
    (yearStart (y + 1) = yearStart y + 366 →
      (y + 1) % 4 = 0 ∧ ((y + 1) % 100 ≠ 0 ∨ (y + 1) % 400 = 0)) := by
  decide +kernel

def monthOfDay (inYear : Nat) : Nat := (5 * inYear + 2) / 153

def monthName (month : Nat) : Nat := (month + 2) % 12 + 1

theorem months : ∀ i < 366,
    monthName (monthOfDay i) ≤ 12 ∧ (monthName (monthOfDay i) + 9) % 12 = monthOfDay i ∧
      daysBeforeMonth (monthOfDay i) ≤ i ∧
      i - daysBeforeMonth (monthOfDay i) + 1 ≤
        daysInMonth (if i = 365 then 4 else 1) (monthName (monthOfDay i)) := by
  decide +kernel

theorem daysInMonth_le {year year' : Int} (month : Nat)
    (h : isLeapYear year = true → isLeapYear year' = true) :
    daysInMonth year month ≤ daysInMonth year' month := by
  rw [daysInMonth, daysInMonth]
  split
  · cases leap : isLeapYear year with
    | true => exact Nat.le_of_eq (by rw [h leap])
    | false => cases isLeapYear year' <;> decide
  · exact Nat.le_refl _

theorem daysInMonth_le_31 (year : Int) (month : Nat) : daysInMonth year month ≤ 31 := by
  rw [daysInMonth]
  split_ifs <;> decide

structure IsDate (year : Int) (month day : Nat) : Prop where
  month_pos : 1 ≤ month
  month_le : month ≤ 12
  day_pos : 1 ≤ day
  day_le : day ≤ daysInMonth year month

def dateIn (era : Int) (y i : Nat) : Int × Nat × Nat :=
  (era * 400 + y + if monthName (monthOfDay i) ≤ 2 then 1 else 0, monthName (monthOfDay i),
    i - daysBeforeMonth (monthOfDay i) + 1)

theorem civil_eq (number : Int) :
    civil number =
      let n := (number - number.fdiv 146097 * 146097).toNat
      let y := yearOfDay n
      dateIn (number.fdiv 146097) y (n - (365 * y + y / 4 - y / 100)) := rfl

theorem dayNumber_dateIn (era : Int) {y i : Nat} (small : y < 400) (bound : i < 366) :
    dayNumber (dateIn era y i).1 (dateIn era y i).2.1 (dateIn era y i).2.2 =
      era * 146097 + yearStart y + i := by
  obtain ⟨-, inverse, before, -⟩ := months i bound
  have year : (if (dateIn era y i).2.1 ≤ 2 then (dateIn era y i).1 - 1 else (dateIn era y i).1) =
      era * 400 + y := by
    rw [dateIn]
    dsimp only
    split <;> omega
  have day : ((dateIn era y i).2.2 : Int) = i - daysBeforeMonth (monthOfDay i) + 1 := by
    rw [dateIn]
    dsimp only
    omega
  have quarters : (era * 400 + y).fdiv 4 = era * 100 + (y / 4 : Nat) := by
    rw [Int.fdiv_eq_ediv_of_nonneg _ (by decide)]
    omega
  have centuries : (era * 400 + y).fdiv 100 = era * 4 + (y / 100 : Nat) := by
    rw [Int.fdiv_eq_ediv_of_nonneg _ (by decide)]
    omega
  have eras : (era * 400 + y).fdiv 400 = era := by
    rw [Int.fdiv_eq_ediv_of_nonneg _ (by decide)]
    omega
  simp only [dayNumber, year, day, quarters, centuries, eras]
  rw [show (dateIn era y i).2.1 = monthName (monthOfDay i) from rfl, inverse, yearStart]
  omega

theorem isDate_dateIn (era : Int) {y i : Nat} (small : y < 400)
    (inside : yearStart y + i < yearStart (y + 1)) :
    IsDate (dateIn era y i).1 (dateIn era y i).2.1 (dateIn era y i).2.2 := by
  obtain ⟨length, long⟩ := length_of_year y small
  obtain ⟨month_le, -, -, days⟩ := months i (by omega)
  refine ⟨Nat.succ_pos _, month_le, Nat.succ_pos _, ?_⟩
  refine Nat.le_trans days (daysInMonth_le _ fun leap => ?_)
  have last : i = 365 := by
    by_contra earlier
    rw [if_neg earlier] at leap
    cases leap
  subst last
  obtain ⟨four, century⟩ := long (by omega)
  have year : (dateIn era y 365).1 = era * 400 + y + 1 := rfl
  rw [year, isLeapYear]
  simp only [Bool.and_eq_true, Bool.or_eq_true, decide_eq_true_eq]
  omega

theorem civil_spec (number : Int) :
    IsDate (civil number).1 (civil number).2.1 (civil number).2.2 ∧
      dayNumber (civil number).1 (civil number).2.1 (civil number).2.2 = number := by
  have era_nonneg : 0 ≤ number - number.fdiv 146097 * 146097 := by
    rw [Int.fdiv_eq_ediv_of_nonneg _ (by decide)]
    omega
  have era_lt : number - number.fdiv 146097 * 146097 < 146097 := by
    rw [Int.fdiv_eq_ediv_of_nonneg _ (by decide)]
    omega
  obtain ⟨n, n_eq⟩ := Int.eq_ofNat_of_zero_le era_nonneg
  obtain ⟨small, first, last⟩ := day_of_year (n := n) (by omega)
  rw [civil_eq, n_eq]
  simp only [Int.toNat_natCast]
  generalize yearOfDay n = y at *
  have start : 365 * y + y / 4 - y / 100 = yearStart y := by
    rw [yearStart]
    omega
  obtain ⟨length, -⟩ := length_of_year y small
  rw [start]
  refine ⟨isDate_dateIn _ small (by omega), ?_⟩
  rw [dayNumber_dateIn _ small (by omega)]
  omega

def year (t : Timestamp) : Int := (civil t.day).1

theorem isInRange_of_year {t : Timestamp} (low : 0 ≤ t.year) (high : t.year ≤ 9999) :
    isInRange t.day = true := by
  obtain ⟨⟨month_pos, month_le, day_pos, day_le⟩, number⟩ := civil_spec t.day
  have first : dayNumber (-262143) 1 1 = -95745824 := by decide
  have last : dayNumber 262142 12 31 = 95745704 := by decide
  rw [isInRange, first, last]
  have days := daysInMonth_le_31 (civil t.day).1 (civil t.day).2.1
  rw [year] at low high
  rw [dayNumber, Int.fdiv_eq_ediv_of_nonneg _ (by decide),
    Int.fdiv_eq_ediv_of_nonneg _ (by decide), Int.fdiv_eq_ediv_of_nonneg _ (by decide),
    daysBeforeMonth] at number
  simp only [Bool.and_eq_true, decide_eq_true_eq]
  split at number <;> omega

section

variable {width n : Nat} {rest : List Char}

theorem isDigit_of_mem_padded {c : Char} (h : c ∈ padded width n) : c.isDigit = true := by
  rw [padded] at h
  rcases List.mem_append.1 h with zero | digit
  · rw [List.eq_of_mem_replicate zero]
    rfl
  · exact (Version.isNumeral_toDigits n).digits c digit

theorem padded_ne_nil (width n : Nat) : padded width n ≠ [] :=
  List.append_ne_nil_of_right_ne_nil _ (Version.isNumeral_toDigits n).ne_nil

theorem length_padded (pos : 0 < width) (fits : n < 10 ^ width) :
    (padded width n).length = width := by
  have := (Nat.length_toDigits_le_iff (b := 10) (by decide) pos).2 fits
  rw [padded]
  simp only [List.length_append, List.length_replicate]
  omega

theorem ofDigitChars_padded (width n : Nat) : Nat.ofDigitChars 10 (padded width n) 0 = n := by
  rw [padded, Nat.ofDigitChars_append, Nat.ofDigitChars_replicate_zero, Nat.mul_zero,
    Nat.ofDigitChars_ten_toDigits]

theorem digits?_append {front : List Char} (nonempty : front ≠ [])
    (digits : ∀ c ∈ front, c.isDigit = true) (room : front.length ≤ width)
    (stop : front.length = width ∨ Text.Stops Char.isDigit rest) :
    digits? width (front ++ rest) = some (Nat.ofDigitChars 10 front 0, rest) := by
  have behind : (rest.take (width - front.length)).takeWhile Char.isDigit = [] := by
    rcases stop with full | stop
    · rw [full, Nat.sub_self]
      rfl
    · cases width - front.length with
      | zero => rfl
      | succ k =>
        refine Text.takeWhile_of_stops ?_
        cases rest with
        | nil => exact Text.stops_nil _
        | cons c rest => exact stop
  have taken : ((front ++ rest).take width).takeWhile Char.isDigit = front := by
    rw [List.take_append, List.take_of_length_le room, List.takeWhile_append_of_pos digits, behind,
      List.append_nil]
  rw [digits?, taken, Version.foldl_digits, List.drop_left]
  simp [nonempty]

theorem digits?_padded {w : Nat} (pos : 0 < w) (fits : n < 10 ^ w) (room : w ≤ width)
    (stop : w = width ∨ Text.Stops Char.isDigit rest) :
    digits? width (padded w n ++ rest) = some (n, rest) := by
  have length := length_padded pos fits
  rw [digits?_append (padded_ne_nil w n) (fun _ => isDigit_of_mem_padded) (by omega)
    (by rwa [length]), ofDigitChars_padded]

theorem trimLeft_padded (width n : Nat) (rest : List Char) :
    Text.trimLeft (padded width n ++ rest) = padded width n ++ rest := by
  obtain ⟨c, cs, split⟩ := List.exists_cons_of_ne_nil (padded_ne_nil width n)
  have first : c ∈ padded width n := split ▸ List.mem_cons_self
  have digit := isDigit_of_mem_padded first
  rw [split]
  exact Text.dropWhile_of_stops (Text.stops_cons.2 (Text.isBlank_of_isDigit _ digit))

theorem field?_padded (fits : n < 100) (rest : List Char) :
    field? 2 (padded 2 n ++ rest) = some (n, rest) := by
  rw [field?, trimLeft_padded]
  exact digits?_padded (by decide) fits (Nat.le_refl 2) (.inl rfl)

theorem year?_padded (fits : n < 10000) (rest : List Char) :
    year? (padded 4 n ++ rest) = some ((n : Int), rest) := by
  have read : digits? 4 (padded 4 n ++ rest) = some (n, rest) :=
    digits?_padded (by decide) fits (Nat.le_refl 4) (.inl rfl)
  obtain ⟨c, cs, split⟩ := List.exists_cons_of_ne_nil (padded_ne_nil 4 n)
  have first : c ∈ padded 4 n := split ▸ List.mem_cons_self
  have digit := isDigit_of_mem_padded first
  rw [year?, trimLeft_padded]
  rw [split, List.cons_append] at read ⊢
  split
  · rename_i same
    cases same
    cases digit
  · rename_i same
    cases same
    cases digit
  · rw [read]
    rfl

theorem mark?_cons {mark : Char} (ink : Text.isBlank mark = false) (rest : List Char) :
    mark? mark (mark :: rest) = some rest := by
  rw [mark?, Text.trimLeft, Text.dropWhile_of_stops (Text.stops_cons.2 ink)]
  exact if_pos rfl

theorem fraction?_fractionText (fits : n < 1000000000) :
    fraction? (fractionText n ++ ['Z']) = some (n, ['Z']) := by
  have read {w k : Nat} (pos : 0 < w) (small : k < 10 ^ w) (room : w ≤ 9) :
      fraction? ('.' :: (padded w k ++ ['Z'])) = some (k * 10 ^ (9 - w), ['Z']) := by
    have digits : digits? 9 (padded w k ++ ['Z']) = some (k, ['Z']) :=
      digits?_padded pos small room (.inr (Text.stops_cons.2 rfl))
    have taken : (padded w k ++ ['Z']).length - ['Z'].length = w := by
      rw [List.length_append, length_padded pos small]
      exact Nat.add_sub_cancel ..
    rw [fraction?, digits]
    simp only [Option.bind_eq_bind, Option.bind_some, taken]
    rfl
  rw [fractionText]
  split
  · rename_i zero
    rw [zero]
    rfl
  split
  · rename_i thousand
    exact (read (by decide) (by omega) (by decide)).trans (by congr; omega)
  split
  · rename_i thousand
    exact (read (by decide) (by omega) (by decide)).trans (by congr; omega)
  · exact (read (by decide) fits (by decide)).trans (by congr; omega)

end

/-- A second of the day, and parts of it: more than a whole second of them only in the last second
of a minute, which a leap second is added to. -/
structure IsPoint (t : Timestamp) : Prop where
  second_lt : t.second < 86400
  nanosecond_lt : t.nanosecond < 1000000000 ∨ t.second % 60 = 59 ∧ t.nanosecond < 2000000000

theorem toList_toText {t : Timestamp} {y : Nat} (year : t.year = y) (small : y ≤ 9999) :
    t.toText.toList =
      padded 4 y ++ '-' :: (padded 2 (civil t.day).2.1 ++ '-' :: (padded 2 (civil t.day).2.2 ++
        'T' :: (padded 2 (t.second / 3600) ++ ':' :: (padded 2 (t.second / 60 % 60) ++ ':' ::
          (padded 2 (t.second % 60 + if 1000000000 ≤ t.nanosecond then 1 else 0) ++
            (fractionText (t.nanosecond % 1000000000) ++ ['Z'])))))) := by
  have year : (civil t.day).1 = y := year
  have four : (0 : Int) ≤ y ∧ (y : Int) ≤ 9999 := by omega
  rw [toText, String.toList_ofList, year, yearText, if_pos four, Int.toNat_natCast]
  simp

theorem ofLocal?_zero {day : Int} {second : Nat} (range : isInRange day = true)
    (second_lt : second < 86400) (nanosecond : Nat) :
    ofLocal? day second nanosecond 0 = some ⟨day, second, nanosecond⟩ := by
  have days : ((second : Int) - 0).fdiv 86400 = 0 := by
    rw [Int.fdiv_eq_ediv_of_nonneg _ (by decide)]
    omega
  have rest : ((second : Int) - 0).fmod 86400 = second := by
    rw [Int.fmod_eq_emod_of_nonneg _ (by decide)]
    omega
  rw [ofLocal?, days, rest, Int.add_zero, range]
  rfl

theorem parse?_toText {t : Timestamp} (point : t.IsPoint) (low : 0 ≤ t.year)
    (high : t.year ≤ 9999) : parse? t.toText = some t := by
  obtain ⟨y, year⟩ := Int.eq_ofNat_of_zero_le low
  have small : y ≤ 9999 := by omega
  obtain ⟨⟨month_pos, month_le, day_pos, day_le⟩, number⟩ := civil_spec t.day
  have days := daysInMonth_le_31 (civil t.day).1 (civil t.day).2.1
  have range := isInRange_of_year low high
  obtain ⟨second_lt, nanosecond_lt⟩ := point
  rw [parse?, toList_toText year small]
  have ink : Text.isBlank '-' = false ∧ Text.isBlank ':' = false := by decide
  have shown : t.second % 60 + (if 1000000000 ≤ t.nanosecond then 1 else 0) < 100 := by
    split <;> omega
  have day_lt : (civil t.day).2.2 < 100 := by omega
  have fraction : t.nanosecond % 1000000000 < 1000000000 := Nat.mod_lt _ (by decide)
  have year' : (civil t.day).1 = y := year
  rw [year'] at day_le number
  have date : ¬((civil t.day).2.1 < 1 ∨ 12 < (civil t.day).2.1 ∨ (civil t.day).2.2 < 1 ∨
      daysInMonth y (civil t.day).2.1 < (civil t.day).2.2) := by omega
  have clock : ¬(23 < t.second / 3600 ∨ 59 < t.second / 60 % 60 ∨
      60 < t.second % 60 + if 1000000000 ≤ t.nanosecond then 1 else 0) := by
    split <;> omega
  refine Option.bind_eq_some_iff.2 ⟨_, year?_padded (by omega) _, ?_⟩
  refine Option.bind_eq_some_iff.2 ⟨_, mark?_cons ink.1 _, ?_⟩
  refine Option.bind_eq_some_iff.2 ⟨_, field?_padded (by omega) _, ?_⟩
  refine Option.bind_eq_some_iff.2 ⟨_, mark?_cons ink.1 _, ?_⟩
  refine Option.bind_eq_some_iff.2 ⟨_, field?_padded day_lt _, ?_⟩
  refine Option.bind_eq_some_iff.2 ⟨_, rfl, ?_⟩
  refine Option.bind_eq_some_iff.2 ⟨_, field?_padded (by omega) _, ?_⟩
  refine Option.bind_eq_some_iff.2 ⟨_, mark?_cons ink.2 _, ?_⟩
  refine Option.bind_eq_some_iff.2 ⟨_, field?_padded (by omega) _, ?_⟩
  refine Option.bind_eq_some_iff.2 ⟨_, mark?_cons ink.2 _, ?_⟩
  refine Option.bind_eq_some_iff.2 ⟨_, field?_padded shown _, ?_⟩
  refine Option.bind_eq_some_iff.2 ⟨_, fraction?_fractionText fraction, ?_⟩
  refine Option.bind_eq_some_iff.2 ⟨(0, []), rfl, ?_⟩
  dsimp only
  rw [if_neg (by decide), if_neg date, if_neg clock, number]
  by_cases leap : 1000000000 ≤ t.nanosecond
  · -- the second that is shown is one too many
    have last : t.second % 60 + 1 = 60 := by omega
    have second : t.second / 3600 * 3600 + t.second / 60 % 60 * 60 + 59 = t.second := by omega
    have parts : t.nanosecond % 1000000000 + 1000000000 = t.nanosecond := by omega
    rw [if_pos leap, if_pos last]
    dsimp only
    rw [second, parts, ofLocal?_zero range second_lt]
  · have inside : t.second % 60 + 0 ≠ 60 := by omega
    have second : t.second / 3600 * 3600 + t.second / 60 % 60 * 60 + (t.second % 60 + 0) =
        t.second := by omega
    rw [if_neg leap, if_neg inside]
    dsimp only
    rw [second, Nat.mod_eq_of_lt (by omega), ofLocal?_zero range second_lt]

theorem ofDigitChars_lt {ds : List Char} (digits : ∀ c ∈ ds, c.isDigit = true) :
    Nat.ofDigitChars 10 ds 0 < 10 ^ ds.length := by
  induction ds using List.reverseRecOn with
  | nil => exact Nat.one_pos
  | append_singleton ds c ih =>
    have bounds : 48 ≤ c.toNat ∧ c.toNat ≤ 57 := by
      simpa [Char.isDigit, UInt32.le_iff_toNat_le] using digits c (by simp)
    have front := ih fun c listed => digits c (List.mem_append_left _ listed)
    have last : Nat.ofDigitChars 10 [c] (Nat.ofDigitChars 10 ds 0) =
        10 * Nat.ofDigitChars 10 ds 0 + (c.toNat - 48) := rfl
    rw [Nat.ofDigitChars_append, last, List.length_append, List.length_singleton, Nat.pow_succ]
    omega

theorem digits?_eq_some {width n : Nat} {cs rest : List Char}
    (h : digits? width cs = some (n, rest)) :
    ∃ front, cs = front ++ rest ∧ front.length ≤ width ∧ n < 10 ^ front.length := by
  rw [digits?] at h
  generalize taken : (cs.take width).takeWhile Char.isDigit = front at h
  have begins : front <+: cs.take width := taken ▸ List.takeWhile_prefix _
  have digits : ∀ c ∈ front, c.isDigit = true := fun c listed =>
    List.all_eq_true.1 List.all_takeWhile c (taken ▸ listed)
  split at h
  · cases h
  · cases h
    refine ⟨front, ?_, Nat.le_trans begins.length_le (List.length_take_le ..), ?_⟩
    · exact (List.prefix_iff_eq_append.1 (begins.trans (List.take_prefix ..))).symm
    · rw [Version.foldl_digits]
      exact ofDigitChars_lt digits

theorem fraction?_lt {cs rest : List Char} {n : Nat} (h : fraction? cs = some (n, rest)) :
    n < 1000000000 := by
  rw [fraction?.eq_def] at h
  split at h
  · obtain ⟨⟨k, after⟩, read, h⟩ := Option.bind_eq_some_iff.1 h
    obtain ⟨front, rfl, room, bound⟩ := digits?_eq_some read
    cases h
    have taken : (front ++ after).length - after.length = front.length := by simp
    rw [taken]
    calc k * 10 ^ (9 - front.length)
        < 10 ^ front.length * 10 ^ (9 - front.length) :=
          Nat.mul_lt_mul_of_pos_right bound (Nat.pow_pos (by decide))
      _ = 10 ^ 9 := by rw [← Nat.pow_add, Nat.add_sub_cancel' room]
  · cases h
    decide

theorem offset?_dvd {cs rest : List Char} {offset : Int} (h : offset? cs = some (offset, rest)) :
    60 ∣ offset := by
  have minutes {cs rest : List Char} {n : Int} (h : offset?.seconds? cs = some (n, rest)) :
      60 ∣ n := by
    obtain ⟨⟨hours, cs'⟩, -, h⟩ := Option.bind_eq_some_iff.1 h
    obtain ⟨⟨minutes, cs'⟩, -, h⟩ := Option.bind_eq_some_iff.1 h
    cases h
    omega
  have negated {cs rest : List Char} {n : Int} {f : Int × List Char → Int × List Char}
      (f_eq : ∀ p, (f p).1 = -p.1) (h : (offset?.seconds? cs).map f = some (n, rest)) :
      60 ∣ n := by
    obtain ⟨p, read, h⟩ := Option.map_eq_some_iff.1 h
    have n_eq : n = -p.1 := by rw [← f_eq, h]
    exact n_eq ▸ Int.dvd_neg.2 (minutes read)
  rw [offset?.eq_def] at h
  split at h
  · cases h
    exact Int.dvd_zero _
  · split at h
    · cases h
      exact Int.dvd_zero _
    · cases h
      exact Int.dvd_zero _
    · exact minutes h
    · exact negated (fun _ => rfl) h
    · exact negated (fun _ => rfl) h
    · cases h

theorem isPoint_of_ofLocal? {t : Timestamp} {day offset : Int} {second nanosecond : Nat}
    (whole : 60 ∣ offset)
    (parts : nanosecond < 1000000000 ∨ second % 60 = 59 ∧ nanosecond < 2000000000)
    (h : ofLocal? day second nanosecond offset = some t) : t.IsPoint := by
  rw [ofLocal?] at h
  split at h
  · cases h
    rw [Int.fmod_eq_emod_of_nonneg _ (by decide)]
    refine ⟨?_, parts.imp_right fun ⟨last, bound⟩ => ⟨?_, bound⟩⟩
    · dsimp only
      omega
    · dsimp only
      omega
  · cases h

theorem isPoint_of_parse? {text : String} {t : Timestamp} (h : parse? text = some t) :
    t.IsPoint := by
  rw [parse?] at h
  obtain ⟨⟨year, cs⟩, -, h⟩ := Option.bind_eq_some_iff.1 h
  obtain ⟨cs, -, h⟩ := Option.bind_eq_some_iff.1 h
  obtain ⟨⟨month, cs⟩, -, h⟩ := Option.bind_eq_some_iff.1 h
  obtain ⟨cs, -, h⟩ := Option.bind_eq_some_iff.1 h
  obtain ⟨⟨day, cs⟩, -, h⟩ := Option.bind_eq_some_iff.1 h
  dsimp only at h
  split at h
  case h_4 => cases h
  all_goals
    -- whichever mark stands between the date and the clock
    obtain ⟨cs, -, h⟩ := Option.bind_eq_some_iff.1 h
    obtain ⟨⟨hour, cs⟩, -, h⟩ := Option.bind_eq_some_iff.1 h
    obtain ⟨cs, -, h⟩ := Option.bind_eq_some_iff.1 h
    obtain ⟨⟨minute, cs⟩, -, h⟩ := Option.bind_eq_some_iff.1 h
    obtain ⟨cs, -, h⟩ := Option.bind_eq_some_iff.1 h
    obtain ⟨⟨second, cs⟩, -, h⟩ := Option.bind_eq_some_iff.1 h
    obtain ⟨⟨nanosecond, cs⟩, parts, h⟩ := Option.bind_eq_some_iff.1 h
    obtain ⟨⟨offset, cs⟩, whole, h⟩ := Option.bind_eq_some_iff.1 h
    have parts := fraction?_lt parts
    dsimp only at h
    split at h
    · cases h
    split at h
    · cases h
    split at h
    · cases h
    split at h
    · exact isPoint_of_ofLocal? (offset?_dvd whole) (.inr ⟨by omega, by omega⟩) h
    · exact isPoint_of_ofLocal? (offset?_dvd whole) (.inl parts) h

theorem reads_toText {t : Timestamp} (point : t.IsPoint) (low : 0 ≤ t.year)
    (high : t.year ≤ 9999) : decoder.Reads (.string t.toText) t := by
  intro o
  have read : Json.Decoder.string o (.ofJson (.string t.toText)) = .ok t.toText := rfl
  rw [decoder, read]
  simp only [bind, Except.bind, parse?_toText point low high]
  rfl

theorem isPoint_of_decoder {o : Json.Origin} {doc : Json.Document} {t : Timestamp}
    (h : decoder o doc = .ok t) : t.IsPoint := by
  obtain ⟨text, -, h⟩ := Json.bind_eq_ok.1 h
  cases read : parse? text with
  | none => rw [read] at h; cases h
  | some t' =>
    rw [read] at h
    cases h
    exact isPoint_of_parse? read

end SourceMatch.Timestamp
