import SourceMatch.Json.Printer
import SourceMatch.Json.Reader
import SourceMatch.Proofs.Text.Cut
import SourceMatch.Proofs.Version.Text

/-!
Strings and integers that were written are read again, whatever is written behind them.
-/
namespace SourceMatch.Json.Reader

variable {cs rest : List Char} {c : Char} {fuel : Nat}

theorem hexValue?_hexDigit : ∀ n < 16, hexValue? (hexDigit n) = some n := by decide

theorem readUnicode_control (control : c.toNat < 32) :
    readUnicode ('0' :: '0' :: hexDigit (c.toNat / 16) :: hexDigit c.toNat :: rest) =
      .ok (c, rest) := by
  have zero : hexValue? '0' = some 0 := rfl
  have high := hexValue?_hexDigit (c.toNat / 16) (by omega)
  have low : hexValue? (hexDigit c.toNat) = some (c.toNat % 16) := by
    rw [← hexValue?_hexDigit (c.toNat % 16) (by omega), hexDigit, hexDigit, Nat.mod_mod]
  have unit : readUnit ('0' :: '0' :: hexDigit (c.toNat / 16) :: hexDigit c.toNat :: rest) =
      .ok (c.toNat, rest) := by
    simp only [readUnit, zero, high, low]
    congr 2
    omega
  have upper : ¬(0xDC00 ≤ c.toNat ∧ c.toNat ≤ 0xDFFF) := by omega
  have single : c.toNat < 0xD800 ∨ 0xDBFF < c.toNat := by omega
  rw [readUnicode, unit]
  simp only [bind, Except.bind, if_neg upper, if_pos single, Char.ofNat_toNat]
  rfl

theorem keepString_plain (quote : c ≠ '"') (backslash : c ≠ '\\') (printed : ¬ c.toNat < 32) :
    keepString (fuel + 1) (c :: cs) =
      (keepString fuel cs).map fun read => (c :: read.1, read.2) := by
  rw [keepString, if_neg printed]
  · cases keepString fuel cs <;> rfl
  · exact quote
  · exact fun same => absurd same backslash
  · exact fun _ same => absurd same backslash
  · exact fun _ _ same => absurd same backslash

theorem keepString_simple {e : Char} (letter : e ≠ 'u') (escape : simpleEscape? e = some c) :
    keepString (fuel + 1) ('\\' :: e :: cs) =
      (keepString fuel cs).map fun read => (c :: read.1, read.2) := by
  rw [keepString, escape]
  · cases keepString fuel cs <;> rfl
  · exact letter

theorem keepString_control (control : c.toNat < 32) :
    keepString (fuel + 1)
        ('\\' :: 'u' :: '0' :: '0' :: hexDigit (c.toNat / 16) :: hexDigit c.toNat :: cs) =
      (keepString fuel cs).map fun read => (c :: read.1, read.2) := by
  rw [keepString, readUnicode_control control]
  dsimp only [bind, Except.bind]
  cases keepString fuel cs <;> rfl

theorem keepString_escapeChar (c : Char) (cs : List Char) (fuel : Nat) :
    keepString (fuel + 1) (escapeChar c ++ cs) =
      (keepString fuel cs).map fun read => (c :: read.1, read.2) := by
  by_cases escaped : c ∈ ['"', '\\', '\n', '\r', '\t', '\x08', '\x0c']
  · simp only [List.mem_cons, List.not_mem_nil, or_false] at escaped
    rcases escaped with rfl | rfl | rfl | rfl | rfl | rfl | rfl <;>
      exact keepString_simple (by decide) rfl
  simp only [List.mem_cons, List.not_mem_nil, or_false, not_or] at escaped
  obtain ⟨quote, backslash, newline, carriage, tab, back, feed⟩ := escaped
  rw [escapeChar, if_neg quote, if_neg backslash, if_neg newline, if_neg carriage, if_neg tab,
    if_neg back, if_neg feed]
  split
  · rename_i control
    exact keepString_control control
  · rename_i printed
    exact keepString_plain quote backslash printed

theorem keepString_flatMap (s : List Char) (rest : List Char) {fuel : Nat}
    (enough : s.length < fuel) :
    keepString fuel (s.flatMap escapeChar ++ '"' :: rest) = .ok (s, rest) := by
  induction s generalizing fuel with
  | nil =>
    obtain ⟨fuel, rfl⟩ := Nat.exists_eq_succ_of_ne_zero (Nat.ne_of_gt enough)
    rfl
  | cons c s ih =>
    obtain ⟨fuel, rfl⟩ := Nat.exists_eq_succ_of_ne_zero (Nat.ne_zero_of_lt enough)
    rw [List.flatMap_cons, List.append_assoc, keepString_escapeChar, ih (by simpa using enough)]
    rfl

theorem length_le_flatMap_escapeChar (s : List Char) :
    s.length ≤ (s.flatMap escapeChar).length := by
  have nonempty (c : Char) : 0 < (escapeChar c).length := by
    rw [escapeChar]
    split_ifs <;> simp
  induction s with
  | nil => exact Nat.le_refl 0
  | cons c s ih =>
    have := nonempty c
    rw [List.flatMap_cons, List.length_append, List.length_cons]
    omega

theorem readString_quoted (s : String) (rest : List Char) :
    readString (s.toList.flatMap escapeChar ++ '"' :: rest) = (.string s, some rest) := by
  have enough := length_le_flatMap_escapeChar s.toList
  rw [readString, keepString_flatMap s.toList rest (by simp only [List.length_append]; omega)]
  simp

def continuesNumber (c : Char) : Bool := c.isDigit || c = '.' || c = 'e' || c = 'E'

theorem le_ofDigitChars (cs : List Char) (n : Nat) : n ≤ Nat.ofDigitChars 10 cs n := by
  rw [Nat.ofDigitChars_eq_ofDigitChars_zero]
  have := Nat.le_mul_of_pos_left n (Nat.pow_pos (n := cs.length) (show 0 < 10 by decide))
  omega

theorem wholeDigits_of_pushDigit? {n next : Nat} (pushed : pushDigit? n c = some next) :
    wholeDigits n (c :: cs) = wholeDigits next cs := by
  dsimp only [wholeDigits]
  rw [pushed]

theorem wholeDigits_eq {n : Nat} (fits : Nat.ofDigitChars 10 cs n < UInt64.size) :
    wholeDigits n cs = (Nat.ofDigitChars 10 cs n, 0) := by
  induction cs generalizing n with
  | nil => rfl
  | cons c cs ih =>
    rw [Nat.ofDigitChars_cons, Nat.mul_comm] at fits ⊢
    have room : n * 10 + (c.toNat - '0'.toNat) < UInt64.size :=
      Nat.lt_of_le_of_lt (le_ofDigitChars cs _) fits
    rw [wholeDigits_of_pushDigit? (if_pos room), ih fits]

theorem readTail_of_stops (negative : Bool) (whole : List Char)
    (stop : Text.Stops continuesNumber rest) :
    readTail negative whole rest = .ok (⟨negative, whole, none, none⟩, rest) := by
  cases rest with
  | nil => rfl
  | cons c rest =>
    have other := Text.stops_cons.1 stop
    simp only [continuesNumber, Bool.or_eq_false_iff, decide_eq_false_iff_not] at other
    obtain ⟨⟨⟨-, point⟩, small⟩, large⟩ := other
    rw [readTail]
    · dsimp only [bind, Except.bind, pure, Except.pure]
      split
      · rename_i same
        exact absurd (List.cons.inj same).1 small
      · rename_i same
        exact absurd (List.cons.inj same).1 large
      · rfl
    · exact fun _ same => absurd (List.cons.inj same).1 point

def signed (negative : Bool) (n : Nat) : List Char :=
  (if negative then ['-'] else []) ++ Nat.toDigits 10 n

theorem readNumberText_signed (negative : Bool) (n : Nat)
    (stop : Text.Stops continuesNumber rest) :
    readNumberText (signed negative n ++ rest) =
      .ok (⟨negative, Nat.toDigits 10 n, none, none⟩, rest) := by
  have numeral := Version.isNumeral_toDigits n
  have noDigit : Text.Stops Char.isDigit rest := stop.imp fun c other => by
    simp only [continuesNumber, Bool.or_eq_false_iff] at other
    exact other.1.1.1
  have tail := readTail_of_stops negative (Nat.toDigits 10 n) stop
  have span := Text.span_append numeral.digits noDigit
  obtain ⟨nonempty, digits, leading⟩ := numeral
  rw [signed]
  generalize Nat.toDigits 10 n = ds at *
  cases negative
  case false =>
    obtain ⟨d, ds, rfl⟩ := List.exists_cons_of_ne_nil nonempty
    have unsigned : d ≠ '-' := by
      rintro rfl
      cases digits '-' List.mem_cons_self
    rw [if_neg Bool.false_ne_true, List.nil_append, List.cons_append, readNumberText]
    case x_1 => exact fun _ same => unsigned (List.cons.inj same).1
    rw [← List.cons_append, span]
    split <;> rename_i same <;> cases same
    · exact tail
    · exact absurd ⟨by simp, rfl⟩ leading
    · exact tail
  case true =>
    rw [if_pos rfl, List.singleton_append, List.cons_append, readNumberText, span]
    split <;> rename_i same <;> cases same
    · exact absurd rfl nonempty
    · exact tail
    · exact absurd ⟨by simp, rfl⟩ leading
    · exact tail

theorem toList_toString_int (i : Int) :
    (toString i).toList = signed (decide (i < 0)) i.natAbs := by
  have text : toString i = if 0 ≤ i then i.toNat.repr else "-" ++ (-i).toNat.repr :=
    Int.repr_eq_if
  rw [text, signed]
  by_cases negative : i < 0
  · rw [if_neg (by omega), if_pos (by simpa using negative), String.toList_append,
      Nat.toList_repr, show (-i).toNat = i.natAbs by omega]
    rfl
  · rw [if_pos (by omega), if_neg (by simpa using negative), Nat.toList_repr,
      show i.toNat = i.natAbs by omega]
    rfl

def IsInt64 (i : Int) : Prop := -(UInt64.size / 2 : Nat) ≤ i ∧ i < UInt64.size

theorem value?_signed {i : Int} (bounds : IsInt64 i) :
    NumberText.value? ⟨decide (i < 0), Nat.toDigits 10 i.natAbs, none, none⟩ = some (.int i) := by
  obtain ⟨low, high⟩ := bounds
  have size : UInt64.size = 18446744073709551616 := rfl
  rw [size] at low high
  have read := Nat.ofDigitChars_ten_toDigits (n := i.natAbs)
  have whole : wholeDigits 0 (Nat.toDigits 10 i.natAbs) = (i.natAbs, 0) := by
    have fits : Nat.ofDigitChars 10 (Nat.toDigits 10 i.natAbs) 0 < UInt64.size := by
      rw [read, size]
      omega
    rw [wholeDigits_eq fits, read]
  simp only [NumberText.value?, whole, size]
  by_cases negative : i < 0
  · have bounds : True ∧ 0 < i.natAbs ∧ i.natAbs ≤ 18446744073709551616 / 2 :=
      ⟨trivial, by omega, by omega⟩
    rw [if_neg (by simp [negative]), if_pos bounds, show -(i.natAbs : Int) = i by omega]
  · rw [if_pos (by simp [negative]), show (i.natAbs : Int) = i by omega]

theorem readNumber_toString {i : Int} (bounds : IsInt64 i)
    (stop : Text.Stops continuesNumber rest) :
    readNumber ((toString i).toList ++ rest) = (.number (.int i), some rest) := by
  rw [readNumber, toList_toString_int, readNumberText_signed _ _ stop]
  dsimp only
  rw [value?_signed bounds]

end SourceMatch.Json.Reader
