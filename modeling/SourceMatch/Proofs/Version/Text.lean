import SourceMatch.Proofs.Text.Cut
import SourceMatch.Version.Basic
import Mathlib.Data.List.Induction
import Mathlib.Data.List.TakeDrop

/-!
A version is read from one text only, for what was read spells out the text again: numbers have no
leading zeros, and no part between dots is empty. The other way round, a number that is spelled out
is read again.
-/
namespace SourceMatch.Version

structure IsNumeral (cs : List Char) : Prop where
  ne_nil : cs ≠ []
  digits : ∀ c ∈ cs, c.isDigit = true
  leading : ¬(cs.length > 1 ∧ cs.head? = some '0')

theorem exists_digitChar {c : Char} (h : c.isDigit = true) : ∃ n < 10, c = n.digitChar := by
  have bounds : 48 ≤ c.toNat ∧ c.toNat ≤ 57 := by
    simpa [Char.isDigit, UInt32.le_iff_toNat_le] using h
  refine ⟨c.toNat - 48, by omega, Char.toNat_inj.1 ?_⟩
  rw [Nat.toNat_digitChar_of_lt_ten (by omega)]
  omega

theorem toDigits_ofDigitChars {cs : List Char} (h : IsNumeral cs) :
    Nat.toDigits 10 (Nat.ofDigitChars 10 cs 0) = cs := by
  induction cs using List.reverseRecOn with
  | nil => exact absurd rfl h.ne_nil
  | append_singleton ds d ih =>
    obtain ⟨n, hn, rfl⟩ := exists_digitChar (h.digits d (by simp))
    rw [Nat.ofDigitChars_append, Nat.ofDigitChars_cons_digitChar_of_lt_ten hn,
      Nat.ofDigitChars_nil]
    by_cases empty : ds = []
    · subst empty
      rw [Nat.ofDigitChars_nil, Nat.mul_zero, Nat.zero_add, Nat.toDigits_of_lt_base hn]
      rfl
    · have nonzero : ds.head? ≠ some '0' := by
        intro zero
        refine h.leading ⟨?_, ?_⟩
        · simpa using List.length_pos_iff.2 empty
        · rw [List.head?_append, zero]
          rfl
      have spelled := ih ⟨empty, fun c hc => h.digits c (List.mem_append_left _ hc),
        fun leading => nonzero leading.2⟩
      have pos : 0 < Nat.ofDigitChars 10 ds 0 := by
        rw [Nat.pos_iff_ne_zero]
        intro zero
        rw [zero, Nat.toDigits_zero] at spelled
        exact nonzero (by rw [← spelled]; rfl)
      rw [← Nat.toDigits_append_toDigits (by decide) pos hn, spelled, Nat.toDigits_of_lt_base hn]

theorem foldl_digits (cs : List Char) :
    cs.foldl (fun n c => n * 10 + (c.toNat - '0'.toNat)) 0 = Nat.ofDigitChars 10 cs 0 := by
  rw [Nat.ofDigitChars_eq_foldl]
  simp only [Nat.mul_comm]

theorem number?_eq_some {cs rest : List Char} {n : Nat} (h : number? cs = some (n, rest)) :
    cs = Nat.toDigits 10 n ++ rest := by
  have split := cs.takeWhile_append_dropWhile (p := Char.isDigit)
  rw [number?, List.span_eq_takeWhile_dropWhile] at h
  generalize hd : cs.takeWhile Char.isDigit = digits at h split
  generalize cs.dropWhile Char.isDigit = behind at h split
  cases digits with
  | nil => cases h
  | cons d ds =>
    simp only [foldl_digits] at h
    split at h
    · cases h
    · rename_i leading
      split at h
      · cases h
        have all_digits : ∀ c ∈ d :: ds, c.isDigit = true := fun c hc =>
          List.all_eq_true.1 List.all_takeWhile c (hd ▸ hc)
        rw [toDigits_ofDigitChars ⟨List.cons_ne_nil d ds, all_digits, leading⟩, split]
      · cases h

theorem isNumeral_toDigits (n : Nat) : IsNumeral (Nat.toDigits 10 n) := by
  refine ⟨Nat.toDigits_ne_nil, fun c hc => Nat.isDigit_of_mem_toDigits (by decide) (by decide) hc,
    ?_⟩
  induction n using Nat.strongRecOn with
  | ind n ih =>
    by_cases small : n < 10
    · simp [Nat.toDigits_of_lt_base small]
    · intro ⟨_, zero⟩
      rw [Nat.toDigits_of_base_le (by decide) (by omega), List.head?_append] at zero
      by_cases digit : n / 10 < 10
      · have first : (n / 10).digitChar = '0' := by
          simpa [Nat.toDigits_of_lt_base digit] using zero
        have value := Nat.toNat_digitChar_of_lt_ten digit
        rw [first] at value
        have : '0'.toNat = 48 := rfl
        omega
      · have two := Nat.length_toDigits_pos (b := 10) (n := n / 10 / 10)
        refine ih (n / 10) (by omega) ⟨?_, ?_⟩
        · rw [Nat.toDigits_of_base_le (by decide) (by omega), List.length_append]
          simp [List.length_pos_iff]
        · have nonempty : (Nat.toDigits 10 (n / 10)).head?.isSome := by
            simp [List.isSome_head?]
          obtain ⟨c, hc⟩ := Option.isSome_iff_exists.1 nonempty
          rw [hc] at zero ⊢
          exact zero

theorem number?_toDigits {n : Nat} {rest : List Char} (bound : n < numberBound)
    (stop : Text.Stops Char.isDigit rest) :
    number? (Nat.toDigits 10 n ++ rest) = some (n, rest) := by
  have numeral := isNumeral_toDigits n
  have nonempty := numeral.ne_nil
  have read := Nat.ofDigitChars_ten_toDigits (n := n)
  rw [number?, Text.span_append numeral.digits stop]
  have leading := numeral.leading
  generalize Nat.toDigits 10 n = digits at nonempty leading read
  cases digits with
  | nil => exact absurd rfl nonempty
  | cons d ds => simp only [if_neg leading, foldl_digits, read, if_pos bound]

theorem join_cons (sep : Char) (part : List Char) {parts : List (List Char)} (h : parts ≠ []) :
    join sep (part :: parts) = part ++ sep :: join sep parts := by
  cases parts with
  | nil => exact absurd rfl h
  | cons _ _ => rfl

theorem join_cons_cons (sep c : Char) (part : List Char) (parts : List (List Char)) :
    join sep ((c :: part) :: parts) = c :: join sep (part :: parts) := by
  cases parts <;> rfl

theorem join_splitAtChar (sep : Char) (cs : List Char) :
    join sep (Text.splitAtChar sep cs) = cs := by
  induction cs with
  | nil => rfl
  | cons c cs ih =>
    rw [Text.splitAtChar]
    split
    · rename_i here
      rw [join_cons sep [] (Text.splitAtChar_ne_nil sep cs), ih, here, List.nil_append]
    · split
      · rename_i none
        exact absurd none (Text.splitAtChar_ne_nil sep cs)
      · rename_i piece pieces some
        rw [join_cons_cons, ← some, ih]

theorem dotted?_eq_some {cs rest : List Char} {parts : List (List Char)}
    (h : dotted? cs = some (parts, rest)) :
    cs = join '.' parts ++ rest ∧ parts ≠ [] ∧ [] ∉ parts := by
  have split := cs.takeWhile_append_dropWhile (p := fun c => isIdentifierChar c || c = '.')
  rw [dotted?, List.span_eq_takeWhile_dropWhile] at h
  dsimp only at h
  split at h
  · cases h
  · rename_i nonempty
    cases h
    refine ⟨by rw [join_splitAtChar, split], Text.splitAtChar_ne_nil _ _, fun mem => nonempty ?_⟩
    exact List.any_eq_true.2 ⟨[], mem, rfl⟩

theorem Identifier.ofChars?_eq_some {cs : List Char} {i : Identifier} (nonempty : cs ≠ [])
    (h : Identifier.ofChars? cs = some i) : i.toChars = cs := by
  rw [Identifier.ofChars?] at h
  split at h
  · rename_i digits
    split at h
    · cases h
    · rename_i leading
      cases h
      rw [foldl_digits]
      exact toDigits_ofDigitChars ⟨nonempty, List.all_eq_true.1 digits, leading⟩
  · cases h
    rfl

theorem map_toChars_of_mapM {parts : List (List Char)} {ids : List Identifier}
    (nonempty : [] ∉ parts) (h : parts.mapM Identifier.ofChars? = some ids) :
    ids.map Identifier.toChars = parts := by
  induction parts generalizing ids with
  | nil =>
    cases h
    rfl
  | cons part parts ih =>
    rw [List.mapM_cons] at h
    obtain ⟨i, read, h⟩ := Option.bind_eq_some_iff.1 h
    obtain ⟨rest, read_rest, h⟩ := Option.bind_eq_some_iff.1 h
    cases h
    have first : part ≠ [] := fun empty => nonempty (empty ▸ List.mem_cons_self)
    have others := ih (fun mem => nonempty (List.mem_cons_of_mem part mem)) read_rest
    rw [List.map_cons, Identifier.ofChars?_eq_some first read, others]

def buildChars (build : List (List Char)) : List Char :=
  if build.isEmpty then [] else '+' :: join '.' build

def toChars (v : Version) : List Char :=
  Nat.toDigits 10 v.major ++ '.' :: (Nat.toDigits 10 v.minor ++ '.' :: (Nat.toDigits 10 v.patch ++
    (prereleaseChars v.prerelease ++ buildChars v.build)))

theorem prerelease?_eq_some {cs rest : List Char} {ids : List Identifier}
    (h : prerelease? cs = some (ids, rest)) : cs = prereleaseChars ids ++ rest := by
  unfold prerelease? at h
  split at h
  · obtain ⟨⟨parts, behind⟩, read, h⟩ := Option.bind_eq_some_iff.1 h
    obtain ⟨read_ids, read_parts, h⟩ := Option.bind_eq_some_iff.1 h
    cases h
    obtain ⟨rfl, ne_nil, nonempty⟩ := dotted?_eq_some read
    have spelled := map_toChars_of_mapM nonempty read_parts
    have some_id : ids ≠ [] := by
      rintro rfl
      exact ne_nil spelled.symm
    rw [prereleaseChars, if_neg (by simpa using some_id), spelled]
    rfl
  · cases h
    rfl

theorem build?_eq_some {cs rest : List Char} {build : List (List Char)}
    (h : build? cs = some (build, rest)) : cs = buildChars build ++ rest ∧ build ≠ [[]] := by
  unfold build? at h
  split at h
  · obtain ⟨rfl, ne_nil, nonempty⟩ := dotted?_eq_some h
    refine ⟨?_, fun empty => nonempty (empty ▸ List.mem_singleton_self [])⟩
    rw [buildChars, if_neg (by simpa using ne_nil)]
    rfl
  · cases h
    exact ⟨rfl, by simp⟩

theorem ofChars?_eq_some {cs : List Char} {v : Version} (h : ofChars? cs = some v) :
    cs = v.toChars ∧ v.build ≠ [[]] := by
  simp only [ofChars?, Option.bind_eq_bind, Option.bind_eq_some_iff] at h
  obtain ⟨⟨major, _⟩, read_major, _, first_dot, ⟨minor, _⟩, read_minor, _, second_dot,
    ⟨patch, _⟩, read_patch, ⟨prerelease, _⟩, read_prerelease, ⟨build, rest⟩, read_build, h⟩ := h
  dsimp only at first_dot second_dot read_prerelease read_build h
  obtain ⟨build_eq, nonempty⟩ := build?_eq_some read_build
  split at h
  · rename_i finished
    cases h
    refine ⟨?_, nonempty⟩
    rw [number?_eq_some read_major, Text.after?_eq_some_iff.1 first_dot,
      number?_eq_some read_minor, Text.after?_eq_some_iff.1 second_dot,
      number?_eq_some read_patch, prerelease?_eq_some read_prerelease, build_eq,
      List.isEmpty_iff.1 finished, List.append_nil]
    rfl
  · cases h

theorem parse?_injective {t t' : String} {v : Version} (h : parse? t = some v)
    (h' : parse? t' = some v) : t = t' := by
  have same : t.toList = t'.toList :=
    (ofChars?_eq_some h).1.trans (ofChars?_eq_some h').1.symm
  exact String.toList_inj.1 same

end SourceMatch.Version
