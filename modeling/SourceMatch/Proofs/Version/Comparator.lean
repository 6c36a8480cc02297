import SourceMatch.Proofs.Version.Lexeme

/-!
What a comparator is read as: its operator, the numbers that its numerals spell, none for a
wildcard, and its prerelease, while build metadata is dropped. One text is the text of one version
only, so this holds of the version that was written.
-/
namespace SourceMatch.Version.Range

open Text

variable {cs rest : List Char} {sign : Option Sign} {c : Comparator}

theorem part_stops {kind : Char → Bool} {shape : List Char → Prop} {mark : Char}
    (other : kind mark = false) (body : Option { cs : List Char // shape cs })
    (stop : Stops kind rest) : Stops kind (part mark body ++ rest) := by
  cases body with
  | none => exact stop
  | some body => exact stops_cons.2 other

theorem part_unique {kind : Char → Bool} {mark : Char}
    {body body' : Option { cs : List Char // cs ≠ [] ∧ ∀ c ∈ cs, kind c = true }}
    {rest rest' : List Char} (stop : Stops kind rest) (stop' : Stops kind rest')
    (absent : body = none → Stops (· = mark) rest)
    (absent' : body' = none → Stops (· = mark) rest')
    (same : part mark body ++ rest = part mark body' ++ rest') : body = body' ∧ rest = rest' := by
  cases body with
  | none =>
    cases body' with
    | none => exact ⟨rfl, same⟩
    | some body' =>
      have stop := absent rfl
      rw [part, List.nil_append] at same
      rw [same] at stop
      exact absurd rfl (of_decide_eq_false (stops_cons.1 stop))
  | some body =>
    cases body' with
    | none =>
      have stop := absent' rfl
      rw [part, part, List.nil_append] at same
      rw [← same] at stop
      exact absurd rfl (of_decide_eq_false (stops_cons.1 stop))
    | some body' =>
      have tails : body.1 ++ rest = body'.1 ++ rest' := (List.cons.inj same).2
      obtain ⟨bodies, rests⟩ := append_inj_of_stops body.2.2 stop body'.2.2 stop' tails
      exact ⟨congrArg some (Subtype.ext bodies), rests⟩

namespace VersionText

theorem suffixChars_stops {kind : Char → Bool} (hyphen : kind '-' = false) (plus : kind '+' = false)
    (v : VersionText) : Stops kind v.suffixChars := by
  refine part_stops hyphen v.prerelease ?_
  rw [← List.append_nil (part '+' v.build)]
  exact part_stops plus v.build (stops_nil kind)

theorem toChars_injective {v w : VersionText} (same : v.toChars = w.toChars) : v = w := by
  have noDot (u : VersionText) : Stops (· = '.') u.suffixChars := u.suffixChars_stops rfl rfl
  have noNumeral (u : VersionText) : Stops isNumeral u.suffixChars := u.suffixChars_stops rfl rfl
  have noHyphen (u : VersionText) : Stops (· = '-') (part '+' u.build ++ []) :=
    part_stops rfl u.build (stops_nil _)
  have noSuffix (u : VersionText) : Stops isSuffixChar (part '+' u.build ++ []) :=
    part_stops rfl u.build (stops_nil _)
  have afterSecond (u : VersionText) : Stops isNumeral (part '.' u.third ++ u.suffixChars) :=
    part_stops rfl u.third (noNumeral u)
  have afterFirst (u : VersionText) :
      Stops isNumeral (part '.' u.second ++ (part '.' u.third ++ u.suffixChars)) :=
    part_stops rfl u.second (afterSecond u)
  -- without a second numeral there is no third one whose dot could be taken for its dot
  have unnested (u : VersionText) (absent : u.second = none) :
      Stops (· = '.') (part '.' u.third ++ u.suffixChars) := by
    rw [u.nested absent]
    exact noDot u
  obtain ⟨first, same⟩ := append_inj_of_stops v.first.2.2 (afterFirst v) w.first.2.2 (afterFirst w)
    same
  obtain ⟨second, same⟩ := part_unique (afterSecond v) (afterSecond w) (unnested v) (unnested w)
    same
  obtain ⟨third, same⟩ := part_unique (noNumeral v) (noNumeral w) (fun _ => noDot v)
    (fun _ => noDot w) same
  rw [suffixChars, suffixChars, ← List.append_nil (part '+' v.build),
    ← List.append_nil (part '+' w.build)] at same
  obtain ⟨prerelease, same⟩ := part_unique (noSuffix v) (noSuffix w) (fun _ => noHyphen v)
    (fun _ => noHyphen w) same
  obtain ⟨build, -⟩ := part_unique (stops_nil _) (stops_nil _) (fun _ => stops_nil _)
    (fun _ => stops_nil _) same
  exact VersionText.ext (Subtype.ext first) second third prerelease build

end VersionText

def digits (n : Nat) : Numeral where
  val := Nat.toDigits 10 n
  property := by
    have numeral := isNumeral_toDigits n
    refine ⟨numeral.ne_nil, fun c hc => ?_⟩
    rw [isNumeral, numeral.digits c hc, Bool.true_or]

def Numeral.isWild (n : Numeral) : Bool := n.1.any isWildcard

theorem digits_isWild (n : Nat) : (digits n).isWild = false := by
  refine List.any_eq_false.2 fun c hc => ?_
  rw [isWildcard_of_isDigit c ((isNumeral_toDigits n).digits c hc)]
  exact Bool.false_ne_true

/-- A numeral has the digits of its number, or is a single wildcard, which stands for none. -/
def Spelled : Option Numeral → Option Nat → Prop
  | none, n => n = none
  | some numeral, none => ∃ c, isWildcard c = true ∧ numeral.1 = [c]
  | some numeral, some n => numeral.1 = Nat.toDigits 10 n

theorem nextNumber?_eq_some {n : Option Nat} {wild : Bool}
    (h : nextNumber? cs = some (n, wild, rest)) :
    ∃ numeral : Option Numeral, cs = part '.' numeral ++ rest ∧ Spelled numeral n ∧
      wild = numeral.any Numeral.isWild ∧ (numeral = none → Stops (· = '.') cs) := by
  unfold nextNumber? at h
  split at h
  · rename_i c cs
    split at h
    · rename_i wildcard
      cases h
      have numeral : ∀ d ∈ [c], isNumeral d = true := by simp [isNumeral, wildcard]
      refine ⟨some ⟨[c], List.cons_ne_nil c [], numeral⟩, rfl, ⟨c, wildcard, rfl⟩, ?_,
        fun none => (by cases none)⟩
      simp [Numeral.isWild, wildcard]
    · obtain ⟨⟨n, behind⟩, read, same⟩ := Option.map_eq_some_iff.1 h
      cases same
      refine ⟨some (digits n), ?_, rfl, ?_, fun none => (by cases none)⟩
      · rw [number?_eq_some read]
        rfl
      · rw [Option.any_some, digits_isWild]
  · cases h
  · rename_i noDot noEnd
    cases h
    refine ⟨none, rfl, rfl, rfl, fun _ => ?_⟩
    match cs with
    | [] => exact stops_nil _
    | [d] => exact stops_cons.2 (decide_eq_false fun dot => noEnd (by rw [dot]))
    | d :: e :: cs => exact stops_cons.2 (decide_eq_false fun dot => noDot e cs (by rw [dot]))

theorem dotted?_suffix {parts : List (List Char)} (h : dotted? cs = some (parts, rest)) :
    ∃ s : Suffix, cs = s.1 ++ rest := by
  rw [dotted?] at h
  cases run : cs.span fun c => isIdentifierChar c || c = '.' with
  | mk body behind =>
    obtain ⟨rfl, all, -⟩ := span_eq_iff.1 run
    rw [run] at h
    dsimp only at h
    split at h
    · cases h
    · rename_i full
      cases h
      have nonempty : body ≠ [] := by
        rintro rfl
        exact full rfl
      refine ⟨⟨body, nonempty, fun c hc => ?_⟩, rfl⟩
      have := all c hc
      simp only [isIdentifierChar, Bool.or_eq_true] at this
      simp only [isSuffixChar, Bool.or_eq_true]
      tauto

theorem prerelease?_suffix {ids : List Identifier} (h : prerelease? cs = some (ids, rest)) :
    ∃ s : Option Suffix, cs = part '-' s ++ rest ∧ part '-' s = prereleaseChars ids := by
  have spelled := prerelease?_eq_some h
  unfold prerelease? at h
  split at h
  · obtain ⟨⟨parts, behind⟩, read, h⟩ := Option.bind_eq_some_iff.1 h
    obtain ⟨read_ids, -, h⟩ := Option.bind_eq_some_iff.1 h
    cases h
    obtain ⟨s, rfl⟩ := dotted?_suffix read
    exact ⟨some s, rfl, List.append_cancel_right spelled⟩
  · cases h
    exact ⟨none, rfl, rfl⟩

theorem build?_suffix {build : List (List Char)} (h : build? cs = some (build, rest)) :
    ∃ s : Option Suffix, cs = part '+' s ++ rest := by
  unfold build? at h
  split at h
  · obtain ⟨s, rfl⟩ := dotted?_suffix h
    exact ⟨some s, rfl⟩
  · cases h
    exact ⟨none, rfl⟩

def isVersionChar (c : Char) : Bool := isNumeral c || isSuffixChar c || c = '+'

theorem isVersionChar_of_mem_part {kind : Char → Bool} {mark : Char}
    {body : Option { cs : List Char // cs ≠ [] ∧ ∀ c ∈ cs, kind c = true }}
    (own : ∀ c, kind c = true → isVersionChar c = true) (first : isVersionChar mark = true)
    {c : Char} (h : c ∈ part mark body) : isVersionChar c = true := by
  cases body with
  | none => cases h
  | some body =>
    rcases List.mem_cons.1 h with rfl | inside
    · exact first
    · exact own c (body.2.2 c inside)

namespace VersionText

theorem isVersionChar_of_mem {v : VersionText} {c : Char} (h : c ∈ v.toChars) :
    isVersionChar c = true := by
  have numeral (c : Char) (own : isNumeral c = true) : isVersionChar c = true := by
    simp [isVersionChar, own]
  have suffix (c : Char) (own : isSuffixChar c = true) : isVersionChar c = true := by
    simp [isVersionChar, own]
  simp only [toChars, suffixChars, List.mem_append] at h
  rcases h with h | h | h | h | h
  · exact numeral c (v.first.2.2 c h)
  · exact isVersionChar_of_mem_part numeral rfl h
  · exact isVersionChar_of_mem_part numeral rfl h
  · exact isVersionChar_of_mem_part suffix rfl h
  · exact isVersionChar_of_mem_part suffix rfl h

def hasWildcard (v : VersionText) : Bool := v.numerals.any Numeral.isWild

structure Spells (v : VersionText) (c : Comparator) : Prop where
  major : v.first.1 = Nat.toDigits 10 c.major
  minor : Spelled v.second c.minor
  patch : Spelled v.third c.patch
  prerelease : part '-' v.prerelease = prereleaseChars c.prerelease

end VersionText

theorem operator?_signChars (stop : Stops isOperatorChar cs) :
    operator? (signChars sign ++ cs) = (sign.map (·.1), cs) := by
  cases sign with
  | none => exact operator?_of_stops stop
  | some o => exact operator?_toChars o.2 stop

theorem signChars_stops {kind : Char → Bool}
    (other : ∀ c, isOperatorChar c = true → kind c = false) (stop : Stops kind cs) :
    Stops kind (signChars sign ++ cs) := by
  cases sign with
  | none => exact stop
  | some o => exact o.1.stops_toChars o.2 other cs

theorem eq_nil_of_dropSpaces (h : dropSpaces cs = []) (solid : ' ' ∉ cs) : cs = [] := by
  cases cs with
  | nil => rfl
  | cons c cs =>
    cases first : isSpace c with
    | true =>
      rw [of_decide_eq_true first] at solid
      exact absurd List.mem_cons_self solid
    | false =>
      rw [dropSpaces, dropWhile_of_stops (stops_cons.2 first)] at h
      cases h

theorem ofChars?_spells {v : VersionText}
    (h : Comparator.ofChars? (signChars sign ++ v.toChars) = some c) :
    v.Spells c ∧ c.op = (sign.map (·.1)).getD (if v.hasWildcard then .wildcard else .caret) := by
  have noSpace : Stops isSpace v.toChars := v.stops_toChars isSpace_of_isNumeral
  have signed : Stops isSpace (signChars sign ++ v.toChars) :=
    signChars_stops isSpace_of_isOperatorChar noSpace
  rw [Comparator.ofChars?, dropSpaces, dropWhile_of_stops signed,
    operator?_signChars (v.stops_toChars isOperatorChar_of_isNumeral)] at h
  dsimp only at h
  rw [dropSpaces, dropWhile_of_stops noSpace] at h
  simp only [Option.bind_eq_bind, Option.bind_eq_some_iff] at h
  obtain ⟨⟨major, afterMajor⟩, readMajor, ⟨minor, wildMinor, afterMinor⟩, readMinor,
    ⟨patch, wildPatch, afterPatch⟩, readPatch, h⟩ := h
  dsimp only at readMinor readPatch h
  obtain ⟨second, rfl, minorSpelled, rfl, noSecond⟩ := nextNumber?_eq_some readMinor
  obtain ⟨third, rfl, patchSpelled, rfl, -⟩ := nextNumber?_eq_some readPatch
  have nested (absent : second = none) : third = none := by
    cases third with
    | none => rfl
    | some third =>
      subst absent
      exact absurd rfl (of_decide_eq_false (stops_cons.1 (noSecond rfl)))
  obtain ⟨ids, prerelease, build, after, rfl, prereleaseSpelled, finished, rfl⟩ :
      ∃ (ids : List Identifier) (prerelease build : Option Suffix) (after : List Char),
        afterPatch = part '-' prerelease ++ (part '+' build ++ after) ∧
        part '-' prerelease = prereleaseChars ids ∧ (dropSpaces after).isEmpty = true ∧
        c = ⟨(sign.map (·.1)).getD (if second.any Numeral.isWild ∨ third.any Numeral.isWild then
          .wildcard else .caret), major, minor, patch, ids⟩ := by
    split at h
    · cases h
    · cases patch with
      | none =>
        simp only [Option.isSome_none, Bool.false_eq_true, if_false, Option.bind_some] at h
        split at h
        · rename_i finished
          cases h
          exact ⟨[], none, none, afterPatch, rfl, rfl, finished, rfl⟩
        · cases h
      | some patch =>
        simp only [Option.isSome_some, if_true, Option.bind_eq_some_iff] at h
        obtain ⟨⟨ids, afterPrerelease⟩, readPrerelease, ⟨parts, after⟩, readBuild, h⟩ := h
        dsimp only at readBuild h
        obtain ⟨prerelease, rfl, spelled⟩ := prerelease?_suffix readPrerelease
        obtain ⟨build, rfl⟩ := build?_suffix readBuild
        split at h
        · rename_i finished
          cases h
          exact ⟨ids, prerelease, build, after, rfl, spelled, finished, rfl⟩
        · cases h
  have text := number?_eq_some readMajor
  have nothing : after = [] := by
    refine eq_nil_of_dropSpaces (List.isEmpty_iff.1 finished) fun space => ?_
    have inside : ' ' ∈ v.toChars := by simp [text, space]
    cases VersionText.isVersionChar_of_mem inside
  -- what was read makes up a version of the same text, which is the version itself
  have same : v.toChars =
      VersionText.toChars ⟨digits major, second, third, nested, prerelease, build⟩ := by
    rw [text, nothing]
    simp only [VersionText.toChars, VersionText.suffixChars, digits, List.append_nil]
  cases VersionText.toChars_injective same
  refine ⟨⟨rfl, minorSpelled, patchSpelled, prereleaseSpelled⟩, ?_⟩
  have wild : VersionText.hasWildcard ⟨digits major, second, third, nested, prerelease, build⟩ =
      (second.any Numeral.isWild || third.any Numeral.isWild) := by
    rw [VersionText.hasWildcard, VersionText.numerals, List.any_cons, digits_isWild,
      Bool.false_or, List.any_append]
    cases second <;> cases third <;> simp
  rw [wild]
  simp only [Bool.or_eq_true]

end SourceMatch.Version.Range
