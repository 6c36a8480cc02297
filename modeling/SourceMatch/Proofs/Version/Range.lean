import SourceMatch.Proofs.Version.Spelling
import Mathlib.Data.List.Forall2

/-!
Reading a written range. Whatever its layout, the terms come back as tokens with nothing lost
between them, each alternative becomes one requirement, and that holds of a version without
prerelease exactly if the terms of the alternative do.
-/
namespace SourceMatch.Version.Range

open Text (isBlank isBlank_of_isDigit Stops stops_nil stops_cons stops_append dropWhile_append
  span_append)

def Term.token (t : Term) : Token := ⟨t.sign.map (·.1.1), t.bound.release.toChars⟩

theorem isNumeral_of_isDigit (c : Char) (digit : c.isDigit = true) : isNumeral c = true := by
  simp [isNumeral, digit]

def Ends (rest : List Char) : Prop := Stops (fun c => !isGap c) rest

theorem Ends.stops {kind : Char → Bool} {rest : List Char} (h : Ends rest)
    (gap : ∀ c, isGap c = true → kind c = false) : Stops kind rest :=
  h.imp fun c hc => gap c (by simpa using hc)

theorem isNumeral_of_isGap (c : Char) (gap : isGap c = true) : isNumeral c = false := by
  cases numeral : isNumeral c with
  | false => rfl
  | true =>
    simp only [isNumeral, isWildcard, Bool.or_eq_true, decide_eq_true_eq] at numeral
    rcases numeral with digit | (rfl | rfl) | rfl
    · rw [isGap_of_isDigit c digit] at gap
      cases gap
    · cases gap
    · cases gap
    · cases gap

theorem marked_toDigits {n : Nat} {rest : List Char} (stop : Stops isNumeral rest) :
    marked '.' isNumeral ('.' :: (Nat.toDigits 10 n ++ rest)) =
      ('.' :: Nat.toDigits 10 n, rest) := by
  have numeral := isNumeral_toDigits n
  have run := span_append (fun c hc => isNumeral_of_isDigit c (numeral.digits c hc)) stop
  have nonempty := numeral.ne_nil
  rw [marked, if_pos rfl, run]
  generalize Nat.toDigits 10 n = digits at nonempty
  cases digits with
  | nil => exact absurd rfl nonempty
  | cons d ds => rfl

theorem marked_of_ne {mark : Char} {kind : Char → Bool} {rest : List Char}
    (stop : Stops (· = mark) rest) : marked mark kind rest = ([], rest) := by
  cases rest with
  | nil => rfl
  | cons c rest =>
    have other : c ≠ mark := by simpa using stops_cons.1 stop
    simp [marked, other]

theorem versionText?_toChars {r : Release} {rest : List Char} (ends : Ends rest) :
    versionText? (r.toChars ++ rest) = some (r.toChars, rest) := by
  have numeral := isNumeral_toDigits r.major.toNat
  have dot (cs : List Char) : Stops isNumeral ('.' :: cs) := stops_cons.2 rfl
  have first := span_append (fun c hc => isNumeral_of_isDigit c (numeral.digits c hc))
    (dot (Nat.toDigits 10 r.minor.toNat ++ '.' :: (Nat.toDigits 10 r.patch.toNat ++ rest)))
  have second := marked_toDigits (n := r.minor.toNat)
    (dot (Nat.toDigits 10 r.patch.toNat ++ rest))
  have third := marked_toDigits (n := r.patch.toNat) (ends.stops isNumeral_of_isGap)
  have noMark (mark : Char) (solid : isGap mark = false) (kind : Char → Bool) :
      marked mark kind rest = ([], rest) := by
    refine marked_of_ne (ends.stops fun c gap => ?_)
    rw [decide_eq_false_iff_not]
    rintro rfl
    rw [gap] at solid
    cases solid
  have nonempty := numeral.ne_nil
  rw [versionText?, Release.toChars]
  simp only [List.append_assoc, List.cons_append, first]
  generalize Nat.toDigits 10 r.major.toNat = digits at nonempty
  cases digits with
  | nil => exact absurd rfl nonempty
  | cons d ds =>
    simp [second, third, noMark '-' rfl, noMark '+' rfl]

theorem Term.operator?_toChars (t : Term) (rest : List Char) :
    ∃ blanks : Blanks, operator? (t.toChars ++ rest) =
      (t.token.op, blanks.1 ++ (t.bound.toChars ++ rest)) := by
  have noSign : Stops isOperatorChar (t.bound.toChars ++ rest) :=
    t.bound.stops isOperatorChar_of_isDigit rfl rest
  rw [Term.toChars, Term.signChars, Term.token]
  cases t.sign with
  | none => exact ⟨⟨[], by simp⟩, operator?_of_stops noSign⟩
  | some s =>
    obtain ⟨sign, blanks⟩ := s
    refine ⟨blanks, ?_⟩
    have stop : Stops isOperatorChar (blanks.1 ++ (t.bound.toChars ++ rest)) := by
      obtain ⟨cs, blank⟩ := blanks
      cases cs with
      | nil => exact noSign
      | cons c cs =>
        refine stops_cons.2 ?_
        cases sign' : isOperatorChar c with
        | false => rfl
        | true =>
          have gap := isBlank_of_not_isGap c (isGap_of_isOperatorChar c sign')
          rw [blank c List.mem_cons_self] at gap
          cases gap
    simpa using SourceMatch.Version.operator?_toChars sign.2 stop

theorem token?_toChars {t : Term} {rest : List Char} (ends : Ends rest) :
    token? (t.toChars ++ rest) = some (t.token, rest) := by
  obtain ⟨blanks, sign⟩ := t.operator?_toChars rest
  have trimmed : Text.trimLeft (blanks.1 ++ (t.bound.toChars ++ rest)) = t.bound.toChars ++ rest :=
    dropWhile_append blanks.2 (t.bound.stops isBlank_of_isDigit rfl rest)
  have unmarked : (Text.after? ['v'] (t.bound.toChars ++ rest)).getD (t.bound.toChars ++ rest) =
      t.bound.release.toChars ++ rest := by
    rw [Bound.toChars]
    cases t.bound.marked with
    | true => rfl
    | false =>
      have other : Stops (· = 'v') (t.bound.release.toChars ++ rest) :=
        Release.stops (fun c digit => decide_eq_false (ne_of_isDigit digit rfl)) _ rest
      rw [if_neg Bool.false_ne_true, List.nil_append]
      cases text : t.bound.release.toChars ++ rest with
      | nil => rfl
      | cons c cs =>
        rw [text] at other
        have unequal : ¬c = 'v' := by simpa using stops_cons.1 other
        simp [Text.after?, Ne.symm unequal]
  rw [token?, sign]
  simp only [trimmed, unmarked, versionText?_toChars ends, Option.bind_eq_bind, Option.bind_some]
  rfl

theorem ends_following (rest : List (Separator × Term)) : Ends (following rest) := by
  cases rest with
  | nil => exact stops_nil _
  | cons p rest =>
    obtain ⟨⟨cs, nonempty, gaps⟩, t⟩ := p
    rw [following, List.flatMap_cons]
    refine stops_append (by simp [nonempty]) (stops_append nonempty fun c hc => ?_)
    rw [gaps c (List.mem_of_mem_head? hc)]
    rfl

theorem following_cons (p : Separator × Term) (rest : List (Separator × Term)) :
    following (p :: rest) = p.1.1 ++ (p.2.toChars ++ following rest) := by
  rw [following, List.flatMap_cons, List.append_assoc, following]

theorem all_isBlank_following (p : Separator × Term) (rest : List (Separator × Term)) :
    (following (p :: rest)).all isBlank = false := by
  have solid : (p.2.toChars ++ following rest).all isBlank = false :=
    (p.2.stops_isBlank (following rest)).all_eq_false (by simp [p.2.toChars_ne_nil])
  rw [following_cons, List.all_append, solid, Bool.and_false]

theorem tokens?_following {fuel : Nat} {gap : List Char} (gaps : ∀ c ∈ gap, isGap c = true)
    (t : Term) {rest : List (Separator × Term)} (enough : rest.length < fuel) :
    tokens? fuel (gap ++ (t.toChars ++ following rest)) =
      some (t.token :: rest.map (·.2.token)) := by
  induction rest generalizing fuel gap t with
  | nil =>
    obtain ⟨fuel, rfl⟩ := Nat.exists_eq_succ_of_ne_zero (by omega : fuel ≠ 0)
    rw [tokens?, dropWhile_append gaps (t.stops_isGap _), token?_toChars (ends_following [])]
    rfl
  | cons p rest ih =>
    obtain ⟨fuel, rfl⟩ := Nat.exists_eq_succ_of_ne_zero (by omega : fuel ≠ 0)
    have later := ih p.1.2.2 p.2 (Nat.lt_of_succ_lt_succ enough)
    rw [tokens?, dropWhile_append gaps (t.stops_isGap _),
      token?_toChars (ends_following (p :: rest))]
    simp only [Option.bind_eq_bind, Option.bind_some, all_isBlank_following p rest]
    rw [following_cons, later]
    rfl

theorem length_le_following (rest : List (Separator × Term)) :
    rest.length ≤ (following rest).length := by
  induction rest with
  | nil => exact Nat.zero_le _
  | cons p rest ih =>
    have := List.length_pos_iff.2 p.1.2.1
    rw [following_cons]
    simp only [List.length_cons, List.length_append]
    omega

def Term.comparator (t : Term) : Comparator := t.bound.release.comparator t.operator

def Alternative.requirement : Alternative → Requirement
  | .between low _ _ high =>
    [low.release.comparator .greaterEq, high.release.comparator .lessEq]
  | .all first rest _ => first.comparator :: rest.map (·.2.comparator)

theorem Term.operator_ne_wildcard (t : Term) : t.operator ≠ .wildcard := by
  rw [Term.operator]
  cases t.sign with
  | none => decide
  | some s => exact s.1.2

theorem Term.toChars_token (t : Term) :
    t.token.toChars = t.operator.toChars ++ t.bound.release.toChars := by
  rw [Token.toChars, Term.token, Term.operator]
  cases t.sign with
  | some s => rfl
  | none =>
    have plain : t.bound.release.toChars.any isWildcard = false := by
      refine List.any_eq_false.2 fun c hc => ?_
      rcases Release.mem_toChars hc with digit | rfl
      · simp [isWildcard_of_isDigit c digit]
      · decide
    simp [plain, Operator.toChars]

theorem mapM_map_eq_some {α β γ : Type} {read : β → Option γ} (text : α → β) {value : α → γ}
    (h : ∀ a, read (text a) = some (value a)) (as : List α) :
    (as.map text).mapM read = some (as.map value) := by
  induction as with
  | nil => rfl
  | cons a as ih => simp [List.mapM_cons, h a, ih]

theorem ofPieces?_of_stops {pieces : List (List Char)} (limit : pieces.length ≤ comparatorLimit)
    (first : ∀ piece ∈ pieces, Stops isWildcard (dropSpaces piece)) :
    Requirement.ofPieces? pieces = pieces.mapM Comparator.ofChars? := by
  match pieces with
  | [] => rfl
  | [piece] =>
    have stop := first piece (List.mem_singleton_self piece)
    have run : (dropSpaces piece).span isWildcard = ([], dropSpaces piece) :=
      span_append (List.forall_mem_nil _) stop
    rw [Requirement.ofPieces?, run]
  | piece :: piece' :: pieces => rw [Requirement.ofPieces?, if_pos limit]; simp

theorem stops_comparator {op : Operator} (proper : op ≠ .wildcard) (cs : List Char) :
    Stops isWildcard (dropSpaces (op.toChars ++ cs)) ∧
      Stops isWildcard (dropSpaces (' ' :: (op.toChars ++ cs))) := by
  cases op with
  | wildcard => exact absurd rfl proper
  | _ => exact ⟨stops_cons.2 rfl, stops_cons.2 rfl⟩

theorem ofPieces?_terms (terms : List Term) (limit : terms.length ≤ comparatorLimit) :
    Requirement.ofPieces? (terms.map (·.token.toChars)) = some (terms.map (·.comparator)) := by
  have spelled (t : Term) : Stops isWildcard (dropSpaces t.token.toChars) := by
    rw [t.toChars_token]
    exact (stops_comparator t.operator_ne_wildcard _).1
  rw [ofPieces?_of_stops (by simpa using limit) (by simpa using fun t _ => spelled t)]
  refine mapM_map_eq_some _ (fun t => ?_) terms
  rw [t.toChars_token]
  exact ofChars?_comparator t.operator_ne_wildcard t.bound.release

theorem comma_not_mem (r : Release) : ',' ∉ r.toChars := by
  intro h
  rcases Release.mem_toChars h with digit | dot
  · cases digit
  · cases dot

theorem ofChars?_between (low high : Release) :
    Requirement.ofChars? ('>' :: '=' :: low.toChars ++ ", <=".toList ++ high.toChars) =
      some [low.comparator .greaterEq, high.comparator .lessEq] := by
  have first : ',' ∉ Operator.greaterEq.toChars ++ low.toChars := by
    simp [Operator.toChars, comma_not_mem]
  have second : ',' ∉ ' ' :: (Operator.lessEq.toChars ++ high.toChars) := by
    simp [Operator.toChars, comma_not_mem]
  have pieces : Text.splitAtChar ','
      ('>' :: '=' :: low.toChars ++ ", <=".toList ++ high.toChars) =
      [Operator.greaterEq.toChars ++ low.toChars,
        ' ' :: (Operator.lessEq.toChars ++ high.toChars)] := by
    rw [← Text.splitAtChar_of_not_mem second, ← Text.splitAtChar_append _ first]
    simp [Operator.toChars]
  have lowRead : Comparator.ofChars? (Operator.greaterEq.toChars ++ low.toChars) =
      some (low.comparator .greaterEq) :=
    ofChars?_comparator (by decide) low
  have highRead : Comparator.ofChars? (Operator.lessEq.toChars ++ high.toChars) =
      some (high.comparator .lessEq) :=
    ofChars?_comparator (by decide) high
  rw [Requirement.ofChars?, pieces, ofPieces?_of_stops (by simp [comparatorLimit])]
  · simp [List.mapM_cons, lowRead, ofChars?_space, highRead]
  · intro piece mem
    rcases List.mem_cons.1 mem with rfl | mem
    · exact (stops_comparator (by decide) _).1
    · rw [List.mem_singleton.1 mem]
      exact (stops_comparator (by decide) _).2

theorem hyphenEnds?_eq_none {cs : List Char} (h : '-' ∉ cs) : hyphenEnds? cs = none := by
  have suffix {kind : Char → Bool} {cs taken rest : List Char}
      (run : cs.span kind = (taken, rest)) : ∀ c ∈ rest, c ∈ cs := by
    rw [List.span_eq_takeWhile_dropWhile, Prod.mk.injEq] at run
    rw [← run.2]
    exact fun c => (List.dropWhile_sublist kind).mem
  rw [hyphenEnds?]
  split
  · rfl
  · rename_i low rest _ run
    split
    · rfl
    · rename_i run'
      exact absurd (suffix run _ (suffix run' _ List.mem_cons_self)) h
    · rfl

theorem Bound.isBlank_of_mem {b : Bound} {c : Char} (h : c ∈ b.toChars) : isBlank c = false := by
  rw [Bound.toChars, List.mem_append] at h
  rcases h with h | h
  · split at h
    · rw [List.mem_singleton.1 h]
      rfl
    · cases h
  · rcases Release.mem_toChars h with digit | rfl
    · exact isBlank_of_isDigit c digit
    · rfl

theorem Bound.dropVs_toChars (b : Bound) : dropVs b.toChars = b.release.toChars := by
  have other : Stops (· = 'v') (b.release.toChars ++ []) :=
    Release.stops (fun c digit => decide_eq_false (ne_of_isDigit digit rfl)) _ []
  rw [List.append_nil] at other
  refine dropWhile_append (fun c h => ?_) other
  split at h
  · simpa using h
  · cases h

theorem span_space (space : Space) {rest : List Char} (stop : Stops isBlank rest) :
    ∃ c cs, (space.1 ++ rest).span isBlank = (c :: cs, rest) := by
  obtain ⟨blanks, nonempty, blank⟩ := space
  obtain ⟨c, cs, rfl⟩ := List.exists_cons_of_ne_nil nonempty
  exact ⟨c, cs, span_append blank stop⟩

theorem hyphenEnds?_between (low high : Bound) (before after : Space) :
    hyphenEnds? (low.toChars ++ (before.1 ++ '-' :: (after.1 ++ high.toChars))) =
      some (low.toChars, high.toChars) := by
  have solid (b : Bound) : ∀ c ∈ b.toChars, (!isBlank c) = true := fun c h => by
    rw [Bound.isBlank_of_mem h]
    rfl
  have stop : Stops (!isBlank ·) (before.1 ++ '-' :: (after.1 ++ high.toChars)) := by
    refine stops_append before.2.1 fun c hc => ?_
    rw [before.2.2 c (List.mem_of_mem_head? hc)]
    rfl
  have bound : Stops isBlank high.toChars := by
    have := high.stops isBlank_of_isDigit rfl []
    rwa [List.append_nil] at this
  obtain ⟨l, ls, hlow⟩ := List.exists_cons_of_ne_nil low.toChars_ne_nil
  have hyphen : Stops isBlank ('-' :: (after.1 ++ high.toChars)) := stops_cons.2 rfl
  obtain ⟨b, bs, hbefore⟩ := span_space before hyphen
  obtain ⟨a, as, hafter⟩ := span_space after bound
  have blanks : high.toChars.any isBlank = false :=
    List.any_eq_false.2 fun c h => by simp [Bound.isBlank_of_mem h]
  rw [hyphenEnds?, span_append (solid low) stop, hlow]
  simp only [hbefore, hafter, blanks]
  simp [high.toChars_ne_nil]

theorem alternative?_eq {cs : List Char} (two : 2 ≤ cs.length) :
    alternative? cs = match hyphenEnds? cs with
      | some (low, high) =>
        Requirement.ofChars? ('>' :: '=' :: dropVs low ++ ", <=".toList ++ dropVs high)
      | none => alternative?.set? cs := by
  match cs, two with
  | _ :: _ :: _, _ => rfl

theorem Bound.two_le_length (b : Bound) : 2 ≤ b.toChars.length := by
  have := b.release.two_le_length
  rw [Bound.toChars, List.length_append]
  omega

theorem alternative?_toChars (a : Alternative) : alternative? a.toChars = some a.requirement := by
  cases a with
  | between low before after high =>
    have := low.two_le_length
    rw [Alternative.toChars, alternative?_eq (by simp; omega), hyphenEnds?_between]
    simp only [Bound.dropVs_toChars]
    exact ofChars?_between low.release high.release
  | all first rest short =>
    have := first.bound.two_le_length
    have long : 2 ≤ (first.toChars ++ following rest).length := by
      simp [Term.toChars]
      omega
    have plain : '-' ∉ first.toChars ++ following rest := by
      intro h
      have : isTermChar '-' = true := by
        rcases List.mem_append.1 h with h | h
        · exact Term.isTermChar_of_mem h
        · exact isTermChar_of_mem_following h
      revert this
      decide
    have enough : rest.length < (first.toChars ++ following rest).length + 1 := by
      have := length_le_following rest
      simp
      omega
    have tokens := tokens?_following (List.forall_mem_nil _) first enough
    have pieces := ofPieces?_terms (first :: rest.map (·.2)) (by
      simp
      omega)
    rw [Alternative.toChars, alternative?_eq long, hyphenEnds?_eq_none plain]
    rw [List.nil_append] at tokens
    simp only [alternative?.set?, tokens, Option.bind_eq_bind, Option.bind_some]
    simpa [Function.comp_def, Alternative.requirement] using pieces

theorem Alternative.holds_requirement (a : Alternative) (released : v.prerelease = []) :
    Requirement.holds a.requirement v = true ↔ a.Holds v := by
  have least (r : Release) : (r.comparator .greaterEq).holds v = true ↔ r.numbers ≤ v.numbers :=
    holds_comparator .greaterEq released
  have most (r : Release) : (r.comparator .lessEq).holds v = true ↔ v.numbers ≤ r.numbers :=
    holds_comparator .lessEq released
  have term (t : Term) : t.comparator.holds v = true ↔ t.Holds v :=
    holds_comparator t.operator released
  cases a with
  | between low before after high =>
    simp [Requirement.holds, Alternative.requirement, Alternative.Holds, released, least, most]
  | all first rest short =>
    simp [Requirement.holds, Alternative.requirement, Alternative.Holds, released, term]

theorem Alternative.stops_isBlank (a : Alternative) :
    Stops isBlank a.toChars ∧ Stops isBlank a.toChars.reverse := by
  cases a with
  | between low before after high =>
    refine ⟨low.stops isBlank_of_isDigit rfl _, ?_⟩
    have ends := high.stops_reverse (low.toChars ++ (before.1 ++ '-' :: after.1))
    simpa [Alternative.toChars] using ends
  | all first rest short =>
    refine ⟨first.stops_isBlank _, ?_⟩
    -- the text ends in the release of the last term
    cases rest using List.reverseRecOn with
    | nil =>
      have ends := first.bound.stops_reverse first.signChars
      simpa [Alternative.toChars, following, Term.toChars] using ends
    | append_singleton rest p =>
      have ends := p.2.bound.stops_reverse
        (first.toChars ++ (following rest ++ (p.1.1 ++ p.2.signChars)))
      simpa [Alternative.toChars, following, Term.toChars] using ends

theorem Alternative.toChars_ne_nil (a : Alternative) : a.toChars ≠ [] := by
  cases a with
  | between low before after high => simp [Alternative.toChars]
  | all first rest short => simp [Alternative.toChars, first.toChars_ne_nil]

theorem Padded.trim_toChars (p : Padded) : Text.trim p.toChars = p.alternative.toChars :=
  Text.trim_append p.before.2 p.after.2 p.alternative.stops_isBlank.1 p.alternative.stops_isBlank.2
    p.alternative.toChars_ne_nil

theorem splitAtDouble_padded (first : Padded) (rest : List Padded) :
    Text.splitAtDouble '|' (first.toChars ++ rest.flatMap fun p => '|' :: '|' :: p.toChars) =
      (first :: rest).map Padded.toChars := by
  induction rest generalizing first with
  | nil =>
    rw [List.flatMap_nil, List.append_nil, Text.splitAtDouble_of_not_mem first.bar_not_mem]
    rfl
  | cons p rest ih =>
    rw [List.flatMap_cons, List.cons_append, List.cons_append,
      Text.splitAtDouble_append _ first.bar_not_mem, ih, List.map_cons (l := p :: rest)]

theorem parse?_text (r : Written) :
    parse? r.text = some (r.alternatives.map Alternative.requirement) := by
  have read (p : Padded) :
      alternative? (Text.trim p.toChars) = some p.alternative.requirement := by
    rw [p.trim_toChars, alternative?_toChars]
  rw [parse?, Written.text, String.toList_ofList, splitAtDouble_padded]
  refine (mapM_map_eq_some Padded.toChars read (r.first :: r.rest)).trans ?_
  simp [Written.alternatives, Function.comp_def]

/-- Every written range is read, each alternative as a requirement of its own, in their order. The
requirement holds of a version without prerelease exactly if the alternative does. -/
theorem reads_written (r : Written) :
    ∃ range, parse? r.text = some range ∧
      List.Forall₂ (fun (a : Alternative) requirement => ∀ v : Version, v.prerelease = [] →
        (Requirement.holds requirement v = true ↔ a.Holds v)) r.alternatives range := by
  refine ⟨_, parse?_text r, ?_⟩
  rw [List.forall₂_map_right_iff]
  exact List.forall₂_same.2 fun a _ v => a.holds_requirement

def sampleWritten : Written where
  first :=
    { before := ⟨[], by simp⟩
      alternative :=
        .all ⟨some (⟨.greaterEq, nofun⟩, ⟨[' '], by simp [isBlank]⟩), ⟨true, ⟨0, 7, 0⟩⟩⟩
          [(⟨[',', ' '], by simp [isGap, isBlank]⟩, ⟨some (⟨.less, nofun⟩, ⟨[], by simp⟩),
            ⟨false, ⟨0, 9, 0⟩⟩⟩)]
          (by decide)
      after := ⟨[' '], by simp [isBlank]⟩ }
  rest :=
    [{ before := ⟨[], by simp⟩
       alternative :=
        .between ⟨false, ⟨0, 5, 0⟩⟩ ⟨[' '], by simp [isBlank]⟩ ⟨['\t'], by simp [isBlank]⟩
          ⟨true, ⟨0, 6, 0⟩⟩
       after := ⟨[], by simp⟩ }]

theorem reads_written_sample :
    let v : Version := ⟨0, 8, 18, [], []⟩
    sampleWritten.text = ">= v0.7.0, <0.9.0 ||0.5.0 -\tv0.6.0" ∧ v.prerelease = [] ∧
      ∃ first second, parse? sampleWritten.text = some [first, second] ∧
        Requirement.holds first v = true ∧ Requirement.holds second v = false := by
  intro v
  refine ⟨by decide +kernel, rfl, ?_⟩
  obtain ⟨range, read, means⟩ := reads_written sampleWritten
  obtain ⟨first, _, terms, tail, rfl⟩ := List.forall₂_cons_left_iff.1 means
  obtain ⟨second, _, ends, last, rfl⟩ := List.forall₂_cons_left_iff.1 tail
  cases last
  refine ⟨first, second, read, (terms v rfl).2 ⟨?_, fun p hp => ?_⟩,
    Bool.eq_false_iff.2 fun holds => ?_⟩
  · exact le_of_lt (lt_numbers_iff.2 (by decide))
  · rw [List.mem_singleton.1 hp]
    exact numbers_lt_iff.2 (by decide)
  · have above : (⟨0, 6, 0⟩ : Release).numbers < v.numbers := lt_numbers_iff.2 (by decide)
    exact absurd ((ends v rfl).1 holds).2 (not_le_of_gt above)

end SourceMatch.Version.Range
