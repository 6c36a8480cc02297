import SourceMatch.Proofs.Version.Spelling
import Mathlib.Data.List.Infix

/-!
Comparators as they stand in a set: a sign, blanks, the letter `v`, up to three numerals between
dots, a prerelease and build metadata, of which only the first numeral has to be there. What is read
as a token is such a comparator, and a set that is read is nothing but comparators with blanks and
commas between them.
-/
namespace SourceMatch.Version.Range

open Text

variable {cs rest : List Char}

abbrev Numeral := { cs : List Char // cs ≠ [] ∧ ∀ c ∈ cs, isNumeral c = true }

abbrev Suffix := { cs : List Char // cs ≠ [] ∧ ∀ c ∈ cs, isSuffixChar c = true }

@[ext]
structure VersionText where
  first : Numeral
  second : Option Numeral
  third : Option Numeral
  nested : second = none → third = none
  prerelease : Option Suffix
  build : Option Suffix

/-- A version behind a sign, blanks and the letter `v`, none of which has to be there. -/
structure Lexeme where
  sign : Option Sign
  blanks : Blanks
  marked : Bool
  version : VersionText

def signChars (sign : Option Sign) : List Char := (sign.map (·.1.toChars)).getD []

def part {kind : List Char → Prop} (mark : Char) : Option { cs : List Char // kind cs } → List Char
  | none => []
  | some cs => mark :: cs.1

namespace VersionText

def numerals (v : VersionText) : List Numeral := v.first :: (v.second.toList ++ v.third.toList)

def suffixChars (v : VersionText) : List Char := part '-' v.prerelease ++ part '+' v.build

def toChars (v : VersionText) : List Char :=
  v.first.1 ++ (part '.' v.second ++ (part '.' v.third ++ v.suffixChars))

theorem toChars_ne_nil (v : VersionText) : v.toChars ≠ [] := by
  simp [toChars, v.first.2.1]

theorem stops_toChars {kind : Char → Bool} (other : ∀ c, isNumeral c = true → kind c = false)
    (v : VersionText) : Stops kind v.toChars := by
  refine stops_append v.first.2.1 fun c first => ?_
  exact other c (v.first.2.2 c (List.mem_of_mem_head? first))

end VersionText

namespace Lexeme

def toChars (l : Lexeme) : List Char :=
  signChars l.sign ++ (l.blanks.1 ++ ((if l.marked then ['v'] else []) ++ l.version.toChars))

def token (l : Lexeme) : Token := ⟨l.sign.map (·.1), l.version.toChars⟩

theorem toChars_ne_nil (l : Lexeme) : l.toChars ≠ [] := by
  simp [toChars, l.version.toChars_ne_nil]

end Lexeme

theorem eq_false_of_isNumeral {kind : Char → Bool} (digit : ∀ c, c.isDigit = true → kind c = false)
    (star : kind '*' = false) (small : kind 'x' = false) (large : kind 'X' = false) (c : Char)
    (numeral : isNumeral c = true) : kind c = false := by
  simp only [isNumeral, isWildcard, Bool.or_eq_true, decide_eq_true_eq] at numeral
  rcases numeral with own | (rfl | rfl) | rfl
  · exact digit c own
  · exact star
  · exact small
  · exact large

theorem isGap_of_isNumeral (c : Char) (numeral : isNumeral c = true) : isGap c = false :=
  eq_false_of_isNumeral isGap_of_isDigit rfl rfl rfl c numeral

theorem isOperatorChar_of_isNumeral (c : Char) (numeral : isNumeral c = true) :
    isOperatorChar c = false :=
  eq_false_of_isNumeral isOperatorChar_of_isDigit rfl rfl rfl c numeral

theorem isSpace_of_isNumeral (c : Char) (numeral : isNumeral c = true) : isSpace c = false :=
  eq_false_of_isNumeral isSpace_of_isDigit rfl rfl rfl c numeral

theorem operator?_eq {op : Option Operator} (h : operator? cs = (op, rest)) :
    ∃ sign : Option Sign, op = sign.map (·.1) ∧ cs = signChars sign ++ rest := by
  have signed (o : Operator) (proper : o ≠ .wildcard) (same : op = some o)
      (split : cs = o.toChars ++ rest) :
      ∃ sign : Option Sign, op = sign.map (·.1) ∧ cs = signChars sign ++ rest :=
    ⟨some ⟨o, proper⟩, same, split⟩
  unfold operator? at h
  split at h
  all_goals
    obtain ⟨rfl, rfl⟩ := Prod.mk.inj h
  · exact signed .exact (by decide) rfl rfl
  · exact signed .greaterEq (by decide) rfl rfl
  · exact signed .greater (by decide) rfl rfl
  · exact signed .lessEq (by decide) rfl rfl
  · exact signed .less (by decide) rfl rfl
  · exact signed .tilde (by decide) rfl rfl
  · exact signed .caret (by decide) rfl rfl
  · exact ⟨none, rfl, rfl⟩

theorem marked_eq {mark : Char} {kind : Char → Bool} {taken : List Char}
    (h : marked mark kind cs = (taken, rest)) :
    cs = taken ++ rest ∧
      ∃ body : Option { cs : List Char // cs ≠ [] ∧ ∀ c ∈ cs, kind c = true },
        taken = part mark body := by
  cases cs with
  | nil =>
    obtain ⟨rfl, rfl⟩ := Prod.mk.inj h
    exact ⟨rfl, none, rfl⟩
  | cons c cs =>
    rw [marked] at h
    split at h
    · rename_i here
      cases run : cs.span kind with
      | mk front behind =>
        obtain ⟨rfl, all, -⟩ := span_eq_iff.1 run
        rw [run] at h
        cases front with
        | nil =>
          obtain ⟨rfl, rfl⟩ := Prod.mk.inj h
          exact ⟨rfl, none, rfl⟩
        | cons d front =>
          obtain ⟨rfl, rfl⟩ := Prod.mk.inj h
          refine ⟨rfl, some ⟨d :: front, List.cons_ne_nil d front, all⟩, ?_⟩
          rw [here]
          rfl
    · obtain ⟨rfl, rfl⟩ := Prod.mk.inj h
      exact ⟨rfl, none, rfl⟩

theorem versionText?_eq_some {version : List Char} (h : versionText? cs = some (version, rest)) :
    ∃ v : VersionText, version = v.toChars ∧ cs = v.toChars ++ rest := by
  rw [versionText?] at h
  cases run : cs.span isNumeral with
  | mk first afterFirst =>
    obtain ⟨rfl, numeral, -⟩ := span_eq_iff.1 run
    rw [run] at h
    cases first with
    | nil => cases h
    | cons c first =>
      dsimp only at h
      cases runSecond : marked '.' isNumeral afterFirst with
      | mk secondChars afterSecond =>
        obtain ⟨rfl, second, rfl⟩ := marked_eq runSecond
        obtain ⟨third, afterThird, nested, rfl, runThird⟩ :
            ∃ (third : Option Numeral) (behind : List Char), (second = none → third = none) ∧
              afterSecond = part '.' third ++ behind ∧
              (if (part '.' second).isEmpty then ([], afterSecond)
                else marked '.' isNumeral afterSecond) = (part '.' third, behind) := by
          cases second with
          | none => exact ⟨none, afterSecond, fun _ => rfl, rfl, rfl⟩
          | some second =>
            cases run : marked '.' isNumeral afterSecond with
            | mk taken behind =>
              obtain ⟨split, third, rfl⟩ := marked_eq run
              exact ⟨third, behind, fun none => (by cases none), split, rfl⟩
        cases runPrerelease : marked '-' isSuffixChar afterThird with
        | mk prereleaseChars afterPrerelease =>
          obtain ⟨rfl, prerelease, rfl⟩ := marked_eq runPrerelease
          cases runBuild : marked '+' isSuffixChar afterPrerelease with
          | mk buildChars afterBuild =>
            obtain ⟨rfl, build, rfl⟩ := marked_eq runBuild
            simp only [runSecond, runThird, runPrerelease, runBuild, Option.some.injEq,
              Prod.mk.injEq] at h
            obtain ⟨rfl, rfl⟩ := h
            refine ⟨⟨⟨c :: first, List.cons_ne_nil c first, numeral⟩, second, third, nested,
              prerelease, build⟩, ?_, ?_⟩
            all_goals
              simp only [VersionText.toChars, VersionText.suffixChars, List.append_assoc]

theorem versionText?_marked {version : List Char}
    (h : versionText? ((after? ['v'] cs).getD cs) = some (version, rest)) :
    ∃ (mark : Bool) (v : VersionText), version = v.toChars ∧
      cs = (if mark then ['v'] else []) ++ (v.toChars ++ rest) := by
  obtain ⟨v, rfl, split⟩ := versionText?_eq_some h
  cases found : after? ['v'] cs with
  | none =>
    rw [found, Option.getD_none] at split
    exact ⟨false, v, rfl, split⟩
  | some afterMark =>
    rw [found, Option.getD_some] at split
    rw [after?_eq_some_iff.1 found, split]
    exact ⟨true, v, rfl, rfl⟩

theorem token?_eq_some {t : Token} (h : token? cs = some (t, rest)) :
    ∃ l : Lexeme, t = l.token ∧ cs = l.toChars ++ rest := by
  simp only [token?, Option.bind_eq_bind, Option.bind_eq_some_iff] at h
  obtain ⟨⟨version, behind⟩, read, h⟩ := h
  cases h
  cases signed : operator? cs with
  | mk op afterSign =>
    obtain ⟨sign, rfl, rfl⟩ := operator?_eq signed
    rw [signed] at read
    dsimp only at read
    obtain ⟨mark, v, rfl, split⟩ := versionText?_marked read
    obtain ⟨blanks, trimmed⟩ : ∃ blanks : Blanks, afterSign = blanks.1 ++ trimLeft afterSign :=
      ⟨⟨_, List.all_eq_true.1 List.all_takeWhile⟩, List.takeWhile_append_dropWhile.symm⟩
    refine ⟨⟨sign, blanks, mark, v⟩, rfl, ?_⟩
    rw [trimmed, split]
    simp only [Lexeme.toChars, List.append_assoc]

abbrev Gap := { cs : List Char // ∀ c ∈ cs, isGap c = true }

structure ComparatorSet where
  items : List (Gap × Lexeme)
  nonempty : items ≠ []
  after : Blanks

namespace ComparatorSet

def lexemes (s : ComparatorSet) : List Lexeme := s.items.map (·.2)

def toChars (s : ComparatorSet) : List Char :=
  (s.items.flatMap fun i => i.1.1 ++ i.2.toChars) ++ s.after.1

theorem lexemes_ne_nil (s : ComparatorSet) : s.lexemes ≠ [] := by
  simp [lexemes, s.nonempty]

end ComparatorSet

theorem tokens?_eq_some {fuel : Nat} {ts : List Token} (h : tokens? fuel cs = some ts) :
    ∃ s : ComparatorSet, ts = s.lexemes.map (·.token) ∧ cs = s.toChars := by
  induction fuel generalizing cs ts with
  | zero => cases h
  | succ fuel ih =>
    simp only [tokens?, Option.bind_eq_bind, Option.bind_eq_some_iff] at h
    obtain ⟨⟨t, rest⟩, read, h⟩ := h
    obtain ⟨l, rfl, split⟩ := token?_eq_some read
    obtain ⟨gap, whole⟩ : ∃ gap : Gap, cs = gap.1 ++ (l.toChars ++ rest) :=
      ⟨⟨cs.takeWhile isGap, List.all_eq_true.1 List.all_takeWhile⟩,
        by rw [← split, List.takeWhile_append_dropWhile]⟩
    subst whole
    dsimp only at h
    split at h
    · rename_i blank
      cases h
      exact ⟨⟨[(gap, l)], List.cons_ne_nil _ _, ⟨rest, List.all_eq_true.1 blank⟩⟩, rfl,
        by simp [ComparatorSet.toChars]⟩
    · obtain ⟨later, read_rest, h⟩ := Option.bind_eq_some_iff.1 h
      cases h
      obtain ⟨s, rfl, rfl⟩ := ih read_rest
      exact ⟨⟨(gap, l) :: s.items, List.cons_ne_nil _ _, s.after⟩, rfl,
        by simp [ComparatorSet.toChars]⟩

end SourceMatch.Version.Range
