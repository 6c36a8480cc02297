import SourceMatch.Compiler.Index
import SourceMatch.Proofs.Version.Spelling
import Mathlib.Data.List.Infix

/-!
The first complete version clause of a source counts. A clause ends at the first semicolon behind
its beginning, so that once a semicolon has come, what is put behind a text makes no clause of what
was none. What is put before a text on a line of its own begins no clause unless it has the letters
of the first word.
-/
namespace SourceMatch.Version.Pragma

open Text
open Range (Space)

variable {cs rest text : List Char}

structure Clause where
  outer : Space
  inner : Space
  text : List Char
  nonempty : text ≠ []
  closed : ';' ∉ text

namespace Clause

def front (c : Clause) : List Char :=
  "pragma".toList ++ (c.outer.1 ++ ("solidity".toList ++ (c.inner.1 ++ c.text)))

theorem front_eq (c : Clause) : c.front =
    "pragma".toList ++ (c.outer.1 ++ ("solidity".toList ++ (c.inner.1 ++ c.text))) := rfl

def toChars (c : Clause) : List Char := c.front ++ [';']

def expression (c : Clause) : List Char := trim c.text

theorem toChars_append (c : Clause) (rest : List Char) : c.toChars ++ rest =
    "pragma".toList ++
      (c.outer.1 ++ ("solidity".toList ++ (c.inner.1 ++ (c.text ++ ';' :: rest)))) := by
  simp only [toChars, front_eq, List.append_assoc, List.cons_append, List.nil_append]

theorem semicolon_not_mem_front (c : Clause) : ';' ∉ c.front := by
  have blank (space : Space) : ';' ∉ space.1 := by
    intro mem
    have := space.2.2 _ mem
    revert this
    decide
  simp only [front_eq, List.mem_append, not_or]
  exact ⟨by decide, blank c.outer, by decide, blank c.inner, c.closed⟩

end Clause

/-- A clause with this expression stands in the text, and none begins before it. -/
def IsFirst (expression cs : List Char) : Prop :=
  ∃ (before : List Char) (c : Clause) (rest : List Char),
    cs = before ++ (c.toChars ++ rest) ∧ c.expression = expression ∧
      ∀ (front : List Char) (other : Clause) (behind : List Char),
        cs = front ++ (other.toChars ++ behind) → before.length ≤ front.length

theorem blanks?_eq_some_iff {blanks : List Char} : blanks? cs = some (blanks, rest) ↔
    cs = blanks ++ rest ∧ blanks ≠ [] ∧ (∀ c ∈ blanks, isBlank c = true) ∧ Stops isBlank rest := by
  rw [blanks?]
  cases run : cs.span isBlank with
  | mk front behind =>
    obtain ⟨rfl, blank, stop⟩ := span_eq_iff.1 run
    cases front with
    | nil =>
      refine ⟨nofun, ?_⟩
      rintro ⟨split, nonempty, all, stop'⟩
      have := span_eq_iff.2 ⟨split, all, stop'⟩
      rw [run, Prod.mk.injEq] at this
      exact absurd this.1.symm nonempty
    | cons b bs =>
      constructor
      · intro same
        cases same
        exact ⟨rfl, List.cons_ne_nil b bs, blank, stop⟩
      · rintro ⟨split, -, all, stop'⟩
        have := span_eq_iff.2 ⟨split, all, stop'⟩
        rw [run, Prod.mk.injEq] at this
        obtain ⟨rfl, rfl⟩ := this
        rfl

theorem stops_word : Stops isBlank "solidity".toList := stops_cons.2 rfl

def text? (blanks cs : List Char) : Option (List Char) :=
  match cs.span (· ≠ ';') with
  | (_, []) => none
  | ([], _ :: _) => if 2 ≤ blanks.length then some [] else none
  | (text, _ :: _) => some (trim text)

theorem text?_eq_some_iff {blanks : List Char} : text? blanks cs = some text ↔
    ∃ body behind, cs = body ++ ';' :: behind ∧ ';' ∉ body ∧
      (body = [] ∧ 2 ≤ blanks.length ∧ text = [] ∨ body ≠ [] ∧ text = trim body) := by
  have other (body : List Char) : (∀ c ∈ body, decide (c ≠ ';') = true) ↔ ';' ∉ body := by
    simp only [decide_eq_true_eq]
    exact ⟨fun h mem => h _ mem rfl, fun h c mem same => h (same ▸ mem)⟩
  have run {body behind : List Char} (closed : ';' ∉ body) :
      (body ++ ';' :: behind).span (· ≠ ';') = (body, ';' :: behind) :=
    span_append ((other body).2 closed) (stops_cons.2 rfl)
  constructor
  · intro read
    rw [text?] at read
    cases parts : cs.span (· ≠ ';') with
    | mk body rest =>
      obtain ⟨rfl, all, stop⟩ := span_eq_iff.1 parts
      rw [parts] at read
      cases rest with
      | nil => cases read
      | cons c behind =>
        have mark : c = ';' := by simpa using stops_cons.1 stop
        subst mark
        refine ⟨body, behind, rfl, (other body).1 all, ?_⟩
        cases body with
        | nil =>
          dsimp only at read
          split at read
          · rename_i two
            exact .inl ⟨rfl, two, (Option.some.inj read).symm⟩
          · cases read
        | cons b body => exact .inr ⟨List.cons_ne_nil b body, (Option.some.inj read).symm⟩
  · rintro ⟨body, behind, rfl, closed, ⟨rfl, two, rfl⟩ | ⟨nonempty, rfl⟩⟩
    · rw [text?, run closed]
      exact if_pos two
    · rw [text?, run closed]
      cases body with
      | nil => exact absurd rfl nonempty
      | cons b body => rfl

theorem clause?_eq_some_iff_words : clause? cs = some text ↔
    ∃ (outer inner : Space) (rest : List Char), Stops isBlank rest ∧
      cs = "pragma".toList ++ (outer.1 ++ ("solidity".toList ++ (inner.1 ++ rest))) ∧
      text? inner.1 rest = some text := by
  simp only [clause?, Option.bind_eq_bind, Option.bind_eq_some_iff, after?_eq_some_iff, Prod.exists,
    blanks?_eq_some_iff]
  constructor
  · rintro ⟨_, rfl, outer, _, ⟨rfl, outerSome, outerBlank, -⟩, _, rfl, inner, rest,
      ⟨rfl, innerSome, innerBlank, stop⟩, read⟩
    exact ⟨⟨outer, outerSome, outerBlank⟩, ⟨inner, innerSome, innerBlank⟩, rest, stop, rfl, read⟩
  · rintro ⟨outer, inner, rest, stop, rfl, read⟩
    exact ⟨_, rfl, outer.1, _, ⟨rfl, outer.2.1, outer.2.2, stops_append (by decide) stops_word⟩, _,
      rfl, inner.1, rest, ⟨rfl, inner.2.1, inner.2.2, stop⟩, read⟩

theorem trim_of_blank (blank : ∀ c ∈ cs, isBlank c = true) : trim cs = [] := by
  have := trim_blanks_append [] blank
  rwa [List.append_nil] at this

/-- A clause is read where one is written. Of a text of blanks alone the reader takes all but its
last blank for the blanks before it, which trimming does not show. -/
theorem clause?_eq_some_iff : clause? cs = some text ↔
    ∃ (c : Clause) (rest : List Char), cs = c.toChars ++ rest ∧ c.expression = text := by
  rw [clause?_eq_some_iff_words]
  constructor
  · rintro ⟨outer, inner, rest, stop, rfl, read⟩
    obtain ⟨body, behind, rfl, closed, ⟨rfl, two, rfl⟩ | ⟨nonempty, rfl⟩⟩ :=
      text?_eq_some_iff.1 read
    · obtain ⟨blanks, nonempty, blank⟩ := inner
      obtain ⟨init, last, rfl⟩ : ∃ init last, blanks = init ++ [last] :=
        ⟨_, _, (List.dropLast_append_getLast nonempty).symm⟩
      have some_blank : init ≠ [] := by
        rintro rfl
        simp at two
      have lastBlank : isBlank last = true := blank last (by simp)
      refine ⟨⟨outer, ⟨init, some_blank, fun c mem => blank c (List.mem_append_left _ mem)⟩,
        [last], List.cons_ne_nil _ _, ?_⟩, behind, ?_, ?_⟩
      · intro mem
        rw [← List.mem_singleton.1 mem] at lastBlank
        revert lastBlank
        decide
      · rw [Clause.toChars_append, List.append_assoc]
        rfl
      · exact trim_of_blank (List.forall_mem_singleton.2 lastBlank)
    · let clause : Clause := ⟨outer, inner, body, nonempty, closed⟩
      exact ⟨clause, behind, (clause.toChars_append behind).symm, rfl⟩
  · rintro ⟨c, rest, rfl, rfl⟩
    obtain ⟨outer, inner, text, nonempty, closed⟩ := c
    cases run : text.span isBlank with
    | mk lead body =>
      obtain ⟨rfl, blank, stop⟩ := span_eq_iff.1 run
      have closed' : ';' ∉ body := fun mem => closed (List.mem_append_right lead mem)
      refine ⟨outer, ⟨inner.1 ++ lead, by simp [inner.2.1], ?_⟩, body ++ ';' :: rest, ?_, ?_,
        text?_eq_some_iff.2 ⟨body, rest, rfl, closed', ?_⟩⟩
      · intro c mem
        exact (List.mem_append.1 mem).elim (inner.2.2 c) (blank c)
      · cases body with
        | nil => exact stops_cons.2 rfl
        | cons b body => exact stop
      · rw [Clause.toChars_append, List.append_assoc, List.append_assoc]
      · rw [Clause.expression, trim_blanks_append body blank]
        cases body with
        | nil =>
          have before := List.length_pos_iff.2 inner.2.1
          have inside : 0 < lead.length := by
            rw [List.append_nil] at nonempty
            exact List.length_pos_iff.2 nonempty
          refine .inl ⟨rfl, ?_, rfl⟩
          rw [List.length_append]
          omega
        | cons b body => exact .inr ⟨List.cons_ne_nil b body, rfl⟩

theorem clause?_append (read : clause? cs = some text) (behind : List Char) :
    clause? (cs ++ behind) = some text := by
  obtain ⟨c, rest, rfl, same⟩ := clause?_eq_some_iff.1 read
  exact clause?_eq_some_iff.2 ⟨c, rest ++ behind, List.append_assoc _ _ _, same⟩

theorem semicolon_mem_of_clause? (read : clause? cs = some text) : ';' ∈ cs := by
  obtain ⟨c, rest, rfl, -⟩ := clause?_eq_some_iff.1 read
  simp [Clause.toChars]

theorem clause?_append_eq_none (ended : ';' ∈ cs) (unread : clause? cs = none) (behind : List Char) :
    clause? (cs ++ behind) = none := by
  cases read : clause? (cs ++ behind) with
  | none => rfl
  | some text =>
    exfalso
    obtain ⟨c, rest, split, same⟩ := clause?_eq_some_iff.1 read
    rcases List.append_eq_append_iff.1 split with ⟨more, short, -⟩ | ⟨more, long, -⟩
    · -- the text would end inside the clause, in front of its semicolon
      cases more using List.reverseRecOn with
      | nil =>
        rw [List.append_nil] at short
        have whole := clause?_eq_some_iff.2 ⟨c, [], by rw [List.append_nil, short], same⟩
        rw [unread] at whole
        cases whole
      | append_singleton more last =>
        rw [Clause.toChars, ← List.append_assoc] at short
        have front := (List.append_inj' short rfl).1
        exact c.semicolon_not_mem_front (front ▸ List.mem_append_left more ended)
    · have whole := clause?_eq_some_iff.2 ⟨c, more, long, same⟩
      rw [unread] at whole
      cases whole

theorem semicolon_mem_of_first? (found : first? cs = some text) : ';' ∈ cs := by
  induction cs with
  | nil => cases found
  | cons c cs ih =>
    rw [first?] at found
    cases read : clause? (c :: cs) with
    | some text' => exact semicolon_mem_of_clause? read
    | none =>
      rw [read] at found
      exact List.mem_cons_of_mem c (ih found)

theorem first?_append (found : first? cs = some text) (behind : List Char) :
    first? (cs ++ behind) = some text := by
  induction cs with
  | nil => cases found
  | cons c cs ih =>
    rw [first?] at found
    rw [List.cons_append, first?]
    cases read : clause? (c :: cs) with
    | some text' =>
      rw [read] at found
      have := clause?_append read behind
      rw [List.cons_append] at this
      rw [this, ← found]
    | none =>
      rw [read] at found
      have ended : ';' ∈ c :: cs := List.mem_cons_of_mem c (semicolon_mem_of_first? found)
      have := clause?_append_eq_none ended read behind
      rw [List.cons_append] at this
      rw [this]
      exact ih found

theorem clause?_line {line : List Char} (quiet : ¬"pragma".toList <:+: line) (behind : List Char) :
    clause? (line ++ '\n' :: behind) = none := by
  cases read : clause? (line ++ '\n' :: behind) with
  | none => rfl
  | some text =>
    exfalso
    obtain ⟨outer, inner, rest, -, split, -⟩ := clause?_eq_some_iff_words.1 read
    rcases List.append_eq_append_iff.1 split with ⟨more, short, later⟩ | ⟨more, long, -⟩
    · cases more with
      | nil => exact quiet ⟨[], [], by simpa using short⟩
      | cons c more =>
        have break_mem : '\n' ∈ "pragma".toList := by
          rw [short, (List.cons.inj later).1]
          simp
        revert break_mem
        decide
    · exact quiet ⟨[], more, by simpa using long.symm⟩

theorem first?_line {line : List Char} (quiet : ¬"pragma".toList <:+: line) (behind : List Char) :
    first? (line ++ '\n' :: behind) = first? behind := by
  induction line with
  | nil =>
    have := clause?_line quiet behind
    rw [List.nil_append] at this ⊢
    rw [first?, this]
  | cons c line ih =>
    have := clause?_line quiet behind
    rw [List.cons_append] at this ⊢
    rw [first?, this]
    exact ih fun inside => quiet (inside.trans (List.suffix_cons c line).isInfix)

theorem first?_eq_some_iff : first? cs = some text ↔ IsFirst text cs := by
  induction cs with
  | nil =>
    refine ⟨nofun, ?_⟩
    rintro ⟨before, c, rest, split, -⟩
    simp [Clause.toChars] at split
  | cons c cs ih =>
    rw [first?]
    cases read : clause? (c :: cs) with
    | some text' =>
      obtain ⟨clause, rest, split, same⟩ := clause?_eq_some_iff.1 read
      constructor
      · intro found
        cases found
        exact ⟨[], clause, rest, split, same, fun front _ _ _ => Nat.zero_le _⟩
      · rintro ⟨before, clause', rest', split', same', least⟩
        have atOnce : before = [] := by
          have := least [] clause rest split
          exact List.length_eq_zero_iff.1 (Nat.le_zero.1 this)
        subst atOnce
        have same := clause?_eq_some_iff.2 ⟨clause', rest', split', same'⟩
        rw [read] at same
        exact same
    | none =>
      have later {front : List Char} {clause : Clause} {rest : List Char}
          (split : c :: cs = front ++ (clause.toChars ++ rest)) :
          ∃ front', front = c :: front' ∧ cs = front' ++ (clause.toChars ++ rest) := by
        cases front with
        | nil =>
          have := clause?_eq_some_iff.2 ⟨clause, rest, split, rfl⟩
          rw [read] at this
          cases this
        | cons d front =>
          obtain ⟨rfl, tail⟩ := List.cons.inj split
          exact ⟨front, rfl, tail⟩
      refine ih.trans ⟨?_, ?_⟩
      · rintro ⟨before, clause, rest, rfl, same, least⟩
        refine ⟨c :: before, clause, rest, rfl, same, fun front other behind split => ?_⟩
        obtain ⟨front', rfl, tail⟩ := later split
        exact Nat.succ_le_succ (least front' other behind tail)
      · rintro ⟨before, clause, rest, split, same, least⟩
        obtain ⟨before', rfl, tail⟩ := later split
        refine ⟨before', clause, rest, tail, same, fun front other behind split' => ?_⟩
        have := least (c :: front) other behind (by rw [split']; rfl)
        exact Nat.le_of_succ_le_succ this

theorem extract?_eq_some_iff {source version : String} :
    extract? source = some version ↔ first? source.toList = some version.toList := by
  rw [extract?, Option.map_eq_some_iff]
  constructor
  · rintro ⟨text, found, rfl⟩
    rw [found, String.toList_ofList]
  · intro found
    exact ⟨_, found, String.ofList_toList⟩

theorem resolve?_congr {source source' : String} (same : extract? source = extract? source')
    (i : CompilerIndex) : i.resolve? source = i.resolve? source' := by
  rw [CompilerIndex.resolve?, CompilerIndex.resolve?, same]

/-- The expression of a source is that of its first complete clause. It stays whatever is put behind
the source, and whatever is put before it on lines without the letters of the word that begins a
clause; and so does the release that the source selects. -/
theorem first_clause_decides (source : String) :
    (∀ version : String,
      extract? source = some version ↔ IsFirst version.toList source.toList) ∧
    (∀ version : String, extract? source = some version → ∀ behind : String,
      extract? (source ++ behind) = some version ∧
        ∀ i : CompilerIndex, i.resolve? (source ++ behind) = i.resolve? source) ∧
    ∀ before : String, ¬"pragma".toList <:+: before.toList →
      extract? (before ++ "\n" ++ source) = extract? source ∧
        ∀ i : CompilerIndex, i.resolve? (before ++ "\n" ++ source) = i.resolve? source := by
  refine ⟨fun version => ?_, fun version found behind => ?_, fun before quiet => ?_⟩
  · rw [extract?_eq_some_iff, first?_eq_some_iff]
  · have longer : extract? (source ++ behind) = some version := by
      rw [extract?_eq_some_iff, String.toList_append]
      exact first?_append (extract?_eq_some_iff.1 found) behind.toList
    exact ⟨longer, resolve?_congr (longer.trans found.symm)⟩
  · have same : extract? (before ++ "\n" ++ source) = extract? source := by
      have line : (before ++ "\n" ++ source).toList =
          before.toList ++ '\n' :: source.toList := by
        simp [String.toList_append]
      rw [extract?, extract?, line, first?_line quiet]
    exact ⟨same, resolve?_congr same⟩

theorem first_clause_decides_sample :
    let source := "pragma solidity ;\npragma solidity ^0.8.0;"
    let behind := "\npragma solidity 0.7.6;"
    let before := "contract A \x7b\x7d // pragm solidity 0.6.12;"
    extract? source = some "^0.8.0" ∧ extract? (source ++ behind) = some "^0.8.0" ∧
      ¬"pragma".toList <:+: before.toList ∧
      extract? (before ++ "\n" ++ source) = some "^0.8.0" := by
  intro source behind before
  obtain ⟨-, later, earlier⟩ := first_clause_decides source
  have found : extract? source = some "^0.8.0" := by decide +kernel
  have quiet : ¬"pragma".toList <:+: before.toList := by decide +kernel
  exact ⟨found, (later _ found behind).1, quiet, (earlier before quiet).1.trans found⟩

end SourceMatch.Version.Pragma
