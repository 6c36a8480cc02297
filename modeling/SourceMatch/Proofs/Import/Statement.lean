import SourceMatch.Import.Resolver
import SourceMatch.Proofs.Text.Cut
import Mathlib.Data.List.Infix
import Mathlib.Data.List.TakeWhile

/-!
Import statements as they are written, with any text between them. A statement is read from its
first letter to the quote behind its path. What follows up to its semicolon holds no other one: a
new name may end in the word `import`, but then blanks and the semicolon come next. Nor does text
without the letters `import`, since no part of this word but its whole begins with its first
letter, so that no statement begins in a text and ends its word in the next one.
-/
namespace SourceMatch

namespace Text

def blankPoints : List Nat :=
  [9, 10, 11, 12, 13, 0x20, 0x85, 0xA0, 0x1680, 0x2000, 0x2001, 0x2002, 0x2003, 0x2004, 0x2005,
    0x2006, 0x2007, 0x2008, 0x2009, 0x200A, 0x2028, 0x2029, 0x202F, 0x205F, 0x3000]

theorem mem_blankPoints {c : Char} (h : isBlank c = true) : c.toNat ∈ blankPoints := by
  simp only [isBlank, Bool.or_eq_true, Bool.and_eq_true, decide_eq_true_eq] at h
  simp only [blankPoints, List.mem_cons, List.not_mem_nil, or_false]
  omega

theorem isWord_of_isBlank {c : Char} (h : isBlank c = true) : isWord c = false := by
  have point := mem_blankPoints h
  rw [isWord]
  split
  · rename_i low
    have apart : ∀ n ∈ blankPoints, n < 128 →
        ((Char.ofNat n).isAlphanum || decide (Char.ofNat n = '_')) = false := by decide
    have other := apart c.toNat point low
    rwa [Char.ofNat_toNat] at other
  · have apart : (wordRanges.toList.all fun range =>
        blankPoints.all fun n => n.blt range.1 || range.2.blt n) = true := by decide +kernel
    rw [← Bool.not_eq_true, Unicode.Ranges.contains_iff]
    rintro ⟨range, listed, low, high⟩
    have inside := List.all_eq_true.1 apart range (Array.mem_toList_iff.2 listed)
    have other := List.all_eq_true.1 inside c.toNat point
    rw [Bool.or_eq_true, Nat.blt_eq, Nat.blt_eq] at other
    omega

theorem isBlank_of_isWord {c : Char} (h : isWord c = true) : isBlank c = false := by
  rw [← Bool.not_eq_true]
  intro blank
  rw [isWord_of_isBlank blank] at h
  cases h

end Text

namespace Import

open Text (isBlank isWord Stops stops_cons span_append dropWhile_append)

abbrev Blanks := { cs : List Char // ∀ c ∈ cs, isBlank c = true }

abbrev Gap := { cs : List Char // cs ≠ [] ∧ ∀ c ∈ cs, isBlank c = true }

abbrev NewName := { cs : List Char // cs ≠ [] ∧ ∀ c ∈ cs, isWord c = true }

abbrev Names := { cs : List Char // '\x7d' ∉ cs }

structure Quoted where
  quote : Char
  path : List Char
  quotes : isQuote quote = true
  nonempty : path ≠ []
  unquoted : ∀ c ∈ path, isQuote c = false

/-- What is imported. Blanks may be missing behind a brace and behind a quote. -/
inductive Form where
  | file
  | fileAs (before : Blanks) (inner : Gap) (name : NewName)
  | named (names : Names) (before : Blanks) (after : Gap)
  | allAs (before inner : Gap) (name : NewName) (behind after : Gap)

def Form.clause : Form → List Char
  | .file | .fileAs _ _ _ => []
  | .named names before after =>
    '\x7b' :: (names.1 ++ '\x7d' :: (before.1 ++ ("from".toList ++ after.1)))
  | .allAs before inner name behind after =>
    '*' :: (before.1 ++ ("as".toList ++ (inner.1 ++ (name.1 ++ (behind.1 ++
      ("from".toList ++ after.1))))))

def Form.addition : Form → List Char
  | .fileAs before inner name => before.1 ++ ("as".toList ++ (inner.1 ++ name.1))
  | .file | .named _ _ _ | .allAs _ _ _ _ _ => []

structure Stated where
  gap : Gap
  form : Form
  quoted : Quoted
  blanks : Blanks

namespace Stated

def path (s : Stated) : String := String.ofList s.quoted.path

def front (s : Stated) : List Char :=
  "import".toList ++ (s.gap.1 ++ (s.form.clause ++
    s.quoted.quote :: (s.quoted.path ++ [s.quoted.quote])))

def remainder (s : Stated) : List Char := s.form.addition ++ (s.blanks.1 ++ [';'])

def toChars (s : Stated) : List Char := s.front ++ s.remainder

end Stated

/-- A text without the letters of the word `import`. -/
abbrev Quiet := { cs : List Char // ¬"import".toList <:+: cs }

structure Written where
  statements : List (Quiet × Stated)
  last : Quiet

def sourceChars (statements : List (Quiet × Stated)) (last : Quiet) : List Char :=
  statements.flatMap (fun p => p.1.1 ++ p.2.toChars) ++ last.1

namespace Written

def paths (w : Written) : List String := w.statements.map (·.2.path)

def text (w : Written) : String := String.ofList (sourceChars w.statements w.last)

end Written

variable {cs rest path : List Char} {q : Char}

theorem isBlank_of_isQuote (h : isQuote q = true) : isBlank q = false := by
  rw [isQuote, Bool.or_eq_true, decide_eq_true_eq, decide_eq_true_eq] at h
  rcases h with rfl | rfl <;> decide

theorem afterBlanks?_gap (gap : Gap) (rest : List Char) (stop : Stops isBlank rest) :
    afterBlanks? (gap.1 ++ rest) = some rest := by
  obtain ⟨cs, nonempty, blank⟩ := gap
  rw [afterBlanks?, span_append blank stop]
  cases cs with
  | nil => exact absurd rfl nonempty
  | cons c cs => rfl

theorem afterWord?_append (word : String) (gap : Gap) (stop : Stops isBlank rest) :
    afterWord? word (word.toList ++ (gap.1 ++ rest)) = some rest := by
  rw [afterWord?, Text.after?_eq_some_iff.2 rfl]
  exact afterBlanks?_gap gap rest stop

theorem afterNames?_append (names : Names) (before : Blanks) (after : Gap)
    (stop : Stops isBlank rest) :
    afterNames? (names.1 ++ '\x7d' :: (before.1 ++ ("from".toList ++ (after.1 ++ rest)))) =
      some rest := by
  obtain ⟨names, closed⟩ := names
  have inside : ∀ c ∈ names, decide (c ≠ '\x7d') = true := by
    intro c listed
    refine decide_eq_true fun brace => closed ?_
    rwa [← brace]
  have brace : Stops (fun c => decide (c ≠ '\x7d'))
      ('\x7d' :: (before.1 ++ ("from".toList ++ (after.1 ++ rest)))) := stops_cons.2 rfl
  have word : Stops isBlank ("from".toList ++ (after.1 ++ rest)) := stops_cons.2 rfl
  rw [afterNames?, dropWhile_append inside brace]
  change afterWord? "from" (Text.trimLeft _) = _
  rw [Text.trimLeft, dropWhile_append before.2 word]
  exact afterWord?_append "from" after stop

theorem stops_isWord (gap : Gap) (cs : List Char) : Stops isWord (gap.1 ++ cs) := by
  obtain ⟨gap, nonempty, blank⟩ := gap
  refine Text.stops_append nonempty fun c first => Text.isWord_of_isBlank (blank c ?_)
  exact List.mem_of_mem_head? first

theorem stops_isBlank (name : NewName) (cs : List Char) : Stops isBlank (name.1 ++ cs) := by
  obtain ⟨name, nonempty, word⟩ := name
  refine Text.stops_append nonempty fun c first => Text.isBlank_of_isWord (word c ?_)
  exact List.mem_of_mem_head? first

theorem afterAlias?_append (before inner : Gap) (name : NewName) (behind after : Gap)
    (stop : Stops isBlank rest) :
    afterAlias? (before.1 ++ ("as".toList ++ (inner.1 ++ (name.1 ++ (behind.1 ++
      ("from".toList ++ (after.1 ++ rest))))))) = some rest := by
  have toWord := afterBlanks?_gap before ("as".toList ++ (inner.1 ++ (name.1 ++
    (behind.1 ++ ("from".toList ++ (after.1 ++ rest)))))) (stops_cons.2 rfl)
  have toName := afterWord?_append "as" inner (stops_isBlank name (behind.1 ++
    ("from".toList ++ (after.1 ++ rest))))
  have toBehind : (name.1 ++ (behind.1 ++ ("from".toList ++ (after.1 ++ rest)))).span isWord =
      (name.1, behind.1 ++ ("from".toList ++ (after.1 ++ rest))) :=
    span_append name.2.2 (stops_isWord behind _)
  have toFrom := afterBlanks?_gap behind ("from".toList ++ (after.1 ++ rest)) (stops_cons.2 rfl)
  have toRest := afterWord?_append "from" after stop
  obtain ⟨name, nonempty, word⟩ := name
  cases name with
  | nil => exact absurd rfl nonempty
  | cons c name =>
    simp only [afterAlias?, toWord, toName, toBehind, toFrom, toRest, Option.bind_eq_bind,
      Option.bind_some]

theorem afterClause?_clause (form : Form) (quotes : isQuote q = true) (rest : List Char) :
    afterClause? (form.clause ++ q :: rest) = some (q :: rest) := by
  have stop : Stops isBlank (q :: rest) := stops_cons.2 (isBlank_of_isQuote quotes)
  have file : afterClause? (q :: rest) = some (q :: rest) := by
    rw [isQuote, Bool.or_eq_true, decide_eq_true_eq, decide_eq_true_eq] at quotes
    rcases quotes with rfl | rfl <;> rfl
  cases form with
  | file => exact file
  | fileAs => exact file
  | named names before after =>
    simp only [Form.clause, List.cons_append, List.append_assoc]
    exact afterNames?_append names before after stop
  | allAs before inner name behind after =>
    simp only [Form.clause, List.cons_append, List.append_assoc]
    exact afterAlias?_append before inner name behind after stop

theorem quoted?_append (p : Quoted) (rest : List Char) :
    quoted? (p.quote :: (p.path ++ p.quote :: rest)) = some (p.path, rest) := by
  obtain ⟨quote, path, quotes, nonempty, unquoted⟩ := p
  have inside : ∀ c ∈ path, (!isQuote c) = true := fun c listed => by rw [unquoted c listed]; rfl
  have ends : Stops (fun c => !isQuote c) (quote :: rest) := stops_cons.2 (by rw [quotes]; rfl)
  rw [quoted?, if_pos quotes, span_append inside ends]
  cases path with
  | nil => exact absurd rfl nonempty
  | cons c path => rfl

theorem stops_clause (form : Form) (quotes : isQuote q = true) (rest : List Char) :
    Stops isBlank (form.clause ++ q :: rest) := by
  cases form with
  | file | fileAs => exact stops_cons.2 (isBlank_of_isQuote quotes)
  | named | allAs => exact stops_cons.2 rfl

theorem statement?_front (s : Stated) (rest : List Char) :
    statement? (s.front ++ rest) = some (s.quoted.path, rest) := by
  have toClause := afterWord?_append "import" s.gap
    (stops_clause s.form s.quoted.quotes (s.quoted.path ++ s.quoted.quote :: rest))
  have split (word : List Char) : (word ++ (s.gap.1 ++ (s.form.clause ++ s.quoted.quote ::
      (s.quoted.path ++ [s.quoted.quote])))) ++ rest = word ++ (s.gap.1 ++ (s.form.clause ++
        s.quoted.quote :: (s.quoted.path ++ s.quoted.quote :: rest))) := by simp
  have front : s.front ++ rest = "import".toList ++ (s.gap.1 ++ (s.form.clause ++
      s.quoted.quote :: (s.quoted.path ++ s.quoted.quote :: rest))) := split _
  rw [front]
  simp only [statement?, toClause, afterClause?_clause s.form s.quoted.quotes,
    quoted?_append s.quoted rest, Option.bind_eq_bind, Option.bind_some]

/-- No statement begins in a text with another one behind it. -/
inductive Silent (rest : List Char) : List Char → Prop
  | nil : Silent rest []
  | cons {c : Char} {cs : List Char} (none : statement? (c :: cs ++ rest) = none)
      (later : Silent rest cs) : Silent rest (c :: cs)

theorem Silent.statementPaths (silent : Silent rest cs) :
    statementPaths 0 (cs ++ rest) = statementPaths 0 rest := by
  induction silent with
  | nil => rfl
  | cons none later ih =>
    rw [List.cons_append] at none ⊢
    rw [Import.statementPaths, none, ih]

theorem statementPaths_length (front rest : List Char) :
    statementPaths front.length (front ++ rest) = statementPaths 0 rest := by
  induction front with
  | nil => rfl
  | cons c front ih => exact ih

theorem statementPaths_front (s : Stated) (rest : List Char) :
    statementPaths 0 (s.front ++ rest) = s.quoted.path :: statementPaths 0 rest := by
  have found := statement?_front s rest
  have begins : ∃ more, s.front = 'i' :: more := ⟨_, rfl⟩
  obtain ⟨more, begins⟩ := begins
  rw [begins, List.cons_append] at found ⊢
  rw [statementPaths, found]
  have length : (more ++ rest).length - rest.length = more.length := by
    rw [List.length_append, Nat.add_sub_cancel]
  dsimp only
  rw [length, statementPaths_length]

theorem exists_of_afterBlanks? (h : afterBlanks? cs = some rest) :
    ∃ gap : Gap, cs = gap.1 ++ rest ∧ Stops isBlank rest := by
  rw [afterBlanks?, List.span_eq_takeWhile_dropWhile] at h
  have cut := List.takeWhile_append_dropWhile (p := isBlank) (l := cs)
  have blank : ∀ c ∈ cs.takeWhile isBlank, isBlank c = true := fun c => List.mem_takeWhile_imp
  split at h
  · cases h
  · rename_i nonempty same
    obtain ⟨rfl, rfl⟩ := Prod.mk.inj same
    cases h
    refine ⟨⟨_, nonempty, blank⟩, cut.symm, fun c first => ?_⟩
    have stop := List.head?_dropWhile_not isBlank cs
    rw [Option.mem_def.1 first] at stop
    exact stop

theorem exists_of_statement? {found : List Char × List Char} (h : statement? cs = some found) :
    ∃ (gap : Gap) (c : Char) (more : List Char),
      cs = "import".toList ++ (gap.1 ++ c :: more) ∧ isBlank c = false ∧ c ≠ ';' := by
  rw [statement?] at h
  obtain ⟨behind, word, h⟩ := Option.bind_eq_some_iff.1 h
  obtain ⟨clause, skipped, h⟩ := Option.bind_eq_some_iff.1 h
  rw [afterWord?] at word
  obtain ⟨spaced, begins, blanks⟩ := Option.bind_eq_some_iff.1 word
  rw [Text.after?_eq_some_iff] at begins
  obtain ⟨gap, split, stop⟩ := exists_of_afterBlanks? blanks
  subst begins split
  cases behind with
  | nil =>
    cases skipped
    cases h
  | cons c more =>
    refine ⟨gap, c, more, rfl, stops_cons.1 stop, ?_⟩
    rintro rfl
    cases skipped
    cases h

theorem statement?_word {word blanks : List Char} (isWords : ∀ c ∈ word, isWord c = true)
    (blank : ∀ c ∈ blanks, isBlank c = true) (rest : List Char) :
    statement? (word ++ (blanks ++ ';' :: rest)) = none := by
  rw [Option.eq_none_iff_forall_ne_some]
  intro found begins
  obtain ⟨gap, c, more, same, other, apart⟩ := exists_of_statement? begins
  -- both texts are cut behind their words, then behind their blanks
  have behindWord : blanks ++ ';' :: rest = gap.1 ++ c :: more := by
    have ends : Stops isWord (blanks ++ ';' :: rest) := by
      cases blanks with
      | nil => exact stops_cons.2 (by decide +kernel)
      | cons b blanks => exact stops_cons.2 (Text.isWord_of_isBlank (blank b List.mem_cons_self))
    have left : (word ++ (blanks ++ ';' :: rest)).dropWhile isWord = blanks ++ ';' :: rest :=
      dropWhile_append isWords ends
    have right : ("import".toList ++ (gap.1 ++ c :: more)).dropWhile isWord = gap.1 ++ c :: more :=
      dropWhile_append (List.all_eq_true.1 (by decide +kernel)) (stops_isWord gap _)
    rw [← left, same, right]
  have semicolon : ';' :: rest = c :: more := by
    have left : (blanks ++ ';' :: rest).dropWhile isBlank = ';' :: rest :=
      dropWhile_append blank (stops_cons.2 rfl)
    have right : (gap.1 ++ c :: more).dropWhile isBlank = c :: more :=
      dropWhile_append gap.2.2 (stops_cons.2 other)
    rw [← left, behindWord, right]
  exact apart (List.cons.inj semicolon).1.symm

theorem statement?_of_ne {c : Char} (other : c ≠ 'i') (cs : List Char) :
    statement? (c :: cs) = none := by
  rw [Option.eq_none_iff_forall_ne_some]
  intro found begins
  obtain ⟨gap, d, more, same, -, -⟩ := exists_of_statement? begins
  exact other (List.cons.inj same).1

theorem Silent.of_ne {front : List Char} (other : ∀ c ∈ front, c ≠ 'i') (later : Silent rest cs) :
    Silent rest (front ++ cs) := by
  induction front with
  | nil => exact later
  | cons c front ih =>
    obtain ⟨first, others⟩ := List.forall_mem_cons.1 other
    exact .cons (statement?_of_ne first _) (ih others)

theorem ne_of_isBlank {c : Char} (h : isBlank c = true) : c ≠ 'i' := by
  rintro rfl
  cases h

theorem silent_word {word : List Char} (isWords : ∀ c ∈ word, isWord c = true) (blanks : Blanks)
    (rest : List Char) : Silent rest (word ++ (blanks.1 ++ [';'])) := by
  induction word with
  | nil =>
    rw [List.nil_append]
    refine .of_ne (fun c listed => ne_of_isBlank (blanks.2 c listed)) ?_
    exact .cons (statement?_of_ne (by decide) _) .nil
  | cons c word ih =>
    refine .cons ?_ (ih fun d listed => isWords d (List.mem_cons_of_mem c listed))
    simpa using statement?_word isWords blanks.2 rest

theorem silent_remainder (s : Stated) (rest : List Char) : Silent rest s.remainder := by
  have short : Silent rest (s.blanks.1 ++ [';']) :=
    silent_word (List.forall_mem_nil _) s.blanks rest
  rw [Stated.remainder]
  cases s.form with
  | file | named | allAs => exact short
  | fileAs before inner name =>
    simp only [Form.addition, List.append_assoc]
    refine .of_ne (fun c listed => ne_of_isBlank (before.2 c listed)) ?_
    refine .of_ne (by simp) ?_
    refine .of_ne (fun c listed => ne_of_isBlank (inner.2.2 c listed)) ?_
    exact silent_word name.2.2 s.blanks rest

theorem silent_quiet (quiet : ¬"import".toList <:+: cs) (next : ∀ c ∈ rest.head?, c = 'i') :
    Silent rest cs := by
  induction cs with
  | nil => exact .nil
  | cons c cs ih =>
    refine .cons ?_ (ih fun inside => quiet (inside.trans (List.infix_cons (List.infix_refl cs))))
    rw [Option.eq_none_iff_forall_ne_some]
    intro found begins
    obtain ⟨gap, d, more, same, -, -⟩ := exists_of_statement? begins
    rcases List.append_eq_append_iff.1 same with ⟨between, word, later⟩ | ⟨after, inside, -⟩
    · cases between with
      | nil => exact quiet (word ▸ List.append_nil _ ▸ List.infix_refl _)
      | cons d' between =>
        -- the word would go on in the next text, which begins with its first letter
        have first : d' = 'i' := next d' (by rw [later]; rfl)
        have tail : "mport".toList = cs ++ d' :: between :=
          (List.cons.inj (show 'i' :: "mport".toList = c :: (cs ++ d' :: between) from word)).2
        have among : 'i' ∈ "mport".toList := by
          rw [tail, first]
          exact List.mem_append_right cs List.mem_cons_self
        exact absurd among (by decide)
    · exact quiet (inside ▸ (List.prefix_append _ _).isInfix)

theorem statementPaths_source (statements : List (Quiet × Stated)) (last : Quiet) :
    statementPaths 0 (sourceChars statements last) = statements.map (·.2.quoted.path) := by
  induction statements with
  | nil =>
    have silent : Silent [] last.1 := silent_quiet last.2 nofun
    have read := silent.statementPaths
    rwa [List.append_nil] at read
  | cons p statements ih =>
    have split : sourceChars (p :: statements) last =
        p.1.1 ++ (p.2.front ++ (p.2.remainder ++ sourceChars statements last)) := by
      simp [sourceChars, Stated.toChars]
    rw [split, (silent_quiet p.1.2 ?_).statementPaths, statementPaths_front,
      (silent_remainder p.2 _).statementPaths, ih, List.map_cons]
    intro c first
    exact (Option.some.inj first).symm

theorem pathsIn_text (w : Written) : pathsIn w.text = w.paths := by
  rw [pathsIn, Written.text, String.toList_ofList, statementPaths_source, List.map_map]
  rfl

end Import

namespace ImportResolver

theorem distinct_eq_eraseDups {α : Type} [DecidableEq α] (seen as : List α) :
    distinct seen as = (as.filter (· ∉ seen)).eraseDups := by
  induction as generalizing seen with
  | nil => rfl
  | cons a as ih =>
    rw [distinct]
    split
    · rename_i old
      rw [ih, List.filter_cons_of_neg (by simpa using old)]
    · rename_i new
      rw [ih, List.filter_cons_of_pos (by simpa using new), List.eraseDups_cons, List.filter_filter]
      have same : as.filter (· ∉ a :: seen) =
          as.filter fun b => !(b == a) && decide (b ∉ seen) := by
        refine List.filter_congr fun b _ => ?_
        rw [Bool.eq_iff_iff]
        simp
      rw [same]

/-- The imports of a written source are the paths of its statements, in their order, each where it
first occurs, less those whose file names are built-in. -/
theorem importsOf_written (r : ImportResolver) (w : Import.Written) :
    r.importsOf w.text =
      (w.paths.filter fun path => Import.fileNameOf path ∉ r.builtins).eraseDups := by
  have kept : (fun path => !r.isBuiltin path) = fun path =>
      decide (Import.fileNameOf path ∉ r.builtins) := by
    funext path
    rw [Bool.eq_iff_iff]
    simp [isBuiltin]
  have all (paths : List String) : paths.filter (· ∉ ([] : List String)) = paths :=
    List.filter_eq_self.2 fun path _ => by simp
  rw [importsOf, Import.pathsIn_text, kept, distinct_eq_eraseDups, all]

def sampleWritten : Import.Written :=
  let gap : Import.Gap := ⟨['\t', ' '], by simp [Text.isBlank]⟩
  let line : Import.Blanks := ⟨['\n'], by simp [Text.isBlank]⟩
  let name : Import.NewName := ⟨"import".toList, by simp [Text.isWord]⟩
  let first : Import.Quoted :=
    ⟨'"', "./A.sol".toList, by simp [Import.isQuote], by simp, by simp [Import.isQuote]⟩
  let second : Import.Quoted :=
    ⟨'\'', "./import.sol".toList, by simp [Import.isQuote], by simp, by simp [Import.isQuote]⟩
  let third : Import.Quoted :=
    ⟨'"', "lib/C.sol".toList, by simp [Import.isQuote], by simp, by simp [Import.isQuote]⟩
  { statements :=
      [(⟨"// names\n".toList, by decide⟩, ⟨gap, .file, first, line⟩),
        (⟨[], by decide⟩, ⟨gap, .fileAs line gap name, second, line⟩),
        (⟨['\n'], by decide⟩, ⟨gap, .named ⟨" A, B ".toList, by simp⟩ line gap, third, line⟩),
        (⟨[' '], by decide⟩, ⟨gap, .allAs gap gap name gap gap, first, line⟩)]
    last := ⟨"contract A".toList, by decide⟩ }

theorem importsOf_written_sample :
    sampleWritten.text = "// names\nimport\t \"./A.sol\"\n;" ++
      "import\t './import.sol'\nas\t import\n;\nimport\t \x7b A, B \x7d\nfrom\t \"lib/C.sol\"\n;" ++
      " import\t *\t as\t import\t from\t \"./A.sol\"\n;contract A" ∧
      importsOf {} sampleWritten.text = ["./A.sol", "./import.sol", "lib/C.sol"] ∧
      importsOf ⟨["C.sol"]⟩ sampleWritten.text = ["./A.sol", "./import.sol"] := by
  rw [importsOf_written, importsOf_written]
  decide +kernel

end ImportResolver

end SourceMatch
