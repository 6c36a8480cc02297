import SourceMatch.Proofs.Json.Reading
import SourceMatch.Proofs.Json.Scalars

/-!
A value that was printed is read again. The induction is on the value; behind it stands anything
that does not continue a number, and the fuel is at least twice the length of what was printed.
-/
namespace SourceMatch.Json

open Reader (readValue readItems readItem readMembers readMember skipBlanks)

mutual

/-- A value of null, booleans, integers of 64 bits, strings, arrays and objects, with at most so
many brackets around anything in it. -/
def Plain (levels : Nat) : Json → Prop
  | .number (.int i) => Reader.IsInt64 i
  | .number (.real _) => False
  | .array items => 0 < levels ∧ PlainItems (levels - 1) items
  | .object members => 0 < levels ∧ PlainMembers (levels - 1) members
  | _ => True

def PlainItems (levels : Nat) : List Json → Prop
  | [] => True
  | item :: items => Plain levels item ∧ PlainItems levels items

def PlainMembers (levels : Nat) : List (String × Json) → Prop
  | [] => True
  | (_, value) :: members => Plain levels value ∧ PlainMembers levels members

end

theorem plainMembers_iff {levels : Nat} {members : List (String × Json)} :
    PlainMembers levels members ↔ ∀ m ∈ members, m.2.Plain levels := by
  induction members with
  | nil => simp [PlainMembers]
  | cons m members ih => simp [PlainMembers, ih]

theorem plain_object {levels : Nat} {members : List (String × Json)} :
    (Json.object members).Plain (levels + 1) ↔ ∀ m ∈ members, m.2.Plain levels := by
  rw [Plain, plainMembers_iff]
  exact and_iff_right (Nat.succ_pos levels)

mutual

theorem Plain.mono : {v : Json} → {levels more : Nat} → levels ≤ more → v.Plain levels →
    v.Plain more
  | .null, _, _, _, _ => trivial
  | .bool _, _, _, _, _ => trivial
  | .number (.int _), _, _, _, h => h
  | .string _, _, _, _, _ => trivial
  | .array _, _, _, le, h => ⟨Nat.lt_of_lt_of_le h.1 le, h.2.mono (Nat.sub_le_sub_right le 1)⟩
  | .object _, _, _, le, h => ⟨Nat.lt_of_lt_of_le h.1 le, h.2.mono (Nat.sub_le_sub_right le 1)⟩

theorem PlainItems.mono : {items : List Json} → {levels more : Nat} → levels ≤ more →
    PlainItems levels items → PlainItems more items
  | [], _, _, _, _ => trivial
  | _ :: _, _, _, le, h => ⟨h.1.mono le, h.2.mono le⟩

theorem PlainMembers.mono : {members : List (String × Json)} → {levels more : Nat} →
    levels ≤ more → PlainMembers levels members → PlainMembers more members
  | [], _, _, _, _ => trivial
  | _ :: _, _, _, le, h => ⟨h.1.mono le, h.2.mono le⟩

end

structure Layout.IsSpaced (l : Layout) : Prop where
  opening : ∀ d, ∀ c ∈ l.opening d, Reader.isBlank c = true
  between : ∀ d, ∃ blanks, l.between d = ',' :: blanks ∧ ∀ c ∈ blanks, Reader.isBlank c = true
  closing : ∀ d, ∀ c ∈ l.closing d, Reader.isBlank c = true
  colon : ∃ blanks, l.colon = ':' :: blanks ∧ ∀ c ∈ blanks, Reader.isBlank c = true

theorem isBlank_of_mem_indent {depth : Nat} {c : Char} (h : c ∈ indent depth) :
    Reader.isBlank c = true := by
  rcases List.mem_cons.1 h with rfl | h
  · rfl
  · rw [List.eq_of_mem_replicate h]
    rfl

theorem isSpaced_indented : Layout.indented.IsSpaced where
  opening _ _ := isBlank_of_mem_indent
  between d := ⟨indent (d + 1), rfl, fun _ => isBlank_of_mem_indent⟩
  closing _ _ := isBlank_of_mem_indent
  colon := ⟨[' '], rfl, by simp [Reader.isBlank]⟩

namespace Reader

variable {blanks cs : List Char} {c : Char}

theorem skipBlanks_append (all : ∀ c ∈ blanks, isBlank c = true) (cs : List Char) :
    skipBlanks (blanks ++ cs) = skipBlanks cs :=
  List.dropWhile_append_of_pos all

theorem skipBlanks_cons (ink : isBlank c = false) (cs : List Char) :
    skipBlanks (c :: cs) = c :: cs :=
  Text.dropWhile_of_stops (Text.stops_cons.2 ink)

theorem readValue_blanks (all : ∀ c ∈ blanks, isBlank c = true) (fuel depth : Nat)
    (cs : List Char) : readValue fuel depth (blanks ++ cs) = readValue fuel depth cs := by
  cases fuel with
  | zero => rw [readValue, readValue]
  | succ fuel => rw [readValue, readValue, skipBlanks_append all]

theorem readItems_blanks (all : ∀ c ∈ blanks, isBlank c = true) (fuel depth : Nat) (first : Bool)
    (cs : List Char) :
    readItems fuel depth first (blanks ++ cs) = readItems fuel depth first cs := by
  cases fuel with
  | zero => rw [readItems, readItems]
  | succ fuel => rw [readItems, readItems, skipBlanks_append all]

theorem readMembers_blanks (all : ∀ c ∈ blanks, isBlank c = true) (fuel depth : Nat)
    (first : Bool) (cs : List Char) :
    readMembers fuel depth first (blanks ++ cs) = readMembers fuel depth first cs := by
  cases fuel with
  | zero => rw [readMembers, readMembers]
  | succ fuel => rw [readMembers, readMembers, skipBlanks_append all]

variable {fuel depth : Nat}

theorem readValue_string (s : String) (rest : List Char) :
    readValue (fuel + 1) depth (quote s ++ rest) = (.string s, some rest) := by
  have split : quote s ++ rest = '"' :: (s.toList.flatMap escapeChar ++ '"' :: rest) := by
    simp [quote]
  rw [split, readValue, skipBlanks_cons rfl]
  exact readString_quoted s rest

def beginsNumber (c : Char) : Bool := c = '-' || c.isDigit

theorem ne_of_beginsNumber (begins : beginsNumber c = true) {d : Char}
    (other : beginsNumber d = false) : c ≠ d := by
  rintro rfl
  rw [begins] at other
  cases other

theorem isBlank_of_beginsNumber (begins : beginsNumber c = true) : isBlank c = false := by
  simp only [isBlank, Bool.or_eq_false_iff, decide_eq_false_iff_not]
  refine ⟨⟨⟨?_, ?_⟩, ?_⟩, ?_⟩ <;> exact ne_of_beginsNumber begins rfl

theorem exists_signed (negative : Bool) (n : Nat) :
    ∃ c cs, signed negative n = c :: cs ∧ beginsNumber c = true := by
  rw [signed]
  cases negative with
  | true => exact ⟨_, _, rfl, rfl⟩
  | false =>
    obtain ⟨nonempty, digits, -⟩ := Version.isNumeral_toDigits n
    obtain ⟨c, cs, split⟩ := List.exists_cons_of_ne_nil nonempty
    refine ⟨c, cs, split, ?_⟩
    rw [beginsNumber, digits c (split ▸ List.mem_cons_self), Bool.or_true]

theorem readValue_number (begins : beginsNumber c = true) (cs : List Char) :
    readValue (fuel + 1) depth (c :: cs) = readNumber (c :: cs) := by
  rw [readValue, skipBlanks_cons (isBlank_of_beginsNumber begins)]
  split <;> rename_i same <;> cases same <;>
    first
    | exact absurd rfl (ne_of_beginsNumber begins rfl)
    | exact if_pos begins

theorem readValue_int {i : Int} (bounds : IsInt64 i) {rest : List Char}
    (stop : Text.Stops continuesNumber rest) :
    readValue (fuel + 1) depth ((toString i).toList ++ rest) = (.number (.int i), some rest) := by
  have read := readNumber_toString bounds stop
  rw [toList_toString_int] at read ⊢
  obtain ⟨c, cs, split, begins⟩ := exists_signed (decide (i < 0)) i.natAbs
  rw [split] at read ⊢
  exact (readValue_number begins _).trans read

theorem readValue_list (fuel depth : Nat) (cs : List Char) :
    readValue (fuel + 1) depth ('[' :: cs) =
      let (items, close, rest) := readItems fuel (depth + 1) true cs
      (atDepth (depth + 1) (.list items close), rest) := by
  rw [readValue, skipBlanks_cons rfl]
  rfl

theorem readValue_object (fuel depth : Nat) (cs : List Char) :
    readValue (fuel + 1) depth ('\x7b' :: cs) =
      let (members, close, rest) := readMembers fuel (depth + 1) true cs
      (atDepth (depth + 1) (.object members close), rest) := by
  rw [readValue, skipBlanks_cons rfl]
  rfl

theorem readValue_null (fuel depth : Nat) (rest : List Char) :
    readValue (fuel + 1) depth ("null".toList ++ rest) = (.null, some rest) := by
  change readValue (fuel + 1) depth ('n' :: 'u' :: 'l' :: 'l' :: rest) = _
  rw [readValue, skipBlanks_cons rfl]
  rfl

theorem readValue_true (fuel depth : Nat) (rest : List Char) :
    readValue (fuel + 1) depth ("true".toList ++ rest) = (.bool true, some rest) := by
  change readValue (fuel + 1) depth ('t' :: 'r' :: 'u' :: 'e' :: rest) = _
  rw [readValue, skipBlanks_cons rfl]
  rfl

theorem readValue_false (fuel depth : Nat) (rest : List Char) :
    readValue (fuel + 1) depth ("false".toList ++ rest) = (.bool false, some rest) := by
  change readValue (fuel + 1) depth ('f' :: 'a' :: 'l' :: 's' :: 'e' :: rest) = _
  rw [readValue, skipBlanks_cons rfl]
  rfl

def IsItem (cs : List Char) : Prop :=
  ∃ c rest, cs = c :: rest ∧ isBlank c = false ∧ c ≠ ']'

theorem readItems_end (fuel depth : Nat) (first : Bool) (rest : List Char) :
    readItems (fuel + 1) depth first (']' :: rest) = ([], none, some rest) := by
  rw [readItems, skipBlanks_cons rfl]
  rfl

theorem readItems_first (item : IsItem cs) (fuel depth : Nat) :
    readItems (fuel + 1) depth true cs = readItem fuel depth cs := by
  obtain ⟨c, rest, rfl, ink, inner⟩ := item
  rw [readItems, skipBlanks_cons ink]
  split <;> rename_i same <;> cases same
  · exact absurd rfl inner
  · exact if_pos rfl

theorem readItems_next (all : ∀ c ∈ blanks, isBlank c = true) (item : IsItem cs)
    (fuel depth : Nat) :
    readItems (fuel + 1) depth false (',' :: (blanks ++ cs)) =
      readItem fuel depth (blanks ++ cs) := by
  obtain ⟨c, rest, rfl, ink, inner⟩ := item
  rw [readItems, skipBlanks_cons rfl]
  split <;> rename_i comma <;> cases comma
  rw [if_neg Bool.false_ne_true, if_pos rfl, skipBlanks_append all, skipBlanks_cons ink]
  split <;> rename_i same
  · cases same
    exact absurd rfl inner
  · rfl

theorem readItem_of_value {item : Document} {rest : List Char}
    (read : readValue fuel depth cs = (item, some rest)) :
    readItem (fuel + 1) depth cs =
      (item :: (readItems fuel depth false rest).1, (readItems fuel depth false rest).2) := by
  rw [readItem, read]

theorem readMembers_end (fuel depth : Nat) (first : Bool) (rest : List Char) :
    readMembers (fuel + 1) depth first ('\x7d' :: rest) = ([], none, some rest) := by
  rw [readMembers, skipBlanks_cons rfl]
  rfl

theorem readMembers_first (fuel depth : Nat) (rest : List Char) :
    readMembers (fuel + 1) depth true ('"' :: rest) = readMember fuel depth ('"' :: rest) := by
  rw [readMembers, skipBlanks_cons rfl]
  rfl

theorem readMembers_next (all : ∀ c ∈ blanks, isBlank c = true) (fuel depth : Nat)
    (rest : List Char) :
    readMembers (fuel + 1) depth false (',' :: (blanks ++ '"' :: rest)) =
      readMember fuel depth ('"' :: rest) := by
  rw [readMembers, skipBlanks_cons rfl]
  split <;> rename_i comma <;> cases comma
  rw [if_neg Bool.false_ne_true, if_pos rfl, skipBlanks_append all, skipBlanks_cons rfl]

theorem readMember_of_value {value : Document} {rest : List Char} (name : String)
    (all : ∀ c ∈ blanks, isBlank c = true) (read : readValue fuel depth cs = (value, some rest)) :
    readMember (fuel + 1) depth (quote name ++ ':' :: (blanks ++ cs)) =
      ((.ok name, value) :: (readMembers fuel depth false rest).1,
        (readMembers fuel depth false rest).2) := by
  have split : quote name ++ ':' :: (blanks ++ cs) =
      '"' :: (name.toList.flatMap escapeChar ++ '"' :: ':' :: (blanks ++ cs)) := by
    simp [quote]
  rw [split, readMember, readString_quoted]
  dsimp only
  rw [skipBlanks_cons rfl]
  split <;> rename_i colon
  · cases colon
  · cases colon
    rw [readValue_blanks all, read]
  · exact absurd rfl (colon _)

end Reader

section

variable {l : Layout}

theorem isItem_write (l : Layout) (level : Nat) {levels : Nat} {v : Json} (plain : v.Plain levels)
    (rest : List Char) : Reader.IsItem (write l level v ++ rest) := by
  cases v with
  | null => exact ⟨_, _, rfl, rfl, by decide⟩
  | bool b => cases b <;> exact ⟨_, _, rfl, rfl, by decide⟩
  | string s => exact ⟨'"', _, rfl, rfl, by decide⟩
  | number n =>
    cases n with
    | real x => cases plain
    | int i =>
      obtain ⟨c, cs, split, begins⟩ := Reader.exists_signed (decide (i < 0)) i.natAbs
      refine ⟨c, cs ++ rest, ?_, Reader.isBlank_of_beginsNumber begins,
        Reader.ne_of_beginsNumber begins rfl⟩
      rw [write, Number.toText, Reader.toList_toString_int, split]
      rfl
  | array items => cases items <;> rw [write] <;> exact ⟨'[', _, rfl, rfl, by decide⟩
  | object members =>
    rcases members with _ | ⟨⟨name, value⟩, members⟩ <;> rw [write] <;>
      exact ⟨'\x7b', _, rfl, rfl, by decide⟩

theorem length_write_pos (l : Layout) (level : Nat) {levels : Nat} {v : Json}
    (plain : v.Plain levels) : 0 < (write l level v).length := by
  obtain ⟨c, cs, split, -⟩ := isItem_write l level plain []
  rw [List.append_nil] at split
  rw [split]
  exact Nat.succ_pos _

theorem stops_blanks {blanks cs : List Char} (all : ∀ c ∈ blanks, Reader.isBlank c = true)
    (stop : Text.Stops Reader.continuesNumber cs) :
    Text.Stops Reader.continuesNumber (blanks ++ cs) := by
  cases blanks with
  | nil => exact stop
  | cons c blanks =>
    have blank := all c List.mem_cons_self
    simp only [Reader.isBlank, Bool.or_eq_true, decide_eq_true_eq] at blank
    rcases blank with ((rfl | rfl) | rfl) | rfl <;> exact Text.stops_cons.2 rfl

theorem stops_writeItems (spaced : l.IsSpaced) (level : Nat) (items : List Json)
    (rest : List Char) :
    Text.Stops Reader.continuesNumber
      (writeItems l level items ++ (l.closing level ++ ']' :: rest)) := by
  cases items with
  | nil =>
    rw [writeItems, List.nil_append]
    exact stops_blanks (spaced.closing level) (Text.stops_cons.2 rfl)
  | cons item items =>
    obtain ⟨blanks, between, -⟩ := spaced.between level
    rw [writeItems, between]
    exact Text.stops_cons.2 rfl

theorem stops_writeMembers (spaced : l.IsSpaced) (level : Nat) (members : List (String × Json))
    (rest : List Char) :
    Text.Stops Reader.continuesNumber
      (writeMembers l level members ++ (l.closing level ++ '\x7d' :: rest)) := by
  cases members with
  | nil =>
    rw [writeMembers, List.nil_append]
    exact stops_blanks (spaced.closing level) (Text.stops_cons.2 rfl)
  | cons m members =>
    obtain ⟨blanks, between, -⟩ := spaced.between level
    rw [writeMembers, between]
    exact Text.stops_cons.2 rfl

theorem atDepth_of_le {depth : Nat} (deep : depth ≤ Reader.deepestKept) (doc : Document) :
    Reader.atDepth depth doc = doc :=
  if_neg (Nat.not_lt.2 deep)

mutual

theorem readValue_write (spaced : l.IsSpaced) : (v : Json) → {levels : Nat} →
    (fuel depth level : Nat) → (rest : List Char) → v.Plain levels →
    depth + levels ≤ Reader.deepestKept → 2 * (write l level v).length ≤ fuel →
    Text.Stops Reader.continuesNumber rest →
    readValue fuel depth (write l level v ++ rest) = (.ofJson v, some rest)
  | v, levels, 0, depth, level, rest, plain, _, enough, _ => by
    have pos := length_write_pos l level plain
    omega
  | .null, _, fuel + 1, depth, level, rest, _, _, _, _ => Reader.readValue_null fuel depth rest
  | .bool true, _, fuel + 1, depth, level, rest, _, _, _, _ =>
    Reader.readValue_true fuel depth rest
  | .bool false, _, fuel + 1, depth, level, rest, _, _, _, _ =>
    Reader.readValue_false fuel depth rest
  | .number (.int i), _, fuel + 1, depth, level, rest, plain, _, _, stop =>
    Reader.readValue_int plain stop
  | .string s, _, fuel + 1, depth, level, rest, _, _, _, _ => Reader.readValue_string s rest
  | .array [], levels, fuel + 1, depth, level, rest, plain, deep, enough, _ => by
    obtain ⟨inside, -⟩ := plain
    obtain ⟨fuel, rfl⟩ : ∃ n, fuel = n + 1 := ⟨fuel - 1, by simp [write] at enough; omega⟩
    rw [write, List.cons_append, List.singleton_append, Reader.readValue_list,
      Reader.readItems_end]
    dsimp only
    rw [atDepth_of_le (by omega)]
    rfl
  | .array (item :: items), levels, fuel + 1, depth, level, rest, plain, deep, enough, stop => by
    rw [Plain, PlainItems] at plain
    obtain ⟨inside, plain, plains⟩ := plain
    rw [write] at enough ⊢
    simp only [List.length_append, List.length_cons] at enough
    have pos := length_write_pos l (level + 1) plain
    obtain ⟨fuel, rfl⟩ : ∃ n, fuel = n + 2 := ⟨fuel - 2, by omega⟩
    have first := readValue_write spaced item fuel (depth + 1) (level + 1) _ plain (by omega)
      (by omega) (stops_writeItems spaced level items rest)
    have others := readItems_writeItems spaced items fuel (depth + 1) level rest plains
      (by omega) (by omega)
    simp only [List.cons_append, List.append_assoc, List.nil_append]
    rw [Reader.readValue_list, Reader.readItems_blanks (spaced.opening level),
      Reader.readItems_first (isItem_write l _ plain _), Reader.readItem_of_value first, others]
    dsimp only
    rw [atDepth_of_le (by omega)]
    rfl
  | .object [], levels, fuel + 1, depth, level, rest, plain, deep, enough, _ => by
    obtain ⟨inside, -⟩ := plain
    obtain ⟨fuel, rfl⟩ : ∃ n, fuel = n + 1 := ⟨fuel - 1, by simp [write] at enough; omega⟩
    rw [write, List.cons_append, List.singleton_append, Reader.readValue_object,
      Reader.readMembers_end]
    dsimp only
    rw [atDepth_of_le (by omega)]
    rfl
  | .object ((name, value) :: members), levels, fuel + 1, depth, level, rest, plain, deep, enough,
      stop => by
    rw [Plain, PlainMembers] at plain
    obtain ⟨inside, plain, plains⟩ := plain
    obtain ⟨blanks, colon, all⟩ := spaced.colon
    rw [write] at enough ⊢
    simp only [List.length_append, List.length_cons] at enough
    have pos := length_write_pos l (level + 1) plain
    obtain ⟨fuel, rfl⟩ : ∃ n, fuel = n + 2 := ⟨fuel - 2, by omega⟩
    have first := readValue_write spaced value fuel (depth + 1) (level + 1) _ plain (by omega)
      (by omega) (stops_writeMembers spaced level members rest)
    have others := readMembers_writeMembers spaced members fuel (depth + 1) level rest
      plains (by omega) (by omega)
    have member := Reader.readMember_of_value name all first
    rw [colon]
    simp only [List.cons_append, List.append_assoc, List.nil_append]
    rw [Reader.readValue_object, Reader.readMembers_blanks (spaced.opening level)]
    rw [quote] at member ⊢
    simp only [List.cons_append] at member ⊢
    rw [Reader.readMembers_first, member, others]
    dsimp only
    rw [atDepth_of_le (by omega)]
    rfl

theorem readItems_writeItems (spaced : l.IsSpaced) : (items : List Json) → {levels : Nat} →
    (fuel depth level : Nat) → (rest : List Char) → PlainItems levels items →
    depth + levels ≤ Reader.deepestKept → 2 * ((writeItems l level items).length + 1) ≤ fuel →
    readItems fuel depth false (writeItems l level items ++ (l.closing level ++ ']' :: rest)) =
      (Document.ofItems items, none, some rest)
  | [], _, fuel, depth, level, rest, _, _, enough => by
    obtain ⟨fuel, rfl⟩ : ∃ n, fuel = n + 1 := ⟨fuel - 1, by omega⟩
    rw [writeItems, List.nil_append, Reader.readItems_blanks (spaced.closing level),
      Reader.readItems_end]
    rfl
  | item :: items, _, fuel, depth, level, rest, plain, deep, enough => by
    rw [PlainItems] at plain
    obtain ⟨blanks, between, all⟩ := spaced.between level
    rw [writeItems, between] at enough ⊢
    simp only [List.length_append, List.length_cons] at enough
    have pos := length_write_pos l (level + 1) plain.1
    obtain ⟨fuel, rfl⟩ : ∃ n, fuel = n + 2 := ⟨fuel - 2, by omega⟩
    have first := readValue_write spaced item fuel depth (level + 1) _ plain.1 deep (by omega)
      (stops_writeItems spaced level items rest)
    have others := readItems_writeItems spaced items fuel depth level rest plain.2 deep
      (by omega)
    simp only [List.cons_append, List.append_assoc]
    rw [Reader.readItems_next all (isItem_write l _ plain.1 _),
      Reader.readItem_of_value ((Reader.readValue_blanks all ..).trans first), others]
    rfl

theorem readMembers_writeMembers (spaced : l.IsSpaced) : (members : List (String × Json)) →
    {levels : Nat} → (fuel depth level : Nat) → (rest : List Char) →
    PlainMembers levels members → depth + levels ≤ Reader.deepestKept →
    2 * ((writeMembers l level members).length + 1) ≤ fuel →
    readMembers fuel depth false
        (writeMembers l level members ++ (l.closing level ++ '\x7d' :: rest)) =
      (Document.ofMembers members, none, some rest)
  | [], _, fuel, depth, level, rest, _, _, enough => by
    obtain ⟨fuel, rfl⟩ : ∃ n, fuel = n + 1 := ⟨fuel - 1, by omega⟩
    rw [writeMembers, List.nil_append, Reader.readMembers_blanks (spaced.closing level),
      Reader.readMembers_end]
    rfl
  | (name, value) :: members, _, fuel, depth, level, rest, plain, deep, enough => by
    rw [PlainMembers] at plain
    obtain ⟨blanks, between, all⟩ := spaced.between level
    obtain ⟨blanks', colon, all'⟩ := spaced.colon
    rw [writeMembers, between] at enough ⊢
    simp only [List.length_append, List.length_cons] at enough
    have pos := length_write_pos l (level + 1) plain.1
    obtain ⟨fuel, rfl⟩ : ∃ n, fuel = n + 2 := ⟨fuel - 2, by omega⟩
    have first := readValue_write spaced value fuel depth (level + 1) _ plain.1 deep (by omega)
      (stops_writeMembers spaced level members rest)
    have others := readMembers_writeMembers spaced members fuel depth level rest plain.2 deep
      (by omega)
    have member := Reader.readMember_of_value name all' first
    rw [colon]
    rw [quote] at member ⊢
    simp only [List.cons_append, List.append_assoc] at member ⊢
    rw [Reader.readMembers_next all, member, others]
    rfl

end

theorem readText_write (spaced : l.IsSpaced) {v : Json} (plain : v.Plain Reader.deepestKept) :
    Reader.readText (String.ofList (write l 0 v)) = ⟨.ofJson v, none⟩ := by
  have read := readValue_write spaced v (3 * (write l 0 v).length + 3) 0 0 [] plain (by omega)
    (by omega) (Text.stops_nil _)
  rw [List.append_nil] at read
  rw [Reader.readText, String.toList_ofList, read]
  rfl

end

theorem Decoder.ofText_pretty {α : Type} {d : Decoder α} {v : Json} {a : α}
    (plain : v.Plain Reader.deepestKept) (reads : d.Reads v a) : d.ofText v.pretty = .ok a := by
  rw [Decoder.ofText, pretty, readText_write isSpaced_indented plain]
  dsimp only
  rw [reads .text]
  rfl

end SourceMatch.Json
