import SourceMatch.Json.Document

/-!
Reading a JSON text into a document. Every function takes the characters that are left and gives
back those it leaves; once the text is at fault nothing is left.
-/
namespace SourceMatch.Json.Reader

def isBlank (c : Char) : Bool := c = ' ' || c = '\n' || c = '\t' || c = '\r'

def skipBlanks (cs : List Char) : List Char := cs.dropWhile isBlank

def pushDigit? (significand : Nat) (c : Char) : Option Nat :=
  let next := significand * 10 + (c.toNat - '0'.toNat)
  if next < UInt64.size then some next else none

def wholeDigits : Nat → List Char → Nat × Nat
  | significand, [] => (significand, 0)
  | significand, c :: cs =>
    match pushDigit? significand c with
    | some next => wholeDigits next cs
    | none => (significand, (c :: cs).length)

def fractionDigits : Nat → Nat → List Char → Nat × Nat
  | significand, taken, [] => (significand, taken)
  | significand, taken, c :: cs =>
    match pushDigit? significand c with
    | some next => fractionDigits next (taken + 1) cs
    | none => (significand, taken)

structure NumberText where
  negative : Bool
  whole : List Char
  fraction : Option (List Char)
  exponent : Option Int

def digitsToNat (cs : List Char) : Nat :=
  cs.foldl (fun n c => n * 10 + (c.toNat - '0'.toNat)) 0

def NumberText.value? (t : NumberText) : Option Number :=
  let (significand, cut) := wholeDigits 0 t.whole
  match t.fraction, t.exponent with
  | none, none =>
    if cut = 0 ∧ !t.negative then some (.int significand)
    else if cut = 0 ∧ 0 < significand ∧ significand ≤ UInt64.size / 2 then some (.int (-significand))
    else (Binary64.ofDecimal t.negative significand cut).map .real
  | fraction, exponent =>
    let (significand, taken) := fractionDigits significand 0 (fraction.getD [])
    (Binary64.ofDecimal t.negative significand (exponent.getD 0 + cut - taken)).map .real

def missingDigit : List Char → Category
  | [] => .endOfText
  | _ :: _ => .malformed

def readExponent (cs : List Char) : Except Category (Int × List Char) :=
  let (negative, cs) := match cs with
    | '+' :: rest => (false, rest)
    | '-' :: rest => (true, rest)
    | _ => (false, cs)
  match cs.span Char.isDigit with
  | ([], rest) => .error (missingDigit rest)
  | (digits, rest) =>
    let n : Int := digitsToNat digits
    .ok (if negative then -n else n, rest)

def readTail (negative : Bool) (whole cs : List Char) : Except Category (NumberText × List Char) := do
  let (fraction, cs) ← match cs with
    | '.' :: rest =>
      match rest.span Char.isDigit with
      | ([], rest) => throw (missingDigit rest)
      | (digits, rest) => pure (some digits, rest)
    | _ => pure (none, cs)
  match cs with
  | 'e' :: rest | 'E' :: rest =>
    let (exponent, rest) ← readExponent rest
    return (⟨negative, whole, fraction, some exponent⟩, rest)
  | _ => return (⟨negative, whole, fraction, none⟩, cs)

def readNumberText (cs : List Char) : Except Category (NumberText × List Char) :=
  let (negative, cs) := match cs with
    | '-' :: rest => (true, rest)
    | _ => (false, cs)
  match cs.span Char.isDigit with
  | ([], rest) => .error (missingDigit rest)
  | (['0'], rest) => readTail negative ['0'] rest
  | ('0' :: _ :: _, _) => .error .malformed
  | (digits, rest) => readTail negative digits rest

/-- A number that ends too early is kept as unfinished and skipped as malformed; one that is too
large can only be skipped. -/
def readNumber (cs : List Char) : Document × Option (List Char) :=
  match readNumberText cs with
  | .ok (t, rest) =>
    match t.value? with
    | some n => (.number n, some rest)
    | none => (.frail .malformed .null, some rest)
  | .error .endOfText => (.frail .endOfText (.broken .malformed), none)
  | .error fault => (.broken fault, none)

def hexValue? (c : Char) : Option Nat :=
  if c.isDigit then some (c.toNat - '0'.toNat)
  else if 'a' ≤ c ∧ c ≤ 'f' then some (c.toNat - 'a'.toNat + 10)
  else if 'A' ≤ c ∧ c ≤ 'F' then some (c.toNat - 'A'.toNat + 10)
  else none

def hasBytes : Nat → List Char → Bool
  | _, [] => false
  | n, c :: cs => n ≤ c.utf8Size || hasBytes (n - c.utf8Size) cs

def readUnit : List Char → Except Category (Nat × List Char)
  | a :: b :: c :: d :: rest =>
    match hexValue? a, hexValue? b, hexValue? c, hexValue? d with
    | some a, some b, some c, some d => .ok (((a * 16 + b) * 16 + c) * 16 + d, rest)
    | _, _, _, _ => .error .malformed
  | cs => .error (if hasBytes 4 cs then .malformed else .endOfText)

def simpleEscape? : Char → Option Char
  | '"' => some '"'
  | '\\' => some '\\'
  | '/' => some '/'
  | 'b' => some '\x08'
  | 'f' => some '\x0c'
  | 'n' => some '\n'
  | 'r' => some '\r'
  | 't' => some '\t'
  | _ => none

def readUnicode (cs : List Char) : Except Category (Char × List Char) := do
  let (unit, rest) ← readUnit cs
  if 0xDC00 ≤ unit ∧ unit ≤ 0xDFFF then throw .malformed
  if unit < 0xD800 ∨ 0xDBFF < unit then return (Char.ofNat unit, rest)
  match rest with
  | [] => throw .endOfText
  | '\\' :: [] => throw .endOfText
  | '\\' :: 'u' :: rest =>
    let (low, rest) ← readUnit rest
    if low < 0xDC00 ∨ 0xDFFF < low then throw .malformed
    return (Char.ofNat ((unit - 0xD800) * 1024 + (low - 0xDC00) + 0x10000), rest)
  | _ => throw .malformed

/-- The characters of a string up to its closing quote, escapes resolved. The fuel is the length of
the text. -/
def keepString : Nat → List Char → Except Category (List Char × List Char)
  | _, [] => .error .endOfText
  | 0, _ => .error .endOfText
  | _, '"' :: rest => .ok ([], rest)
  | _, ['\\'] => .error .endOfText
  | fuel + 1, '\\' :: 'u' :: rest => do
    let (c, rest) ← readUnicode rest
    let (cs, rest) ← keepString fuel rest
    return (c :: cs, rest)
  | fuel + 1, '\\' :: e :: rest =>
    match simpleEscape? e with
    | some c => do
      let (cs, rest) ← keepString fuel rest
      return (c :: cs, rest)
    | none => .error .malformed
  | fuel + 1, c :: rest =>
    if c.toNat < 32 then .error .malformed
    else do
      let (cs, rest) ← keepString fuel rest
      return (c :: cs, rest)

def skipString : Nat → List Char → Except Category (List Char)
  | _, [] => .error .endOfText
  | 0, _ => .error .endOfText
  | _, '"' :: rest => .ok rest
  | _, ['\\'] => .error .endOfText
  | fuel + 1, '\\' :: 'u' :: rest => do
    let (_, rest) ← readUnit rest
    skipString fuel rest
  | fuel + 1, '\\' :: e :: rest =>
    if (simpleEscape? e).isSome then skipString fuel rest else .error .malformed
  | fuel + 1, c :: rest =>
    if c.toNat < 32 then .error .malformed else skipString fuel rest

def readString (cs : List Char) : Document × Option (List Char) :=
  match keepString (cs.length + 1) cs with
  | .ok (text, rest) => (.string (String.ofList text), some rest)
  | .error fault =>
    match skipString (cs.length + 1) cs with
    | .ok rest => (.frail fault .null, some rest)
    | .error skipped => (.frail fault (.broken skipped), none)

def readLiteral (doc : Document) : List Char → List Char → Document × Option (List Char)
  | [], cs => (doc, some cs)
  | _ :: _, [] => (.broken .endOfText, none)
  | e :: es, c :: cs => if e = c then readLiteral doc es cs else (.broken .malformed, none)

/-- A bracket deeper than this cannot be kept. -/
def deepestKept : Nat := 127

def atDepth (depth : Nat) (doc : Document) : Document :=
  if deepestKept < depth then .frail .malformed doc else doc

mutual

/-- A value inside `depth` brackets. The fuel is at least the length of the text. -/
def readValue (fuel depth : Nat) (cs : List Char) : Document × Option (List Char) :=
  match fuel with
  | 0 => (.broken .endOfText, none)
  | fuel + 1 =>
    match skipBlanks cs with
    | [] => (.broken .endOfText, none)
    | '"' :: rest => readString rest
    | '[' :: rest =>
      let (items, close, rest) := readItems fuel (depth + 1) true rest
      (atDepth (depth + 1) (.list items close), rest)
    | '\x7b' :: rest =>
      let (members, close, rest) := readMembers fuel (depth + 1) true rest
      (atDepth (depth + 1) (.object members close), rest)
    | 'n' :: rest => readLiteral .null ['u', 'l', 'l'] rest
    | 't' :: rest => readLiteral (.bool true) ['r', 'u', 'e'] rest
    | 'f' :: rest => readLiteral (.bool false) ['a', 'l', 's', 'e'] rest
    | c :: rest =>
      if c = '-' || c.isDigit then readNumber (c :: rest) else (.broken .malformed, none)

def readItems (fuel depth : Nat) (first : Bool) (cs : List Char) :
    List Document × Option Category × Option (List Char) :=
  match fuel with
  | 0 => ([], some .endOfText, none)
  | fuel + 1 =>
    match skipBlanks cs with
    | [] => ([], some .endOfText, none)
    | ']' :: rest => ([], none, some rest)
    | c :: rest =>
      if first then readItem fuel depth (c :: rest)
      else if c = ',' then
        match skipBlanks rest with
        | ']' :: _ => ([.broken .malformed], none, none)
        | _ => readItem fuel depth rest
      else ([], some .malformed, none)

def readItem (fuel depth : Nat) (cs : List Char) :
    List Document × Option Category × Option (List Char) :=
  match fuel with
  | 0 => ([], some .endOfText, none)
  | fuel + 1 =>
    match readValue fuel depth cs with
    | (item, none) => ([item], none, none)
    | (item, some rest) =>
      let (items, close, rest) := readItems fuel depth false rest
      (item :: items, close, rest)

def readMembers (fuel depth : Nat) (first : Bool) (cs : List Char) :
    List (Except Category String × Document) × Option Category × Option (List Char) :=
  match fuel with
  | 0 => ([], some .endOfText, none)
  | fuel + 1 =>
    match skipBlanks cs with
    | [] => ([], some .endOfText, none)
    | '\x7d' :: rest => ([], none, some rest)
    | c :: rest =>
      if first then readMember fuel depth (c :: rest)
      else if c = ',' then readMember fuel depth (skipBlanks rest)
      else ([], some .malformed, none)

def readMember (fuel depth : Nat) (cs : List Char) :
    List (Except Category String × Document) × Option Category × Option (List Char) :=
  match fuel with
  | 0 => ([], some .endOfText, none)
  | fuel + 1 =>
    match cs with
    | [] => ([], some .endOfText, none)
    | '"' :: rest =>
      let named (name : Except Category String) (rest : List Char) :=
        match skipBlanks rest with
        | [] => ([(name, .broken .endOfText)], none, none)
        | ':' :: rest =>
          match readValue fuel depth rest with
          | (value, none) => ([(name, value)], none, none)
          | (value, some rest) =>
            let (members, close, rest) := readMembers fuel depth false rest
            ((name, value) :: members, close, rest)
        | _ => ([(name, .broken .malformed)], none, none)
      match readString rest with
      | (.string s, some rest) => named (.ok s) rest
      | (.frail fault _, some rest) => named (.error fault) rest
      | (.frail fault doc, none) => ([(.error fault, doc)], none, none)
      | (_, _) => ([], some .malformed, none)
    | _ => ([], some .malformed, none)

end

structure Text where
  body : Document
  tail : Option Category

def readText (text : String) : Text :=
  let cs := text.toList
  match readValue (3 * cs.length + 3) 0 cs with
  | (body, none) => ⟨body, none⟩
  | (body, some rest) => ⟨body, if (skipBlanks rest).isEmpty then none else some .malformed⟩

end SourceMatch.Json.Reader

namespace SourceMatch.Json

def parse (text : String) : Except Category Json := do
  let t := Reader.readText text
  let v ← t.body.keep
  match t.tail with
  | none => return v
  | some fault => throw fault

end SourceMatch.Json
