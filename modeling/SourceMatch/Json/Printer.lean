import SourceMatch.Json.Basic

/-!
Writing JSON values: on one line, or spread over lines with two blanks per level.
-/
namespace SourceMatch.Json

def hexDigit (n : Nat) : Char := (Nat.digitChar (n % 16))

def escapeChar (c : Char) : List Char :=
  if c = '"' then ['\\', '"']
  else if c = '\\' then ['\\', '\\']
  else if c = '\n' then ['\\', 'n']
  else if c = '\r' then ['\\', 'r']
  else if c = '\t' then ['\\', 't']
  else if c = '\x08' then ['\\', 'b']
  else if c = '\x0c' then ['\\', 'f']
  else if c.toNat < 32 then ['\\', 'u', '0', '0', hexDigit (c.toNat / 16), hexDigit c.toNat]
  else [c]

def quote (s : String) : List Char :=
  '"' :: s.toList.flatMap escapeChar ++ ['"']

def Number.toText : Number → String
  | .int n => toString n
  | .real x => x.toText

/-- How a composite value is laid out: what stands after an opening bracket, between two entries,
before the closing bracket, and after a colon, at a given depth. -/
structure Layout where
  opening : Nat → List Char
  between : Nat → List Char
  closing : Nat → List Char
  colon : List Char

def Layout.oneLine : Layout := ⟨fun _ => [], fun _ => [','], fun _ => [], [':']⟩

def indent (depth : Nat) : List Char := '\n' :: List.replicate (2 * depth) ' '

def Layout.indented : Layout :=
  ⟨fun d => indent (d + 1), fun d => ',' :: indent (d + 1), indent, [':', ' ']⟩

mutual

def write (layout : Layout) (depth : Nat) : Json → List Char
  | .null => "null".toList
  | .bool true => "true".toList
  | .bool false => "false".toList
  | .number n => n.toText.toList
  | .string s => quote s
  | .array [] => ['[', ']']
  | .array (item :: items) =>
    '[' :: layout.opening depth ++ write layout (depth + 1) item ++
      writeItems layout depth items ++ layout.closing depth ++ [']']
  | .object [] => ['\x7b', '\x7d']
  | .object ((name, value) :: members) =>
    '\x7b' :: layout.opening depth ++ quote name ++ layout.colon ++
      write layout (depth + 1) value ++ writeMembers layout depth members ++
      layout.closing depth ++ ['\x7d']

def writeItems (layout : Layout) (depth : Nat) : List Json → List Char
  | [] => []
  | item :: items =>
    layout.between depth ++ write layout (depth + 1) item ++ writeItems layout depth items

def writeMembers (layout : Layout) (depth : Nat) : List (String × Json) → List Char
  | [] => []
  | (name, value) :: members =>
    layout.between depth ++ quote name ++ layout.colon ++ write layout (depth + 1) value ++
      writeMembers layout depth members

end

def compact (v : Json) : String := String.ofList (v.write .oneLine 0)

def pretty (v : Json) : String := String.ofList (v.write .indented 0)

end SourceMatch.Json
