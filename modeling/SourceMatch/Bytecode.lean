/-!
Comparing deployed bytecode with compiled bytecode, both as hexadecimal text. The compiler ends its
runtime code with a metadata trailer; code that differs only there still matches.
-/
namespace SourceMatch

inductive MatchKind where
  | full
  | partialMatch
  | mismatch
deriving DecidableEq, Repr, Inhabited

namespace MatchKind

def isMatch : MatchKind → Bool
  | .mismatch => false
  | _ => true

def text : MatchKind → String
  | .full => "full match"
  | .partialMatch => "partial match"
  | .mismatch => "mismatch"

def name : MatchKind → String
  | .full => "fullMatch"
  | .partialMatch => "partialMatch"
  | .mismatch => "mismatch"

def ofName? : String → Option MatchKind
  | "fullMatch" => some .full
  | "partialMatch" => some .partialMatch
  | "mismatch" => some .mismatch
  | _ => none

theorem ofName?_name (k : MatchKind) : ofName? k.name = some k := by cases k <;> rfl

end MatchKind

namespace Bytecode

/-- Bytes of the metadata trailer: 43 bytes of code, two digits each. -/
def trailerLength : Nat := 86

def dropBytes? : Nat → List Char → Option (List Char)
  | 0, cs => some cs
  | _ + 1, [] => none
  | n + 1, c :: cs => if c.utf8Size ≤ n + 1 then dropBytes? (n + 1 - c.utf8Size) cs else none

def withoutTrailer? (code : String) : Option (List Char) :=
  (dropBytes? trailerLength code.toList.reverse).map List.reverse

/-- Compares two texts without `0x`. Code shorter than a trailer is only ever compared whole. -/
def compare (deployed compiled : String) : MatchKind :=
  if deployed = compiled then .full
  else
    match withoutTrailer? deployed, withoutTrailer? compiled with
    | some a, some b => if a = b then .partialMatch else .mismatch
    | _, _ => .mismatch

def stripMark (code : String) : String :=
  match code.toList with
  | '0' :: 'x' :: rest | '0' :: 'X' :: rest => String.ofList rest
  | _ => code

end Bytecode

end SourceMatch
