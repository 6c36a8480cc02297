/-!
Percent encoding: a byte that may not stand for itself is written as a percent sign and two
hexadecimal digits. Which ones those are depends on the part of an address.
-/
namespace SourceMatch.Url.Percent

def isControl (c : Char) : Bool := c.toNat < 0x20 || 0x7E < c.toNat

inductive Part where
  | opaquePath
  | fragment
  | query
  | specialQuery
  | path
  | segment
  | specialSegment
  | userinfo
deriving DecidableEq, Repr

def pathReserved : List Char := [' ', '"', '<', '>', '\x60', '#', '?', '\x7b', '\x7d']

def Part.reserved : Part → List Char
  | .opaquePath => []
  | .fragment => [' ', '"', '<', '>', '\x60']
  | .query => [' ', '"', '#', '<', '>']
  | .specialQuery => [' ', '"', '#', '<', '>', '\'']
  | .path => pathReserved
  | .segment => pathReserved ++ ['/', '%']
  | .specialSegment => pathReserved ++ ['/', '%', '\\']
  | .userinfo => pathReserved ++ ['/', ':', ';', '=', '@', '[', '\\', ']', '^', '|']

def hexDigit (n : Nat) : Char := (Nat.digitChar n).toUpper

def encodeByte (b : UInt8) : List Char :=
  ['%', hexDigit (b.toNat / 16), hexDigit (b.toNat % 16)]

def encodeChar (part : Part) (c : Char) : List Char :=
  if isControl c || part.reserved.contains c then
    (String.utf8EncodeChar c).flatMap encodeByte
  else [c]

def encode (part : Part) (cs : List Char) : List Char := cs.flatMap (encodeChar part)

def hexValue? (c : Char) : Option Nat :=
  if c.isDigit then some (c.toNat - '0'.toNat)
  else if 'a' ≤ c ∧ c ≤ 'f' then some (c.toNat - 'a'.toNat + 10)
  else if 'A' ≤ c ∧ c ≤ 'F' then some (c.toNat - 'A'.toNat + 10)
  else none

def decode : List Char → List UInt8
  | '%' :: a :: b :: rest =>
    match hexValue? a, hexValue? b with
    | some x, some y => UInt8.ofNat (x * 16 + y) :: decode rest
    | _, _ => UInt8.ofNat '%'.toNat :: decode (a :: b :: rest)
  | c :: rest => String.utf8EncodeChar c ++ decode rest
  | [] => []

def text? (cs : List Char) : Option String := String.fromUTF8? ⟨(decode cs).toArray⟩

end SourceMatch.Url.Percent
