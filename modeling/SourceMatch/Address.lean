/-!
Addresses of deployed contracts: `0x` and forty hexadecimal digits, kept in lower case.
-/
namespace SourceMatch

def isHexDigit (c : Char) : Bool :=
  c.isDigit || ('a' ≤ c && c ≤ 'f') || ('A' ≤ c && c ≤ 'F')

def Address.isValid (raw : String) : Bool :=
  match raw.toList with
  | '0' :: 'x' :: digits => digits.length = 40 && digits.all isHexDigit
  | _ => false

structure Address where
  text : String
deriving DecidableEq, Repr, Inhabited

structure AddressError where
  raw : String
deriving DecidableEq, Repr

namespace Address

def parse (raw : String) : Except AddressError Address :=
  if isValid raw then .ok ⟨String.ofList (raw.toList.map Char.toLower)⟩ else .error ⟨raw⟩

end Address

def AddressError.code : String := "E010"

def AddressError.message (e : AddressError) : String :=
  "[E010] " ++ e.raw ++ " is not a valid contract address\n\nSuggestions:\n" ++
    "  • Use the 0x-prefixed EVM address of the contract\n" ++
    "  • The address must contain exactly 40 hexadecimal digits"

end SourceMatch
