import SourceMatch.Url.Route

/-!
Addresses in their one written form, and the addresses of the endpoints below them.
-/
namespace SourceMatch

inductive Url.Path where
  | solid (text : List Char)
  | segments (items : List (List Char))
deriving DecidableEq, Repr, Inhabited

/-- An address; all parts are in their written form. Only an address with a host has a user or a
port. The path of an address without a host is guarded, by a dot in front of it, if it was read with
two slashes at its beginning, which would make a host of it. -/
structure Url where
  scheme : List Char
  username : List Char := []
  password : List Char := []
  host : Option (List Char) := none
  port : Option Nat := none
  path : Url.Path
  isGuarded : Bool := false
  query : Option (List Char) := none
  fragment : Option (List Char) := none
deriving DecidableEq, Repr, Inhabited

namespace Url

def defaultPort? (scheme : List Char) : Option Nat :=
  if scheme = "http".toList ∨ scheme = "ws".toList then some 80
  else if scheme = "https".toList ∨ scheme = "wss".toList then some 443
  else if scheme = "ftp".toList then some 21
  else none

def isFileScheme (scheme : List Char) : Bool := scheme = "file".toList

def isSpecialScheme (scheme : List Char) : Bool :=
  (defaultPort? scheme).isSome || isFileScheme scheme

def isBase (u : Url) : Bool :=
  match u.path with
  | .solid _ => false
  | .segments _ => true

def Path.toChars : Path → List Char
  | .solid text => text
  | .segments items => items.flatMap ('/' :: ·)

def credentials (u : Url) : List Char :=
  if u.username.isEmpty && u.password.isEmpty then []
  else u.username ++ (if u.password.isEmpty then [] else ':' :: u.password) ++ ['@']

def authority (u : Url) : List Char :=
  match u.host with
  | some host =>
    ['/', '/'] ++ u.credentials ++ host ++ (u.port.map (':' :: Nat.toDigits 10 ·)).getD []
  | none => if u.isGuarded then ['/', '.'] else []

def toText (u : Url) : String :=
  String.ofList <| u.scheme ++ [':'] ++ u.authority ++ u.path.toChars ++
    (u.query.map ('?' :: ·)).getD [] ++ (u.fragment.map ('#' :: ·)).getD []

def dropTrailing (items : List (List Char)) : List (List Char) :=
  if 1 < items.length && items.getLast? = some [] then items.dropLast else items

def addedManner (scheme : List Char) : Manner where
  file := isFileScheme scheme
  part := if isSpecialScheme scheme then .specialSegment else .segment

def addSegment (m : Manner) (items : List (List Char)) (segment : String) : List (List Char) :=
  let before := if items = [[]] then [] else items
  (Route.push m { items := before } segment.toList true).segments m

def endpoint? (u : Url) (segments : List String) : Option Url :=
  match u.path with
  | .solid _ => none
  | .segments items =>
    let added := segments.filter fun s => !(s = "." || s = "..")
    some { u with
      path := .segments (added.foldl (addSegment (addedManner u.scheme)) (dropTrailing items)) }

end Url

end SourceMatch
