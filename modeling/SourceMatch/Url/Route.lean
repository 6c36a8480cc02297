import SourceMatch.Url.Percent

/-!
Routes: the segments of a path, taken up one after the other. Segments of dots lead back or stay,
and the drive of a file is never left.
-/
namespace SourceMatch.Url

def isBreak (c : Char) : Bool := c = '\t' || c = '\n' || c = '\x0d'

def unbroken (cs : List Char) : List Char := cs.filter (!isBreak ·)

def isDot (segment : List Char) : Bool :=
  segment = ['.'] || segment.map Char.toLower = "%2e".toList

def isDoubleDot (segment : List Char) : Bool :=
  ["..", ".%2e", "%2e.", "%2e%2e"].any fun dots => segment.map Char.toLower = dots.toList

def isDrive (segment : List Char) : Bool :=
  match segment with
  | [c, d] => c.isAlpha && (d = ':' || d = '|')
  | _ => false

def beginsWithDrive (segment : List Char) : Bool := isDrive (segment.takeWhile (· ≠ '\\'))

/-- A drive behind which a break ends the segment, and what follows the break. -/
def splitDrive? (segment : List Char) : Option (List Char × List Char) :=
  match segment.dropWhile isBreak with
  | c :: rest =>
    match rest.dropWhile isBreak with
    | ':' :: rest =>
      if c.isAlpha && rest.head?.any isBreak && !(unbroken rest).isEmpty then
        some ([c, ':'], unbroken rest)
      else none
    | _ => none
  | [] => none

structure Manner where
  file : Bool
  part : Percent.Part

structure Route where
  items : List (List Char) := []
  hasDrive : Bool := false
deriving DecidableEq, Repr

namespace Route

def back (items : List (List Char)) : List (List Char) :=
  if items.getLast?.any beginsWithDrive then items else items.dropLast

def push (m : Manner) (r : Route) (segment : List Char) (last : Bool) : Route :=
  let atStart := m.file && r.items.isEmpty
  let written := Percent.encode m.part (unbroken segment)
  let opened := if last then [[]] else []
  match if atStart then splitDrive? segment else none with
  | some (drive, rest) => { r with items := [drive, Percent.encode m.part rest] }
  | none =>
    if isDoubleDot written then { r with items := back r.items ++ opened }
    else if isDot written then { r with items := r.items ++ opened }
    else if atStart && isDrive written then
      { items := [written.take 1 ++ [':']], hasDrive := true }
    else { r with items := r.items ++ [written] }

def pushAll (m : Manner) (r : Route) : List (List Char) → Route
  | [] => r
  | [segment] => push m r segment true
  | segment :: rest => pushAll m (push m r segment false) rest

def trim (items : List (List Char)) : List (List Char) :=
  match items.dropWhile (·.isEmpty) with
  | [] => [[]]
  | items => items

def segments (m : Manner) (r : Route) : List (List Char) := if m.file then trim r.items else r.items

end Route

end SourceMatch.Url
