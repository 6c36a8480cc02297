import SourceMatch.Unicode.Composition
import SourceMatch.Unicode.Direction
import SourceMatch.Unicode.Joining
import SourceMatch.Unicode.Mapping
import SourceMatch.Url.Percent
import SourceMatch.Url.Punycode

/-!
Domains: any writing of a domain is brought to the one in small ASCII letters by which it is found.
Labels with other characters are written in code behind a mark.
-/
namespace SourceMatch.Url

structure Label where
  meant : List Char
  written : List Char
deriving DecidableEq, Repr

def isAscii (cs : List Char) : Bool := cs.all (·.toNat < 128)

namespace Label

def codeMark : List Char := "xn--".toList

def nonJoiner : Char := '\u200c'
def joiner : Char := '\u200d'

/-- Whether a joining control has work to do between what is before it, the last character first,
and what is after it: it may follow a sign that takes the vowel off a letter, and the one that keeps
letters apart may stand between letters that would join. -/
def joinerFits (c : Char) (before after : List Char) : Bool :=
  (before.head?.map Unicode.combiningClass) = some Unicode.viramaClass ||
    (c = nonJoiner &&
      ((before.dropWhile Unicode.isTransparent).head?.any Unicode.joinsNext) &&
      ((after.dropWhile Unicode.isTransparent).head?.any Unicode.joinsPrevious))

def joinersFit (before : List Char) : List Char → Bool
  | [] => true
  | c :: after =>
    (!(c = nonJoiner || c = joiner) || joinerFits c before after) && joinersFit (c :: before) after

def isWellFormed (cs : List Char) : Bool := !cs.head?.any Unicode.isMark && joinersFit [] cs

/-- The label that is written in code; it means what no other writing of it would change. -/
def ofCode? (written code : List Char) : Option Label :=
  if 2000 < code.length then none
  else
    match Punycode.decode? code with
    | none => none
    | some meant =>
      if meant.all Unicode.isSettled && Unicode.compose meant = meant && isWellFormed meant then
        some { meant, written }
      else none

def ofChars? (cs : List Char) : Option Label :=
  match Text.after? codeMark cs, isAscii cs with
  | some code, true => ofCode? cs code
  | some _, false => none
  | none, true => some { meant := cs, written := cs }
  | none, false =>
    if isWellFormed cs && cs.length ≤ 1000 then
      some { meant := cs, written := codeMark ++ Punycode.encode cs }
    else none

end Label

namespace Domain

def isForbidden (c : Char) : Bool :=
  c.toNat ≤ 0x20 || c.toNat = 0x7F ||
    ['%', '#', '/', ':', '<', '>', '?', '@', '[', '\\', ']', '^', '|'].contains c

def normal? (cs : List Char) : Option (List Char) :=
  if isAscii cs then some (cs.map Char.toLower) else (Unicode.map? cs).map Unicode.compose

def isReadable (labels : List Label) : Bool :=
  labels.all (fun l => isAscii l.meant) ||
    !labels.any (fun l => l.meant.any fun c => (Unicode.direction c).turns) ||
    labels.all fun l => Unicode.keepsTogether l.meant

def written? (cs : List Char) : Option (List Char) := do
  let domain ← normal? cs
  if domain.any isForbidden then none
  else
    let labels ← (Text.splitAtChar '.' domain).mapM Label.ofChars?
    if isReadable labels then some (['.'].intercalate (labels.map (·.written))) else none

def inAddress? (cs : List Char) : Option (List Char) := do
  written? (← Percent.text? cs).toList

end Domain

end SourceMatch.Url
