import SourceMatch.Text.Blank
import SourceMatch.Url.Basic
import SourceMatch.Url.Host

/-!
Cookies: what a service asks a client to keep and send back to its host.
-/
namespace SourceMatch.Http

/-- A kept cookie: the host that it is for, with the hosts below it if it is shared, and the folder
of paths that it is for. -/
structure Cookie where
  name : List Char
  value : List Char
  host : List Char
  shared : Bool
  path : List Char
  secure : Bool
deriving DecidableEq, Repr

namespace Cookie

def pair (cs : List Char) : List Char × Option (List Char) :=
  match cs.span (· ≠ '=') with
  | (name, []) => (Text.trim name, none)
  | (name, _ :: value) => (Text.trim name, some (Text.trim value))

def setting (cs : List Char) : List Char × Option (List Char) :=
  let (name, value) := pair cs
  (name.map Char.toLower, value)

def valueOf? (name : String) (isFit : List Char → Bool)
    (attributes : List (List Char × Option (List Char))) : Option (List Char) :=
  (attributes.filterMap fun a => if a.1 = name.toList then a.2.filter isFit else none).getLast?

def folderOf (url : Url) : List Char :=
  let path := url.path.toChars
  match (path.reverse.dropWhile (· ≠ '/')).reverse with
  | [] => ['/']
  | ['/'] => ['/']
  | folder => folder.dropLast

def isAge (cs : List Char) : Bool :=
  match cs with
  | '-' :: digits => digits.all Char.isDigit
  | digits => digits.all Char.isDigit

def isSpent (age : List Char) : Bool :=
  age.head? = some '-' || (!age.isEmpty && age.all (· = '0'))

def lies (host domain : List Char) : Bool :=
  host = domain ||
    (!(host.head? = some '[' || Url.Host.endsInNumber host) && ('.' :: domain).isSuffixOf host)

def domain? (cs : List Char) : Option (List Char) :=
  let undotted (cs : List Char) : List Char := if cs.head? = some '.' then cs.drop 1 else cs
  (Url.Domain.written? (Text.trim (undotted cs))).map undotted

/-- The host that a cookie is for and whether it is shared with hosts below; a host gives no cookies
to others. -/
def scope? (host : List Char) (domain : Option (List Char)) : Option (List Char × Bool) :=
  match domain with
  | none => some (host, false)
  | some cs =>
    match domain? cs with
    | none => none
    | some [] => some (host, false)
    | some domain => if lies host domain then some (domain, true) else none

def store (cookies : List Cookie) (url : Url) (line : String) : List Cookie :=
  match Text.splitAtChar ';' line.toList with
  | [] => cookies
  | first :: attributes =>
    let attributes := attributes.map setting
    match pair first, scope? (url.host.getD []) (valueOf? "domain" (!·.isEmpty) attributes) with
    | (c :: name, some value), some (host, shared) =>
      let path := match valueOf? "path" (fun _ => true) attributes with
        | some ('/' :: path) => '/' :: path
        | _ => folderOf url
      let secure := attributes.any fun a => a.1 = "secure".toList
      let others := cookies.filter fun other =>
        !(other.name = c :: name && other.host = host && other.path = path)
      if (valueOf? "max-age" isAge attributes).any isSpent then others
      else others ++ [{ name := c :: name, value, host, shared, path, secure }]
    | _, _ => cookies

def covers (folder path : List Char) : Bool :=
  match Text.after? folder path with
  | none => false
  | some [] => true
  | some (c :: _) => c = '/' || folder.getLast? = some '/'

def isSafe (url : Url) : Bool :=
  url.scheme = "https".toList ||
    match url.host with
    | some host =>
      host = "localhost".toList || host = "[::1]".toList ||
        ((Url.Host.ipv4? host).bind List.head?) = some 127
    | none => false

def suits (c : Cookie) (url : Url) : Bool :=
  (if c.shared then url.host.any (lies · c.host) else some c.host = url.host) &&
    covers c.path url.path.toChars && (!c.secure || isSafe url)

def headerFor (cookies : List Cookie) (url : Url) : Option String :=
  let own := cookies.filter (·.suits url)
  if own.isEmpty then none
  else some (String.ofList ([';', ' '].intercalate (own.map fun c => c.name ++ '=' :: c.value)))

end Cookie

end SourceMatch.Http
