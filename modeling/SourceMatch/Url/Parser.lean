import SourceMatch.Url.Basic
import SourceMatch.Url.Host

/-!
Reading an address that stands alone: scheme, user, host, port, path, query and fragment.
-/
namespace SourceMatch.Url

def tidy (text : String) : List Char :=
  let outer (c : Char) : Bool := c.toNat ≤ 0x20
  ((text.toList.dropWhile outer).reverse.dropWhile outer).reverse

def isSchemeChar (c : Char) : Bool := c.isAlphanum || c = '+' || c = '-' || c = '.'

def scheme? (cs : List Char) : Option (List Char × List Char) :=
  match cs.span isSchemeChar with
  | (c :: scheme, ':' :: rest) =>
    if c.isAlpha then some ((c :: scheme).map Char.toLower, rest) else none
  | _ => none

def isSlash (special : Bool) (c : Char) : Bool := c = '/' || (special && c = '\\')

def endsAuthority (special : Bool) (c : Char) : Bool :=
  isSlash special c || c = '?' || c = '#'

def splitUser? (cs : List Char) : Option (List Char × List Char) :=
  match cs.reverse.span (· ≠ '@') with
  | (_, []) => none
  | (host, _ :: user) => some (user.reverse, host.reverse)

def splitHost (cs : List Char) (bracket : Bool) : List Char × List Char :=
  match cs with
  | [] => ([], [])
  | c :: rest =>
    if c = ':' ∧ !bracket then ([], c :: rest)
    else
      let (host, rest) := splitHost rest (if c = '[' then true else if c = ']' then false else bracket)
      (c :: host, rest)

/-- A port, and what follows its digits, which only a backslash may begin; the default port is not
kept. -/
def port? (scheme : List Char) (cs : List Char) : Except ParseError (Option Nat × List Char) :=
  let (digits, rest) := cs.span Char.isDigit
  let n := digits.foldl (fun n c => n * 10 + (c.toNat - '0'.toNat)) 0
  if 65535 < n || !(rest.isEmpty || rest.head? = some '\\') then .error .port
  else .ok (if digits.isEmpty || defaultPort? scheme = some n then none else some n, rest)

structure Authority where
  username : List Char := []
  password : List Char := []
  host : List Char
  port : Option Nat
  rest : List Char := []

/-- A user needs a host, and so does an at sign that more of the address follows. -/
def authority? (scheme cs : List Char) (followed : Bool) : Except ParseError Authority := do
  let special := isSpecialScheme scheme
  let (user, rest) := (splitUser? cs).getD ([], cs)
  let (username, password) := user.span (· ≠ ':')
  let isNamed := !username.isEmpty || 1 < password.length
  if rest.isEmpty && (isNamed || (cs = ['@'] && followed)) then throw .emptyHost
  let (host, port) := splitHost rest false
  if special ∧ host.isEmpty then throw .emptyHost
  let host ← if special then Host.special host else Host.plain host
  if host.isEmpty ∧ !port.isEmpty then throw .emptyHost
  let (port, rest) ← port? scheme (port.drop 1)
  return {
    username := Percent.encode .userinfo username
    password := Percent.encode .userinfo (password.drop 1)
    host, port, rest }

def splitSegments (special : Bool) : List Char → List (List Char)
  | [] => [[]]
  | c :: cs =>
    if isSlash special c then [] :: splitSegments special cs
    else
      match splitSegments special cs with
      | [] => [[c]]
      | s :: ss => (c :: s) :: ss

def readManner (scheme : List Char) : Manner := { file := isFileScheme scheme, part := .path }

def route (scheme cs : List Char) : Route :=
  Route.pushAll (readManner scheme) {} (splitSegments (isSpecialScheme scheme) cs)

def pathOf (scheme : List Char) (r : Route) : Path := .segments (r.segments (readManner scheme))

def dropSlash (special : Bool) : List Char → List Char
  | [] => []
  | c :: cs => if isSlash special c then cs else c :: cs

def cut (mark : Char) (cs : List Char) : List Char × Option (List Char) :=
  match cs.span (· ≠ mark) with
  | (front, []) => (front, none)
  | (front, _ :: rest) => (front, some rest)

def finish (base : Url) (query fragment : Option (List Char)) : Url :=
  let part : Percent.Part := if isSpecialScheme base.scheme then .specialQuery else .query
  { base with
    query := query.map (Percent.encode part)
    fragment := fragment.map (Percent.encode .fragment) }

def withHost (scheme cs : List Char) (more : Bool) : Except ParseError Url := do
  let special := isSpecialScheme scheme
  let (front, path) := cs.span fun c => !endsAuthority special c
  let a ← authority? scheme front (more || !path.isEmpty)
  let path := a.rest ++ path
  return {
    scheme, username := a.username, password := a.password, host := some a.host, port := a.port
    path :=
      if path.isEmpty && !special then .segments []
      else pathOf scheme (route scheme (dropSlash special path)) }

/-- The address of a file behind two slashes. A host that reads as a drive belongs to the path, the
own host is not written, and a path that begins with a drive has no host. -/
def fileWithHost (scheme cs : List Char) : Except ParseError Url := do
  let (host, path) := cs.span fun c => !endsAuthority true c
  let host := unbroken host
  if isDrive host then
    return { scheme, host := some [], path := pathOf scheme (route scheme cs) }
  let host ← if host.isEmpty then pure [] else Host.special host
  if host.isEmpty || host = "localhost".toList then
    return { scheme, host := some [], path := pathOf scheme (route scheme path) }
  let r := route scheme (dropSlash true path)
  return { scheme, host := some (if r.hasDrive then [] else host), path := pathOf scheme r }

def fileUrl (scheme cs : List Char) : Except ParseError Url :=
  match slash? cs with
  | none => .ok { scheme, host := some [], path := pathOf scheme (route scheme cs) }
  | some cs =>
    match slash? cs with
    | none => .ok { scheme, host := some [], path := pathOf scheme (route scheme cs) }
    | some cs => fileWithHost scheme cs
where
  slash? (cs : List Char) : Option (List Char) :=
    match cs.dropWhile isBreak with
    | [] => none
    | c :: rest => if isSlash true c then some rest else none

def otherUrl (scheme cs : List Char) (more : Bool) : Except ParseError Url :=
  match cs with
  | '/' :: '/' :: rest => withHost scheme rest more
  | '/' :: rest =>
    let r := route scheme rest
    .ok {
      scheme, path := pathOf scheme r
      isGuarded := r.items.head? = some [] && 1 < r.items.length }
  | cs => .ok { scheme, path := .solid (Percent.encode .opaquePath cs) }

def parse (text : String) : Except ParseError Url := do
  let cs := tidy text
  match scheme? (unbroken cs) with
  | none => throw .relative
  | some (scheme, rest) =>
    let (rest, fragment) := cut '#' rest
    let (rest, query) := cut '?' rest
    let more := query.isSome || fragment.isSome
    let base ←
      if isFileScheme scheme then
        fileUrl scheme (((cs.dropWhile (· ≠ ':')).drop 1).takeWhile fun c => !(c = '?' || c = '#'))
      else if isSpecialScheme scheme then withHost scheme (rest.dropWhile (isSlash true)) more
      else otherUrl scheme rest more
    return finish base query fragment

end Url

end SourceMatch
