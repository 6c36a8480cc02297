import SourceMatch.Http.Failure
import SourceMatch.Json.Basic

/-!
Exchanges with services: requests, what comes back for them, and the cookies that a client keeps.
-/
namespace SourceMatch.Http

inductive Method where
  | get
  | post
deriving DecidableEq, Repr

def Method.name : Method → String
  | .get => "GET"
  | .post => "POST"

structure Request where
  method : Method
  url : Url
  cookie : Option String := none
  body : Option Json := none
deriving Repr

/-- What comes of a request behind all redirects, which clients follow on their own: the answer to
which the last one leads, or none. -/
inductive Reaction where
  /-- `whole` tells whether the body arrives to its end. -/
  | answer (status : Nat) (body : String) (setCookie : Option String) (whole : Bool)
  | close
deriving Repr, Inhabited

structure Network where
  reachable : Bool := true
  reactions : List Reaction := []
  requests : List Request := []
deriving Repr

inductive TransportError where
  | address (url : Url)
  | connect (url : Url)
  | lost (url : Url)
  | body
deriving DecidableEq, Repr

def TransportError.message : TransportError → String
  | .address url => "builder error for url (" ++ url.toText ++ ")"
  | .connect url | .lost url => "error sending request for url (" ++ url.toText ++ ")"
  | .body => "error decoding response body"

def TransportError.code : String := "E999"

structure Response where
  status : Nat
  body : String
  setCookie : Option String
  whole : Bool
deriving Repr

def Response.text (r : Response) : Except TransportError String :=
  if r.whole then .ok r.body else .error .body

def isBodiless (status : Nat) : Bool := status = 204 || status = 304 || status < 200

def isWeb (url : Url) : Bool := url.scheme = "http".toList || url.scheme = "https".toList

def isBarred (c : Char) : Bool := ['"', '\x60', '\x7b', '\x7d'].contains c

def isAskable (url : Url) : Bool :=
  isWeb url && !(url.host.getD []).any isBarred && url.toText.utf8ByteSize ≤ 65534

/-- An address without its user, who is named apart from the address. A name that is no text stays
where it is. -/
def withoutUser (url : Url) : Url :=
  match Url.Percent.text? url.username, Url.Percent.text? url.password with
  | none, _ => url
  | some "", none => url
  | _, _ => { url with username := [], password := [] }

/-- Sends a request. What counts as one request here may be several on the way to its reaction:
those to which redirects lead are not listed. -/
def Network.send (n : Network) (request : Request) : Except TransportError Response × Network :=
  let url := withoutUser request.url
  if !isAskable url then (.error (.address url), n)
  else if !n.reachable then (.error (.connect url), n)
  else
    let request := { request with url := { url with fragment := none } }
    let n := { n with requests := n.requests ++ [request] }
    match n.reactions with
    | [] => (.error (.lost url), n)
    | .close :: rest => (.error (.lost url), { n with reactions := rest })
    | .answer status body setCookie whole :: rest =>
      let body := if isBodiless status then "" else body
      (.ok ⟨status, body, setCookie, whole || isBodiless status⟩, { n with reactions := rest })

end SourceMatch.Http
