import SourceMatch.Http.Cookie
import SourceMatch.Server.Reply

/-!
A client of a verification server. One client is one session of the server, which knows it again by
its cookies.
-/
namespace SourceMatch.Server

structure Client where
  base : Url
  cookies : List Http.Cookie := []
deriving Repr

namespace Client

def defaultServer : String := "https://server-verify.hashscan.io"

def ofUrl (base : Url) : Except Error Client :=
  if base.isBase then .ok { base } else .error (.notBase base)

def endpoint (c : Client) (segments : List String) : Except Error Url :=
  match c.base.endpoint? segments with
  | some url => .ok url
  | none => .error (.notBase c.base)

def path : Call → List String
  | .sessionData => ["session", "data"]
  | .clearSession => ["session", "clear"]
  | .uploadFiles _ => ["session", "input-files"]
  | .verifyChecked _ => ["session", "verify-checked"]
  | .verify _ => ["verify"]

def method : Call → Http.Method
  | .sessionData => .get
  | _ => .post

def body : Call → Option Json
  | .sessionData => none
  | .clearSession => none
  | .uploadFiles files => some (.object [("files", files.toJson .string)])
  | .verifyChecked contracts =>
    some (.object [("contracts", .array (contracts.map CheckRequest.toJson))])
  | .verify request => some request.toJson

def send (c : Client) (n : Http.Network) (call : Call) : Reply × Client × Http.Network :=
  match c.endpoint (path call) with
  | .error e => (.failed e, c, n)
  | .ok url =>
    let cookie := Http.Cookie.headerFor c.cookies url
    match n.send ⟨method call, url, cookie, body call⟩ with
    | (.error e, n) => (.failed (.transport e), c, n)
    | (.ok response, n) =>
      let cookies := (response.setCookie.map (Http.Cookie.store c.cookies url)).getD c.cookies
      (.ofResponse url response, { c with cookies }, n)

end Client

end SourceMatch.Server
