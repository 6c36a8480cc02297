import SourceMatch.Http.Exchange
import SourceMatch.Server.Model

/-!
Replies of a verification server, and why a request to it failed.
-/
namespace SourceMatch.Server

open Json (Decoder)

inductive Error where
  | notBase (url : Url)
  | transport (error : Http.TransportError)
  | failure (failure : RequestFailure)
  | payload (url : Url) (fault : Json.Category)
deriving DecidableEq, Repr

namespace Error

def code : Error → String
  | .notBase _ => "E006"
  | .transport _ => Http.TransportError.code
  | .failure f => f.code
  | .payload _ _ => "E007"

/-- The wording of a fault of JSON text is left open. -/
def message : Error → String
  | .notBase url =>
    "[E006] Invalid base URL: " ++ url.toText ++ "\n\nSuggestions:\n" ++
      "  • Provide a valid HTTP or HTTPS URL\n" ++
      "  • Example: https://server-verify.hashscan.io\n" ++
      "  • Ensure the URL includes the protocol (http:// or https://)"
  | .transport e => e.message
  | .failure f => f.message
  | .payload url _ =>
    "[E007] Unexpected response from " ++ url.toText ++ ": <json>\n\nSuggestions:\n" ++
      "  • Check that the URL points at a verification server\n" ++
      "  • The server may be running an incompatible version"

end Error

/-- What the server sent, read in each of the ways in which a request may ask for it. -/
structure Reply where
  data : Except Error SessionData
  text : Except Error String
  verification : Except Error VerifyResponse

namespace Reply

def failed (e : Error) : Reply := ⟨.error e, .error e, .error e⟩

def decoded {α : Type} (url : Url) (read : Decoder α → Except Json.Category α) (d : Decoder α) :
    Except Error α :=
  match read d with
  | .ok a => .ok a
  | .error fault => .error (.payload url fault)

def ofValue (url : Url) (v : Json) : Reply where
  data := decoded url (fun d => d.ofValue v) SessionData.decoder
  text := decoded url (fun d => d.ofValue v) Decoder.string
  verification := decoded url (fun d => d.ofValue v) VerifyResponse.decoder

def ofText (url : Url) (t : String) : Reply where
  data := decoded url (fun d => d.ofText t) SessionData.decoder
  text := decoded url (fun d => d.ofText t) Decoder.string
  verification := decoded url (fun d => d.ofText t) VerifyResponse.decoder

def ofBody (url : Url) (body : String) : Reply := { ofText url body with text := .ok body }

def failure? (url : Url) (r : Http.Response) : Option Error :=
  let failed (text : Except Http.TransportError String) : Error :=
    match text with
    | .ok text => .failure ⟨url, r.status, text⟩
    | .error e => .transport e
  if Http.isSuccess r.status then none
  else if r.status = 400 then
    some (failed (r.text.map fun t => (refusalDecoder.ofText t).toOption.getD t))
  else if r.status = 413 then some (.failure ⟨url, 413, "Request payload too large"⟩)
  else some (failed r.text)

def ofResponse (url : Url) (r : Http.Response) : Reply :=
  match failure? url r with
  | some e => failed e
  | none =>
    match r.text with
    | .ok body => ofBody url body
    | .error e => failed (.transport e)

end Reply

end SourceMatch.Server
