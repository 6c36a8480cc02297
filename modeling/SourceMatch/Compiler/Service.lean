import SourceMatch.Compiler.Input
import SourceMatch.Compiler.Output
import SourceMatch.Http.Exchange
import SourceMatch.Json.Reader

/-!
The compile service: standard JSON goes in, and the output of the compiler comes back.
-/
namespace SourceMatch

inductive CompileError where
  | notBase (url : Url)
  | transport (error : Http.TransportError)
  | failure (failure : RequestFailure)
  | output (fault : Json.Category)
  | rejected (text : String)
deriving DecidableEq, Repr

namespace CompileError

def code : CompileError → String
  | .notBase _ => "E003"
  | .transport _ => Http.TransportError.code
  | .failure f => f.code
  | .output _ | .rejected _ => "E004"

/-- The wording of a fault of JSON text is left open. -/
def message : CompileError → String
  | .notBase url =>
    "[E003] Invalid compiler URL: " ++ url.toText ++ "\n\nSuggestions:\n" ++
      "  • Provide a valid HTTP or HTTPS URL\n" ++
      "  • Ensure the URL includes the protocol (http:// or https://)"
  | .transport e => e.message
  | .failure f => f.message
  | .output _ => "[E004] Compiler output is not standard JSON: <json>"
  | .rejected text => "[E004] Compilation failed: " ++ text

end CompileError

def CompileOutput.ofValue (v : Json) : Except CompileError CompileOutput :=
  match CompileOutput.ofJson v with
  | .ok output => .ok output
  | .error fault => .error (.output fault)

structure CompileService where
  url : Url
deriving Repr

namespace CompileService

def ofUrl (url : Url) : Except CompileError CompileService :=
  if url.isBase then .ok ⟨url⟩ else .error (.notBase url)

def ofResponse (url : Url) (r : Http.Response) : Except CompileError CompileOutput :=
  match r.text with
  | .error e => .error (.transport e)
  | .ok text =>
    if r.status = 200 then
      match Json.parse text with
      | .ok v => CompileOutput.ofValue v
      | .error _ => .error (.transport .body)
    else .error (.failure ⟨url, r.status, text⟩)

def compile (s : CompileService) (n : Http.Network) (input : CompilerInput) :
    Except CompileError CompileOutput × Http.Network :=
  match n.send ⟨.post, s.url, none, some input.toJson⟩ with
  | (.error e, n) => (.error (.transport e), n)
  | (.ok response, n) => (ofResponse s.url response, n)

end CompileService

end SourceMatch
