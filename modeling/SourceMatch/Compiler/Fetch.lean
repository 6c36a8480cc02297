import SourceMatch.Compiler.Index
import SourceMatch.Http.Exchange

/-!
Fetching the index of compiler builds. Faults that may pass are tried again.
-/
namespace SourceMatch

inductive IndexError where
  | transport (error : Http.TransportError)
  | failure (failure : RequestFailure)
  | unreadable (fault : Json.Category)
deriving DecidableEq, Repr

namespace IndexError

def code : IndexError → String
  | .transport _ => Http.TransportError.code
  | .failure f => f.code
  | .unreadable _ => "E011"

/-- The wording of a fault of JSON text is left open. -/
def message : IndexError → String
  | .transport e => e.message
  | .failure f => f.message
  | .unreadable _ =>
    "[E011] Compiler index is not valid JSON: <json>\n\nSuggestions:\n" ++
      "  • Check that --index-url points at a solc list.json file"

def isTransient : IndexError → Bool
  | .transport (.connect _) => true
  | .transport _ => false
  | .failure f => Http.isServerError f.status
  | .unreadable _ => false

end IndexError

namespace CompilerIndex

def defaultUrl : String := "https://binaries.soliditylang.org/bin/list.json"

def ofResponse (url : Url) (r : Http.Response) : Except IndexError CompilerIndex :=
  match r.text with
  | .error e => .error (.transport e)
  | .ok text =>
    if Http.isSuccess r.status then
      match ofText text with
      | .ok index => .ok index
      | .error fault => .error (.unreadable fault)
    else .error (.failure ⟨url, r.status, text⟩)

def fetchOnce (n : Http.Network) (url : Url) : Except IndexError CompilerIndex × Http.Network :=
  match n.send ⟨.get, url, none, none⟩ with
  | (.error e, n) => (.error (.transport e), n)
  | (.ok response, n) => (ofResponse url response, n)

def retrying (attempt : Http.Network → Except IndexError CompilerIndex × Http.Network) :
    Nat → Http.Network → Except IndexError CompilerIndex × Http.Network
  | 0, n => attempt n
  | left + 1, n =>
    match attempt n with
    | (.ok index, n) => (.ok index, n)
    | (.error e, n) => if e.isTransient then retrying attempt left n else (.error e, n)

def retries : Nat := 2

def fetch (n : Http.Network) (url : Url) : Except IndexError CompilerIndex × Http.Network :=
  retrying (fetchOnce · url) retries n

end CompilerIndex

end SourceMatch
