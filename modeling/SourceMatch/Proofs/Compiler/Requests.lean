import SourceMatch.Compiler.Fetch
import SourceMatch.Compiler.Service

/-!
The requests that reach the network: fetching the index of builds only ever gets, and a compilation
that is answered has posted its input once.
-/
namespace SourceMatch

namespace Http.Network

variable {n n' : Network} {request : Request} {response : Response}

/-- The request that reaches the network for a given one. -/
def Delivers (n n' : Network) (method : Method) (body : Option Json) : Prop :=
  ∃ request : Request, n'.requests = n.requests ++ [request] ∧ request.method = method ∧
    request.body = body

theorem delivers_of_send (h : n.send request = (.ok response, n')) :
    Delivers n n' request.method request.body := by
  rw [send] at h
  dsimp only at h
  split at h
  · cases h
  · split at h
    · cases h
    · split at h <;> cases h
      exact ⟨_, rfl, rfl, rfl⟩

theorem requests_send (n : Network) (request : Request) :
    (n.send request).2.requests = n.requests ∨
      Delivers n (n.send request).2 request.method request.body := by
  rw [send]
  dsimp only
  split
  · exact .inl rfl
  · split
    · exact .inl rfl
    · split <;> exact .inr ⟨_, rfl, rfl, rfl⟩

end Http.Network

namespace CompilerIndex

theorem fetch_of_response {n n' : Http.Network} {url : Url} {r : Http.Response}
    {index : CompilerIndex} (sent : n.send ⟨.get, url, none, none⟩ = (.ok r, n'))
    (read : ofResponse url r = .ok index) : fetch n url = (.ok index, n') := by
  have once : fetchOnce n url = (.ok index, n') := by simp only [fetchOnce, sent, read]
  simp only [fetch, retries, retrying, once]

def Gets (n n' : Http.Network) : Prop :=
  ∃ gets, n'.requests = n.requests ++ gets ∧ ∀ request ∈ gets, request.method = .get

theorem gets_trans {n n' n'' : Http.Network} (h : Gets n n') (h' : Gets n' n'') : Gets n n'' := by
  obtain ⟨gets, requests, get⟩ := h
  obtain ⟨gets', requests', get'⟩ := h'
  refine ⟨gets ++ gets', by rw [requests', requests, List.append_assoc], fun request listed => ?_⟩
  rcases List.mem_append.1 listed with listed | listed
  · exact get request listed
  · exact get' request listed

theorem gets_fetchOnce (n : Http.Network) (url : Url) : Gets n (fetchOnce n url).2 := by
  have network : (fetchOnce n url).2 = (n.send ⟨.get, url, none, none⟩).2 := by
    rw [fetchOnce]
    split <;> rename_i h <;> rw [h]
  rw [network]
  rcases Http.Network.requests_send n ⟨.get, url, none, none⟩ with same | ⟨request, sent, method, -⟩
  · exact ⟨[], by simpa using same, by simp⟩
  · exact ⟨[request], sent, by simpa using method⟩

theorem gets_retrying {attempt : Http.Network → Except IndexError CompilerIndex × Http.Network}
    (gets : ∀ n, Gets n (attempt n).2) (left : Nat) (n : Http.Network) :
    Gets n (retrying attempt left n).2 := by
  induction left generalizing n with
  | zero => exact gets n
  | succ left ih =>
    have once := gets n
    rw [retrying]
    cases h : attempt n with
    | mk result n' =>
      rw [h] at once
      cases result with
      | ok index => exact once
      | error e =>
        dsimp only
        split
        · exact gets_trans once (ih n')
        · exact once

theorem gets_fetch {n n' : Http.Network} {url : Url} {result : Except IndexError CompilerIndex}
    (h : fetch n url = (result, n')) : Gets n n' := by
  have gets := gets_retrying (gets_fetchOnce · url) retries n
  rw [← fetch, h] at gets
  exact gets

end CompilerIndex

namespace CompileService

variable {c : CompileService} {n n' : Http.Network} {input : CompilerInput}
  {output : CompileOutput}

theorem delivers_of_compile (h : c.compile n input = (.ok output, n')) :
    Http.Network.Delivers n n' .post (some input.toJson) := by
  rw [compile] at h
  split at h
  · cases h
  · rename_i sent
    rw [← (Prod.mk.inj h).2]
    exact Http.Network.delivers_of_send sent

theorem exists_json_of_ofResponse {url : Url} {r : Http.Response}
    (h : ofResponse url r = .ok output) : ∃ v, CompileOutput.ofJson v = .ok output := by
  rw [ofResponse] at h
  split at h
  · cases h
  · split at h
    · split at h
      · rename_i v _
        rw [CompileOutput.ofValue] at h
        split at h
        · rename_i read
          exact ⟨v, by rw [read, Except.ok.inj h]⟩
        · cases h
      · cases h
    · cases h

theorem exists_json_of_compile (h : c.compile n input = (.ok output, n')) :
    ∃ v, CompileOutput.ofJson v = .ok output := by
  rw [compile] at h
  split at h
  · cases h
  · exact exists_json_of_ofResponse (Prod.mk.inj h).1

end CompileService

end SourceMatch
