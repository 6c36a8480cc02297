import Mathlib.Data.List.Forall2
import SourceMatch.Server.Client

/-!
Calls of a client, one after the other, with the replies to them. A server that can be reached gets
one request for each, in the same order.
-/
namespace SourceMatch.Server

structure Answered where
  call : Call
  reply : Reply

namespace Client

variable {c c' c'' : Client} {n n' n'' : Http.Network} {call : Call} {reply : Reply}
  {talk talk' : List Answered}

/-- A client makes calls one after the other, each behind the reply to the one before. -/
inductive Talks : Client → Http.Network → List Answered → Client → Http.Network → Prop
  | done {c : Client} {n : Http.Network} : Talks c n [] c n
  | next {c c' c'' : Client} {n n' n'' : Http.Network} {call : Call} {reply : Reply}
      {talk : List Answered} (sent : c.send n call = (reply, c', n'))
      (onward : Talks c' n' talk c'' n'') : Talks c n (⟨call, reply⟩ :: talk) c'' n''

theorem Talks.one (sent : c.send n call = (reply, c', n')) :
    c.Talks n [⟨call, reply⟩] c' n' :=
  .next sent .done

theorem Talks.append (h : c.Talks n talk c' n') (h' : c'.Talks n' talk' c'' n'') :
    c.Talks n (talk ++ talk') c'' n'' := by
  induction h with
  | done => exact h'
  | next sent _ ih => exact .next sent (ih h')

theorem Talks.reply_eq {a : Answered} (h : c.Talks n (a :: talk) c' n') :
    a.reply = (c.send n a.call).1 := by
  cases h with
  | next sent _ => rw [sent]

theorem Talks.split (h : c.Talks n (talk ++ talk') c'' n'') :
    ∃ c' n', c.Talks n talk c' n' ∧ c'.Talks n' talk' c'' n'' := by
  induction talk generalizing c n with
  | nil => exact ⟨c, n, .done, h⟩
  | cons a talk ih =>
    cases h with
    | next sent onward =>
      obtain ⟨c', n', first, rest⟩ := ih onward
      exact ⟨c', n', .next sent first, rest⟩

def address? (c : Client) (call : Call) : Option Url :=
  (c.endpoint (path call)).toOption.map Http.withoutUser

def Reaches (c : Client) (n : Http.Network) (call : Call) : Prop :=
  n.reachable = true ∧ ∃ url, c.address? call = some url ∧ Http.isAskable url = true

structure Asks (c : Client) (a : Answered) (request : Http.Request) : Prop where
  method : request.method = Client.method a.call
  address : (c.address? a.call).map (fun url => { url with fragment := none }) = some request.url
  body : request.body = Client.body a.call

theorem requests_of_send (request : Http.Request)
    (askable : Http.isAskable (Http.withoutUser request.url) = true)
    (reachable : n.reachable = true) :
    (n.send request).2.reachable = true ∧
      (n.send request).2.requests =
        n.requests ++ [{ request with
          url := { Http.withoutUser request.url with fragment := none } }] := by
  simp only [Http.Network.send, askable, reachable, Bool.not_true, Bool.false_eq_true, if_false]
  rcases n.reactions with _ | ⟨_ | _, rest⟩ <;> exact ⟨rfl, rfl⟩

theorem asks_of_send (sent : c.send n call = (reply, c', n')) (reaches : c.Reaches n call) :
    c'.base = c.base ∧ n'.reachable = true ∧
      ∃ request, n'.requests = n.requests ++ [request] ∧ c.Asks ⟨call, reply⟩ request := by
  obtain ⟨reachable, url, address, askable⟩ := reaches
  cases found : c.endpoint (path call) with
  | error e => simp [address?, found, Except.toOption] at address
  | ok endpoint =>
    have url_eq : Http.withoutUser endpoint = url := by
      simpa [address?, found, Except.toOption] using address
    let request : Http.Request :=
      ⟨method call, endpoint, Http.Cookie.headerFor c.cookies endpoint, body call⟩
    have asked := requests_of_send request (by rwa [url_eq]) reachable
    have asks : c.Asks ⟨call, reply⟩ { request with
        url := { Http.withoutUser request.url with fragment := none } } :=
      ⟨rfl, by rw [address, url_eq]; rfl, rfl⟩
    simp only [send, found] at sent
    generalize n.send request = answered at asked sent
    obtain ⟨_ | response, behind⟩ := answered <;> cases sent <;>
      exact ⟨rfl, asked.1, _, asked.2, asks⟩

theorem Reaches.of_base (reaches : c.Reaches n call) (base : c'.base = c.base)
    (reachable : n'.reachable = true) : c'.Reaches n' call := by
  refine ⟨reachable, ?_⟩
  rw [address?, endpoint, base]
  exact reaches.2

theorem Asks.of_base {a : Answered} {request : Http.Request} (asks : c'.Asks a request)
    (base : c'.base = c.base) : c.Asks a request := by
  refine ⟨asks.method, ?_, asks.body⟩
  rw [address?, endpoint, ← base]
  exact asks.address

theorem Talks.requests (h : c.Talks n talk c' n')
    (reaches : ∀ a ∈ talk, c.Reaches n a.call) :
    ∃ requests, n'.requests = n.requests ++ requests ∧ List.Forall₂ c.Asks talk requests := by
  induction h with
  | done => exact ⟨[], (List.append_nil _).symm, .nil⟩
  | @next c c' c'' n n' n'' call reply talk sent onward ih =>
    obtain ⟨base, reachable, request, asked, asks⟩ :=
      asks_of_send sent (reaches _ (List.mem_cons_self ..))
    obtain ⟨requests, rest, told⟩ := ih fun a mem =>
      (reaches a (List.mem_cons_of_mem _ mem)).of_base base reachable
    refine ⟨request :: requests, ?_, .cons asks (told.imp fun _ _ asks => asks.of_base base)⟩
    rw [rest, asked, List.append_assoc]
    rfl

end Client

end SourceMatch.Server
