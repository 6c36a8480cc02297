import SourceMatch.Session.Remote

/-!
What can happen at one event of a session, said once for every event with all that it takes. A reply
that comes too late ends its round and nothing else; one that is still wanted is taken up, noted as
a failure, or followed by the next check.
-/
namespace SourceMatch.Session.Remote

open Server (SessionData ContractDescriptor Reply)

variable {target : Option Target} {s : State} {r : Run} {e : Event} {generation : Nat}

theorem close_wanted (wanted : s.gate.isCurrent generation = true) (apply : State → State)
    (outcome : RoundOutcome) :
    s.close generation apply outcome = (apply (drop s), .ended outcome) :=
  if_pos wanted

theorem close_late (late : s.gate.isCurrent generation = false) (apply : State → State)
    (outcome : RoundOutcome) : s.close generation apply outcome = (drop s, .ended .stale) :=
  if_neg (by rw [Gate.isCurrent_leave, late]; exact Bool.false_ne_true)

theorem nextCheck_late (late : s.gate.isCurrent generation = false) (uploaded : SessionData)
    (responses : List SessionData) (contracts : List ContractDescriptor) :
    nextCheck target s generation uploaded responses contracts = (drop s, .ended .stale) := by
  cases contracts with
  | nil => exact close_late late _ _
  | cons c rest =>
    cases target with
    | none =>
      rw [nextCheck]
      exact close_late late _ _
    | some target =>
      rw [nextCheck, if_pos (by simp [late])]
      exact close_late late _ _

/-- How a round that is still wanted goes on behind the answer to its upload: either no contract is
left to be checked, or the first one with an id is. -/
inductive CheckCase (target : Option Target) (s : State) (generation : Nat)
    (uploaded : SessionData) (responses : List SessionData) (contracts : List ContractDescriptor) :
    State × Progress → Prop
  | finished (nothing : target = none ∨ ∀ c ∈ contracts, c.verificationId = none) :
      CheckCase target s generation uploaded responses contracts
        ((drop s).replace uploaded responses, .ended .applied)
  | check {found : Target} {before after : List ContractDescriptor} {c : ContractDescriptor}
      {id : String} (target_eq : target = some found) (split : contracts = before ++ c :: after)
      (skipped : ∀ b ∈ before, b.verificationId = none) (id_eq : c.verificationId = some id) :
      CheckCase target s generation uploaded responses contracts
        (s, .waiting (.check generation uploaded responses (checkRequest found id) after))

theorem nextCheck_cases (target : Option Target) (wanted : s.gate.isCurrent generation = true)
    (uploaded : SessionData) (responses : List SessionData) (contracts : List ContractDescriptor) :
    CheckCase target s generation uploaded responses contracts
      (nextCheck target s generation uploaded responses contracts) := by
  induction contracts with
  | nil =>
    rw [nextCheck, close_wanted wanted]
    exact .finished (.inr (by simp))
  | cons c rest ih =>
    cases target with
    | none =>
      rw [nextCheck, close_wanted wanted]
      exact .finished (.inl rfl)
    | some found =>
      -- the state stays as it is while contracts without an id are passed over
      rw [nextCheck, if_neg (by simp [wanted])]
      cases hid : c.verificationId with
      | some id => exact .check rfl (List.nil_append _).symm (by simp) hid
      | none =>
        dsimp only
        generalize nextCheck (some found) s generation uploaded responses rest = next at ih
        cases ih with
        | finished nothing =>
          refine .finished (nothing.imp_right fun h b hb => ?_)
          rcases List.mem_cons.1 hb with rfl | hb
          · exact hid
          · exact h b hb
        | check target_eq split skipped id_eq =>
          rw [split, ← List.cons_append]
          refine .check target_eq rfl (fun b hb => ?_) id_eq
          rcases List.mem_cons.1 hb with rfl | hb
          · exact hid
          · exact skipped b hb

def refusal? {α : Type} : Except Server.Error α → Option Server.Error
  | .ok _ => none
  | .error e => some e

/-- The error of a reply, if it makes the round fail. A check that fails does not. -/
def Round.error? (reply : Reply) : Round → Option Server.Error
  | .fetch _ | .upload _ _ => refusal? reply.data
  | .clear _ => refusal? reply.text
  | .check .. => none

inductive Checked (reply : Reply) :
    Round → SessionData → List SessionData → List ContractDescriptor → Prop
  | upload {generation : Nat} {files : Dict String} {uploaded : SessionData}
      (data : reply.data = .ok uploaded) :
      Checked reply (.upload generation files) uploaded [] uploaded.contracts
  | check {generation : Nat} {uploaded : SessionData} {responses : List SessionData}
      {request : Server.CheckRequest} {rest : List ContractDescriptor} :
      Checked reply (.check generation uploaded responses request rest) uploaded
        (responses ++ reply.data.toOption.toList) rest

/-- All that can come of a reply to a round. -/
inductive ReplyCase (target : Option Target) (s : State) (round : Round) (reply : Reply) :
    State × Progress → Prop
  | late (unwanted : s.gate.isCurrent round.generation = false) :
      ReplyCase target s round reply (drop s, .ended .stale)
  | failed {error : Server.Error} (wanted : s.gate.isCurrent round.generation = true)
      (refused : round.error? reply = some error) :
      ReplyCase target s round reply ((drop s).fail error, .ended .failed)
  | fetched {data : SessionData} (wanted : s.gate.isCurrent round.generation = true)
      (round_eq : round = .fetch round.generation) (data_eq : reply.data = .ok data) :
      ReplyCase target s round reply ((drop s).replace data [], .ended .applied)
  | cleared {text : String} (wanted : s.gate.isCurrent round.generation = true)
      (round_eq : round = .clear round.generation) (text_eq : reply.text = .ok text) :
      ReplyCase target s round reply ((drop s).replace {} [], .ended .applied)
  | checked {uploaded : SessionData} {responses : List SessionData}
      {contracts : List ContractDescriptor} {next : State × Progress}
      (wanted : s.gate.isCurrent round.generation = true)
      (known : Checked reply round uploaded responses contracts)
      (next_case : CheckCase target s round.generation uploaded responses contracts next) :
      ReplyCase target s round reply next

theorem resume_late (target : Option Target) {round : Round} (reply : Reply)
    (late : s.gate.isCurrent round.generation = false) :
    resume target s round reply = (drop s, .ended .stale) := by
  cases round with
  | fetch generation =>
    rw [resume]
    cases reply.data <;> exact close_late late _ _
  | clear generation =>
    rw [resume]
    cases reply.text <;> exact close_late late _ _
  | upload generation files =>
    rw [resume]
    cases reply.data with
    | ok uploaded => exact nextCheck_late late _ _ _
    | error e => exact close_late late _ _
  | check generation uploaded responses request rest => exact nextCheck_late late _ _ _

theorem resume_wanted (target : Option Target) {round : Round} (reply : Reply)
    (wanted : s.gate.isCurrent round.generation = true) :
    ReplyCase target s round reply (resume target s round reply) := by
  cases round with
  | fetch generation =>
    have close_eq := @close_wanted s generation wanted
    cases hd : reply.data with
    | ok data =>
      simp only [resume, hd, close_eq]
      exact .fetched wanted rfl hd
    | error e =>
      simp only [resume, hd, close_eq]
      exact .failed wanted (by rw [Round.error?, hd]; rfl)
  | clear generation =>
    have close_eq := @close_wanted s generation wanted
    cases ht : reply.text with
    | ok text =>
      simp only [resume, ht, close_eq]
      exact .cleared wanted rfl ht
    | error e =>
      simp only [resume, ht, close_eq]
      exact .failed wanted (by rw [Round.error?, ht]; rfl)
  | upload generation files =>
    have close_eq := @close_wanted s generation wanted
    cases hd : reply.data with
    | ok uploaded =>
      simp only [resume, hd]
      exact .checked wanted (.upload hd) (nextCheck_cases target wanted _ _ _)
    | error e =>
      simp only [resume, hd, close_eq]
      exact .failed wanted (by rw [Round.error?, hd]; rfl)
  | check generation uploaded responses request rest =>
    refine .checked wanted .check ?_
    have next := nextCheck_cases target wanted uploaded
      (responses ++ reply.data.toOption.toList) rest
    cases hd : reply.data with
    | ok response => simpa [resume, hd, Except.toOption, Round.generation] using next
    | error e => simpa [resume, hd, Except.toOption, Round.generation] using next

theorem resume_cases (target : Option Target) (s : State) (round : Round) (reply : Reply) :
    ReplyCase target s round reply (resume target s round reply) := by
  cases current : s.gate.isCurrent round.generation with
  | false =>
    rw [resume_late target reply current]
    exact .late current
  | true => exact resume_wanted target reply current

def Event.round? (generation : Nat) : Event → Option Round
  | .mount | .fetch => some (.fetch generation)
  | .clear => some (.clear generation)
  | .upload files => some (.upload generation files)
  | _ => none

inductive Transition (target : Option Target) (r : Run) : Event → Outcome → Prop
  | refused {e : Event} {outcome : RoundOutcome} {round : Round} (begins : e.round? 0 = some round)
      (reason : e = .mount ∧ target = none ∧ outcome = .skipped ∨
        r.state.gate.refusal? = some outcome) :
      Transition target r e
        { run := { r with rounds := r.rounds ++ [none] }, effect := .ended outcome }
  | begun {e : Event} {round : Round} (begins : e.round? r.state.gate.enter.generation = some round)
      (admitted : r.state.gate.refusal? = none) :
      Transition target r e
        { run := ⟨{ r.state with gate := r.state.gate.enter }, r.rounds ++ [some round]⟩
          effect := .pending r.rounds.length
          call := some round.call }
  | unheard {number : Nat} {reply : Reply} (missing : r.waiting? number = none) :
      Transition target r (.answer number reply) { run := r, effect := .noRound }
  | ended {number : Nat} {reply : Reply} {round : Round} {state : State} {outcome : RoundOutcome}
      (waiting : r.waiting? number = some round)
      (replied : ReplyCase target r.state round reply (state, .ended outcome)) :
      Transition target r (.answer number reply)
        { run := ⟨state, r.rounds.set number none⟩, effect := .ended outcome }
  | continued {number : Nat} {reply : Reply} {round next : Round} {state : State}
      (waiting : r.waiting? number = some round)
      (replied : ReplyCase target r.state round reply (state, .waiting next)) :
      Transition target r (.answer number reply)
        { run := ⟨state, r.rounds.set number (some next)⟩
          effect := .pending number
          call := some next.call }
  | dropMissing {number : Nat} (missing : r.waiting? number = none) :
      Transition target r (.drop number) { run := r, effect := .dropped false }
  | dropped {number : Nat} {round : Round} (waiting : r.waiting? number = some round) :
      Transition target r (.drop number)
        { run := ⟨Remote.drop r.state, r.rounds.set number none⟩, effect := .dropped true }
  | disposed : Transition target r .dispose { run := { r with state := Remote.dispose r.state } }

theorem transition_begin (target : Option Target) (r : Run) {e : Event} {round : Nat → Round}
    (begins : ∀ generation, e.round? generation = some (round generation)) :
    Transition target r e (r.started Round.call (begin r.state round)) := by
  rw [begin]
  cases hg : r.state.gate.refusal? with
  | some outcome => exact .refused (begins 0) (.inr hg)
  | none => exact .begun (begins _) hg

theorem transition_answer (target : Option Target) (r : Run) (number : Nat) (reply : Reply) :
    Transition target r (.answer number reply) (r.step target (.answer number reply)) := by
  rw [Run.step]
  cases hw : r.waiting? number with
  | none => exact .unheard hw
  | some round =>
    have h := resume_cases target r.state round reply
    dsimp only
    generalize resume target r.state round reply = next at h
    obtain ⟨state, outcome | next⟩ := next
    · exact .ended hw h
    · exact .continued hw h

theorem transition (target : Option Target) (r : Run) (e : Event) :
    Transition target r e (r.step target e) := by
  cases e with
  | mount =>
    rw [Run.step, mount]
    cases target with
    | none => exact .refused rfl (.inl ⟨rfl, rfl, rfl⟩)
    | some found => exact transition_begin _ r fun _ => rfl
  | fetch => exact transition_begin target r fun _ => rfl
  | clear => exact transition_begin target r fun _ => rfl
  | upload files => exact transition_begin target r fun _ => rfl
  | answer number reply => exact transition_answer target r number reply
  | drop number =>
    rw [Run.step]
    cases hw : r.waiting? number with
    | none => exact .dropMissing hw
    | some round => exact .dropped hw
  | dispose => exact .disposed

end SourceMatch.Session.Remote
