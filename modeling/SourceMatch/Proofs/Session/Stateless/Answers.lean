import SourceMatch.Proofs.Session.Stateless.Turns

/-!
The answers of a verification in single requests. An answer is taken up only while the inputs are
those its request was made of, so what is known is what the last such round was told: an update in
between, even one that sends nothing, makes the round under way stale.
-/
namespace SourceMatch.Session.Stateless

open Server (VerifyResponse Reply)

variable {s : State} {r : Run} {e : Event} {round : Round} {n : Nat}

structure Returned where
  reply? : Option Reply
  outcome : RoundOutcome

def Event.reply? : Event → Option Reply
  | .answer _ reply => some reply
  | _ => none

def Event.returned? (e : Event) : Effect → Option Returned
  | .ended outcome => some ⟨e.reply?, outcome⟩
  | _ => none

def returned (r : Run) : List Event → List Returned
  | [] => []
  | e :: events => (e.returned? (r.step e).effect).toList ++ returned (r.step e).run events

def latest? (outcomes : List RoundOutcome) (rounds : List Returned) : Option Returned :=
  (rounds.filter (·.outcome ∈ outcomes)).getLast?

def Returned.response? (x : Returned) : Option VerifyResponse :=
  x.reply?.bind (·.verification.toOption)

def Returned.failure? : Returned → Option Failure
  | ⟨some reply, .failed⟩ =>
    match reply.verification with
    | .error e => some (.ofError e)
    | .ok _ => none
  | _ => none

theorem returned_concat (r : Run) (events : List Event) (e : Event) :
    returned r (events ++ [e]) = returned r events ++
      (e.returned? ((events.foldl (fun r e => (r.step e).run) r).step e).effect).toList := by
  induction events generalizing r with
  | nil => simp [returned]
  | cons d events ih => simp [returned, ih]

theorem latest?_concat (outcomes : List RoundOutcome) (rounds : List Returned) (x : Returned) :
    latest? outcomes (rounds ++ [x]) =
      if x.outcome ∈ outcomes then some x else latest? outcomes rounds := by
  rw [latest?, List.filter_append]
  split
  · rename_i counts
    simp [counts]
  · rename_i counts
    simp [counts, latest?]

/-- A response and a failure that are what the last rounds were told. -/
structure Knows (response : Option VerifyResponse) (failure : Option Failure)
    (rounds : List Returned) : Prop where
  response_eq : response = (latest? [.applied] rounds).bind Returned.response?
  failure_eq : failure = (latest? [.applied, .failed] rounds).bind Returned.failure?

theorem idle_of_unsent {outcome : RoundOutcome} (reason : Unsent s e outcome) :
    outcome ∉ [RoundOutcome.applied, .failed] := by
  cases reason with
  | unchanged _ | incomplete _ => simp
  | refused _ refusal =>
    rw [Gate.refusal?] at refusal
    split at refusal
    · cases refusal
      simp
    · split at refusal
      · cases refusal
        simp
      · cases refusal

namespace Knows

variable {response : Option VerifyResponse} {failure : Option Failure} {rounds : List Returned}
  {reply : Reply}

theorem idle {x : Returned} (h : Knows response failure rounds)
    (other : x.outcome ∉ [RoundOutcome.applied, .failed]) :
    Knows response failure (rounds ++ [x]) := by
  have not_applied : x.outcome ∉ [RoundOutcome.applied] :=
    fun mem => other (List.mem_cons.2 (.inl (List.mem_singleton.1 mem)))
  constructor
  · rw [latest?_concat, if_neg not_applied]
    exact h.response_eq
  · rw [latest?_concat, if_neg other]
    exact h.failure_eq

theorem applied (rounds : List Returned) {answer : VerifyResponse}
    (read : reply.verification = .ok answer) :
    Knows (some answer) none (rounds ++ [⟨some reply, .applied⟩]) := by
  constructor
  · rw [latest?_concat, if_pos (by simp)]
    simp [Returned.response?, read, Except.toOption]
  · rw [latest?_concat, if_pos (by simp)]
    rfl

theorem failed (h : Knows response failure rounds) {error : Server.Error}
    (read : reply.verification = .error error) :
    Knows response (some (.ofError error)) (rounds ++ [⟨some reply, .failed⟩]) := by
  constructor
  · rw [latest?_concat, if_neg (by simp)]
    exact h.response_eq
  · rw [latest?_concat, if_pos (by simp)]
    simp [Returned.failure?, read]

theorem step (h : Knows r.state.response r.state.failure rounds) (e : Event) :
    Knows (r.step e).run.state.response (r.step e).run.state.failure
      (rounds ++ (e.returned? (r.step e).effect).toList) := by
  have ht := transition r e
  generalize r.step e = o at ht ⊢
  have silent : Knows r.state.response r.state.failure (rounds ++ []) := by
    rwa [List.append_nil]
  cases ht with
  | unsent _ reason => exact h.idle (idle_of_unsent reason)
  | late _ _ => exact h.idle (by simp : RoundOutcome.stale ∉ _)
  | applied _ _ read => exact .applied rounds read
  | failed _ _ read => exact h.failed read
  | sent _ _ _ _ | unheard _ | dropMissing _ | dropped _ | disposed => exact silent

end Knows

theorem known_of_returned (start : Knows s.response s.failure []) (events : List Event) :
    Knows (run s events).state.response (run s events).state.failure
      (returned { state := s } events) := by
  induction events using List.reverseRecOn with
  | nil => exact start
  | append_singleton events e ih =>
    rw [run_concat, returned_concat]
    exact ih.step e

theorem inputs_step (r : Run) (e : Event) :
    (r.step e).run.state.inputs = r.state.inputs.after e := by
  have ht := transition r e
  generalize r.step e = o at ht ⊢
  cases ht with
  | _ => rfl

theorem inputs_of_same {before during : List Event}
    (same : ¬StoresOthers s before during) :
    (run s (before ++ during)).state.inputs = (run s before).state.inputs := by
  induction during using List.reverseRecOn with
  | nil => rw [List.append_nil]
  | append_singleton during e ih =>
    have earlier : ¬StoresOthers s before during := by
      rintro ⟨first, target, files, later, rfl, other⟩
      exact same ⟨first, target, files, later ++ [e], by simp, other⟩
    rw [← List.append_assoc, run_concat, inputs_step, ← ih earlier]
    cases e with
    | update target files =>
      refine (after_eq_iff _ target files).2 ?_
      by_contra other
      exact same ⟨during, target, files, [], rfl, other⟩
    | _ => rfl

theorem request_of_current (fresh : s.gate = {}) {events : List Event}
    (waiting : (run s events).waiting? n = some round)
    (wanted : (run s events).state.gate.isCurrent round.generation = true) :
    ∃ before start during, events = before ++ start :: during ∧
      Begins (run s before) start round n ∧
      (run s events).state.inputs.request? = some round.request := by
  obtain ⟨before, start, during, rfl, begins, stale_iff⟩ := exists_start fresh waiting
  refine ⟨before, start, during, rfl, begins, ?_⟩
  have same : ¬StoresOthers s (before ++ [start]) during :=
    fun other => by simp [stale_iff.2 (.inr other)] at wanted
  rw [List.append_cons, inputs_of_same same, run_concat]
  exact begins.request

theorem late_of_others (fresh : s.gate = {}) {events later : List Event} {target : Option Target}
    {files : Dict String}
    (other : ¬((run s events).state.inputs.target = target ∧
      (run s events).state.inputs.files = files))
    (begun : n < (run s events).rounds.length)
    (waiting : (run s (events ++ .update target files :: later)).waiting? n = some round) :
    (run s (events ++ .update target files :: later)).state.gate.isCurrent round.generation =
      false := by
  have stored : StoresOthers s events (.update target files :: later) :=
    ⟨[], target, files, later, rfl, by rwa [List.append_nil]⟩
  have superseded := (superseded_machine fresh events _).2 (.inr stored)
  rw [run_append] at waiting ⊢
  have current := Machine.isCurrent_of_later (m := machine s fresh)
    ((machine s fresh).run_serves events) begun waiting
  exact current.trans ((congrArg (fun b => _ && !b) superseded).trans (Bool.and_false _))

theorem taken_cases
    (taken : (r.step e).effect = .ended .applied ∨ (r.step e).effect = .ended .failed) :
    ∃ number reply round, e = .answer number reply ∧ r.waiting? number = some round ∧
      r.state.gate.isCurrent round.generation = true := by
  have ht := transition r e
  generalize r.step e = o at ht taken
  cases ht with
  | unsent _ reason =>
    have idle := idle_of_unsent reason
    rcases taken with now | now <;> cases now <;> simp at idle
  | applied waiting wanted _ => exact ⟨_, _, _, rfl, waiting, wanted⟩
  | failed waiting wanted _ => exact ⟨_, _, _, rfl, waiting, wanted⟩
  | _ => simp at taken

theorem known_of_not_taken
    (untaken : ¬((r.step e).effect = .ended .applied ∨ (r.step e).effect = .ended .failed)) :
    (r.step e).run.state.response = r.state.response ∧
      (r.step e).run.state.failure = r.state.failure := by
  have ht := transition r e
  generalize r.step e = o at ht untaken
  cases ht with
  | applied _ _ _ => exact absurd (.inl rfl) untaken
  | failed _ _ _ => exact absurd (.inr rfl) untaken
  | _ => exact ⟨rfl, rfl⟩

theorem update_same {target : Option Target} {files : Dict String}
    (same : r.state.inputs.target = target ∧ r.state.inputs.files = files) :
    r.step (.update target files) =
      { run := { r with rounds := r.rounds ++ [none] }, effect := .ended .skipped } := by
  rw [Run.step, update, if_pos same]
  rfl

theorem admitted_stored (s : State) (e : Event) :
    (s.stored e).gate.refusal? = none ↔ (s.gate.disposed || s.gate.busy) = false := by
  rw [admitted_iff, State.stored, disposed_advanceIf, busy_advanceIf, Bool.or_eq_false_iff]

theorem call_update {target : Option Target} {files : Dict String}
    (other : ¬(r.state.inputs.target = target ∧ r.state.inputs.files = files)) :
    (r.step (.update target files)).call =
      if r.state.gate.disposed || r.state.gate.busy then none
      else { r.state.inputs with target, files }.request?.map .verify := by
  have changed : r.state.inputs.changedBy (.update target files) = true :=
    decide_eq_true (mt (after_eq_iff r.state.inputs target files).1 other)
  have ht := transition r (.update target files)
  generalize r.step (.update target files) = o at ht ⊢
  cases ht with
  | unsent _ reason =>
    cases reason with
    | unchanged same => cases same.symm.trans changed
    | incomplete missing =>
      change { r.state.inputs with target, files }.request? = none at missing
      simp [missing]
    | refused _ refusal =>
      cases closed : r.state.gate.disposed || r.state.gate.busy with
      | false => cases ((admitted_stored r.state _).2 closed).symm.trans refusal
      | true => rfl
  | sent _ _ complete admitted =>
    have admits := (admitted_stored r.state _).1 admitted
    change { r.state.inputs with target, files }.request? = some _ at complete
    rw [admits, complete]
    rfl

/-- In every run the response is what the last round that was applied was told, and the failure is
the error of the last round that was applied or failed, if it failed. An answer is taken up only if
the request that was sent for it is that of the inputs as they are, and nothing else is written. An
update with the old inputs does nothing; one with other inputs stores them, and every answer under
way comes too late, whether or not a request was sent for them. -/
theorem answers_of_current_inputs (compilerVersion contractName : Option String)
    (events : List Event) :
    let start := State.withOptions compilerVersion contractName
    let r := run start events
    Knows r.state.response r.state.failure (returned { state := start } events) ∧
    (∀ e,
      let o := r.step e
      let isTaken := o.effect = .ended .applied ∨ o.effect = .ended .failed
      (isTaken → ∃ number reply round before sent during, e = .answer number reply ∧
        events = before ++ sent :: during ∧ Begins (run start before) sent round number ∧
        r.state.inputs.request? = some round.request) ∧
      (¬isTaken → o.run.state.response = r.state.response ∧
        o.run.state.failure = r.state.failure)) ∧
    ∀ target files,
      let o := r.step (.update target files)
      let isSame := r.state.inputs.target = target ∧ r.state.inputs.files = files
      (isSame → o = { run := { r with rounds := r.rounds ++ [none] }, effect := .ended .skipped }) ∧
      (¬isSame → o.run.state.inputs = { r.state.inputs with target, files } ∧
        (o.call = if r.state.gate.disposed || r.state.gate.busy then none
          else { r.state.inputs with target, files }.request?.map .verify) ∧
        ∀ later number reply, (r.waiting? number).isSome →
          let r' := run start (events ++ .update target files :: later)
          (r'.waiting? number).isSome →
            r'.step (.answer number reply) =
              { run := ⟨drop r'.state, r'.rounds.set number none⟩, effect := .ended .stale }) := by
  intro start r
  refine ⟨known_of_returned ⟨rfl, rfl⟩ events, fun e => ⟨fun taken => ?_, known_of_not_taken⟩,
    fun target files => ⟨update_same, fun other => ⟨inputs_step r _, call_update other, ?_⟩⟩⟩
  · obtain ⟨number, reply, round, rfl, waiting, wanted⟩ := taken_cases taken
    obtain ⟨before, sent, during, split, begins, request_eq⟩ :=
      request_of_current rfl waiting wanted
    exact ⟨number, reply, round, before, sent, during, rfl, split, begins, request_eq⟩
  · intro later number reply begun r' waits
    obtain ⟨now, waiting⟩ := Option.isSome_iff_exists.1 begun
    obtain ⟨round, still⟩ := Option.isSome_iff_exists.1 waits
    have number_lt := Rounds.lt_length_of_waiting waiting
    exact step_late reply still (late_of_others rfl other number_lt still)

end SourceMatch.Session.Stateless
