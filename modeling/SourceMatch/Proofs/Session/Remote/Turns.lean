import SourceMatch.Proofs.Session.Remote.Journal
import SourceMatch.Proofs.Session.Traffic

/-!
A session of the server at its gate. Each event makes a move of the gate, and only `dispose`
supersedes the rounds under way, so a reply comes too late exactly behind `dispose`. From then on no
call is made and the results stay.
-/
namespace SourceMatch.Session.Remote

open Server (Reply SessionData ContractDescriptor)

variable {target : Option Target} {r : Run} {e : Event} {round : Round} {n : Nat}

def Event.supersedes : Event → Bool
  | .dispose => true
  | _ => false

theorem supersedes_of_begins {generation : Nat} (begins : e.round? generation = some round) :
    e.supersedes = false := by
  cases e with
  | dispose => cases begins
  | _ => rfl

theorem generation_of_begins {generation : Nat} (begins : e.round? generation = some round) :
    round.generation = generation := by
  cases e with
  | answer _ _ => cases begins
  | drop _ => cases begins
  | dispose => cases begins
  | _ => cases begins; rfl

theorem gate_of_ended {s s' : State} {reply : Reply} {outcome : RoundOutcome}
    (replied : ReplyCase target s round reply (s', .ended outcome)) : s'.gate = s.gate.leave := by
  cases replied with
  | late _ => rfl
  | failed _ _ => rfl
  | fetched _ _ _ => rfl
  | cleared _ _ _ => rfl
  | checked _ _ next_case => cases next_case; rfl

theorem state_of_waiting {s s' : State} {reply : Reply} {next : Round}
    (replied : ReplyCase target s round reply (s', .waiting next)) :
    s' = s ∧ next.generation = round.generation ∧
      s.gate.isCurrent round.generation = true := by
  cases replied with
  | checked wanted _ next_case => cases next_case; exact ⟨rfl, rfl, wanted⟩

def Run.traffic (r : Run) : Traffic Round := ⟨r.state.gate, r.rounds⟩

theorem move_of_step (target : Option Target) (r : Run) (e : Event) :
    Move Round.generation r.traffic e.supersedes (Run.traffic (r.step target e).run) := by
  have ht := transition target r e
  generalize r.step target e = o at ht ⊢
  cases ht with
  | refused begins _ =>
    rw [supersedes_of_begins begins]
    exact .refused false
  | begun begins admitted =>
    rw [supersedes_of_begins begins]
    exact .begun false admitted (generation_of_begins begins)
  | unheard _ => exact .kept
  | ended waiting replied =>
    have left : Move Round.generation r.traffic false ⟨r.state.gate.leave, _⟩ := .ended waiting
    rwa [← gate_of_ended replied] at left
  | continued waiting replied =>
    obtain ⟨rfl, same, -⟩ := state_of_waiting replied
    exact .continued waiting same
  | dropMissing _ => exact .kept
  | dropped waiting => exact .ended waiting
  | disposed => exact .disposed

def machine (target : Option Target) : Machine Run Event Round where
  start := {}
  step r e := (r.step target e).run
  traffic := Run.traffic
  generation := Round.generation
  supersedes _ e := e.supersedes
  fresh := rfl
  moves := move_of_step target

theorem superseded_machine (target : Option Target) (r : Run) (events : List Event) :
    (machine target).superseded r events = true ↔ .dispose ∈ events := by
  rw [Machine.superseded_iff]
  constructor
  · rintro ⟨earlier, e, later, rfl, h⟩
    cases e with
    | dispose => simp
    | _ => cases h
  · intro h
    obtain ⟨earlier, later, rfl⟩ := List.append_of_mem h
    exact ⟨earlier, .dispose, later, rfl, rfl⟩

theorem run_append (target : Option Target) (events later : List Event) :
    run target (events ++ later) =
      later.foldl (fun r e => (r.step target e).run) (run target events) := by
  rw [run, List.foldl_append]
  rfl

theorem serves (target : Option Target) (events : List Event) :
    ∃ p, Rounds.Serves (run target events).state.gate.busy (run target events).rounds p := by
  obtain ⟨p, h⟩ := (machine target).run_serves events
  exact ⟨p, h.toServes⟩

structure Begins (target : Option Target) (r : Run) (e : Event) (number : Nat) : Prop where
  number_eq : number = r.rounds.length
  effect : (r.step target e).effect = .pending number
  called : (r.step target e).call.isSome

theorem begins_of_waiting
    (h : (r.step target e).run.waiting? r.rounds.length = some round) :
    Begins target r e r.rounds.length := by
  have ht := transition target r e
  generalize ho : r.step target e = o at ht h
  have missing (rounds : List (Option Round)) (same : rounds.length = r.rounds.length) :
      rounds[r.rounds.length]?.join = none := by
    rw [List.getElem?_eq_none (by omega)]
    rfl
  cases ht with
  | begun _ _ => exact ⟨rfl, by rw [ho], by rw [ho]; rfl⟩
  | refused _ _ =>
    rw [Run.waiting?, Rounds.waiting_append_none, missing _ rfl] at h
    cases h
  | ended _ _ | continued _ _ | dropped _ =>
    rw [Run.waiting?, missing _ (by simp)] at h
    cases h
  | unheard _ | dropMissing _ | disposed =>
    rw [Run.waiting?, missing _ rfl] at h
    cases h

theorem exists_start {events : List Event} (h : (run target events).waiting? n = some round) :
    ∃ before start during, events = before ++ start :: during ∧
      Begins target (run target before) start n ∧
      ((run target events).state.gate.isCurrent round.generation = false ↔ .dispose ∈ during) := by
  obtain ⟨before, start, during, first, rfl, number_eq, begun, current⟩ :=
    Machine.exists_start (m := machine target) h
  have later := Machine.isCurrent_of_start (m := machine target) h begun current
  refine ⟨before, start, during, rfl, ?_, ?_⟩
  · rw [Machine.run_concat] at begun
    change n = (run target before).rounds.length at number_eq
    subst number_eq
    exact begins_of_waiting begun
  · change (run target _).state.gate.isCurrent round.generation = _ at later
    rw [later, Bool.not_eq_false', superseded_machine]

theorem effect_stale_iff (target : Option Target) (reply : Reply)
    (h : r.waiting? n = some round) :
    (r.step target (.answer n reply)).effect = .ended .stale ↔
      r.state.gate.isCurrent round.generation = false := by
  have ht := transition target r (.answer n reply)
  generalize r.step target (.answer n reply) = o at ht ⊢
  cases ht with
  | refused begins _ => cases begins
  | begun begins _ => cases begins
  | unheard missing => simp [missing] at h
  | ended waiting replied =>
    obtain rfl : _ = round := Option.some.inj (waiting.symm.trans h)
    cases replied with
    | late unwanted => simp [unwanted]
    | failed wanted _ => simp [wanted]
    | fetched wanted _ _ => simp [wanted]
    | cleared wanted _ _ => simp [wanted]
    | checked wanted _ next_case => cases next_case; simp [wanted]
  | continued waiting replied =>
    obtain rfl : _ = round := Option.some.inj (waiting.symm.trans h)
    have wanted := (state_of_waiting replied).2.2
    simp [wanted]

theorem step_late (target : Option Target) (reply : Reply) (h : r.waiting? n = some round)
    (unwanted : r.state.gate.isCurrent round.generation = false) :
    r.step target (.answer n reply) =
      { run := ⟨drop r.state, r.rounds.set n none⟩, effect := .ended .stale } := by
  simp [Run.step, h, resume_late target reply unwanted, Run.answered]

theorem step_drop (target : Option Target) (h : r.waiting? n = some round) :
    r.step target (.drop n) =
      { run := ⟨drop r.state, r.rounds.set n none⟩, effect := .dropped true } := by
  simp [Run.step, h]

theorem disposed_of_mem {events : List Event} (h : .dispose ∈ events) :
    (run target events).state.gate.disposed = true :=
  Machine.disposed_of_mem (m := machine target) h fun _ => rfl

theorem step_of_disposed (target : Option Target) (e : Event)
    (h : r.state.gate.disposed = true) :
    (r.step target e).call = none ∧ (r.step target e).run.state.results = r.state.results := by
  have ht := transition target r e
  generalize r.step target e = o at ht ⊢
  cases ht with
  | begun _ admitted => simp [(admitted_iff.1 admitted).1] at h
  | ended _ replied =>
    cases replied with
    | late _ => exact ⟨rfl, rfl⟩
    | failed wanted _ => simp [isCurrent_of_disposed h] at wanted
    | fetched wanted _ _ => simp [isCurrent_of_disposed h] at wanted
    | cleared wanted _ _ => simp [isCurrent_of_disposed h] at wanted
    | checked wanted _ _ => simp [isCurrent_of_disposed h] at wanted
  | continued _ replied =>
    have wanted := (state_of_waiting replied).2.2
    simp [isCurrent_of_disposed h] at wanted
  | _ => exact ⟨rfl, rfl⟩

theorem results_of_disposed {events : List Event} (h : .dispose ∈ events) (later : List Event) :
    (run target (events ++ later)).state.results = (run target events).state.results := by
  induction later using List.reverseRecOn with
  | nil => rw [List.append_nil]
  | append_singleton later e ih =>
    have closed : (run target (events ++ later)).state.gate.disposed = true :=
      disposed_of_mem (List.mem_append_left _ h)
    rw [← List.append_assoc, run_append, ← ih]
    exact (step_of_disposed target e closed).2

end SourceMatch.Session.Remote
