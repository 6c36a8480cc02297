import SourceMatch.Proofs.Session.Remote.Turns

/-!
An upload from its call to its end. What passes between one round and the server is read off the
run, event by event. For an upload it is a list that its replies alone determine: the call, and if
that succeeded one check after the other, each behind the reply to the one before. `dispose` cuts
the list off.
-/
namespace SourceMatch.Session.Remote

open Server (Reply SessionData ContractDescriptor)

variable {target : Option Target} {s s' : State} {r : Run} {e : Event} {round next : Round}
  {reply : Reply} {outcome : RoundOutcome} {number : Nat} {p : Option Nat}

/-- A call of a round, a reply to it, or what the round returned. -/
inductive Exchange where
  | call (call : Server.Call)
  | reply (reply : Reply)
  | returned (outcome : RoundOutcome)

def Exchange.call? : Exchange → Option Server.Call
  | .call made => some made
  | _ => none

def Exchange.reply? : Exchange → Option Reply
  | .reply heard => some heard
  | _ => none

def Event.number? (r : Run) : Event → Option Nat
  | .answer number _ | .drop number => some number
  | .dispose => none
  | _ => some r.rounds.length

def Event.heard : Event → Effect → List Exchange
  | .answer _ _, .noRound => []
  | .answer _ reply, _ => [.reply reply]
  | _, _ => []

def Effect.returned : Effect → List Exchange
  | .ended outcome => [.returned outcome]
  | _ => []

def Outcome.exchanges (o : Outcome) (e : Event) : List Exchange :=
  e.heard o.effect ++ (o.call.map .call).toList ++ Effect.returned o.effect

def passing (target : Option Target) (number : Nat) (r : Run) (e : Event) : List Exchange :=
  if e.number? r = some number then (r.step target e).exchanges e else []

def transcript (target : Option Target) (number : Nat) : Run → List Event → List Exchange
  | _, [] => []
  | r, e :: events =>
    passing target number r e ++ transcript target number (r.step target e).run events

def repliesTo (number : Nat) : List Event → List Reply
  | [] => []
  | .answer n reply :: events =>
    if n = number then reply :: repliesTo number events else repliesTo number events
  | .drop n :: events => if n = number then [] else repliesTo number events
  | _ :: events => repliesTo number events

def checks (target : Option Target) (contracts : List ContractDescriptor) : List Server.Call :=
  match target with
  | none => []
  | some target =>
    (contracts.filterMap (·.verificationId)).map fun verificationId =>
      .verifyChecked [{
        address := target.address.text
        chainId := target.chainId
        verificationId
        creatorTxHash := none }]

def inTurn : List Server.Call → List Reply → List Exchange
  | [], _ => [.returned .applied]
  | call :: _, [] => [.call call]
  | call :: calls, reply :: replies => .call call :: .reply reply :: inTurn calls replies

def uploading (target : Option Target) (files : Dict String) : List Reply → List Exchange
  | [] => [.call (.uploadFiles files)]
  | first :: replies =>
    .call (.uploadFiles files) :: .reply first ::
      match first.data with
      | .ok uploaded => inTurn (checks target uploaded.contracts) replies
      | .error _ => [.returned .failed]

/-- What passes in a round that is not the newest one any more. -/
def ignoring : List Reply → List Exchange
  | [] => []
  | reply :: _ => [.reply reply, .returned .stale]

theorem checks_of_skipped {before : List ContractDescriptor} (target : Option Target)
    (skipped : ∀ c ∈ before, c.verificationId = none) (after : List ContractDescriptor) :
    checks target (before ++ after) = checks target after := by
  cases target with
  | none => rfl
  | some found =>
    have nothing : before.filterMap (·.verificationId) = [] := List.filterMap_eq_nil_iff.2 skipped
    rw [checks, checks, List.filterMap_append, nothing, List.nil_append]

theorem checks_nil (target : Option Target) : checks target [] = [] := by
  cases target <;> rfl

theorem checks_of_nothing {contracts : List ContractDescriptor}
    (nothing : target = none ∨ ∀ c ∈ contracts, c.verificationId = none) :
    checks target contracts = [] := by
  rcases nothing with rfl | skipped
  · rfl
  · rw [← List.append_nil contracts, checks_of_skipped target skipped, checks_nil]

theorem calls_inTurn {calls : List Server.Call} {replies : List Reply}
    (finished : .returned .applied ∈ inTurn calls replies) :
    (inTurn calls replies).filterMap Exchange.call? = calls := by
  induction calls generalizing replies with
  | nil => rfl
  | cons call calls ih =>
    cases replies with
    | nil => simp [inTurn] at finished
    | cons reply replies =>
      have rest : .returned .applied ∈ inTurn calls replies := by simpa [inTurn] using finished
      exact congrArg (call :: ·) (ih rest)

def Round.left (reply : Reply) : Round → List ContractDescriptor
  | .upload _ _ => (reply.data.toOption.map (·.contracts)).getD []
  | .check _ _ _ _ rest => rest
  | _ => []

/-- What is still to pass in a round that waits, by the replies to come. -/
def Round.ahead (target : Option Target) (round : Round) (current : Bool) :
    List Reply → List Exchange
  | [] => []
  | reply :: replies =>
    if current then
      .reply reply ::
        match round.error? reply with
        | some _ => [.returned .failed]
        | none => inTurn (checks target (round.left reply)) replies
    else [.reply reply, .returned .stale]

theorem left_of_checked {uploaded : SessionData} {responses : List SessionData}
    {contracts : List ContractDescriptor}
    (known : Checked reply round uploaded responses contracts) :
    round.error? reply = none ∧ round.left reply = contracts := by
  cases known with
  | upload data => simp [Round.error?, Round.left, data, refusal?, Except.toOption]
  | check => exact ⟨rfl, rfl⟩

theorem ahead_ended (replied : ReplyCase target s round reply (s', .ended outcome))
    (replies : List Reply) :
    round.ahead target (s.gate.isCurrent round.generation) (reply :: replies) =
      [.reply reply, .returned outcome] := by
  cases replied with
  | late unwanted => rw [unwanted]; rfl
  | failed wanted refused => simp [Round.ahead, wanted, refused]
  | fetched wanted round_eq data_eq =>
    have left_eq : round.left reply = [] := by rw [round_eq]; rfl
    have no_error : round.error? reply = none := by rw [round_eq, Round.error?, data_eq]; rfl
    simp only [Round.ahead, wanted, no_error, left_eq, checks_nil, inTurn, if_true]
  | cleared wanted round_eq text_eq =>
    have left_eq : round.left reply = [] := by rw [round_eq]; rfl
    have no_error : round.error? reply = none := by rw [round_eq, Round.error?, text_eq]; rfl
    simp only [Round.ahead, wanted, no_error, left_eq, checks_nil, inTurn, if_true]
  | checked wanted known next_case =>
    obtain ⟨no_error, left_eq⟩ := left_of_checked known
    cases next_case with
    | finished nothing =>
      have finished := checks_of_nothing nothing
      simp only [Round.ahead, wanted, no_error, left_eq, finished, inTurn, if_true]

theorem continues_of_replied (replied : ReplyCase target s round reply (s', .waiting next)) :
    s' = s ∧ next.generation = round.generation ∧ round.error? reply = none ∧
      ∀ answer, next.error? answer = none ∧
        checks target (round.left reply) = next.call :: checks target (next.left answer) := by
  cases replied with
  | checked wanted known next_case =>
    obtain ⟨no_error, left_eq⟩ := left_of_checked known
    cases next_case with
    | check target_eq split skipped id_eq =>
      refine ⟨rfl, rfl, no_error, fun answer => ⟨rfl, ?_⟩⟩
      rw [left_eq, split, checks_of_skipped target skipped, target_eq]
      simp [checks, id_eq, checkRequest, Round.call, Round.left]

theorem ahead_waiting (replied : ReplyCase target s round reply (s', .waiting next))
    (replies : List Reply) :
    round.ahead target true (reply :: replies) =
      .reply reply :: .call next.call :: next.ahead target true replies := by
  obtain ⟨-, -, no_error, turn⟩ := continues_of_replied replied
  cases replies with
  | nil => simp [Round.ahead, no_error, (turn reply).2, inTurn]
  | cons answer replies =>
    simp [Round.ahead, no_error, (turn answer).1, (turn answer).2, inTurn]

theorem answer_or_drop (mine : e.number? r = some number) (begun : number < r.rounds.length) :
    (∃ reply, e = .answer number reply) ∨ e = .drop number := by
  cases e with
  | answer n reply => exact .inl ⟨reply, congrArg (Event.answer · reply) (Option.some.inj mine)⟩
  | drop n => exact .inr (congrArg Event.drop (Option.some.inj mine))
  | dispose => cases mine
  | _ => exact absurd begun (by rw [← Option.some.inj mine]; exact Nat.lt_irrefl _)

theorem repliesTo_of_other (other : e.number? r ≠ some number) (events : List Event) :
    repliesTo number (e :: events) = repliesTo number events := by
  cases e with
  | answer n reply => exact if_neg fun h => other (congrArg some h)
  | drop n => exact if_neg fun h => other (congrArg some h)
  | _ => rfl

theorem waiting_of_other (target : Option Target) (other : e.number? r ≠ some number)
    (begun : number < r.rounds.length) :
    (r.step target e).run.waiting? number = r.waiting? number := by
  have appended (round? : Option Round) :
      (r.rounds ++ [round?])[number]?.join = r.rounds[number]?.join := by
    rw [List.getElem?_append_left begun]
  have replaced {n : Nat} (hn : n ≠ number) (round? : Option Round) :
      (r.rounds.set n round?)[number]?.join = r.rounds[number]?.join := by
    rw [List.getElem?_set_ne hn]
  have ht := transition target r e
  generalize r.step target e = o at ht ⊢
  cases ht with
  | refused _ _ => exact appended none
  | begun _ _ => exact appended _
  | ended _ _ | continued _ _ | dropped _ => exact replaced (fun h => other (congrArg some h)) _
  | unheard _ | dropMissing _ | disposed => rfl

/-- What an event is to a round that waits, with the run behind it and what passes. -/
inductive Turn (target : Option Target) (number : Nat) (r : Run) (round : Round) (r' : Run) :
    Event → List Exchange → Prop
  | other {e : Event} (other : e.number? r ≠ some number)
      (waits : r'.waiting? number = some round) : Turn target number r round r' e []
  | ended {reply : Reply} {s : State} {outcome : RoundOutcome}
      (replied : ReplyCase target r.state round reply (s, .ended outcome))
      (finished : r'.waiting? number = none) :
      Turn target number r round r' (.answer number reply) [.reply reply, .returned outcome]
  | continued {reply : Reply} {next : Round}
      (replied : ReplyCase target r.state round reply (r'.state, .waiting next))
      (waits : r'.waiting? number = some next) :
      Turn target number r round r' (.answer number reply) [.reply reply, .call next.call]
  | dropped (finished : r'.waiting? number = none) : Turn target number r round r' (.drop number) []

theorem turn (target : Option Target) (waiting : r.waiting? number = some round) (e : Event) :
    Turn target number r round (r.step target e).run e (passing target number r e) := by
  have begun := Rounds.lt_length_of_waiting waiting
  have finished : (r.rounds.set number none)[number]?.join = none := by
    rw [Rounds.waiting_set_none, if_pos rfl]
  rw [passing]
  split
  · rename_i mine
    rcases answer_or_drop mine begun with ⟨reply, rfl⟩ | rfl
    · have ht := transition target r (.answer number reply)
      generalize r.step target (.answer number reply) = o at ht ⊢
      cases ht with
      | refused begins _ => cases begins
      | begun begins _ => cases begins
      | unheard missing => simp [missing] at waiting
      | ended waits replied =>
        obtain rfl : _ = round := Option.some.inj (waits.symm.trans waiting)
        exact .ended replied finished
      | continued waits replied =>
        obtain rfl : _ = round := Option.some.inj (waits.symm.trans waiting)
        refine .continued replied ?_
        rw [Run.waiting?, Rounds.waiting_set, if_pos ⟨rfl, begun⟩]
    · rw [step_drop target waiting]
      exact .dropped finished
  · rename_i mine
    exact .other mine ((waiting_of_other target mine begun).trans waiting)

theorem begun_of_begun (target : Option Target) (e : Event) (begun : number < r.rounds.length) :
    number < (r.step target e).run.rounds.length :=
  Nat.lt_of_lt_of_le begun (length_le_of_move (move_of_step target r e))

theorem begun_of_later (target : Option Target) (events : List Event)
    (begun : number < r.rounds.length) :
    number < (events.foldl (fun r e => (r.step target e).run) r).rounds.length := by
  induction events generalizing r with
  | nil => exact begun
  | cons e events ih => exact ih (begun_of_begun target e begun)

theorem replied_of_ended
    (h : (r.step target (.answer number reply)).effect = .ended outcome) :
    passing target number r (.answer number reply) = [.reply reply, .returned outcome] ∧
      ∃ round, r.waiting? number = some round ∧
        ReplyCase target r.state round reply
          ((r.step target (.answer number reply)).run.state, .ended outcome) := by
  have mine : (Event.answer number reply).number? r = some number := rfl
  rw [passing, if_pos mine]
  have ht := transition target r (.answer number reply)
  generalize r.step target (.answer number reply) = o at ht h ⊢
  cases ht with
  | refused begins _ => cases begins
  | begun begins _ => cases begins
  | unheard _ => cases h
  | ended waits replied =>
    cases h
    exact ⟨rfl, _, waits, replied⟩
  | continued _ _ => cases h

theorem isCurrent_of_stays (target : Option Target) {current : Bool}
    (served : r.traffic.Serves Round.generation p) (waiting : r.waiting? number = some round)
    (current_eq : r.state.gate.isCurrent round.generation = current)
    (stays : current = true → e ≠ .dispose) :
    (r.step target e).run.state.gate.isCurrent round.generation = current := by
  have moved : (r.step target e).run.state.gate.isCurrent round.generation =
      (r.state.gate.isCurrent round.generation && !e.supersedes) :=
    isCurrent_of_move served (move_of_step target r e) waiting
  rw [moved, current_eq]
  cases current with
  | false => rfl
  | true =>
    cases e with
    | dispose => exact absurd rfl (stays rfl)
    | _ => rfl

theorem transcript_of_finished {events : List Event} (finished : r.waiting? number = none)
    (begun : number < r.rounds.length) : transcript target number r events = [] := by
  induction events generalizing r with
  | nil => rfl
  | cons e events ih =>
    have begun' := begun_of_begun target e begun
    rw [transcript, passing]
    split
    · rename_i mine
      rcases answer_or_drop mine begun with ⟨reply, rfl⟩ | rfl
      · have unheard : r.step target (.answer number reply) = { run := r, effect := .noRound } := by
          simp [Run.step, finished]
        rw [unheard, ih finished begun]
        rfl
      · have missing : r.step target (.drop number) = { run := r, effect := .dropped false } := by
          simp [Run.step, finished]
        rw [missing, ih finished begun]
        rfl
    · rename_i other
      exact ih ((waiting_of_other target other begun).trans finished) begun'

theorem transcript_singleton (target : Option Target) (number : Nat) (r : Run) (e : Event) :
    transcript target number r [e] = passing target number r e :=
  List.append_nil _

theorem transcript_append (target : Option Target) (number : Nat) (r : Run)
    (events later : List Event) :
    transcript target number r (events ++ later) =
      transcript target number r events ++
        transcript target number (events.foldl (fun r e => (r.step target e).run) r) later := by
  induction events generalizing r with
  | nil => rfl
  | cons e events ih => simp [transcript, ih]

theorem transcript_of_waiting {events : List Event} {current : Bool}
    (hs : (machine target).Serves r) (waiting : r.waiting? number = some round)
    (current_eq : r.state.gate.isCurrent round.generation = current)
    (stays : current = true → .dispose ∉ events) :
    transcript target number r events = round.ahead target current (repliesTo number events) := by
  -- what is ahead shrinks with each reply, so the round is arbitrary in the induction
  induction events generalizing r round with
  | nil => rfl
  | cons e events ih =>
    obtain ⟨p, served⟩ := hs
    have begun' := begun_of_begun target e (Rounds.lt_length_of_waiting waiting)
    have hs' : (machine target).Serves (r.step target e).run :=
      serves_of_move served (move_of_step target r e)
    have still := isCurrent_of_stays target served waiting current_eq fun h =>
      ne_of_mem_of_not_mem List.mem_cons_self (stays h)
    have stays' : current = true → .dispose ∉ events :=
      fun h mem => stays h (List.mem_cons_of_mem e mem)
    rw [transcript]
    have ht := turn target waiting e
    generalize passing target number r e = now at ht ⊢
    cases ht with
    | other other waits =>
      rw [repliesTo_of_other other]
      exact ih hs' waits still stays'
    | ended replied finished =>
      rw [repliesTo, if_pos rfl, ← current_eq, ahead_ended replied,
        transcript_of_finished finished begun']
      rfl
    | continued replied waits =>
      obtain ⟨-, same, wanted⟩ := state_of_waiting replied
      obtain rfl : true = current := wanted.symm.trans current_eq
      rw [repliesTo, if_pos rfl, ahead_waiting replied, ih hs' waits (same ▸ still) stays']
      rfl
    | dropped finished =>
      rw [repliesTo, if_pos rfl, transcript_of_finished finished begun']
      rfl

theorem tracks_of_later {events : List Event} {c : Course} {last : Round} (tracked : Tracks c round)
    (waiting : r.waiting? number = some round)
    (later : (events.foldl (fun r e => (r.step target e).run) r).waiting? number = some last) :
    Tracks ⟨c.start, c.replies ++ (transcript target number r events).filterMap Exchange.reply?⟩
      last := by
  induction events generalizing r c round with
  | nil =>
    obtain rfl : round = last := Option.some.inj (waiting.symm.trans later)
    simpa [transcript] using tracked
  | cons e events ih =>
    have begun' := begun_of_begun target e (Rounds.lt_length_of_waiting waiting)
    obtain ⟨now, waits', -⟩ := Machine.waiting_of_later (m := machine target) begun' later
    change (r.step target e).run.waiting? number = some now at waits'
    rw [transcript]
    have ht := turn target waiting e
    generalize passing target number r e = now at ht ⊢
    cases ht with
    | other other waits => exact ih tracked waits later
    | ended _ finished | dropped finished => simp [finished] at waits'
    | @continued reply next replied waits =>
      -- the call that follows is no reply, so only this one is added
      have heard := (tracks_of_waiting tracked replied).2
      have told := ih heard waits later
      rw [Course.hear, List.append_assoc] at told
      exact told

theorem upload_begun {files : Dict String}
    (pending : (r.step target (.upload files)).effect = .pending number) :
    ∃ generation,
      (r.step target (.upload files)).run.waiting? number = some (.upload generation files) ∧
      (r.step target (.upload files)).run.state.gate.isCurrent generation = true ∧
      passing target number r (.upload files) = [.call (.uploadFiles files)] := by
  rw [passing]
  have ht := transition target r (.upload files)
  generalize r.step target (.upload files) = o at ht pending ⊢
  cases ht with
  | refused _ _ => cases pending
  | begun begins admitted =>
    cases begins
    cases pending
    have live := (admitted_iff.1 admitted).1
    refine ⟨r.state.gate.enter.generation, ?_, ?_, if_pos rfl⟩
    · rw [Run.waiting?, Rounds.waiting_append, if_pos rfl]
    · simp [Gate.isCurrent, Gate.enter, live]

theorem uploading_eq (target : Option Target) (files : Dict String) (generation : Nat)
    (replies : List Reply) :
    uploading target files replies =
      .call (.uploadFiles files) ::
        (Round.upload generation files).ahead target true replies := by
  cases replies with
  | nil => rfl
  | cons first replies =>
    simp only [uploading, Round.ahead, Round.error?, Round.left, if_true]
    cases first.data <;> rfl

theorem ahead_late (round : Round) (replies : List Reply) :
    round.ahead target false replies = ignoring replies := by
  cases replies <;> rfl

theorem responses_of_applied {files : Dict String} {replies : List Reply}
    (tracked : Tracks ⟨.upload files, replies⟩ round)
    (replied : ReplyCase target s round reply (s', .ended .applied)) :
    ∃ first uploaded checked, replies ++ [reply] = first :: checked ∧
      first.data = .ok uploaded ∧ s'.responses = checked.filterMap (·.data.toOption) := by
  obtain ⟨first, checked, told⟩ : ∃ first checked, replies ++ [reply] = first :: checked :=
    List.exists_cons_of_ne_nil (by simp)
  have taken : Course.results? ⟨.upload files, replies ++ [reply]⟩ = some s'.results :=
    (next?_applied s.results _).symm.trans (next?_of_ended tracked replied)
  rw [told] at taken
  obtain ⟨uploaded, data, results_eq⟩ := Option.map_eq_some_iff.1 taken
  refine ⟨first, uploaded, checked, told, ?_, (congrArg Results.responses results_eq).symm⟩
  cases hd : first.data with
  | ok d => rw [hd] at data; cases data; rfl
  | error e => rw [hd] at data; cases data

theorem calls_of_applied {files : Dict String} {replies : List Reply} {first : Reply}
    {uploaded : SessionData} {heard : List Reply} (data : first.data = .ok uploaded)
    (finished : .returned .applied ∈ uploading target files replies)
    (told : (uploading target files replies).filterMap Exchange.reply? = first :: heard) :
    (uploading target files replies).filterMap Exchange.call? =
      .uploadFiles files :: checks target uploaded.contracts := by
  cases replies with
  | nil => simp [uploading] at finished
  | cons head replies =>
    obtain ⟨rfl, -⟩ := List.cons.inj told
    rw [uploading, data] at finished ⊢
    have rest : .returned .applied ∈ inTurn (checks target uploaded.contracts) replies := by
      simpa using finished
    exact congrArg (Server.Call.uploadFiles files :: ·) (calls_inTurn rest)

theorem not_disposed_of_applied {events : List Event}
    (applied : ((run target events).step target (.answer number reply)).effect = .ended .applied) :
    .dispose ∉ events := by
  intro mem
  have closed : (run target events).state.gate.disposed = true := disposed_of_mem mem
  obtain ⟨-, round, waiting, -⟩ := replied_of_ended applied
  have late := isCurrent_of_disposed closed round.generation
  have stale := (effect_stale_iff target reply waiting).2 late
  cases stale.symm.trans applied

theorem transcript_upload {files : Dict String} {events : List Event}
    (pending : (r.step target (.upload files)).effect = .pending number)
    (hs : (machine target).Serves r) (undisposed : .dispose ∉ events) :
    transcript target number r (.upload files :: events) =
      uploading target files (repliesTo number events) := by
  obtain ⟨p, served⟩ := hs
  have hs' : (machine target).Serves (r.step target (.upload files)).run :=
    serves_of_move served (move_of_step target r _)
  obtain ⟨generation, waits, current, passed⟩ := upload_begun pending
  rw [transcript, passed, transcript_of_waiting hs' waits current fun _ => undisposed,
    uploading_eq target files generation]
  rfl

theorem transcript_dispose (hs : (machine target).Serves r) (begun : number < r.rounds.length)
    (later : List Event) :
    transcript target number r (.dispose :: later) =
      if (r.waiting? number).isSome then ignoring (repliesTo number later) else [] := by
  obtain ⟨p, served⟩ := hs
  have hs' : (machine target).Serves (r.step target .dispose).run :=
    serves_of_move served (move_of_step target r .dispose)
  have nothing : passing target number r .dispose = [] := if_neg (by simp [Event.number?])
  rw [transcript, nothing, List.nil_append]
  cases hw : r.waiting? number with
  | none => exact transcript_of_finished hw begun
  | some round =>
    have late := r.state.gate.isCurrent_dispose round.generation
    rw [transcript_of_waiting hs' hw late (by simp), ahead_late]
    rfl

/-- What an upload does follows from the replies to it. It makes its call, and if that succeeded it
makes one check after the other, each behind the reply to the one before; with the last reply it is
applied. Behind `dispose` it makes no call, and at most one more reply ends it as stale. When it is
applied, each contract with an id was checked once, and the checks that succeeded are the
responses. -/
theorem upload_in_turn {target : Option Target} {before : List Event} {files : Dict String}
    {number : Nat}
    (pending : ((run target before).step target (.upload files)).effect = .pending number)
    (during : List Event) :
    let r := run target before
    let script := transcript target number r (.upload files :: during)
    (.dispose ∉ during → script = uploading target files (repliesTo number during)) ∧
    (∀ early late, during = early ++ .dispose :: late →
      script = transcript target number r (.upload files :: early) ++
        if ((run target (before ++ .upload files :: early)).waiting? number).isSome then
          ignoring (repliesTo number late)
        else []) ∧
    ∀ reply,
      let o := (run target (before ++ .upload files :: during)).step target (.answer number reply)
      let script := transcript target number r (.upload files :: during ++ [.answer number reply])
      o.effect = .ended .applied → ∃ first uploaded checked,
        first.data = .ok uploaded ∧
        script.filterMap Exchange.reply? = first :: checked ∧
        script.filterMap Exchange.call? =
          .uploadFiles files :: checks target uploaded.contracts ∧
        o.run.state.responses = checked.filterMap (·.data.toOption) := by
  intro r script
  have serves (events : List Event) : (machine target).Serves (run target events) :=
    (machine target).run_serves events
  have run_upload (events : List Event) : run target (before ++ .upload files :: events) =
      events.foldl (fun (r : Run) e => (r.step target e).run) (r.step target (.upload files)).run :=
    run_append target before (.upload files :: events)
  obtain ⟨generation, waits, -, passed⟩ := upload_begun pending
  refine ⟨transcript_upload pending (serves before), ?_, ?_⟩
  · rintro early late rfl
    have begun := begun_of_later target early (Rounds.lt_length_of_waiting waits)
    rw [← run_upload] at begun
    have behind := transcript_append target number r (.upload files :: early) (.dispose :: late)
    rw [List.foldl_cons, ← run_upload, transcript_dispose (serves _) begun] at behind
    exact behind
  · intro reply o script applied
    obtain ⟨last_passed, round, waiting, replied⟩ := replied_of_ended applied
    have undisposed : .dispose ∉ during ++ [.answer number reply] := fun mem =>
      not_disposed_of_applied applied (List.mem_append_right before (by simpa using mem))
    have script_eq : script = uploading target files (repliesTo number _) :=
      transcript_upload pending (serves before) undisposed
    have passed_last : script = transcript target number r (.upload files :: during) ++
        [.reply reply, .returned .applied] := by
      have split := transcript_append target number r (.upload files :: during)
        [.answer number reply]
      rw [List.foldl_cons, ← run_upload, transcript_singleton, last_passed] at split
      exact split
    have tracked := tracks_of_later .upload waits ((run_upload during) ▸ waiting)
    obtain ⟨first, uploaded, checked, told, data, responses_eq⟩ :=
      responses_of_applied tracked replied
    have heard : script.filterMap Exchange.reply? = first :: checked := by
      rw [passed_last, List.filterMap_append, ← told, transcript, passed]
      rfl
    refine ⟨first, uploaded, checked, data, heard, ?_, responses_eq⟩
    rw [script_eq] at heard ⊢
    refine calls_of_applied data ?_ heard
    rw [← script_eq, passed_last]
    simp

-- Of three contracts one has no id, and the first check fails: the second check comes after it.
theorem upload_in_turn_sample :
    let target : Target := ⟨⟨"0x5b38da6a701c568545dcfcb03fcb875f56beddc4"⟩, "296"⟩
    let files : Dict String := Dict.ofList [("Token.sol", "contract Token {}")]
    let failed : Reply := .failed (.transport .body)
    let first : Reply := { failed with
      data := .ok { contracts := [{ verificationId := "1" }, {}, { verificationId := "2" }] } }
    let last : Reply := { failed with data := .ok { files := ["Token.sol"] } }
    let replies : List Event := [.answer 0 first, .answer 0 failed, .answer 0 last]
    ((run (some target) []).step (some target) (.upload files)).effect = .pending 0 ∧
      transcript (some target) 0 {} (.upload files :: replies) =
        [.call (.uploadFiles files), .reply first,
          .call (.verifyChecked [checkRequest target "1"]), .reply failed,
          .call (.verifyChecked [checkRequest target "2"]), .reply last, .returned .applied] := by
  intro target files failed first last replies
  have pending : ((run (some target) []).step (some target) (.upload files)).effect = .pending 0 :=
    rfl
  exact ⟨pending, (upload_in_turn pending replies).1 (by simp [replies])⟩

end SourceMatch.Session.Remote
