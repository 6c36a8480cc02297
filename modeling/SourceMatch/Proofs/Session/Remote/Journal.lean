import SourceMatch.Proofs.Rounds
import SourceMatch.Proofs.Session.Remote.Transition

/-!
What a session knows, from the rounds that returned. However rounds are begun, answered and given
up in between, the results are those of the rounds that were applied or failed, taken one after the
other in the order in which they returned. The order, the replies and the outcomes are read off what
the caller of the session sees: the events, and what each of them gave back.
-/
namespace SourceMatch.Session.Remote

open Server (SessionData ContractDescriptor Reply)

structure Course where
  start : Event
  replies : List Reply := []

def Course.hear (c : Course) (reply : Reply) : Course := { c with replies := c.replies ++ [reply] }

structure Returned where
  course : Course
  outcome : RoundOutcome

def Returned.counts (x : Returned) : Bool := x.outcome = .applied ∨ x.outcome = .failed

theorem counts_of_refusal {g : Gate} {outcome : RoundOutcome} (h : g.refusal? = some outcome)
    (c : Course) : Returned.counts ⟨c, outcome⟩ = false := by
  rw [Gate.refusal?] at h
  split at h
  · cases h
    rfl
  · split at h
    · cases h
      rfl
    · cases h

def history (target : Option Target) : Run → List Event → List (Event × Effect)
  | _, [] => []
  | r, e :: events =>
    (e, (r.step target e).effect) :: history target (r.step target e).run events

structure Journal where
  courses : List Course := []
  returned : List Returned := []

namespace Journal

def opened (j : Journal) (start : Event) : Journal :=
  { j with courses := j.courses ++ [{ start }] }

def heard (j : Journal) (number : Nat) (reply : Reply) : Journal :=
  { j with courses := j.courses.modify number (·.hear reply) }

def closed (j : Journal) (number : Nat) (outcome : RoundOutcome) : Journal :=
  match j.courses[number]? with
  | none => j
  | some course => { j with returned := j.returned ++ [⟨course, outcome⟩] }

/-- The journal behind an event. A reply that no round waits for is not heard, and a round that is
given up never returns. -/
def note (j : Journal) : Event × Effect → Journal
  | (_, .noRound) | (.drop _, _) | (.dispose, _) => j
  | (.answer number reply, .ended outcome) => (j.heard number reply).closed number outcome
  | (.answer number reply, _) => j.heard number reply
  | (start, .ended outcome) => (j.opened start).closed j.courses.length outcome
  | (start, _) => j.opened start

end Journal

def journal (target : Option Target) (events : List Event) : Journal :=
  (history target {} events).foldl Journal.note {}

structure Results where
  failure : Option Failure := none
  uploadedFiles : List String := []
  unusedFiles : List String := []
  responses : List SessionData := []
deriving DecidableEq, Repr

def State.results (s : State) : Results :=
  ⟨s.failure, s.uploadedFiles, s.unusedFiles, s.responses⟩

def Course.error? : Course → Option Server.Error
  | ⟨.clear, [reply]⟩ => refusal? reply.text
  | ⟨_, [reply]⟩ => refusal? reply.data
  | _ => none

/-- What is known from a round that was applied: what the server sent, and behind the answer to an
upload the checks that succeeded. -/
def Course.results? : Course → Option Results
  | ⟨.mount, [reply]⟩ | ⟨.fetch, [reply]⟩ =>
    reply.data.toOption.map fun data => ⟨none, data.files, data.unused, []⟩
  | ⟨.clear, [reply]⟩ => reply.text.toOption.map fun _ => {}
  | ⟨.upload _, first :: checks⟩ =>
    first.data.toOption.map fun data =>
      ⟨none, data.files, data.unused, checks.filterMap (·.data.toOption)⟩
  | _ => none

/-- What is known behind a round that was applied or failed; nothing if its replies do not allow
that outcome. -/
def Results.take? (known : Results) : Returned → Option Results
  | ⟨course, .applied⟩ => course.results?
  | ⟨course, .failed⟩ => course.error?.map fun e => { known with failure := some (.ofError e) }
  | _ => none

def Results.takeAll? (returned : List Returned) : Option Results :=
  (returned.filter (·.counts)).foldlM Results.take? {}

def Results.next? (known : Results) (x : Returned) : Option Results :=
  if x.counts then known.take? x else some known

theorem takeAll?_concat {returned : List Returned} {known : Results}
    (h : Results.takeAll? returned = some known) (x : Returned) :
    Results.takeAll? (returned ++ [x]) = known.next? x := by
  rw [Results.takeAll?] at h ⊢
  rw [List.filter_append, List.foldlM_append, h, Results.next?]
  cases hx : x.counts <;> simp [hx]

theorem next?_of_not_counts {x : Returned} (h : x.counts = false) (known : Results) :
    known.next? x = some known := by
  rw [Results.next?, h]
  rfl

theorem next?_failed (known : Results) (c : Course) :
    known.next? ⟨c, .failed⟩ =
      c.error?.map fun e => { known with failure := some (.ofError e) } := rfl

theorem next?_applied (known : Results) (c : Course) :
    known.next? ⟨c, .applied⟩ = c.results? := rfl

inductive Tracks : Course → Round → Prop
  | mount {generation : Nat} : Tracks ⟨.mount, []⟩ (.fetch generation)
  | fetch {generation : Nat} : Tracks ⟨.fetch, []⟩ (.fetch generation)
  | clear {generation : Nat} : Tracks ⟨.clear, []⟩ (.clear generation)
  | upload {generation : Nat} {files : Dict String} :
      Tracks ⟨.upload files, []⟩ (.upload generation files)
  | check {generation : Nat} {files : Dict String} {first : Reply} {checks : List Reply}
      {uploaded : SessionData} {request : Server.CheckRequest} {rest : List ContractDescriptor}
      (data : first.data = .ok uploaded) :
      Tracks ⟨.upload files, first :: checks⟩
        (.check generation uploaded (checks.filterMap (·.data.toOption)) request rest)

variable {target : Option Target} {s s' : State} {r : Run} {j : Journal} {c : Course}
  {round next : Round} {reply : Reply} {outcome : RoundOutcome}

theorem tracks_begun {e : Event} {generation : Nat} (begins : e.round? generation = some round) :
    Tracks ⟨e, []⟩ round := by
  cases e with
  | mount => cases begins; exact .mount
  | fetch => cases begins; exact .fetch
  | clear => cases begins; exact .clear
  | upload files => cases begins; exact .upload
  | _ => cases begins

theorem Tracks.of_checked {uploaded : SessionData} {responses : List SessionData}
    {contracts : List ContractDescriptor} (tracked : Tracks c round)
    (known : Checked reply round uploaded responses contracts) :
    ∃ files first checks, c.hear reply = ⟨.upload files, first :: checks⟩ ∧
      first.data = .ok uploaded ∧ responses = checks.filterMap (·.data.toOption) := by
  cases known with
  | upload data =>
    cases tracked
    exact ⟨_, reply, [], rfl, data, rfl⟩
  | check =>
    cases tracked with
    | check data =>
      -- the reply is one more check, which counts if it succeeded
      refine ⟨_, _, _ ++ [reply], rfl, data, ?_⟩
      cases hd : reply.data.toOption <;> simp [hd]

theorem next?_of_ended (tracked : Tracks c round)
    (replied : ReplyCase target s round reply (s', .ended outcome)) :
    s.results.next? ⟨c.hear reply, outcome⟩ = some s'.results := by
  cases replied with
  | late _ => rfl
  | failed _ refused =>
    -- a round that waits for a check has no error, so this reply is the only one
    have error_eq : (c.hear reply).error? = round.error? reply := by
      cases tracked with
      | check _ => cases refused
      | _ => rfl
    rw [next?_failed, error_eq, refused]
    rfl
  | fetched _ round_eq data_eq =>
    rw [round_eq] at tracked
    rw [next?_applied]
    cases tracked <;>
      simp [Course.hear, Course.results?, data_eq, Except.toOption, State.results, State.replace]
  | cleared _ round_eq text_eq =>
    rw [round_eq] at tracked
    cases tracked
    rw [next?_applied]
    simp [Course.hear, Course.results?, text_eq, Except.toOption, State.results, State.replace]
  | checked _ known next_case =>
    obtain ⟨files, first, checks, heard_eq, data, responses_eq⟩ := tracked.of_checked known
    cases next_case
    rw [next?_applied, heard_eq, responses_eq]
    simp [Course.results?, data, Except.toOption, State.results, State.replace]

theorem tracks_of_waiting (tracked : Tracks c round)
    (replied : ReplyCase target s round reply (s', .waiting next)) :
    s' = s ∧ Tracks (c.hear reply) next := by
  cases replied with
  | checked _ known next_case =>
    obtain ⟨files, first, checks, heard_eq, data, responses_eq⟩ := tracked.of_checked known
    cases next_case
    rw [heard_eq, responses_eq]
    exact ⟨rfl, .check data⟩

theorem note_pending {e : Event} {generation : Nat} (begins : e.round? generation = some round)
    (j : Journal) (n : Nat) : j.note (e, .pending n) = j.opened e := by
  cases e with
  | answer _ _ => cases begins
  | drop _ => cases begins
  | dispose => cases begins
  | _ => rfl

theorem note_ended {e : Event} {generation : Nat} (begins : e.round? generation = some round)
    (j : Journal) (outcome : RoundOutcome) :
    j.note (e, .ended outcome) = (j.opened e).closed j.courses.length outcome := by
  cases e with
  | answer _ _ => cases begins
  | drop _ => cases begins
  | dispose => cases begins
  | _ => rfl

structure Follows (j : Journal) (r : Run) : Prop where
  length_eq : j.courses.length = r.rounds.length
  tracks : ∀ n round, r.waiting? n = some round → ∃ c, j.courses[n]? = some c ∧ Tracks c round
  results_eq : Results.takeAll? j.returned = some r.state.results

namespace Follows

theorem initial : Follows {} {} where
  length_eq := rfl
  tracks n round h := by simp [Run.waiting?] at h
  results_eq := rfl

theorem of_results (h : Follows j r) (same : s.results = r.state.results) :
    Follows j { r with state := s } :=
  ⟨h.length_eq, h.tracks, by rw [h.results_eq, same]⟩

theorem opened (h : Follows j r) (start : Event) (round? : Option Round)
    (tracked : ∀ round ∈ round?, Tracks ⟨start, []⟩ round) :
    Follows (j.opened start) { r with rounds := r.rounds ++ [round?] } where
  length_eq := by simp [Journal.opened, h.length_eq]
  tracks n round waiting := by
    rw [Run.waiting?, Rounds.waiting_append] at waiting
    split at waiting
    · rename_i last
      exact ⟨_, by simp [Journal.opened, last, h.length_eq], tracked round waiting⟩
    · obtain ⟨c, course_eq, tracked⟩ := h.tracks n round waiting
      have begun := (List.getElem?_eq_some_iff.1 course_eq).1
      exact ⟨c, (List.getElem?_append_left begun).trans course_eq, tracked⟩
  results_eq := h.results_eq

theorem heard {number : Nat} (h : Follows j r) (course_eq : j.courses[number]? = some c)
    (round? : Option Round) (tracked : ∀ next ∈ round?, Tracks (c.hear reply) next) :
    Follows (j.heard number reply) { r with rounds := r.rounds.set number round? } where
  length_eq := by simp [Journal.heard, h.length_eq]
  tracks n round waiting := by
    rw [Run.waiting?, Rounds.waiting_set] at waiting
    split at waiting
    · rename_i now
      exact ⟨c.hear reply, by simp [Journal.heard, now.1, course_eq], tracked round waiting⟩
    · rename_i other
      obtain ⟨c', course_eq', tracked'⟩ := h.tracks n round waiting
      have begun := h.length_eq ▸ (List.getElem?_eq_some_iff.1 course_eq).1
      have distinct : number ≠ n := fun same => other ⟨same.symm, begun⟩
      exact ⟨c', by simp [Journal.heard, distinct, course_eq'], tracked'⟩
  results_eq := h.results_eq

theorem released (h : Follows j r) (number : Nat) :
    Follows j { r with rounds := r.rounds.set number none } where
  length_eq := by simp [h.length_eq]
  tracks n round waiting := by
    rw [Run.waiting?, Rounds.waiting_set] at waiting
    split at waiting
    · cases waiting
    · exact h.tracks n round waiting
  results_eq := h.results_eq

theorem closed {number : Nat} (h : Follows j r) (course_eq : j.courses[number]? = some c)
    (taken : r.state.results.next? ⟨c, outcome⟩ = some s.results) :
    Follows (j.closed number outcome) { r with state := s } := by
  have closed_eq : j.closed number outcome =
      { j with returned := j.returned ++ [⟨c, outcome⟩] } := by
    rw [Journal.closed, course_eq]
  rw [closed_eq]
  exact ⟨h.length_eq, h.tracks, by rw [takeAll?_concat h.results_eq, taken]⟩

theorem refused {e : Event} {generation : Nat} (h : Follows j r)
    (begins : e.round? generation = some round)
    (nothing : Returned.counts ⟨⟨e, []⟩, outcome⟩ = false) :
    Follows (j.note (e, .ended outcome)) { r with rounds := r.rounds ++ [none] } := by
  rw [note_ended begins]
  refine (h.opened e none (by simp)).closed ?_ (next?_of_not_counts nothing _)
  simp [Journal.opened]

theorem step (h : Follows j r) (target : Option Target) (e : Event) :
    Follows (j.note (e, (r.step target e).effect)) (r.step target e).run := by
  have ht := transition target r e
  generalize r.step target e = o at ht ⊢
  cases ht with
  | refused begins reason =>
    refine h.refused begins ?_
    rcases reason with ⟨-, -, rfl⟩ | refusal
    · rfl
    · exact counts_of_refusal refusal _
  | begun begins _ =>
    rw [note_pending begins]
    refine (h.opened e _ ?_).of_results rfl
    rintro _ ⟨⟩
    exact tracks_begun begins
  | unheard _ => exact h
  | ended waiting replied =>
    obtain ⟨c, course_eq, tracked⟩ := h.tracks _ _ waiting
    refine (h.heard course_eq none (by simp)).closed ?_ (next?_of_ended tracked replied)
    simp [Journal.heard, course_eq]
  | continued waiting replied =>
    obtain ⟨c, course_eq, tracked⟩ := h.tracks _ _ waiting
    obtain ⟨rfl, tracked⟩ := tracks_of_waiting tracked replied
    refine h.heard course_eq _ ?_
    rintro _ ⟨⟩
    exact tracked
  | dropMissing _ => exact h
  | dropped _ => exact (h.released _).of_results rfl
  | disposed => exact h.of_results rfl

end Follows

theorem follows_foldl (target : Option Target) (events : List Event) (h : Follows j r) :
    Follows ((history target r events).foldl Journal.note j)
      (events.foldl (fun r e => (r.step target e).run) r) := by
  -- the journal and the run go on together, so both are arbitrary in the induction
  induction events generalizing j r with
  | nil => exact h
  | cons e events ih => exact ih (h.step target e)

/-- In every run the results of a session are those of the rounds that were applied or failed, taken
in the order in which they returned. A round that was refused, came too late, was given up or still
waits leaves nothing behind. -/
theorem results_of_returned (target : Option Target) (events : List Event) :
    Results.takeAll? (journal target events).returned =
      some (run target events).state.results :=
  (follows_foldl target events Follows.initial).results_eq

-- Clearing is refused while a fetch waits, and so it returns before the fetch does.
example (e : Server.Error) :
    (journal none [.fetch, .clear, .answer 0 (.failed e)]).returned =
      [⟨⟨.clear, []⟩, .busy⟩, ⟨⟨.fetch, [.failed e]⟩, .failed⟩] := rfl

end SourceMatch.Session.Remote
