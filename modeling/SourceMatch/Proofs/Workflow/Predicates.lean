import SourceMatch.Proofs.Workflow.Busy
import SourceMatch.Proofs.Workflow.Inputs

/-!
What the predicates tell of the operations. Whether one can go back is told exactly. Whether one can
go on is told of a verification that is open; of a closed one the predicate may still say yes, where
each attempt is refused.
-/
namespace SourceMatch.Workflow

variable {w : Workflow} {r : Run} {now : Timestamp}

def Effect.isRefusal : Effect → Bool
  | .moved (.error .disposed) | .moved (.error .busy) | .moved (.error .finished)
  | .moved (.error (.notReady _)) => true
  | _ => false

def Effect.GoesOn : Effect → Prop
  | .moved (.ok _) | .pending _ => True
  | _ => False

theorem Effect.GoesOn.not_refusal {effect : Effect} (h : effect.GoesOn) :
    effect.isRefusal = false := by
  match effect, h with
  | .moved (.ok _), _ => rfl
  | .pending _, _ => rfl

theorem next_goesOn (live : r.state.disposed = false) (can : w.canNext r.state = true) :
    (r.step w (.next now)).effect.GoesOn := by
  simp only [canNext, Bool.and_eq_true, Bool.not_eq_true'] at can
  have free : ¬(r.state.disposed = true ∨ r.state.busy = true ∨ w.isReady r.state = false) := by
    simp [live, can.1, can.2]
  have ht := transition w r (.next now)
  generalize r.step w (.next now) = o at ht ⊢
  cases ht with
  | immediate immediate => cases immediate
  | next moved =>
    cases moved with
    | refused _ blocked => exact absurd blocked free
    | _ => trivial
  | call _ => trivial

theorem next_refused (h : r.state.disposed = true ∨ w.canNext r.state = false) :
    (r.step w (.next now)).effect.isRefusal = true := by
  by_cases closed : r.state.disposed = true
  · rw [(next_of_disposed closed now).1]
    rfl
  have blocked := h.resolve_left closed
  by_cases busy : r.state.busy = true
  · simp [Run.step, Run.startNext, next, closed, busy, Effect.isRefusal]
  have unready : w.isReady r.state = false := by simpa [canNext, busy] using blocked
  cases target : r.state.step.next? with
  | none => simp [Run.step, Run.startNext, next, closed, busy, target, Effect.isRefusal]
  | some step =>
    simp [Run.step, Run.startNext, next, closed, busy, target, unready, Effect.isRefusal]

theorem canBack_iff (w : Workflow) (r : Run) :
    canBack r.state = true ↔ ∃ step, (r.step w .back).effect = .moved (.ok step) := by
  rw [canBack, Bool.and_eq_true, Bool.not_eq_true', Option.isSome_iff_exists]
  have ht := transition w r .back
  generalize r.step w .back = o at ht ⊢
  cases ht with
  | immediate immediate => cases immediate
  | back idle previous => simp [idle, previous]
  | backRefused _ blocked =>
    rcases blocked with busy | first
    · simp [busy]
    · simp [first]

/-- In every state of a run an attempt to go on is let through exactly if the predicate says so and
the verification is open; then it enters a step or makes a call. So the predicate is wrong exactly
where the verification is closed and idle on a step that is complete, and whether one can go back is
told without exception. -/
theorem canNext_agrees_iff (w : Workflow) (events : List Event) (now : Timestamp) :
    let r := run w events
    let effect := (r.step w (.next now)).effect
    (effect.isRefusal = false ↔ w.canNext r.state = true ∧ .dispose ∉ events) ∧
      (effect.isRefusal = false → effect.GoesOn) ∧
      ((w.canNext r.state = true ↔ effect.isRefusal = false) ↔
        ¬(.dispose ∈ events ∧ w.canNext r.state = true)) ∧
      (canBack r.state = true ↔ ∃ step, (r.step w .back).effect = .moved (.ok step)) := by
  intro r effect
  have closed : r.state.disposed = true ↔ .dispose ∈ events := run_disposed w events
  have accepted (passes : effect.isRefusal = false) :
      w.canNext r.state = true ∧ r.state.disposed = false := by
    by_contra blocked
    rw [not_and_or, Bool.not_eq_true, Bool.not_eq_false] at blocked
    have refused : effect.isRefusal = true := next_refused blocked.symm
    rw [refused] at passes
    cases passes
  have exact_iff : effect.isRefusal = false ↔ w.canNext r.state = true ∧ .dispose ∉ events := by
    rw [← closed, Bool.not_eq_true]
    exact ⟨accepted, fun h => (next_goesOn h.2 h.1).not_refusal⟩
  refine ⟨exact_iff, fun passes => ?_, ?_, canBack_iff w r⟩
  · have h := accepted passes
    exact next_goesOn h.2 h.1
  · rw [exact_iff]
    tauto

theorem canNext_when_closed :
    ¬∀ (w : Workflow) (events : List Event) (now : Timestamp),
      w.canNext (run w events).state = true ↔
        ((run w events).step w (.next now)).effect.isRefusal = false := by
  intro h
  have told : sample.canNext
      (run sample [.setSource "Token.sol" (some ""), .dispose]).state = true := rfl
  have refused : ((run sample [.setSource "Token.sol" (some ""), .dispose]).step sample
      (.next default)).effect.isRefusal = true := rfl
  rw [h sample _ default, refused] at told
  cases told

end SourceMatch.Workflow
