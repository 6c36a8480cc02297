import SourceMatch.Proofs.Session.Remote.Turns
import SourceMatch.Proofs.Session.Stateless.Turns

/-!
Rounds take turns, in a session of the server and in a verification in single requests alike. A gate
is busy exactly while one round waits for a reply; the reply is dropped exactly if something has
superseded the round since it was begun; and behind `dispose` there is nothing but dropped replies.
-/
namespace SourceMatch.Session

/-- In every run of either kind of session the gate is busy exactly while one round waits, and never
two wait. A round that waits was begun at some time, and its reply ends it as stale, without any
effect on what is known, exactly if `dispose` came since that time or other inputs were stored. A
round that is given up leaves the gate idle and all else as it was. Behind `dispose` no call is
made, and what is known stays. -/
theorem rounds_take_turns :
    (∀ (target : Option Target) (events : List Remote.Event) (e : Remote.Event),
      let r := Remote.run target events
      let o := r.step target e
      (r.state.gate.busy = true ↔ ∃! n, (r.waiting? n).isSome) ∧
      (∀ m n, (r.waiting? m).isSome → (r.waiting? n).isSome → m = n) ∧
      (∀ n, (r.waiting? n).isSome →
        (∃ before start during, events = before ++ start :: during ∧
          Remote.Begins target (Remote.run target before) start n ∧
          ∀ reply, e = .answer n reply → (o.effect = .ended .stale ↔ .dispose ∈ during)) ∧
        (∀ reply, e = .answer n reply → o.effect = .ended .stale →
          o.run.state.results = r.state.results) ∧
        (e = .drop n → o.run.waiting? n = none ∧
          o.run.state = { r.state with gate := { r.state.gate with busy := false } })) ∧
      (.dispose ∈ events → o.call = none ∧
        ∀ later, (Remote.run target (events ++ later)).state.results = r.state.results)) ∧
    ∀ (compilerVersion contractName : Option String) (events : List Stateless.Event)
      (e : Stateless.Event),
      let s := Stateless.State.withOptions compilerVersion contractName
      let r := Stateless.run s events
      let o := r.step e
      (r.state.gate.busy = true ↔ ∃! n, (r.waiting? n).isSome) ∧
      (∀ m n, (r.waiting? m).isSome → (r.waiting? n).isSome → m = n) ∧
      (∀ n round, r.waiting? n = some round →
        (∃ before start during, events = before ++ start :: during ∧
          Stateless.Begins (Stateless.run s before) start round n ∧
          ∀ reply, e = .answer n reply → (o.effect = .ended .stale ↔
            .dispose ∈ during ∨ Stateless.StoresOthers s (before ++ [start]) during)) ∧
        (∀ reply, e = .answer n reply → o.effect = .ended .stale →
          o.run.state.failure = r.state.failure ∧ o.run.state.response = r.state.response) ∧
        (e = .drop n → o.run.waiting? n = none ∧
          o.run.state = { r.state with gate := { r.state.gate with busy := false } })) ∧
      (.dispose ∈ events → o.call = none ∧
        ∀ later, (Stateless.run s (events ++ later)).state.failure = r.state.failure ∧
          (Stateless.run s (events ++ later)).state.response = r.state.response) := by
  constructor
  · intro target events e r o
    obtain ⟨p, hs⟩ := Remote.serves target events
    refine ⟨hs.busy_iff, fun m n => hs.unique, fun n hn => ?_, fun hd => ?_⟩
    · obtain ⟨round, waiting⟩ := Option.isSome_iff_exists.1 hn
      obtain ⟨before, start, during, split, begins, current⟩ := Remote.exists_start waiting
      refine ⟨⟨before, start, during, split, begins, ?_⟩, ?_, ?_⟩
      · rintro reply rfl
        exact (Remote.effect_stale_iff target reply waiting).trans current
      · rintro reply rfl stale
        have late := (Remote.effect_stale_iff target reply waiting).1 stale
        change (r.step target (.answer n reply)).run.state.results = _
        rw [Remote.step_late target reply waiting late]
        rfl
      · rintro rfl
        change (r.step target (.drop n)).run.waiting? n = none ∧
          (r.step target (.drop n)).run.state = _
        rw [Remote.step_drop target waiting, Run.waiting?, Rounds.waiting_set_none,
          if_pos rfl]
        exact ⟨rfl, rfl⟩
    · exact ⟨(Remote.step_of_disposed target e (Remote.disposed_of_mem hd)).1,
        Remote.results_of_disposed hd⟩
  · intro compilerVersion contractName events e s r o
    obtain ⟨p, hs⟩ : ∃ p, Rounds.Serves r.state.gate.busy r.rounds p := Stateless.serves rfl events
    refine ⟨hs.busy_iff, fun m n => hs.unique, fun n round waiting => ?_, fun hd => ?_⟩
    · obtain ⟨before, start, during, split, begins, current⟩ := Stateless.exists_start rfl waiting
      refine ⟨⟨before, start, during, split, begins, ?_⟩, ?_, ?_⟩
      · rintro reply rfl
        exact (Stateless.effect_stale_iff reply waiting).trans current
      · rintro reply rfl stale
        have late := (Stateless.effect_stale_iff reply waiting).1 stale
        change (r.step (.answer n reply)).run.state.failure = _ ∧
          (r.step (.answer n reply)).run.state.response = _
        rw [Stateless.step_late reply waiting late]
        exact ⟨rfl, rfl⟩
      · rintro rfl
        change (r.step (.drop n)).run.waiting? n = none ∧ (r.step (.drop n)).run.state = _
        rw [Stateless.step_drop waiting, Run.waiting?, Rounds.waiting_set_none,
          if_pos rfl]
        exact ⟨rfl, rfl⟩
    · exact ⟨(Stateless.step_of_disposed e (Stateless.disposed_of_mem rfl hd)).1,
        Stateless.known_of_disposed rfl hd⟩

end SourceMatch.Session
