import SourceMatch.Session.Remote

/-!
The verified contract of a session. The search through the responses is a search through all their
contracts in a row, so that the first verified one counts, with the response it stands in, and no
later response takes its place. The status says `ok` exactly if there is one.
-/
namespace SourceMatch.Session.Remote

open Server (SessionData)

variable {s : State} {found : Resolved}

def State.reported (s : State) : List Resolved :=
  s.responses.flatMap fun response => response.contracts.map (⟨·, response⟩)

theorem contracts_reported (s : State) :
    s.reported.map (·.contract) = s.responses.flatMap (·.contracts) := by
  rw [State.reported, List.map_flatMap]
  congr 1
  funext response
  rw [List.map_map]
  exact List.map_id _

theorem mem_reported :
    found ∈ s.reported ↔
      found.response ∈ s.responses ∧ found.contract ∈ found.response.contracts := by
  obtain ⟨contract, response⟩ := found
  simp only [State.reported, List.mem_flatMap, List.mem_map, Resolved.mk.injEq]
  constructor
  · rintro ⟨_, listed, _, inside, rfl, rfl⟩
    exact ⟨listed, inside⟩
  · rintro ⟨listed, inside⟩
    exact ⟨response, listed, contract, inside, rfl, rfl⟩

theorem resolved?_eq_find? (s : State) :
    s.resolved? = s.reported.find? fun r => r.contract.status = some "ok" := by
  rw [State.resolved?, State.reported, List.find?_flatMap]
  congr 1
  funext response
  rw [List.find?_map]
  rfl

theorem status_of_resolved? (h : s.resolved? = some found) : found.contract.status = some "ok" := by
  rw [resolved?_eq_find?] at h
  simpa using List.find?_some h

theorem isSome_resolved?_iff :
    s.resolved?.isSome = true ↔
      ∃ response ∈ s.responses, ∃ c ∈ response.contracts, c.status = some "ok" := by
  rw [resolved?_eq_find?, List.find?_isSome]
  constructor
  · rintro ⟨found, listed, ok⟩
    obtain ⟨response, contract⟩ := mem_reported.1 listed
    exact ⟨_, response, _, contract, by simpa using ok⟩
  · rintro ⟨response, listed, c, inside, ok⟩
    exact ⟨⟨c, response⟩, mem_reported.2 ⟨listed, inside⟩, by simpa using ok⟩

theorem resolved?_append (later : List SessionData) (h : s.resolved? = some found) :
    ({ s with responses := s.responses ++ later } : State).resolved? = some found := by
  rw [State.resolved?, List.findSome?_append, ← State.resolved?, h]
  rfl

def State.latest? (s : State) : Option String :=
  match s.responses.getLast? with
  | none => none
  | some response =>
    match response.contracts with
    | [] => none
    | c :: _ => c.status

theorem status?_of_unresolved (h : s.resolved? = none) : s.status? = s.latest? := by
  rw [State.status?, h, State.latest?]
  cases s.responses.getLast? with
  | none => rfl
  | some response =>
    dsimp only [Option.bind_some]
    cases response.contracts <;> rfl

theorem latest?_ne_ok (h : s.resolved? = none) : s.latest? ≠ some "ok" := by
  intro ok
  have none_ok : ¬∃ response ∈ s.responses, ∃ c ∈ response.contracts, c.status = some "ok" := by
    rw [← isSome_resolved?_iff, h]
    exact Bool.false_ne_true
  rw [State.latest?] at ok
  split at ok
  · cases ok
  · rename_i response last
    split at ok
    · cases ok
    · rename_i c rest contracts
      refine none_ok ⟨response, List.mem_of_getLast? last, c, ?_, ok⟩
      rw [contracts]
      exact List.mem_cons_self

theorem status?_eq_ok_iff : s.status? = some "ok" ↔ s.resolved?.isSome = true := by
  cases h : s.resolved? with
  | none => simpa [status?_of_unresolved h] using latest?_ne_ok h
  | some found => simpa [State.status?, h] using status_of_resolved? h

/-- The first verified contract counts, and the status tells of it. -/
theorem resolves_to_first_ok (s : State) (later : List SessionData) :
    s.resolved? = (s.reported.find? fun r => r.contract.status = some "ok") ∧
      s.reported.map (·.contract) = s.responses.flatMap (·.contracts) ∧
      (s.resolved?.isSome = true ↔
        ∃ response ∈ s.responses, ∃ c ∈ response.contracts, c.status = some "ok") ∧
      (∀ found, s.resolved? = some found →
        found.response ∈ s.responses ∧ found.contract ∈ found.response.contracts ∧
          ({ s with responses := s.responses ++ later } : State).resolved? = some found) ∧
      (s.status? = some "ok" ↔ s.resolved?.isSome = true) ∧
      (s.resolved? = none → s.status? = s.latest?) := by
  refine ⟨resolved?_eq_find? s, contracts_reported s, isSome_resolved?_iff, fun found h => ?_,
    status?_eq_ok_iff, status?_of_unresolved⟩
  have listed : found ∈ s.reported := by
    rw [resolved?_eq_find?] at h
    exact List.mem_of_find?_eq_some h
  obtain ⟨response, contract⟩ := mem_reported.1 listed
  exact ⟨response, contract, resolved?_append later h⟩

end SourceMatch.Session.Remote
