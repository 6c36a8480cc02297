import SourceMatch.Compiler.Index
import SourceMatch.Proofs.Version.Order
import SourceMatch.Proofs.Version.Text

/-!
The release that a source is built with. Behind a range it is the highest release that some
alternative of the range holds of. There is only one such release, because the order of versions
tells the releases of an index apart; so neither the order of the keys nor a key that is no version
has a part in the choice.
-/
namespace SourceMatch.CompilerIndex

open Version (Requirement)

section

variable {entries entries' : List (Version × String)} {best : Version × String}

theorem highest?_eq_none_iff : highest? entries = none ↔ entries = [] := by
  cases entries with
  | nil => simp [highest?]
  | cons e entries =>
    rw [highest?]
    cases highest? entries with
    | none => simp
    | some best =>
      dsimp only
      split <;> simp

theorem highest?_spec (h : highest? entries = some best) :
    best ∈ entries ∧ ∀ e ∈ entries, (e.1.cmp best.1).isLE = true := by
  induction entries generalizing best with
  | nil => cases h
  | cons e entries ih =>
    rw [highest?] at h
    cases tail : highest? entries with
    | none =>
      rw [tail] at h
      cases h
      rw [highest?_eq_none_iff.1 tail]
      refine ⟨List.mem_singleton_self e, fun e' mem => ?_⟩
      rw [List.mem_singleton.1 mem]
      exact Std.ReflCmp.isLE_rfl
    | some later =>
      obtain ⟨mem, above⟩ := ih tail
      rw [tail] at h
      dsimp only at h
      split at h
      · rename_i below
        cases h
        refine ⟨List.mem_cons_of_mem e mem, fun e' mem' => ?_⟩
        rcases List.mem_cons.1 mem' with rfl | mem'
        · simp [eq_of_beq below]
        · exact above e' mem'
      · rename_i not_below
        cases h
        have reached : (later.1.cmp e.1).isLE = true := by
          rw [← Std.OrientedCmp.isGE_eq_isLE]
          cases order : e.1.cmp later.1 with
          | lt => simp [order] at not_below
          | eq | gt => rfl
        refine ⟨List.mem_cons_self, fun e' mem' => ?_⟩
        rcases List.mem_cons.1 mem' with rfl | mem'
        · exact Std.ReflCmp.isLE_rfl
        · exact Std.TransCmp.isLE_trans (above e' mem') reached

theorem highest?_eq_some_iff
    (distinct : ∀ e ∈ entries, ∀ e' ∈ entries, e.1.cmp e'.1 = .eq → e = e') :
    highest? entries = some best ↔
      best ∈ entries ∧ ∀ e ∈ entries, (e.1.cmp best.1).isLE = true := by
  refine ⟨highest?_spec, fun ⟨mem, above⟩ => ?_⟩
  cases found : highest? entries with
  | none =>
    rw [highest?_eq_none_iff.1 found] at mem
    cases mem
  | some best' =>
    obtain ⟨mem', above'⟩ := highest?_spec found
    have level := Std.OrientedCmp.isLE_antisymm (above best' mem') (above' best mem)
    rw [distinct best' mem' best mem level]

theorem highest?_congr (same : ∀ e, e ∈ entries ↔ e ∈ entries')
    (distinct : ∀ e ∈ entries, ∀ e' ∈ entries, e.1.cmp e'.1 = .eq → e = e') :
    highest? entries = highest? entries' := by
  have distinct' : ∀ e ∈ entries', ∀ e' ∈ entries', e.1.cmp e'.1 = .eq → e = e' :=
    fun e mem e' mem' => distinct e ((same e).2 mem) e' ((same e').2 mem')
  ext best
  rw [highest?_eq_some_iff distinct, highest?_eq_some_iff distinct']
  simp only [same]

end

variable {i i' : CompilerIndex} {range : List Requirement} {e e' : Version × String} {key : String}
  {v : Version} {source spec : String}

structure Offers (i : CompilerIndex) (range : List Requirement) (key : String) (v : Version) :
    Prop where
  listed : key ∈ i.releases.keys
  read : Version.parse? key = some v
  held : ∃ alternative ∈ range, Requirement.holds alternative v = true

/-- A release that a range holds of, and no other such release stands above it. -/
def IsHighest (i : CompilerIndex) (range : List Requirement) (key : String) : Prop :=
  ∃ v, i.Offers range key v ∧ ∀ key' v', i.Offers range key' v' → (v'.cmp v).isLE = true

theorem mem_versions : e ∈ i.versions ↔ e.2 ∈ i.releases.keys ∧ Version.parse? e.2 = some e.1 := by
  simp only [versions, List.mem_filterMap, Option.map_eq_some_iff]
  constructor
  · rintro ⟨key, listed, v, read, rfl⟩
    exact ⟨listed, read⟩
  · rintro ⟨listed, read⟩
    exact ⟨e.2, listed, e.1, read, rfl⟩

def candidates (i : CompilerIndex) (range : List Requirement) : List (Version × String) :=
  i.versions.filter fun e => Version.Range.holds range e.1

theorem mem_candidates : e ∈ i.candidates range ↔ i.Offers range e.2 e.1 := by
  rw [candidates, List.mem_filter, mem_versions, Version.Range.holds, List.any_eq_true]
  exact ⟨fun h => ⟨h.1.1, h.1.2, h.2⟩, fun h => ⟨⟨h.listed, h.read⟩, h.held⟩⟩

theorem eq_of_versions (mem : e ∈ i.versions) (mem' : e' ∈ i'.versions)
    (level : e.1.cmp e'.1 = .eq) : e = e' := by
  have read := (mem_versions.1 mem).2
  have read' := (mem_versions.1 mem').2
  have build := (Version.ofChars?_eq_some read).2
  have build' := (Version.ofChars?_eq_some read').2
  have version_eq : e.1 = e'.1 := Version.eq_of_cmp build build' level
  rw [← version_eq] at read'
  exact Prod.ext version_eq (Version.parse?_injective read read')

theorem highest?_candidates_eq_none_iff :
    highest? (i.candidates range) = none ↔ ∀ key v, ¬i.Offers range key v := by
  rw [highest?_eq_none_iff, List.eq_nil_iff_forall_not_mem]
  constructor
  · intro none key v offers
    exact none (v, key) (mem_candidates.2 offers)
  · intro none e mem
    exact none e.2 e.1 (mem_candidates.1 mem)

theorem candidates_distinct :
    ∀ e ∈ i.candidates range, ∀ e' ∈ i.candidates range, e.1.cmp e'.1 = .eq → e = e' :=
  fun _ mem _ mem' => eq_of_versions (List.mem_filter.1 mem).1 (List.mem_filter.1 mem').1

theorem highest?_candidates_eq_some_iff :
    (highest? (i.candidates range)).map (·.2) = some key ↔ i.IsHighest range key := by
  rw [Option.map_eq_some_iff]
  simp only [highest?_eq_some_iff candidates_distinct, mem_candidates]
  constructor
  · rintro ⟨best, ⟨offers, above⟩, rfl⟩
    exact ⟨best.1, offers, fun key' v' => above (v', key')⟩
  · rintro ⟨v, offers, above⟩
    exact ⟨(v, key), ⟨offers, fun e => above e.2 e.1⟩, rfl⟩

theorem resolve?_eq (i : CompilerIndex) (h : Version.Pragma.extract? source = some spec) :
    i.resolve? source =
      if (Version.parse? spec).isSome ∧ spec ∈ i.releases.keys then some spec
      else (Version.Range.parse? spec).bind fun range =>
        (highest? (i.candidates range)).map (·.2) := by
  rw [resolve?, h]
  simp only [Option.bind_eq_bind, Option.bind_some, contains, Bool.and_eq_true,
    Dict.contains_iff_mem_keys]
  split
  · rfl
  · exact congrArg _ (funext fun range => Option.map_eq_bind.symm)

def SameVersions (i i' : CompilerIndex) : Prop :=
  ∀ key, (Version.parse? key).isSome → (key ∈ i.releases.keys ↔ key ∈ i'.releases.keys)

theorem SameVersions.offers_iff (h : SameVersions i i') :
    i.Offers range key v ↔ i'.Offers range key v := by
  constructor
  · rintro ⟨listed, read, held⟩
    exact ⟨(h key (by rw [read]; rfl)).1 listed, read, held⟩
  · rintro ⟨listed, read, held⟩
    exact ⟨(h key (by rw [read]; rfl)).2 listed, read, held⟩

theorem SameVersions.resolve?_eq (h : SameVersions i i') (source : String) :
    i.resolve? source = i'.resolve? source := by
  cases found : Version.Pragma.extract? source with
  | none => rw [resolve?, resolve?, found]; rfl
  | some spec =>
    have same_release : (Version.parse? spec).isSome ∧ spec ∈ i.releases.keys ↔
        (Version.parse? spec).isSome ∧ spec ∈ i'.releases.keys := and_congr_right (h spec)
    have same_highest (range : List Requirement) :
        highest? (i.candidates range) = highest? (i'.candidates range) :=
      highest?_congr (fun e => by rw [mem_candidates, mem_candidates, h.offers_iff])
        candidates_distinct
    rw [i.resolve?_eq found, i'.resolve?_eq found, if_congr same_release rfl rfl]
    simp only [same_highest]

/-- For every source and every index: without a version clause there is no release. A clause that is
a version of the index is taken as it is. Any other clause is a range, and the release is the
highest one of those that some alternative holds of; there is none exactly if the clause is no range
or no release fits. Keys that are no versions and the order of the keys have no part in it. -/
theorem resolves_to_highest (i : CompilerIndex) (source : String) :
    (Version.Pragma.extract? source = none → i.resolve? source = none) ∧
    (∀ spec, Version.Pragma.extract? source = some spec →
      let isRelease := (Version.parse? spec).isSome ∧ spec ∈ i.releases.keys
      (isRelease → i.resolve? source = some spec) ∧
      (¬isRelease →
        (∀ key, i.resolve? source = some key ↔
          ∃ range, Version.Range.parse? spec = some range ∧ i.IsHighest range key) ∧
        (i.resolve? source = none ↔
          ∀ range, Version.Range.parse? spec = some range → ∀ key v, ¬i.Offers range key v))) ∧
    (∀ i' : CompilerIndex, SameVersions i i' → i.resolve? source = i'.resolve? source) ∧
    ∀ range (order : List (Version × String)), order.Perm (i.candidates range) →
      highest? order = highest? (i.candidates range) := by
  refine ⟨fun none => by rw [resolve?, none]; rfl, fun spec found => ?_,
    fun i' same => same.resolve?_eq source, fun range order perm => ?_⟩
  · intro isRelease
    have resolved := i.resolve?_eq found
    refine ⟨fun release => resolved.trans (if_pos release), fun range_only => ?_⟩
    rw [if_neg range_only] at resolved
    rw [resolved]
    refine ⟨fun key => ?_, ?_⟩
    · simp only [Option.bind_eq_some_iff, highest?_candidates_eq_some_iff]
    · simp only [Option.bind_eq_none_iff, Option.map_eq_none_iff,
        highest?_candidates_eq_none_iff]
  · exact (highest?_congr (fun e => perm.mem_iff.symm) candidates_distinct).symm

-- In the order of texts the keys stand the other way round.
example :
    let releases := Dict.ofList [("0.8.17", ""), ("0.8.9", ""), ("nightly", "")]
    ({ releases } : CompilerIndex).resolve? "pragma solidity ^0.8.0;" = some "0.8.17" := by
  decide +kernel

end SourceMatch.CompilerIndex
