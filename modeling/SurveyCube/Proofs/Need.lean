import SurveyCube.Proofs.Outcome

/-!
# What operations need

An operation that checks its input step by step succeeds if everything that it
needs is met, and otherwise fails at the first thing that is not.

* `Need` is a condition together with the faults that one may expect if it is
  not met.
* `FirstUnmet` says of a fault that the first unmet need of a list leads to it.
* `Governs` says of a list of needs that it decides over success, and over the
  fault otherwise.  The lemmas about it follow the ways in which operations
  are put together.
-/

namespace SurveyCube

/-- A condition of success, and the faults that may follow if it is not met. -/
structure Need where
  met : Prop
  blames : Fault → Prop

/-- A condition that leads to faults of one kind if it is not met. -/
def Need.ofKind (met : Prop) (kind : FaultKind) : Need where
  met
  blames fault := fault.kind = kind

/-- The first need that is not met leads to the fault. -/
def FirstUnmet (fault : Fault) : List Need → Prop
  | [] => False
  | need :: rest => ¬ need.met ∧ need.blames fault ∨ need.met ∧ FirstUnmet fault rest

theorem firstUnmet_append {fault : Fault} {front back : List Need} :
    FirstUnmet fault (front ++ back) ↔
      FirstUnmet fault front ∨ (∀ need ∈ front, need.met) ∧ FirstUnmet fault back := by
  induction front with
  | nil => simp [FirstUnmet]
  | cons need rest ih =>
      rw [List.cons_append, FirstUnmet, FirstUnmet, ih, List.forall_mem_cons]
      tauto

/-- The needs decide over the outcome: it is a success if all of them are met,
and otherwise a fault that the first unmet one leads to. -/
structure Governs {α : Type} (needs : List Need) (outcome : Except Fault α) : Prop where
  succeeds_iff : (∃ result, outcome = .ok result) ↔ ∀ need ∈ needs, need.met
  blames_first : ∀ fault, outcome = .error fault → FirstUnmet fault needs

namespace Governs

variable {α β : Type} {needs front back : List Need}

theorem of_eq_ok {outcome : Except Fault α} {result : α} (succeeds : outcome = .ok result) :
    Governs [] outcome where
  succeeds_iff := by simp [succeeds]
  blames_first := by simp [succeeds]

theorem of_unmet
    {outcome : Except Fault α} {need : Need} (unmet : ¬ need.met)
    (failure : ∃ fault, outcome = .error fault ∧ need.blames fault) :
    Governs (need :: needs) outcome := by
  obtain ⟨fault, fails, blamed⟩ := failure
  constructor
  · simp [fails, unmet]
  · intro other same
    rw [fails] at same
    cases same
    exact Or.inl ⟨unmet, blamed⟩

theorem after
    {outcome : Except Fault α} {need : Need} (governs : Governs needs outcome)
    (met : need.met) : Governs (need :: needs) outcome := by
  constructor
  · rw [governs.succeeds_iff, List.forall_mem_cons]
    exact ⟨fun all => ⟨met, all⟩, fun all => all.2⟩
  · intro fault fails
    exact Or.inr ⟨met, governs.blames_first fault fails⟩

theorem of_need
    {outcome : Except Fault α} {need : Need} (success : need.met → ∃ result, outcome = .ok result)
    (failure : ¬ need.met → ∃ fault, outcome = .error fault ∧ need.blames fault) :
    Governs [need] outcome := by
  by_cases met : need.met
  · obtain ⟨result, succeeds⟩ := success met
    exact (of_eq_ok succeeds).after met
  · exact of_unmet met (failure met)

theorem succeeds_iff_met {outcome : Except Fault α} {need : Need}
    (governs : Governs [need] outcome) : (∃ result, outcome = .ok result) ↔ need.met := by
  rw [governs.succeeds_iff, List.forall_mem_singleton]

theorem congr
    {outcome : Except Fault α} {met other : Prop} {kind : FaultKind}
    (governs : Governs [.ofKind met kind] outcome) (same : other ↔ met) :
    Governs [.ofKind other kind] outcome := by
  have equal : other = met := propext same
  subst equal
  exact governs

/-- One operation after the other needs what the first needs, and then what the
second needs. -/
theorem bind
    {step : Except Fault α} {next : α → Except Fault β} (first : Governs front step)
    (second : ∀ value, step = .ok value → Governs back (next value)) :
    Governs (front ++ back) (step >>= next) := by
  constructor
  · rw [List.forall_mem_append, ← first.succeeds_iff]
    constructor
    · rintro ⟨result, succeeds⟩
      obtain ⟨value, here, there⟩ := bind_eq_ok.mp succeeds
      exact ⟨⟨value, here⟩, (second value here).succeeds_iff.mp ⟨result, there⟩⟩
    · rintro ⟨⟨value, here⟩, met⟩
      obtain ⟨result, there⟩ := (second value here).succeeds_iff.mpr met
      exact ⟨result, bind_eq_ok.mpr ⟨value, here, there⟩⟩
  · intro fault fails
    rw [firstUnmet_append]
    rcases bind_eq_error.mp fails with here | ⟨value, here, there⟩
    · exact Or.inl (first.blames_first fault here)
    · have met : ∀ need ∈ front, need.met := first.succeeds_iff.mp ⟨value, here⟩
      exact Or.inr ⟨met, (second value here).blames_first fault there⟩

/-- What follows a success, and cannot fail itself, needs nothing more. -/
theorem bind_of_ok
    {step : Except Fault α} {next : α → Except Fault β} (first : Governs needs step)
    (second : ∀ value, step = .ok value → ∃ result, next value = .ok result) :
    Governs needs (step >>= next) := by
  rw [← List.append_nil needs]
  apply first.bind
  intro value here
  obtain ⟨result, there⟩ := second value here
  exact of_eq_ok there

theorem of_ok_bind
    {step : Except Fault α} {next : α → Except Fault β} {value : α} (here : step = .ok value)
    (second : Governs needs (next value)) : Governs needs (step >>= next) := by
  subst here
  exact second

theorem mapM
    {f : α → Except Fault β} {items : List α} {met : α → Prop} {kind : FaultKind}
    (each : ∀ item, Governs [.ofKind (met item) kind] (f item)) :
    Governs [.ofKind (∀ item ∈ items, met item) kind] (items.mapM f) := by
  apply of_need
  · intro all
    apply exists_mapM_eq_ok
    intro item member
    exact (each item).succeeds_iff_met.mpr (all item member)
  · intro some
    cases traversed : items.mapM f with
    | ok results =>
        have related := mapM_eq_ok.mp traversed
        refine absurd ?_ some
        intro item member
        obtain ⟨result, _, succeeds⟩ := exists_result_of_forall₂ related member
        exact (each item).succeeds_iff_met.mp ⟨result, succeeds⟩
    | error fault =>
        obtain ⟨item, _, fails⟩ := exists_of_mapM_eq_error traversed
        have unmet := (each item).blames_first fault fails
        refine ⟨fault, rfl, ?_⟩
        rcases unmet with ⟨_, blamed⟩ | ⟨_, none⟩
        · exact blamed
        · exact absurd none id

end Governs

end SurveyCube
