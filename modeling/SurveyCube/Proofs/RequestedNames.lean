import SurveyCube.Proofs.Schedule
import SurveyCube.Room

/-!
# Requested attribute names

What a list of attribute names asks for is a set of names.  Normalizing a list
gives the names of this set in their order, so a list counts in no other way
than by its set: neither order nor repetitions matter, nor whether a pair is
called by its short name.

Everything that becomes of a query is made from its normalized form.
-/

namespace SurveyCube

/-! ## The names that are asked for -/

/-- The list has the name itself, or the short name of the pair that the name
belongs to. -/
def AsksFor (names : List String) (name : String) : Prop :=
  name ∈ names ∧ name ≠ "cdp" ∨ "cdp" ∈ names ∧ (name = "cdpx" ∨ name = "cdpy")

/-- The lists ask for the same names. -/
def AskAlike (names others : List String) : Prop :=
  ∀ name, AsksFor names name ↔ AsksFor others name

theorem mem_expandAttribute {name short : String} :
    name ∈ expandAttribute short ↔
      name = short ∧ short ≠ "cdp" ∨ short = "cdp" ∧ (name = "cdpx" ∨ name = "cdpy") := by
  rw [expandAttribute]
  by_cases pair : short = "cdp"
  · simp [pair]
  · simp [pair]

theorem mem_normalizedAttributes_iff {name : String} {names : List String} :
    name ∈ normalizedAttributes names ↔ AsksFor names name := by
  rw [mem_normalizedAttributes]
  simp only [mem_expandAttribute]
  constructor
  · rintro ⟨short, listed, ⟨rfl, single⟩ | ⟨rfl, member⟩⟩
    · exact Or.inl ⟨listed, single⟩
    · exact Or.inr ⟨listed, member⟩
  · rintro (⟨listed, single⟩ | ⟨listed, member⟩)
    · exact ⟨name, listed, Or.inl ⟨rfl, single⟩⟩
    · exact ⟨"cdp", listed, Or.inr ⟨rfl, member⟩⟩

/-- The short name itself is never asked for. -/
theorem not_asksFor_short (names : List String) : ¬ AsksFor names "cdp" := by
  rintro (⟨_, single⟩ | ⟨_, member⟩)
  · exact single rfl
  · revert member
    decide

theorem normalizedAttributes_eq_iff {names others : List String} :
    normalizedAttributes names = normalizedAttributes others ↔ AskAlike names others := by
  constructor
  · intro same name
    rw [← mem_normalizedAttributes_iff, same, mem_normalizedAttributes_iff]
  · intro alike
    apply (normalizedAttributes_ascending names).eq_of_mem_iff
      (normalizedAttributes_ascending others)
    intro name
    rw [mem_normalizedAttributes_iff, mem_normalizedAttributes_iff]
    exact alike name

theorem askAlike_normalizedAttributes (names : List String) :
    AskAlike (normalizedAttributes names) names := by
  intro name
  have short := not_asksFor_short names
  rw [AsksFor, mem_normalizedAttributes_iff, mem_normalizedAttributes_iff]
  constructor
  · rintro (⟨asked, _⟩ | ⟨asked, _⟩)
    · exact asked
    · exact absurd asked short
  · intro asked
    refine Or.inl ⟨asked, ?_⟩
    rintro rfl
    exact short asked

/-! ## Queries that ask alike -/

section Typed

variable {α τ ι : Type} [Schedulable α τ] [Divisible τ ι] [Serial τ] [Reserving α]

/-- Of the attribute names of a query only the normalized ones are used. -/
theorem outcomes_eq_of_normalized {query other : α}
    (manifests : (Schedulable.base query).manifest = (Schedulable.base other).manifest)
    (normalized : Schedulable.normalized query = Schedulable.normalized other) (taskSize : Nat) :
    scheduleQuery query taskSize = scheduleQuery other taskSize ∧
      scheduleQueryInRoom query taskSize = scheduleQueryInRoom other taskSize := by
  have responses : scheduleQuery query taskSize = scheduleQuery other taskSize := by
    rw [scheduleQuery, scheduleQuery, manifests, normalized]
  refine ⟨responses, ?_⟩
  rw [scheduleQueryInRoom, scheduleQueryInRoom, manifests, normalized, responses]

end Typed

namespace QueryBase

/-- The same query with other attribute names. -/
def asking (base : QueryBase) (names : List String) : QueryBase :=
  { base with attributes := names }

theorem normalized_asking {base : QueryBase} {names : List String}
    (alike : AskAlike names base.attributes) :
    (base.asking names).normalized = base.normalized := by
  have same : normalizedAttributes names = normalizedAttributes base.attributes :=
    normalizedAttributes_eq_iff.mpr alike
  exact congrArg base.asking same

end QueryBase

/-- Normalized names are those that are asked for, in strictly ascending order,
and queries that differ in nothing but lists that ask for the same names have one
outcome, with the same blocks and bytes if there is a response. -/
theorem requested_names_decide_outcomes :
    (∀ names, Text.Ascending (normalizedAttributes names) ∧
      (∀ name, name ∈ normalizedAttributes names ↔ AsksFor names name) ∧
      normalizedAttributes (normalizedAttributes names) = normalizedAttributes names) ∧
    (∀ names others,
      normalizedAttributes names = normalizedAttributes others ↔ AskAlike names others) ∧
    (∀ (query : SliceQuery) (names : List String) (taskSize : Nat),
      AskAlike names query.base.attributes →
        scheduleQuery { query with base := query.base.asking names } taskSize =
          scheduleQuery query taskSize ∧
        scheduleQueryInRoom { query with base := query.base.asking names } taskSize =
          scheduleQueryInRoom query taskSize) ∧
    (∀ (query : CurtainQuery) (names : List String) (taskSize : Nat),
      AskAlike names query.base.attributes →
        scheduleQuery { query with base := query.base.asking names } taskSize =
          scheduleQuery query taskSize ∧
        scheduleQueryInRoom { query with base := query.base.asking names } taskSize =
          scheduleQueryInRoom query taskSize) := by
  refine ⟨?_, fun _ _ => normalizedAttributes_eq_iff, ?_, ?_⟩
  · intro names
    refine ⟨normalizedAttributes_ascending names, fun _ => mem_normalizedAttributes_iff, ?_⟩
    exact normalizedAttributes_eq_iff.mpr (askAlike_normalizedAttributes names)
  · intro query names taskSize alike
    apply outcomes_eq_of_normalized
    · rfl
    · exact congrArg (fun base => { query with base }) (QueryBase.normalized_asking alike)
  · intro query names taskSize alike
    apply outcomes_eq_of_normalized
    · rfl
    · exact congrArg (fun base => { query with base }) (QueryBase.normalized_asking alike)

/-- The small queries ask for the pair by its short name. -/
theorem small_queries_ask_for_pair :
    AskAlike ["cdpy", "cdpx", "cdpy"] smallBase.attributes ∧
    scheduleQuery { smallSlice with base := smallBase.asking ["cdpy", "cdpx", "cdpy"] } 3 =
      scheduleQuery smallSlice 3 ∧
    scheduleQueryInRoom { smallCurtain with base := smallBase.asking ["cdpy", "cdpx", "cdpy"] } 3 =
      scheduleQueryInRoom smallCurtain 3 := by
  have alike : AskAlike ["cdpy", "cdpx", "cdpy"] smallBase.attributes := by
    intro name
    simp only [AsksFor, smallBase, List.mem_cons, List.not_mem_nil]
    grind
  obtain ⟨_, _, slices, curtains⟩ := requested_names_decide_outcomes
  exact ⟨alike, (slices smallSlice _ 3 alike).1, (curtains smallCurtain _ 3 alike).2⟩

end SurveyCube
