import Mathlib.Data.List.Forall2
import SurveyCube.Fault

/-!
# Outcomes of computations that may fail

Planning and stitching are chains of steps that stop at the first fault.  These
lemmas take a chain apart: it succeeds exactly when each of its steps does, and
a traversal succeeds exactly when it does at every item.
-/

namespace SurveyCube

variable {α β ε : Type}

theorem ok_bind (value : α) (next : α → Except ε β) :
    ((.ok value : Except ε α) >>= next) = next value := rfl

theorem error_bind (fault : ε) (next : α → Except ε β) :
    ((.error fault : Except ε α) >>= next) = .error fault := rfl

theorem bind_eq_ok {step : Except ε α} {next : α → Except ε β} {result : β} :
    (step >>= next) = .ok result ↔ ∃ value, step = .ok value ∧ next value = .ok result := by
  cases step with
  | error fault =>
      constructor
      · intro impossible
        cases impossible
      · rintro ⟨_, impossible, _⟩
        cases impossible
  | ok value =>
      constructor
      · intro later
        exact ⟨value, rfl, later⟩
      · rintro ⟨_, same, later⟩
        cases same
        exact later

theorem bind_eq_error {step : Except ε α} {next : α → Except ε β} {fault : ε} :
    (step >>= next) = .error fault ↔
      step = .error fault ∨ ∃ value, step = .ok value ∧ next value = .error fault := by
  cases step with
  | error cause =>
      constructor
      · intro stopped
        cases stopped
        exact Or.inl rfl
      · rintro (same | ⟨_, impossible, _⟩)
        · cases same
          rfl
        · cases impossible
  | ok value =>
      constructor
      · intro later
        exact Or.inr ⟨value, rfl, later⟩
      · rintro (impossible | ⟨_, same, later⟩)
        · cases impossible
        · cases same
          exact later

theorem map_eq_ok {step : Except ε α} {f : α → β} {result : β} :
    step.map f = .ok result ↔ ∃ value, step = .ok value ∧ f value = result := by
  cases step <;> simp [Except.map]

theorem map_eq_error {step : Except ε α} {f : α → β} {fault : ε} :
    step.map f = .error fault ↔ step = .error fault := by
  cases step <;> simp [Except.map]

theorem mapError_eq_ok {γ : Type} {step : Except ε α} {f : ε → γ} {result : α} :
    step.mapError f = .ok result ↔ step = .ok result := by
  cases step <;> simp [Except.mapError]

theorem pure_eq_ok {value result : α} :
    (pure value : Except ε α) = .ok result ↔ value = result := by
  constructor
  · intro same
    cases same
    rfl
  · rintro rfl
    rfl

/-! ## Items and their results -/

section Related

variable {R : α → β → Prop} {items : List α} {results : List β}

theorem exists_result_of_forall₂ (related : List.Forall₂ R items results) {item : α}
    (member : item ∈ items) : ∃ result ∈ results, R item result := by
  induction related with
  | nil =>
      simp at member
  | cons here _ ih =>
      rcases List.mem_cons.mp member with rfl | later
      · exact ⟨_, List.mem_cons_self, here⟩
      · obtain ⟨result, inside, there⟩ := ih later
        exact ⟨result, List.mem_cons_of_mem _ inside, there⟩

/-- Items that have a result each have results. -/
theorem exists_forall₂ (each : ∀ item ∈ items, ∃ result, R item result) :
    ∃ results, List.Forall₂ R items results := by
  induction items with
  | nil => exact ⟨[], List.Forall₂.nil⟩
  | cons item rest ih =>
      rw [List.forall_mem_cons] at each
      obtain ⟨first, here⟩ := each.1
      obtain ⟨others, there⟩ := ih each.2
      exact ⟨first :: others, List.Forall₂.cons here there⟩

theorem exists_item_of_forall₂ (related : List.Forall₂ R items results) {result : β}
    (member : result ∈ results) : ∃ item ∈ items, R item result :=
  exists_result_of_forall₂ related.flip member

theorem map_eq_map_iff_forall₂ {γ : Type} {f : α → γ} {g : β → γ} :
    items.map f = results.map g ↔
      List.Forall₂ (fun item result => f item = g result) items results := by
  rw [← List.forall₂_eq_eq_eq, List.forall₂_map_left_iff, List.forall₂_map_right_iff]

end Related

/-! ## Traversals -/

theorem mapM_eq_ok {f : α → Except ε β} {items : List α} {results : List β} :
    items.mapM f = .ok results ↔
      List.Forall₂ (fun item result => f item = .ok result) items results := by
  induction items generalizing results with
  | nil =>
      rw [List.mapM_nil, pure_eq_ok, List.forall₂_nil_left_iff, eq_comm]
  | cons item rest ih =>
      rw [List.mapM_cons, bind_eq_ok, List.forall₂_cons_left_iff]
      constructor
      · rintro ⟨first, here, later⟩
        obtain ⟨others, there, built⟩ := bind_eq_ok.mp later
        exact ⟨first, others, here, ih.mp there, (pure_eq_ok.mp built).symm⟩
      · rintro ⟨first, others, here, there, rfl⟩
        exact ⟨first, here, bind_eq_ok.mpr ⟨others, ih.mpr there, rfl⟩⟩

theorem mapM_eq_some {f : α → Option β} {items : List α} {results : List β} :
    items.mapM f = some results ↔
      List.Forall₂ (fun item result => f item = some result) items results := by
  induction items generalizing results with
  | nil =>
      rw [List.mapM_nil, Option.pure_def, Option.some_inj, List.forall₂_nil_left_iff, eq_comm]
  | cons item rest ih =>
      rw [List.mapM_cons, Option.bind_eq_bind, Option.bind_eq_some_iff, List.forall₂_cons_left_iff]
      constructor
      · rintro ⟨first, here, later⟩
        obtain ⟨others, there, built⟩ := Option.bind_eq_some_iff.mp later
        exact ⟨first, others, here, ih.mp there, (Option.some_inj.mp built).symm⟩
      · rintro ⟨first, others, here, there, rfl⟩
        exact ⟨first, here, Option.bind_eq_some_iff.mpr ⟨others, ih.mpr there, rfl⟩⟩

theorem mapM_eq_ok_map {f : α → Except ε β} {g : α → β} {items : List α}
    (each : ∀ item ∈ items, f item = .ok (g item)) :
    items.mapM f = .ok (items.map g) := by
  rw [mapM_eq_ok, List.forall₂_map_right_iff, List.forall₂_same]
  exact each

theorem exists_mapM_eq_ok {f : α → Except ε β} {items : List α}
    (each : ∀ item ∈ items, ∃ result, f item = .ok result) :
    ∃ results, items.mapM f = .ok results := by
  obtain ⟨results, found⟩ := exists_forall₂ each
  exact ⟨results, mapM_eq_ok.mpr found⟩

/-- A traversal that stops has stopped at one of the items. -/
theorem exists_of_mapM_eq_error {f : α → Except ε β} {items : List α} {fault : ε}
    (stopped : items.mapM f = .error fault) : ∃ item ∈ items, f item = .error fault := by
  induction items with
  | nil => cases stopped
  | cons item rest ih =>
      rw [List.mapM_cons] at stopped
      rcases bind_eq_error.mp stopped with here | ⟨first, _, later⟩
      · exact ⟨item, List.mem_cons_self, here⟩
      · rcases bind_eq_error.mp later with there | ⟨others, _, impossible⟩
        · obtain ⟨other, member, found⟩ := ih there
          exact ⟨other, List.mem_cons_of_mem item member, found⟩
        · cases impossible

/-- A traversal by a step that succeeds under a condition. -/
theorem mapM_eq_ok_of_iff {f : α → Except ε β} {P : α → Prop} {g : α → β}
    (each : ∀ item result, f item = .ok result ↔ P item ∧ g item = result)
    {items : List α} {results : List β} :
    items.mapM f = .ok results ↔ (∀ item ∈ items, P item) ∧ items.map g = results := by
  simp only [mapM_eq_ok, each]
  rw [List.forall₂_and_left, ← List.forall₂_map_left_iff (R := fun a b => a = b),
    List.forall₂_eq_eq_eq]

/-- The same for a step that gives nothing otherwise. -/
theorem mapM_eq_some_of_iff {f : α → Option β} {P : α → Prop} {g : α → β}
    (each : ∀ item result, f item = some result ↔ P item ∧ g item = result)
    {items : List α} {results : List β} :
    items.mapM f = some results ↔ (∀ item ∈ items, P item) ∧ items.map g = results := by
  simp only [mapM_eq_some, each]
  rw [List.forall₂_and_left, ← List.forall₂_map_left_iff (R := fun a b => a = b),
    List.forall₂_eq_eq_eq]

/-- A traversal of items with their positions, by a step that succeeds under a
condition on the item. -/
theorem mapM_zipIdx_eq_ok {f : α × Nat → Except ε β} {P : α → Prop} {g : α × Nat → β}
    (each : ∀ item result, f item = .ok result ↔ P item.1 ∧ g item = result)
    {items : List α} {results : List β} :
    items.zipIdx.mapM f = .ok results ↔
      (∀ item ∈ items, P item) ∧ items.zipIdx.map g = results := by
  have listed : (∀ item ∈ items.zipIdx.map Prod.fst, P item) ↔
      ∀ item ∈ items.zipIdx, P item.1 := List.forall_mem_map
  rw [mapM_eq_ok_of_iff each, ← listed, List.zipIdx_map_fst]

theorem forM_eq_ok {f : α → Except ε Unit} {items : List α} :
    items.forM f = .ok () ↔ ∀ item ∈ items, f item = .ok () := by
  induction items with
  | nil => simp [pure, Except.pure]
  | cons item rest ih =>
      change (f item >>= fun _ => rest.forM f) = .ok () ↔ _
      rw [bind_eq_ok, List.forall_mem_cons, ih]
      constructor
      · rintro ⟨_, here, there⟩
        exact ⟨here, there⟩
      · rintro ⟨here, there⟩
        exact ⟨(), here, there⟩

theorem exists_of_forM_eq_error {f : α → Except ε Unit} {items : List α} {fault : ε}
    (stopped : items.forM f = .error fault) : ∃ item ∈ items, f item = .error fault := by
  induction items with
  | nil => cases stopped
  | cons item rest ih =>
      change (f item >>= fun _ => rest.forM f) = .error fault at stopped
      rcases bind_eq_error.mp stopped with here | ⟨_, _, there⟩
      · exact ⟨item, List.mem_cons_self, here⟩
      · obtain ⟨other, member, found⟩ := ih there
        exact ⟨other, List.mem_cons_of_mem item member, found⟩

end SurveyCube
