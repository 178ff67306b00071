import Mathlib.Data.List.Perm.Subperm
import Mathlib.Data.List.SplitBy
import SurveyCube.Proofs.Shape

/-!
# Runs of equal keys

Points and traces are sorted, first by the fragment they belong to, and then cut
into runs of one fragment each.  `Runs` says what this gives for items with a key:
the runs hold the items and nothing else, the items of a run have one key, and
the keys ascend strictly from run to run.
-/

namespace SurveyCube

variable {α : Type} {key : α → Triple} {items : List α} {runs : List (List α)}

/-- Items cut into runs of one key each, in the order of the keys. -/
structure Runs (key : α → Triple) (items : List α) (runs : List (List α)) : Prop where
  perm : runs.flatten.Perm items
  same : ∀ run ∈ runs, ∀ a ∈ run, ∀ b ∈ run, key a = key b
  ascending : runs.Pairwise fun earlier later => ∀ a ∈ earlier, ∀ b ∈ later, key a < key b

namespace Runs

theorem subperm (cut : Runs key items runs) {run : List α} (member : run ∈ runs) :
    run.Subperm items :=
  (List.sublist_flatten_of_mem member).subperm.trans cut.perm.subperm

/-- Where runs ascend, a run is all that has its key. -/
theorem filter_flatten_eq
    (same : ∀ run ∈ runs, ∀ a ∈ run, ∀ b ∈ run, key a = key b)
    (ascending : runs.Pairwise fun earlier later => ∀ a ∈ earlier, ∀ b ∈ later, key a < key b)
    {run : List α} (member : run ∈ runs) {item : α} (inside : item ∈ run) :
    (runs.flatten.filter fun other => key other = key item) = run := by
  induction runs with
  | nil => cases member
  | cons next rest ih =>
      rw [List.forall_mem_cons] at same
      rw [List.pairwise_cons] at ascending
      rw [List.flatten_cons, List.filter_append]
      rcases List.mem_cons.mp member with rfl | later
      · have whole : (run.filter fun other => key other = key item) = run := by
          rw [List.filter_eq_self]
          intro other here
          exact decide_eq_true (same.1 other here item inside)
        have none : (rest.flatten.filter fun other => key other = key item) = [] := by
          rw [List.filter_eq_nil_iff]
          intro other listed
          obtain ⟨further, behind, there⟩ := List.mem_flatten.mp listed
          have before := ascending.1 further behind item inside other there
          simpa using fun equal => Triple.lt_irrefl _ (equal ▸ before)
        rw [whole, none, List.append_nil]
      · have none : (next.filter fun other => key other = key item) = [] := by
          rw [List.filter_eq_nil_iff]
          intro other here
          have before := ascending.1 run later other here item inside
          simpa using fun equal => Triple.lt_irrefl _ (equal ▸ before)
        rw [none, List.nil_append, ih same.2 ascending.2 later]

/-- A run holds all items of its key. -/
theorem perm_filter (cut : Runs key items runs) {run : List α} (member : run ∈ runs) {item : α}
    (inside : item ∈ run) : run.Perm (items.filter fun other => key other = key item) := by
  have whole := filter_flatten_eq cut.same cut.ascending member inside
  have same := cut.perm.filter fun other => decide (key other = key item)
  rwa [whole] at same

theorem same_of_chain
    {run : List α} (chain : run.IsChain fun a b => decide (key a = key b) = true) :
    ∀ a ∈ run, ∀ b ∈ run, key a = key b := by
  have : Trans (fun a b : α => decide (key a = key b) = true)
      (fun a b => decide (key a = key b) = true) (fun a b => decide (key a = key b) = true) :=
    ⟨fun first second => by
      rw [decide_eq_true_eq] at *
      exact first.trans second⟩
  have pairs : run.Pairwise fun a b => key a = key b := by
    refine List.Pairwise.imp ?_ chain.pairwise
    intro a b same
    exact of_decide_eq_true same
  have flipped : run.Pairwise fun a b => key b = key a := by
    refine List.Pairwise.imp ?_ pairs
    intro a b same
    exact same.symm
  intro a here b there
  exact List.Pairwise.forall_of_forall_of_flip (R := fun a b => key a = key b)
    (fun _ _ => rfl) pairs flipped here there

/-- Runs ascend strictly when the items do not descend and neighbours have
different keys. -/
theorem ascending_of_breaks
    (same : ∀ run ∈ runs, ∀ a ∈ run, ∀ b ∈ run, key a = key b)
    (sorted : runs.flatten.Pairwise fun a b => key a ≤ key b)
    (breaks : runs.IsChain fun earlier later =>
      ∃ some next, decide (key (earlier.getLast some) = key (later.head next)) = false) :
    runs.Pairwise fun earlier later => ∀ a ∈ earlier, ∀ b ∈ later, key a < key b := by
  induction runs with
  | nil => exact List.Pairwise.nil
  | cons run rest ih =>
      rw [List.forall_mem_cons] at same
      rw [List.flatten_cons, List.pairwise_append] at sorted
      obtain ⟨_, later, across⟩ := sorted
      have ascending := ih same.2 later breaks.tail
      refine List.pairwise_cons.mpr ⟨?_, ascending⟩
      cases rest with
      | nil =>
          intro other impossible
          simp at impossible
      | cons next others =>
          obtain ⟨⟨some, front, differ⟩, _⟩ := List.isChain_cons_cons.mp breaks
          rw [decide_eq_false_iff_not] at differ
          -- The break alone separates neighbours; beyond them the runs in between do.
          have neighbours : ∀ a ∈ run, key a < key (next.head front) := by
            intro a here
            have last : key a = key (run.getLast some) :=
              same.1 a here _ (List.getLast_mem some)
            have order : key (run.getLast some) ≤ key (next.head front) := by
              apply across _ (List.getLast_mem some)
              rw [List.flatten_cons]
              exact List.mem_append_left _ (List.head_mem front)
            rw [last]
            rcases Triple.lt_or_eq_or_gt (key (run.getLast some)) (key (next.head front)) with
              before | equal | after
            · exact before
            · exact absurd equal differ
            · exact absurd after order
          intro other member a here b there
          rcases List.mem_cons.mp member with rfl | further
          · have first : key (other.head front) = key b :=
              same.2 other List.mem_cons_self _ (List.head_mem front) b there
            rw [← first]
            exact neighbours a here
          · have beyond := (List.pairwise_cons.mp ascending).1 other further
            exact Triple.lt_trans (neighbours a here) (beyond _ (List.head_mem front) b there)

/-- Sorted items are cut into runs where their keys differ. -/
theorem ofSorted (sorted : items.Pairwise fun a b => key a ≤ key b) :
    Runs key items (items.splitBy fun a b => decide (key a = key b)) := by
  have same : ∀ run ∈ items.splitBy fun a b => decide (key a = key b),
      ∀ a ∈ run, ∀ b ∈ run, key a = key b := by
    intro run member
    exact same_of_chain (List.isChain_of_mem_splitBy member)
  refine ⟨?_, same, ?_⟩
  · rw [List.flatten_splitBy]
  · apply ascending_of_breaks same
    · rwa [List.flatten_splitBy]
    · exact List.isChain_getLast_head_splitBy (fun a b => decide (key a = key b)) items

section MergeSort

variable {notAfter : α → α → Bool} (inner : α → α → Prop)
  (notAfter_iff : ∀ a b, notAfter a b = true ↔ key a < key b ∨ key a = key b ∧ inner a b)
  (trans : ∀ a b c, inner a b → inner b c → inner a c)
  (total : ∀ a b, inner a b ∨ inner b a)

include notAfter_iff trans total

/-- Sorting by key, and within a key in some other order, sorts. -/
theorem pairwise_mergeSort (items : List α) :
    (items.mergeSort notAfter).Pairwise fun a b => key a < key b ∨ key a = key b ∧ inner a b := by
  have transitive (a b c : α) (first : notAfter a b = true) (second : notAfter b c = true) :
      notAfter a c = true := by
    rw [notAfter_iff] at *
    rcases first with before | ⟨same, inside⟩
    · rcases second with further | ⟨equal, _⟩
      · exact Or.inl (Triple.lt_trans before further)
      · exact Or.inl (equal ▸ before)
    · rw [same]
      rcases second with further | ⟨equal, beyond⟩
      · exact Or.inl further
      · exact Or.inr ⟨equal, trans a b c inside beyond⟩
  have linear (a b : α) : (notAfter a b || notAfter b a) = true := by
    rw [Bool.or_eq_true, notAfter_iff, notAfter_iff]
    rcases Triple.lt_or_eq_or_gt (key a) (key b) with before | same | after
    · exact Or.inl (Or.inl before)
    · rcases total a b with inside | beyond
      · exact Or.inl (Or.inr ⟨same, inside⟩)
      · exact Or.inr (Or.inr ⟨same.symm, beyond⟩)
    · exact Or.inr (Or.inl after)
  refine List.Pairwise.imp ?_ (List.pairwise_mergeSort transitive linear items)
  intro a b order
  exact (notAfter_iff a b).mp order

/-- Items that are sorted so are cut into runs where their keys differ. -/
theorem ofMergeSort (items : List α) :
    Runs key items ((items.mergeSort notAfter).splitBy fun a b => decide (key a = key b)) := by
  have sorted : (items.mergeSort notAfter).Pairwise fun a b => key a ≤ key b := by
    refine List.Pairwise.imp ?_ (pairwise_mergeSort inner notAfter_iff trans total items)
    intro a b order after
    rcases order with before | ⟨same, _⟩
    · exact Triple.lt_irrefl _ (Triple.lt_trans before after)
    · exact Triple.lt_irrefl _ (same ▸ after)
  obtain ⟨perm, same, ascending⟩ := ofSorted sorted
  exact ⟨perm.trans (List.mergeSort_perm items notAfter), same, ascending⟩

/-- A run is sorted inside. -/
theorem inner_of_mem {run : List α}
    (member : run ∈ (items.mergeSort notAfter).splitBy fun a b => decide (key a = key b)) :
    run.Pairwise inner := by
  have part : run.Sublist (items.mergeSort notAfter) := by
    rw [← List.flatten_splitBy (fun a b => decide (key a = key b)) (items.mergeSort notAfter)]
    exact List.sublist_flatten_of_mem member
  have sorted := (pairwise_mergeSort inner notAfter_iff trans total items).sublist part
  refine sorted.imp_of_mem ?_
  intro a b here there order
  have same := (ofMergeSort inner notAfter_iff trans total items).same run member a here b there
  rcases order with before | ⟨_, inside⟩
  · rw [same] at before
    exact absurd before (Triple.lt_irrefl _)
  · exact inside

/-- Items that are in order to begin with keep their order in a run. -/
theorem eq_filter_of_mem
    (antisymm : ∀ a ∈ items, ∀ b ∈ items, inner a b → inner b a → a = b)
    (ordered : items.Pairwise inner) {run : List α}
    (member : run ∈ (items.mergeSort notAfter).splitBy fun a b => decide (key a = key b))
    {item : α} (inside : item ∈ run) :
    run = items.filter fun other => key other = key item := by
  have cut := ofMergeSort inner notAfter_iff trans total items
  have held := cut.perm_filter member inside
  have sorted := inner_of_mem inner notAfter_iff trans total member
  refine held.eq_of_pairwise ?_ sorted (ordered.filter _)
  intro a b here there
  exact antisymm a ((cut.subperm member).subset here) b (List.mem_of_mem_filter there)

end MergeSort

/-! ## Groups made of runs -/

section Groups

variable {β γ : Type} {ofRun? : List α → Option β}

/-- Groups are ordered as the runs they are made of. -/
theorem groups_ascending
    (cut : Runs key items runs) {keyOf : β → Triple}
    (keyed : ∀ run group, ofRun? run = some group → ∃ item ∈ run, key item = keyOf group) :
    (runs.filterMap ofRun?).Pairwise fun a b => keyOf a < keyOf b := by
  rw [List.pairwise_filterMap]
  refine List.Pairwise.imp ?_ cut.ascending
  intro earlier later before a made b madeLater
  obtain ⟨first, here, sameFirst⟩ := keyed earlier a made
  obtain ⟨second, there, sameSecond⟩ := keyed later b madeLater
  rw [← sameFirst, ← sameSecond]
  exact before first here second there

theorem flatMap_groups (runs : List (List α)) (entries : β → List γ) :
    (runs.filterMap ofRun?).flatMap entries =
      runs.flatMap fun run => (ofRun? run).elim [] entries := by
  induction runs with
  | nil => rfl
  | cons run rest ih =>
      rw [List.flatMap_cons, ← ih]
      cases made : ofRun? run with
      | none =>
          rw [List.filterMap_cons_none made]
          rfl
      | some group =>
          rw [List.filterMap_cons_some made, List.flatMap_cons]
          rfl

/-- The entries of all groups are those of the items. -/
theorem entries_perm
    (cut : Runs key items runs) {entries : β → List γ} {entry : α → γ}
    (made : ∀ run ∈ runs, (ofRun? run).elim [] entries = run.map entry) :
    ((runs.filterMap ofRun?).flatMap entries).Perm (items.map entry) := by
  have joined : (runs.flatMap fun run => (ofRun? run).elim [] entries) =
      runs.flatten.map entry := by
    rw [List.map_flatten, List.flatMap_def]
    exact congrArg List.flatten (List.map_congr_left made)
  rw [flatMap_groups, joined]
  exact cut.perm.map entry

end Groups

end Runs

end SurveyCube
