import Mathlib.Order.Bounds.Basic
import SurveyCube.Proofs.HeaderEntries

/-!
# Shapes in a list that is cut short

The entries of a header stand one after the other, and each begins with its own length.  An
entry is reached only through the entries before it.

* `ProcessHeader.entryEnd` counts the numbers up to the end of an entry.
* A name finds its shape as long as the list reaches the end of its entry.  Where the list
  stops earlier, inside the entry or inside one before it, the name finds nothing.
-/

namespace SurveyCube.ProcessHeader

/-! ## Entries by position -/

/-- How many numbers the entries up to a position take, the entry at it included. -/
def entryEnd (shapes : List (List Nat)) (position : Nat) : Nat :=
  ((shapes.take (position + 1)).flatMap entry).length

theorem entryEnd_zero (shape : List Nat) (rest : List (List Nat)) :
    entryEnd (shape :: rest) 0 = shape.length + 1 := by
  simp [entryEnd, entry]

theorem entryEnd_succ (shape : List Nat) (rest : List (List Nat)) (position : Nat) :
    entryEnd (shape :: rest) (position + 1) = shape.length + 1 + entryEnd rest position := by
  rw [entryEnd, List.take_succ_cons, List.flatMap_cons, List.length_append, ← entryEnd, entry,
    List.length_cons]

theorem length_lt_entryEnd (shape : List Nat) (rest : List (List Nat)) (position : Nat) :
    shape.length < entryEnd (shape :: rest) position := by
  cases position with
  | zero =>
      rw [entryEnd_zero]
      exact Nat.lt_succ_self _
  | succ position =>
      rw [entryEnd_succ]
      exact Nat.lt_of_lt_of_le (Nat.lt_succ_self _) (Nat.le_add_right _ _)

theorem entryAt?_zero_entry_append (shape rest : List Nat) :
    entryAt? 0 (entry shape ++ rest) = some shape := by
  have rank : shape.length ≤ (shape ++ rest).length := by
    rw [List.length_append]
    exact Nat.le_add_right _ _
  rw [entry, List.cons_append, entryAt?, if_pos rank, List.take_left]

theorem entryAt?_succ_entry_append (position : Nat) (shape rest : List Nat) :
    entryAt? (position + 1) (entry shape ++ rest) = entryAt? position rest := by
  have rank : shape.length ≤ (shape ++ rest).length := by
    rw [List.length_append]
    exact Nat.le_add_right _ _
  rw [entry, List.cons_append, entryAt?, if_pos rank, List.drop_left]

/-- Where the first entry is cut short, nothing is found at any position. -/
theorem entryAt?_of_short {rank : Nat} {numbers : List Nat} (short : numbers.length < rank)
    (position : Nat) : entryAt? position (rank :: numbers) = none := by
  cases position with
  | zero => rw [entryAt?, if_neg (Nat.not_le.mpr short)]
  | succ position => rw [entryAt?, if_neg (Nat.not_le.mpr short)]

theorem take_entry_append {shape : List Nat} {kept : Nat} (fits : shape.length ≤ kept)
    (rest : List Nat) :
    (entry shape ++ rest).take (kept + 1) = entry shape ++ rest.take (kept - shape.length) := by
  rw [entry, List.cons_append, List.take_succ_cons, List.take_append, List.take_of_length_le fits,
    List.cons_append]

/-- An entry is found in the front of a list exactly if the front reaches its end. -/
theorem entryAt?_take_flatMap_entry (shapes : List (List Nat)) (position kept : Nat) :
    entryAt? position ((shapes.flatMap entry).take kept) =
      if entryEnd shapes position ≤ kept then shapes[position]? else none := by
  induction shapes generalizing position kept with
  | nil =>
      rw [List.flatMap_nil, List.take_nil, List.getElem?_nil, entryAt?, ite_self]
  | cons shape rest ih =>
      have passed := length_lt_entryEnd shape rest position
      rw [List.flatMap_cons]
      cases kept with
      | zero =>
          rw [List.take_zero, entryAt?, if_neg (Nat.not_le.mpr (Nat.zero_lt_of_lt passed))]
      | succ kept =>
          by_cases fits : shape.length ≤ kept
          · rw [take_entry_append fits]
            cases position with
            | zero =>
                rw [entryAt?_zero_entry_append, entryEnd_zero, if_pos (Nat.succ_le_succ fits),
                  List.getElem?_cons_zero]
            | succ position =>
                have later : entryEnd (shape :: rest) (position + 1) ≤ kept + 1 ↔
                    entryEnd rest position ≤ kept - shape.length := by
                  rw [entryEnd_succ]
                  omega
                rw [entryAt?_succ_entry_append, ih, List.getElem?_cons_succ]
                simp only [later]
          · -- The cut is inside the first entry, so the reader stops there at any position.
            have short : ((shape ++ rest.flatMap entry).take kept).length < shape.length := by
              rw [List.length_take]
              omega
            have beyond : ¬ entryEnd (shape :: rest) position ≤ kept + 1 := by
              omega
            rw [entry, List.cons_append, List.take_succ_cons, entryAt?_of_short short,
              if_neg beyond]

/-! ## Shapes by name -/

/-- The same header with the first so many numbers of its list of shapes. -/
def keepShapes (header : ProcessHeader) (kept : Nat) : ProcessHeader :=
  { header with shapes := header.shapes.take kept }

theorem isLeast_of_idxOf? {names : List String} {name : String} {position : Nat}
    (found : names.idxOf? name = some position) :
    IsLeast {i | names[i]? = some name} position := by
  obtain ⟨inside, same, others⟩ := List.idxOf?_eq_some_iff.mp found
  constructor
  · exact List.getElem?_eq_some_iff.mpr ⟨inside, same⟩
  · intro i there
    obtain ⟨_, here⟩ := List.getElem?_eq_some_iff.mp there
    by_contra early
    exact others i (Nat.not_le.mp early) here

section Lookup

variable {header : ProcessHeader} {shapes : List (List Nat)}

theorem shapeOf?_keepShapes (lists : header.Lists shapes) (kept : Nat) (name : String) :
    (header.keepShapes kept).shapeOf? name =
      (header.attributes.idxOf? name).bind fun position =>
        if entryEnd shapes position ≤ kept then shapes[position]? else none := by
  change (header.attributes.idxOf? name).bind
    (fun position => entryAt? position (header.shapes.take kept)) = _
  rw [lists.entries]
  simp only [entryAt?_take_flatMap_entry]

/-- A listed name finds the shape at its first position, and any other name finds nothing.
In a list of shapes that is cut short a listed name finds the same shape if its entry is
there to the end, and nothing otherwise. -/
theorem names_find_shapes (lists : header.Lists shapes) (name : String) :
    (name ∈ header.attributes → ∃ position shape,
      IsLeast {i | header.attributes[i]? = some name} position ∧
      shapes[position]? = some shape ∧
      header.shapeOf? name = some shape ∧
      ∀ kept, (header.keepShapes kept).shapeOf? name =
        if entryEnd shapes position ≤ kept then some shape else none) ∧
    (name ∉ header.attributes →
      header.shapeOf? name = none ∧
      ∀ kept, (header.keepShapes kept).shapeOf? name = none) := by
  constructor
  · intro listed
    have somewhere : header.attributes.idxOf? name ≠ none :=
      fun nowhere => List.idxOf?_eq_none_iff.mp nowhere listed
    obtain ⟨position, found⟩ := Option.ne_none_iff_exists'.mp somewhere
    have inside : position < shapes.length := by
      rw [lists.length]
      exact (List.idxOf?_eq_some_iff.mp found).1
    have there : shapes[position]? = some shapes[position] := List.getElem?_eq_getElem inside
    refine ⟨position, shapes[position], isLeast_of_idxOf? found, there, ?_, ?_⟩
    · rw [lists.shapeOf?_eq, found, Option.bind_some, there]
    · intro kept
      rw [shapeOf?_keepShapes lists, found, Option.bind_some, there]
  · intro unlisted
    have nowhere : header.attributes.idxOf? name = none := List.idxOf?_eq_none_iff.mpr unlisted
    constructor
    · rw [lists.shapeOf?_eq, nowhere, Option.bind_none]
    · intro kept
      rw [shapeOf?_keepShapes lists, nowhere, Option.bind_none]

end Lookup

/-- A header with a name that comes twice and with a shape that has no extents. -/
def rankedHeader : ProcessHeader where
  pid := "p"
  function := .slice
  bundles := 1
  dims := 3
  labels := []
  index := []
  attributes := ["grid", "scalar", "grid", "trace"]
  shapes := [2, 4, 6, 0, 1, 9, 1, 8]

/-- The name that comes twice finds the first of its shapes.  The empty shape takes one
number, and is found from the fourth on. -/
theorem rankedHeader_finds_shapes :
    rankedHeader.Lists [[4, 6], [], [9], [8]] ∧
    rankedHeader.shapeOf? "grid" = some [4, 6] ∧
    rankedHeader.shapeOf? "scalar" = some [] ∧
    (rankedHeader.keepShapes 4).shapeOf? "scalar" = some [] ∧
    (rankedHeader.keepShapes 3).shapeOf? "scalar" = none ∧
    rankedHeader.shapeOf? "depth" = none := by
  have lists : rankedHeader.Lists [[4, 6], [], [9], [8]] := ⟨rfl, rfl⟩
  have grid : rankedHeader.attributes.idxOf? "grid" = some 0 := by decide
  have scalar : rankedHeader.attributes.idxOf? "scalar" = some 1 := by decide
  obtain ⟨_, _, first, here, finds, _⟩ := (names_find_shapes lists "grid").1 (by decide)
  cases first.unique (isLeast_of_idxOf? grid)
  cases here
  obtain ⟨_, _, second, there, findsEmpty, cut⟩ :=
    (names_find_shapes lists "scalar").1 (by decide)
  cases second.unique (isLeast_of_idxOf? scalar)
  cases there
  have unlisted := (names_find_shapes lists "depth").2 (by decide)
  exact ⟨lists, finds, findsEmpty, cut 4, cut 3, unlisted.1⟩

end SurveyCube.ProcessHeader
