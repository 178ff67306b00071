import Mathlib.Data.List.Permutation
import SurveyCube.Proofs.BinOrder
import SurveyCube.Proofs.Stitch

/-!
# Cells of a fragment and their numbers ascend together

A cell is counted by the shape of its fragment, and its number in the cube by the
shape of the cube.  Both follow the lexicographic order of points, so the numbers of
the cells of one fragment ascend with the cells, over any padding in between.

A bin lists its cells in ascending order.  `Bin.EmitsInOrder` says what follows for the
samples that are written for it: they ascend by their numbers, and two of them have one
number exactly if the points behind them are one point.
-/

namespace SurveyCube

/-! ## Fragments -/

namespace Tiling

variable {tiling : Tiling} {id : FragmentId}

/-- Points of one fragment are ordered as their places are. -/
theorem globalOf_lt_iff {p q : LocalPoint} :
    tiling.globalOf id p < tiling.globalOf id q ↔ p < q := by
  simp only [Triple.lt_def, globalOf, Triple.ofFn, Triple.get]
  omega

theorem Locates.globalOf_localOf {offset n : Nat} {p : CubePoint}
    (located : tiling.Locates id offset n p) : tiling.globalOf id (tiling.localOf p) = p := by
  obtain ⟨_, root⟩ := fragmentOf_eq_ok.mp located.fragment
  rw [← root, globalOf_rootOf_localOf]

/-- The numbers of cells of one fragment are ordered as the cells are. -/
theorem globalOffset_lt_iff {a b m n : Nat} (here : tiling.globalOffset a id = .ok m)
    (there : tiling.globalOffset b id = .ok n) : m < n ↔ a < b := by
  obtain ⟨p, first⟩ := globalOffset_eq_ok_iff.mp here
  obtain ⟨q, second⟩ := globalOffset_eq_ok_iff.mp there
  have numbers : m < n ↔ p < q := by
    rw [← first.number, ← second.number]
    exact Shape.offset_lt_iff first.inside second.inside
  have places : a < b ↔ tiling.localOf p < tiling.localOf q := by
    rw [← first.place, ← second.place]
    exact Shape.offset_lt_iff (tiling.localOf_within p) (tiling.localOf_within q)
  have points : p < q ↔ tiling.localOf p < tiling.localOf q := by
    conv_lhs => rw [← first.globalOf_localOf, ← second.globalOf_localOf]
    exact globalOf_lt_iff
  rw [numbers, points, places]

theorem globalOffset_le {a b m n : Nat} (here : tiling.globalOffset a id = .ok m)
    (there : tiling.globalOffset b id = .ok n) (order : a ≤ b) : m ≤ n :=
  Nat.le_of_not_lt fun reversed =>
    Nat.not_lt.mpr order ((globalOffset_lt_iff there here).mp reversed)

end Tiling

/-! ## Samples of cells -/

namespace Stitcher

variable {stitcher : Stitcher} {file : Array UInt8} {id : FragmentId}

theorem globalOffset_of_sample {cell : Nat} {sample : Sample}
    (read : stitcher.sample file id cell = .ok sample) :
    stitcher.tiling.globalOffset cell id = .ok sample.offset := by
  obtain ⟨bits, _, read⟩ := bind_eq_ok.mp read
  obtain ⟨number, found, read⟩ := bind_eq_ok.mp read
  have same := pure_eq_ok.mp read
  rw [← same, found]

/-- Samples are written for the cells from the first on. -/
theorem exists_cell_of_written (stitcher : Stitcher) (file : Array UInt8) (id : FragmentId)
    (cells : List Nat) :
    ∀ (i : Nat) (sample : Sample),
      (Samples.ofItems (stitcher.sampleOrFault file id) cells).written[i]? = some sample →
      ∃ cell, cells[i]? = some cell ∧ stitcher.tiling.globalOffset cell id = .ok sample.offset := by
  induction cells with
  | nil =>
      intro i sample listed
      cases listed
  | cons cell rest ih =>
      intro i sample listed
      cases read : stitcher.sample file id cell with
      | error fault =>
          simp [Samples.ofItems, sampleOrFault, read, Samples.failed] at listed
      | ok first =>
          simp only [Samples.ofItems, sampleOrFault, read, List.singleton_append] at listed
          cases i with
          | zero =>
              rw [List.getElem?_cons_zero, Option.some_inj] at listed
              subst listed
              exact ⟨cell, rfl, globalOffset_of_sample read⟩
          | succ i => exact ih i sample listed

theorem length_written_of_cells (stitcher : Stitcher) (file : Array UInt8) (id : FragmentId)
    (cells : List Nat)
    (done : (Samples.ofItems (stitcher.sampleOrFault file id) cells).failure = none) :
    (Samples.ofItems (stitcher.sampleOrFault file id) cells).written.length = cells.length := by
  induction cells with
  | nil => rfl
  | cons cell rest ih =>
      cases read : stitcher.sample file id cell with
      | error fault =>
          simp [Samples.ofItems, sampleOrFault, read, Samples.failed] at done
      | ok first =>
          simp only [Samples.ofItems, sampleOrFault, read] at done ⊢
          rw [List.singleton_append, List.length_cons, List.length_cons, ih done]

/-- Samples of a bin are written for its cells from the first on, whatever its file is. -/
theorem exists_offset_of_written (bin : Bin) (content : Except FileFault Bytes) {i : Nat}
    {sample : Sample} (listed : (stitcher.samplesOfBin bin content).written[i]? = some sample) :
    ∃ cell, bin.offsets[i]? = some cell ∧
      stitcher.tiling.globalOffset cell bin.key = .ok sample.offset := by
  match content, listed with
  | .ok bytes, listed => exact exists_cell_of_written stitcher _ _ _ i sample listed
  | .error .missing, listed => cases listed
  | .error .unusable, listed => cases listed

theorem length_written (bin : Bin) (content : Except FileFault Bytes)
    (done : (stitcher.samplesOfBin bin content).failure = none) :
    (stitcher.samplesOfBin bin content).written.length = bin.size := by
  match content, done with
  | .ok bytes, done => exact length_written_of_cells stitcher _ _ _ done
  | .error .missing, done => cases done
  | .error .unusable, done => cases done

end Stitcher

/-! ## Samples of bins -/

namespace Bin

/-- The point behind the cell at a position of a bin. -/
def pointBehind? (bin : Bin) (points : List CubePoint) (i : Nat) : Option CubePoint :=
  bin.indices[i]?.bind fun index => points[index]?

/-- The samples that are written for a bin of points ascend by their numbers, and equal
numbers belong to equal points. -/
structure EmitsInOrder (tiling : Tiling) (points : List CubePoint) (bin : Bin)
    (samples : Samples) : Prop where
  /-- A sample has the number of the point behind its cell. -/
  numbered : ∀ i sample, samples.written[i]? = some sample →
    ∃ p, bin.pointBehind? points i = some p ∧ p.Within tiling.cube ∧
      sample.offset = Shape.offset tiling.cube p
  ascending : (samples.written.map Sample.offset).Pairwise (· ≤ ·)
  same_iff : ∀ i j a b, samples.written[i]? = some a → samples.written[j]? = some b →
    (a.offset = b.offset ↔ bin.pointBehind? points i = bin.pointBehind? points j)
  /-- Without a fault there is a sample for every cell. -/
  whole : samples.failure = none → samples.written.length = bin.size

section Emits

variable {stitcher : Stitcher} {points : List CubePoint} {bins : List Bin} {bin : Bin}

/-- The cell at a position of a bin stores the point behind it. -/
theorem exists_pointBehind (made : ofPoints stitcher.tiling points = .ok bins)
    (member : bin ∈ bins) {i cell n : Nat} (listed : bin.offsets[i]? = some cell)
    (number : stitcher.tiling.globalOffset cell bin.key = .ok n) :
    ∃ p, bin.pointBehind? points i = some p ∧ p.Within stitcher.tiling.cube ∧
      n = Shape.offset stitcher.tiling.cube p := by
  obtain ⟨inside, _⟩ := List.getElem?_eq_some_iff.mp listed
  rw [length_offsets made member] at inside
  have position := List.getElem?_eq_getElem inside
  have held : (cell, bin.indices[i]) ∈ bin.positioned :=
    List.mem_of_getElem? (List.getElem?_zip_eq_some.mpr ⟨listed, position⟩)
  obtain ⟨p, behind, fragment, place⟩ := exists_of_mem_positioned made member held
  obtain ⟨within, root⟩ := Tiling.fragmentOf_eq_ok.mp fragment
  have found := Tiling.globalOffset_rootOf within
  rw [← place, root, number] at found
  refine ⟨p, ?_, within, Except.ok.inj found⟩
  rw [pointBehind?, position, Option.bind_some, behind]

theorem emitsInOrder (made : ofPoints stitcher.tiling points = .ok bins) (member : bin ∈ bins)
    (content : Except FileFault Bytes) :
    bin.EmitsInOrder stitcher.tiling points (stitcher.samplesOfBin bin content) := by
  have numbered : ∀ i sample, (stitcher.samplesOfBin bin content).written[i]? = some sample →
      ∃ p, bin.pointBehind? points i = some p ∧ p.Within stitcher.tiling.cube ∧
        sample.offset = Shape.offset stitcher.tiling.cube p := by
    intro i sample listed
    obtain ⟨cell, here, number⟩ := Stitcher.exists_offset_of_written bin content listed
    exact exists_pointBehind made member here number
  refine ⟨numbered, ?_, ?_, Stitcher.length_written bin content⟩
  · rw [List.pairwise_map, List.pairwise_iff_getElem]
    intro i j first second before
    obtain ⟨cell, here, number⟩ := Stitcher.exists_offset_of_written bin content
      (List.getElem?_eq_getElem first)
    obtain ⟨other, there, next⟩ := Stitcher.exists_offset_of_written bin content
      (List.getElem?_eq_getElem second)
    obtain ⟨low, rfl⟩ := List.getElem?_eq_some_iff.mp here
    obtain ⟨high, rfl⟩ := List.getElem?_eq_some_iff.mp there
    have order := List.pairwise_iff_getElem.mp (offsets_ascending made member) i j low high before
    exact Tiling.globalOffset_le number next order
  · intro i j a b here there
    obtain ⟨p, behind, within, number⟩ := numbered i a here
    obtain ⟨q, other, inside, next⟩ := numbered j b there
    rw [behind, other, number, next, Option.some_inj]
    exact ⟨Shape.offset_injective within inside, congrArg _⟩

end Emits

end Bin

/-- In one fragment cells and their numbers in the cube have one order, which is that of
points, inside a box of any shape.  So the samples that are written for a bin ascend,
and equal numbers are those of repeated points. -/
theorem numbers_ascend_with_cells :
    (∀ (tiling : Tiling) (id : FragmentId) (a b m n : Nat), tiling.globalOffset a id = .ok m →
      tiling.globalOffset b id = .ok n → (m < n ↔ a < b)) ∧
    (∀ (shape : Shape) (p q : LocalPoint), p.Within shape → q.Within shape →
      (Shape.offset shape p < Shape.offset shape q ↔ p < q)) ∧
    (∀ (stitcher : Stitcher) (points : List CubePoint) (bins : List Bin),
      Bin.ofPoints stitcher.tiling points = .ok bins → ∀ bin ∈ bins,
        ∀ content : Except FileFault Bytes,
          bin.EmitsInOrder stitcher.tiling points (stitcher.samplesOfBin bin content)) := by
  refine ⟨?_, ?_, ?_⟩
  · intro tiling id a b m n here there
    exact Tiling.globalOffset_lt_iff here there
  · intro shape p q here there
    exact Shape.offset_lt_iff here there
  · intro stitcher points bins made bin member content
    exact Bin.emitsInOrder made member content

/-- The last corner of the cube, given twice, is written twice.  Cells 1 and 4 of its
fragment have padding in between. -/
theorem smallStitcher_numbers_ascend :
    (smallStitcher.tiling.globalOffset 1 ⟨2, 1, 1⟩ = .ok 203 ∧
      (∃ fault, smallStitcher.tiling.globalOffset 2 ⟨2, 1, 1⟩ = .error fault) ∧
      smallStitcher.tiling.globalOffset 4 ⟨2, 1, 1⟩ = .ok 208 ∧ (203 < 208 ↔ 1 < 4)) ∧
    ((⟨0, 1, 1⟩ : LocalPoint).Within ⟨3, 3, 4⟩ ∧ (⟨1, 0, 0⟩ : LocalPoint).Within ⟨3, 3, 4⟩ ∧
      (Shape.offset ⟨3, 3, 4⟩ ⟨0, 1, 1⟩ < Shape.offset ⟨3, 3, 4⟩ ⟨1, 0, 0⟩ ↔
        (⟨0, 1, 1⟩ : LocalPoint) < ⟨1, 0, 0⟩)) ∧
    ∃ bins, Bin.ofPoints smallStitcher.tiling smallPoints = .ok bins ∧
      ∃ bin ∈ bins,
        (smallStitcher.samplesOfBin bin (smallTree.read "horizon-2-1-1.f32")).written =
          [⟨209, 0x08070605⟩, ⟨209, 0x08070605⟩] ∧
        bin.EmitsInOrder smallStitcher.tiling smallPoints
          (smallStitcher.samplesOfBin bin (smallTree.read "horizon-2-1-1.f32")) := by
  obtain ⟨cells, points, emits⟩ := numbers_ascend_with_cells
  have low : smallStitcher.tiling.globalOffset 1 ⟨2, 1, 1⟩ = .ok 203 := rfl
  have high : smallStitcher.tiling.globalOffset 4 ⟨2, 1, 1⟩ = .ok 208 := rfl
  have here : (⟨0, 1, 1⟩ : LocalPoint).Within ⟨3, 3, 4⟩ := by decide
  have there : (⟨1, 0, 0⟩ : LocalPoint).Within ⟨3, 3, 4⟩ := by decide
  have made : Bin.ofPoints smallStitcher.tiling smallPoints =
      .ok [⟨⟨0, 0, 0⟩, [0], [1]⟩, ⟨⟨2, 1, 1⟩, [5, 5], [0, 2]⟩] := by
    cbv
  have member : ⟨⟨2, 1, 1⟩, [5, 5], [0, 2]⟩ ∈
      [(⟨⟨0, 0, 0⟩, [0], [1]⟩ : Bin), ⟨⟨2, 1, 1⟩, [5, 5], [0, 2]⟩] := by
    simp
  exact ⟨⟨low, ⟨_, rfl⟩, high, cells _ _ _ _ _ _ low high⟩,
    ⟨here, there, points _ _ _ here there⟩,
    _, made, _, member, rfl, emits _ _ _ made _ member _⟩

end SurveyCube
