import Mathlib.Algebra.BigOperators.Ring.Finset
import Mathlib.Data.List.SplitLengths
import SurveyCube.Proofs.Schedule

/-!
# The layout of the index of a header

The index of a header lists sizes and then, one dimension after the other, so many line
numbers for each.  A client cuts it by the sizes alone.

* `ProcessHeader.Indexes` says what cutting the index gives.
* The header of a slice indexes the lines of the survey, with a single line on the axis
  that is queried.
* The header of a curtain indexes the lines of its traces, one for every trace, and all
  depths.
-/

namespace SurveyCube

/-! ## Cutting an index -/

theorem splitLengths_flatten {α : Type} (lists : List (List α)) :
    (lists.map List.length).splitLengths lists.flatten = lists := by
  induction lists with
  | nil => rfl
  | cons first rest ih =>
      rw [List.map_cons, List.flatten_cons, List.splitLengths_cons, List.take_left,
        List.drop_left, ih]

namespace ProcessHeader

/-- The index after the sizes, cut into pieces of these sizes. -/
def pieces (header : ProcessHeader) : List (List Int) :=
  (header.indexSizes.map Int.toNat).splitLengths (header.index.drop header.dims)

/-- The index of a header holds these lines, a list for each of three dimensions. -/
structure Indexes (header : ProcessHeader) (lines : List (List Int)) : Prop where
  dims : header.dims = 3
  rank : header.indexSizes.length = 3
  sizes : header.indexSizes = lines.map fun along => (along.length : Int)
  /-- The pieces make up all that follows the sizes. -/
  whole : header.indexSizes.sum + 3 = header.index.length
  pieces : header.pieces = lines

theorem indexes_ofQuery
    {base : QueryBase} {function : Function} {ntasks : Nat} {lines : List (List Int)}
    {dataShape attributeShape : List Nat} (three : lines.length = 3) :
    (ofQuery base function ntasks (flatIndex lines) dataShape attributeShape).Indexes lines := by
  have count : ((lines.map List.length).map Int.ofNat).length = 3 := by
    rw [List.length_map, List.length_map, three]
  have front : (flatIndex lines).take 3 = (lines.map List.length).map Int.ofNat :=
    List.take_left' count
  have back : (flatIndex lines).drop 3 = lines.flatten := List.drop_left' count
  constructor
  · rfl
  · change ((flatIndex lines).take 3).length = 3
    rw [front, count]
  · change (flatIndex lines).take 3 = _
    rw [front, List.map_map]
    rfl
  · change ((flatIndex lines).take 3).sum + 3 = ((flatIndex lines).length : Int)
    have total : ((lines.map List.length).map Int.ofNat).sum =
        ((lines.map List.length).sum : Int) := (Nat.cast_list_sum _).symm
    rw [front, total, flatIndex, List.length_append, count, List.length_flatten]
    push_cast
    exact Int.add_comm _ _
  · change (((flatIndex lines).take 3).map Int.toNat).splitLengths ((flatIndex lines).drop 3) = _
    have same : Int.toNat ∘ Int.ofNat = id := rfl
    rw [front, back, List.map_map, same, List.map_id, splitLengths_flatten]

end ProcessHeader

/-! ## Lines of a survey -/

/-- Each of some indices has a line exactly if all of them are below the number of lines. -/
theorem exists_lines_iff {all : List Int} {indices : List Nat} :
    (∃ lines, List.Forall₂ (fun index line => all[index]? = some line) indices lines) ↔
      ∀ index ∈ indices, index < all.length := by
  constructor
  · rintro ⟨lines, found⟩ index listed
    obtain ⟨line, _, here⟩ := exists_result_of_forall₂ found listed
    exact (List.getElem?_eq_some_iff.mp here).1
  · intro inside
    exact exists_forall₂ fun index listed => ⟨_, List.getElem?_eq_getElem (inside index listed)⟩

section Headers

variable {inlines crosslines depths : List Int} {ntasks : Nat} {header : ProcessHeader}

/-! ## Slices -/

namespace SliceQuery

variable {query : SliceQuery}

theorem mapM_outputLines
    (survey : query.base.manifest.lineNumbers = [inlines, crosslines, depths]) (queried : Axis)
    (line : Int) :
    Axis.all.mapM (query.outputLines queried line) =
      .ok ([inlines, crosslines, depths].set queried.index [line]) := by
  rw [Axis.all, mapM_eq_ok]
  cases queried <;>
    simp [outputLines, Manifest.dimension_eq_ok, survey, Axis.index]

theorem header_of_survey
    (survey : query.base.manifest.lineNumbers = [inlines, crosslines, depths]) :
    query.header ntasks = .ok header ↔
      ∃ lines line sizes, [inlines, crosslines, depths][query.dim]? = some lines ∧
        lines[query.idx]? = some line ∧
        sizes = ([inlines, crosslines, depths].set query.dim [line]).map List.length ∧
        header = .ofQuery query.base .slice ntasks
          (ProcessHeader.flatIndex ([inlines, crosslines, depths].set query.dim [line]))
          sizes (sizes.dropLast ++ [1]) := by
  simp only [header_eq_ok, mapM_outputLines survey, Manifest.lineNumber_eq_ok, survey]
  constructor
  · rintro ⟨axis, line, _, along, ⟨lines, listed, found⟩, same, rfl⟩
    cases same
    rw [along]
    exact ⟨lines, line, _, listed, found, rfl, rfl⟩
  · rintro ⟨lines, line, sizes, listed, found, rfl, rfl⟩
    have few : query.dim < 3 := (List.getElem?_eq_some_iff.mp listed).1
    obtain ⟨axis, same⟩ := Option.ne_none_iff_exists'.mp
      fun none => Nat.not_le.mpr few (Axis.ofIndex?_eq_none_iff.mp none)
    have along : query.dim = axis.index := Axis.ofIndex?_eq_some_iff.mp same
    rw [along] at listed ⊢
    exact ⟨axis, line, _, rfl, ⟨lines, listed, found⟩, rfl, rfl⟩

end SliceQuery

/-! ## Curtains -/

namespace CurtainQuery

variable {query : CurtainQuery}

theorem mapM_lineNumber
    {axis : Axis} {all : List Int} {indices : List Nat} {lines : List Int}
    (stored : query.base.manifest.lineNumbers[axis.index]? = some all) :
    indices.mapM (query.base.manifest.lineNumber axis) = .ok lines ↔
      List.Forall₂ (fun index line => all[index]? = some line) indices lines := by
  simp only [mapM_eq_ok, Manifest.lineNumber_eq_ok, stored, Option.some_inj, exists_eq_left']

theorem header_of_survey
    (survey : query.base.manifest.lineNumbers = [inlines, crosslines, depths]) :
    query.header ntasks = .ok header ↔
      query.dim0s.length = query.dim1s.length ∧ ∃ along across,
        List.Forall₂ (fun x line => inlines[x]? = some line) query.dim0s along ∧
        List.Forall₂ (fun y line => crosslines[y]? = some line) query.dim1s across ∧
        header = .ofQuery query.base .curtain ntasks
          (ProcessHeader.flatIndex [along, across, depths])
          [query.dim0s.length, depths.length] [query.dim0s.length] := by
  have first : query.base.manifest.lineNumbers[Axis.inline.index]? = some inlines := by
    rw [survey]
    rfl
  have second : query.base.manifest.lineNumbers[Axis.crossline.index]? = some crosslines := by
    rw [survey]
    rfl
  have deep : query.base.manifest.dimension .depth = .ok depths := by
    rw [Manifest.dimension_eq_ok, survey]
    rfl
  simp only [header_eq_ok, mapM_lineNumber first, mapM_lineNumber second, deep,
    Except.ok.injEq, exists_and_left, exists_eq_left']

end CurtainQuery

end Headers

/-! ## Main result -/

/-- A header is built exactly if the line of the query, or every trace of it, is a line
of the survey.  Cutting its index by the sizes at the front gives the lines of the
output along each axis. -/
theorem headers_index_lines (inlines crosslines depths : List Int) :
    (∀ (query : SliceQuery) (ntasks : Nat),
      query.base.manifest.lineNumbers = [inlines, crosslines, depths] →
      ((∃ header, query.header ntasks = .ok header) ↔
        ∃ lines, [inlines, crosslines, depths][query.dim]? = some lines ∧
          query.idx < lines.length) ∧
      ∀ header, query.header ntasks = .ok header →
        ∃ lines line, [inlines, crosslines, depths][query.dim]? = some lines ∧
          lines[query.idx]? = some line ∧
          header.Indexes ([inlines, crosslines, depths].set query.dim [line])) ∧
    (∀ (query : CurtainQuery) (ntasks : Nat),
      query.base.manifest.lineNumbers = [inlines, crosslines, depths] →
      ((∃ header, query.header ntasks = .ok header) ↔
        query.dim0s.length = query.dim1s.length ∧
          (∀ x ∈ query.dim0s, x < inlines.length) ∧
          ∀ y ∈ query.dim1s, y < crosslines.length) ∧
      ∀ header, query.header ntasks = .ok header →
        ∃ along across,
          List.Forall₂ (fun x line => inlines[x]? = some line) query.dim0s along ∧
          List.Forall₂ (fun y line => crosslines[y]? = some line) query.dim1s across ∧
          header.Indexes [along, across, depths]) := by
  constructor
  · intro query ntasks survey
    constructor
    · constructor
      · rintro ⟨header, headed⟩
        obtain ⟨lines, line, _, listed, found, _⟩ :=
          (SliceQuery.header_of_survey survey).mp headed
        exact ⟨lines, listed, (List.getElem?_eq_some_iff.mp found).1⟩
      · rintro ⟨lines, listed, inside⟩
        have found := List.getElem?_eq_getElem inside
        exact ⟨_, (SliceQuery.header_of_survey survey).mpr ⟨lines, _, _, listed, found, rfl, rfl⟩⟩
    · intro header headed
      obtain ⟨lines, line, _, listed, found, _, rfl⟩ :=
        (SliceQuery.header_of_survey survey).mp headed
      exact ⟨lines, line, listed, found, ProcessHeader.indexes_ofQuery (List.length_set ..)⟩
  · intro query ntasks survey
    constructor
    · constructor
      · rintro ⟨header, headed⟩
        obtain ⟨even, along, across, x, y, _⟩ := (CurtainQuery.header_of_survey survey).mp headed
        exact ⟨even, exists_lines_iff.mp ⟨along, x⟩, exists_lines_iff.mp ⟨across, y⟩⟩
      · rintro ⟨even, first, second⟩
        obtain ⟨along, x⟩ := exists_lines_iff.mpr first
        obtain ⟨across, y⟩ := exists_lines_iff.mpr second
        exact ⟨_, (CurtainQuery.header_of_survey survey).mpr ⟨even, along, across, x, y, rfl⟩⟩
    · intro header headed
      obtain ⟨_, along, across, x, y, rfl⟩ := (CurtainQuery.header_of_survey survey).mp headed
      exact ⟨along, across, x, y, ProcessHeader.indexes_ofQuery rfl⟩

/-- The slice keeps one depth of three.  The curtain repeats an inline and a crossline,
and without traces it keeps the depths alone. -/
theorem smallSurvey_indexes_lines :
    (∃ header, smallSlice.header 2 = .ok header ∧ header.Indexes [[1, 2, 3], [10, 11], [4]]) ∧
    (∃ header, smallCurtain.header 2 = .ok header ∧
      header.Indexes [[3, 1, 3], [11, 10, 10], [0, 4, 8]]) ∧
    ∃ header, { smallCurtain with dim0s := [], dim1s := [] }.header 0 = .ok header ∧
      header.Indexes [[], [], [0, 4, 8]] := by
  obtain ⟨slices, curtains⟩ := headers_index_lines [1, 2, 3] [10, 11] [0, 4, 8]
  refine ⟨?_, ?_, ?_⟩
  · obtain ⟨built, indexes⟩ := slices smallSlice 2 rfl
    obtain ⟨header, headed⟩ := built.mpr ⟨_, rfl, by decide⟩
    obtain ⟨lines, line, listed, found, index⟩ := indexes header headed
    cases listed
    cases found
    exact ⟨header, headed, index⟩
  · obtain ⟨built, indexes⟩ := curtains smallCurtain 2 rfl
    obtain ⟨header, headed⟩ := built.mpr (by decide)
    obtain ⟨along, across, x, y, index⟩ := indexes header headed
    rcases x with _ | ⟨⟨⟩, _ | ⟨⟨⟩, _ | ⟨⟨⟩, ⟨⟩⟩⟩⟩
    rcases y with _ | ⟨⟨⟩, _ | ⟨⟨⟩, _ | ⟨⟨⟩, ⟨⟩⟩⟩⟩
    exact ⟨header, headed, index⟩
  · obtain ⟨built, indexes⟩ := curtains { smallCurtain with dim0s := [], dim1s := [] } 0 rfl
    obtain ⟨header, headed⟩ := built.mpr (by decide)
    obtain ⟨along, across, x, y, index⟩ := indexes header headed
    cases x
    cases y
    exact ⟨header, headed, index⟩

end SurveyCube
