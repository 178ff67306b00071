import SurveyCube.Proofs.Manifest
import SurveyCube.Proofs.Query

/-!
# Headers of queries

The header of a query is made from the lines along each axis of its output.

* `header_eq_ok` says for slices and for curtains which lines these are, and when
  there is a header.
* A header repeats the number of parts as it is given, and otherwise holds line
  numbers of the manifest and lengths of lists of them, so it fits words.
-/

namespace SurveyCube

theorem fitWords_append {α : Type} [Words α] {front back : List α}
    (first : fitWords front = true) (second : fitWords back = true) :
    fitWords (front ++ back) = true := by
  rw [fitWords_list_iff] at *
  exact List.forall_mem_append.mpr ⟨first, second⟩

theorem fitWords_lengths {lengths : List Nat} (small : ∀ n ∈ lengths, n < 2 ^ 63) :
    fitWords lengths = true ∧ fitWords (lengths.map Int.ofNat) = true := by
  rw [fitWords_list_iff, fitWords_list_iff, List.forall_mem_map]
  constructor
  · intro n member
    rw [fitWords_nat_iff, wordLimit]
    exact Nat.lt_trans (small n member) (by decide)
  · intro n member
    have below := small n member
    rw [fitWords_int_iff, Int.ofNat_eq_natCast]
    omega

namespace ProcessHeader

/-- Lists of lines, with their lengths in front. -/
def flatIndex (lines : List (List Int)) : List Int :=
  (lines.map List.length).map Int.ofNat ++ lines.flatten

theorem fitWords_flatIndex {lines : List (List Int)}
    (short : ∀ along ∈ lines, along.length < 2 ^ 63)
    (words : ∀ along ∈ lines, fitWords along = true) : fitWords (flatIndex lines) = true := by
  apply fitWords_append
  · exact (fitWords_lengths (List.forall_mem_map.mpr short)).2
  · rw [fitWords_list_iff]
    intro number member
    obtain ⟨along, here, inside⟩ := List.mem_flatten.mp member
    exact fitWords_list_iff.mp (words along here) number inside

theorem fitWords_entry {shape : List Nat} (short : shape.length < wordLimit)
    (words : fitWords shape = true) : fitWords (entry shape) = true := by
  rw [fitWords_list_iff] at *
  exact List.forall_mem_cons.mpr ⟨fitWords_nat_iff.mpr short, words⟩

theorem fitWords_ofQuery
    {base : QueryBase} {function : Function} {ntasks : Nat} {index : List Int}
    {dataShape attributeShape : List Nat} (few : ntasks < wordLimit)
    (lines : fitWords index = true) (data : fitWords (entry dataShape) = true)
    (layer : fitWords (entry attributeShape) = true) :
    fitWords (ofQuery base function ntasks index dataShape attributeShape) = true := by
  rw [fitWords_iff]
  refine ⟨fitWords_nat_iff.mpr few, rfl, lines, fitWords_append data ?_⟩
  rw [fitWords_list_iff] at *
  intro extent member
  obtain ⟨_, _, inside⟩ := List.mem_flatMap.mp member
  exact layer extent inside

end ProcessHeader

namespace SliceQuery

variable {query : SliceQuery} {ntasks : Nat} {header : ProcessHeader}

theorem fitWords_outputLines
    {queried axis : Axis} {line : Int} {lines : List Int}
    (words : fitWords query.base.manifest = true) (fits : fitWords line = true)
    (found : query.outputLines queried line axis = .ok lines) :
    lines.length < 2 ^ 63 ∧ fitWords lines = true := by
  unfold outputLines at found
  split at found
  · cases found
    refine ⟨by simp, ?_⟩
    rw [fitWords_list_iff, List.forall_mem_singleton]
    exact fits
  · exact Manifest.fitWords_dimension words found

/-- The size of the output along an axis is the number of its lines. -/
theorem outputSize_eq (query : SliceQuery) (queried axis : Axis) (line : Int) :
    query.outputSize queried axis = (query.outputLines queried line axis).map List.length := by
  unfold outputSize outputLines
  split <;> rfl

theorem mapM_outputSize {queried : Axis} {line : Int} {lines : List (List Int)}
    (each : Axis.all.mapM (query.outputLines queried line) = .ok lines) :
    Axis.all.mapM (query.outputSize queried) = .ok (lines.map List.length) := by
  rw [mapM_eq_ok, List.forall₂_map_right_iff]
  refine (mapM_eq_ok.mp each).imp ?_
  intro axis along found
  rw [query.outputSize_eq queried axis line, found]
  rfl

/-- A slice has a header if its axis and its line exist.  The header holds the lines of
the output along all axes. -/
theorem header_eq_ok :
    query.header ntasks = .ok header ↔
      ∃ axis line lines, query.dim = axis.index ∧
        query.base.manifest.lineNumber axis query.idx = .ok line ∧
        Axis.all.mapM (query.outputLines axis line) = .ok lines ∧
        header = .ofQuery query.base .slice ntasks (ProcessHeader.flatIndex lines)
          (lines.map List.length) ((lines.map List.length).dropLast ++ [1]) := by
  constructor
  · intro headed
    obtain ⟨axis, along, headed⟩ := bind_eq_ok.mp headed
    obtain ⟨line, numbered, headed⟩ := bind_eq_ok.mp headed
    obtain ⟨sizes, measured, headed⟩ := bind_eq_ok.mp headed
    obtain ⟨lines, each, headed⟩ := bind_eq_ok.mp headed
    rw [mapM_outputSize each] at measured
    cases measured
    have same := pure_eq_ok.mp headed
    exact ⟨axis, line, lines, Axis.ofIndex_eq_ok.mp along, numbered, each, same.symm⟩
  · rintro ⟨axis, line, lines, along, numbered, each, rfl⟩
    rw [SliceQuery.header, Axis.ofIndex_eq_ok.mpr along, ok_bind, numbered, ok_bind,
      mapM_outputSize each, ok_bind, each, ok_bind]
    rfl

theorem bundles_header (headed : query.header ntasks = .ok header) : header.bundles = ntasks := by
  obtain ⟨_, _, _, _, _, _, rfl⟩ := header_eq_ok.mp headed
  rfl

theorem fitWords_header (headed : query.header ntasks = .ok header)
    (words : fitWords query = true) (few : ntasks < wordLimit) : fitWords header = true := by
  obtain ⟨manifest, _, _⟩ := fitWords_iff.mp words
  obtain ⟨axis, line, lines, _, found, each, rfl⟩ := header_eq_ok.mp headed
  have collected := mapM_eq_ok.mp each
  have three : lines.length = 3 := collected.length_eq.symm
  have fits : ∀ along ∈ lines, along.length < 2 ^ 63 ∧ fitWords along = true := by
    intro along member
    obtain ⟨other, _, here⟩ := exists_item_of_forall₂ collected member
    exact fitWords_outputLines manifest (Manifest.fitWords_lineNumber manifest found) here
  have lengths : ∀ n ∈ lines.map List.length, n < 2 ^ 63 :=
    List.forall_mem_map.mpr fun along member => (fits along member).1
  have layer : ∀ n ∈ (lines.map List.length).dropLast ++ [1], n < 2 ^ 63 := by
    intro n member
    rcases List.mem_append.mp member with inside | last
    · exact lengths n (List.dropLast_subset _ inside)
    · rw [List.mem_singleton.mp last]
      decide
  apply ProcessHeader.fitWords_ofQuery few
  · exact ProcessHeader.fitWords_flatIndex (fun along member => (fits along member).1)
      fun along member => (fits along member).2
  · apply ProcessHeader.fitWords_entry _ (fitWords_lengths lengths).1
    rw [List.length_map, three]
    decide
  · apply ProcessHeader.fitWords_entry _ (fitWords_lengths layer).1
    rw [List.length_append, List.length_dropLast, List.length_map, three]
    decide

end SliceQuery

namespace CurtainQuery

variable {query : CurtainQuery} {ntasks : Nat} {header : ProcessHeader}

theorem fitWords_lineNumbers
    {axis : Axis} {indices : List Nat} {lines : List Int}
    (words : fitWords query.base.manifest = true)
    (found : indices.mapM (query.base.manifest.lineNumber axis) = .ok lines) :
    fitWords lines = true := by
  rw [fitWords_list_iff]
  intro line member
  obtain ⟨index, _, here⟩ := exists_item_of_forall₂ (mapM_eq_ok.mp found) member
  exact Manifest.fitWords_lineNumber words here

/-- A curtain has a header if its polyline is one and has a line for every index.  The
header holds the lines of the traces and all depths. -/
theorem header_eq_ok :
    query.header ntasks = .ok header ↔
      query.dim0s.length = query.dim1s.length ∧ ∃ inlines crosslines depths,
        query.dim0s.mapM (query.base.manifest.lineNumber .inline) = .ok inlines ∧
        query.dim1s.mapM (query.base.manifest.lineNumber .crossline) = .ok crosslines ∧
        query.base.manifest.dimension .depth = .ok depths ∧
        header = .ofQuery query.base .curtain ntasks
          (ProcessHeader.flatIndex [inlines, crosslines, depths])
          [query.dim0s.length, depths.length] [query.dim0s.length] := by
  have traces (even : query.dim0s.length = query.dim1s.length) :
      (query.dim0s.zip query.dim1s).length = query.dim0s.length := by
    rw [List.length_zip, ← even, Nat.min_self]
  have index {inlines crosslines depths : List Int}
      (along : query.dim0s.mapM (query.base.manifest.lineNumber .inline) = .ok inlines)
      (across : query.dim1s.mapM (query.base.manifest.lineNumber .crossline) = .ok crosslines) :
      [query.dim0s.length, query.dim1s.length, depths.length].map Int.ofNat ++
        (inlines ++ crosslines ++ depths) =
        ProcessHeader.flatIndex [inlines, crosslines, depths] := by
    rw [(mapM_eq_ok.mp along).length_eq, (mapM_eq_ok.mp across).length_eq]
    simp [ProcessHeader.flatIndex]
  constructor
  · intro headed
    obtain ⟨pairs, paired, headed⟩ := bind_eq_ok.mp headed
    obtain ⟨depths, layers, headed⟩ := bind_eq_ok.mp headed
    obtain ⟨inlines, along, headed⟩ := bind_eq_ok.mp headed
    obtain ⟨crosslines, across, headed⟩ := bind_eq_ok.mp headed
    obtain ⟨even, rfl⟩ := pairs_eq_ok.mp paired
    have same := pure_eq_ok.mp headed
    rw [index along across, traces even] at same
    exact ⟨even, inlines, crosslines, depths, along, across, layers, same.symm⟩
  · rintro ⟨even, inlines, crosslines, depths, along, across, layers, rfl⟩
    have paired : query.pairs = .ok _ := pairs_eq_ok.mpr ⟨even, rfl⟩
    rw [CurtainQuery.header, paired, ok_bind, layers, ok_bind, along, ok_bind, across, ok_bind]
    simp only [index along across, traces even]
    rfl

theorem bundles_header (headed : query.header ntasks = .ok header) : header.bundles = ntasks := by
  obtain ⟨_, _, _, _, _, _, _, rfl⟩ := header_eq_ok.mp headed
  rfl

theorem fitWords_header (headed : query.header ntasks = .ok header)
    (words : fitWords query = true) (few : ntasks < wordLimit) : fitWords header = true := by
  obtain ⟨manifest, first, second, _, _⟩ := fitWords_iff.mp words
  rw [fitsLength_iff] at first second
  obtain ⟨_, inlines, crosslines, depths, along, across, layers, rfl⟩ := header_eq_ok.mp headed
  obtain ⟨deep, fits⟩ := Manifest.fitWords_dimension manifest layers
  have short : ∀ lines ∈ [inlines, crosslines, depths], lines.length < 2 ^ 63 := by
    rw [List.forall_mem_cons, List.forall_mem_cons, List.forall_mem_singleton,
      ← (mapM_eq_ok.mp along).length_eq, ← (mapM_eq_ok.mp across).length_eq]
    exact ⟨first, second, deep⟩
  have numbers : ∀ lines ∈ [inlines, crosslines, depths], fitWords lines = true := by
    rw [List.forall_mem_cons, List.forall_mem_cons, List.forall_mem_singleton]
    exact ⟨fitWords_lineNumbers manifest along, fitWords_lineNumbers manifest across, fits⟩
  have data : ∀ n ∈ [query.dim0s.length, depths.length], n < 2 ^ 63 := by
    rw [List.forall_mem_cons, List.forall_mem_singleton]
    exact ⟨first, deep⟩
  have layer : ∀ n ∈ [query.dim0s.length], n < 2 ^ 63 := by
    rw [List.forall_mem_singleton]
    exact first
  apply ProcessHeader.fitWords_ofQuery few
  · exact ProcessHeader.fitWords_flatIndex short numbers
  · exact ProcessHeader.fitWords_entry (by simp [wordLimit]) (fitWords_lengths data).1
  · exact ProcessHeader.fitWords_entry (by simp [wordLimit]) (fitWords_lengths layer).1

end CurtainQuery

end SurveyCube
