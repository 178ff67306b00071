import SurveyCube.Stitch.Host
import SurveyCube.Proofs.Bin
import SurveyCube.Proofs.Manifest
import SurveyCube.Proofs.Point

/-!
# A run writes the sample of every point

A point goes from the cube to its fragment and the offset of its cell, into a
bin, and from the bin back to the cube.  The way back leads to the same point,
so a run whose files hold the cells of all points writes one sample for each of
them, in whatever order the bins are taken.
-/

namespace SurveyCube

namespace Samples

/-- Items that all succeed write their samples one after the other. -/
theorem ofItems_eq
    {α : Type} {samples : α → Samples} {written : α → List Sample} {items : List α}
    (each : ∀ item ∈ items, samples item = { written := written item, failure := none }) :
    ofItems samples items = { written := items.flatMap written, failure := none } := by
  induction items with
  | nil => rfl
  | cons item rest ih =>
      rw [List.forall_mem_cons] at each
      rw [ofItems, each.1, ih each.2]
      rfl

end Samples

namespace Stitcher

variable {stitcher : Stitcher} {files : Files}

/-! ## Cells -/

/-- The content of the file of a fragment. -/
def fileOf (stitcher : Stitcher) (files : Files) (id : FragmentId) : Bytes :=
  (files (stitcher.location id)).toOption.getD []

theorem fileOf_eq {id : FragmentId} {content : Bytes}
    (found : files (stitcher.location id) = .ok content) :
    stitcher.fileOf files id = content := by
  rw [fileOf, found]
  rfl

/-- The four bytes of a cell of a fragment. -/
def cellBytes (stitcher : Stitcher) (files : Files) (entry : FragmentId × Nat) : Bytes :=
  ((stitcher.fileOf files entry.1).drop (4 * entry.2)).take 4

/-- The file of the fragment of a point exists and reaches past the point's cell. -/
def Stores (stitcher : Stitcher) (files : Files) (p : CubePoint) : Prop :=
  ∃ content, files (stitcher.location (stitcher.tiling.rootOf p)) = .ok content ∧
    4 * (Shape.offset stitcher.tiling.fragment (stitcher.tiling.localOf p) + 1) ≤ content.length

/-- The bytes that a run writes for a point: its number in the cube and its cell. -/
def expectedSample (stitcher : Stitcher) (files : Files) (p : CubePoint) : Bytes :=
  Bytes.littleEndian 8 (Shape.offset stitcher.tiling.cube p) ++
    stitcher.cellBytes files (Bin.entryOf stitcher.tiling p)

/-- The sample of a cell of a fragment. -/
def cellSample (stitcher : Stitcher) (files : Files) (entry : FragmentId × Nat) : Sample where
  offset := Shape.offset stitcher.tiling.cube
    (stitcher.tiling.globalOf entry.1 (Shape.pointAt stitcher.tiling.fragment entry.2))
  bits := UInt32.ofNat (Bytes.ofLittleEndian (stitcher.cellBytes files entry))

theorem readCell_toArray {content : Bytes} {cell : Nat}
    (enough : 4 * (cell + 1) ≤ content.length) :
    Sample.readCell content.toArray cell =
      .ok (UInt32.ofNat (Bytes.ofLittleEndian ((content.drop (4 * cell)).take 4))) := by
  have fits : cell * Sample.cellSize + Sample.cellSize ≤ content.toArray.size := by
    rw [List.size_toArray, Sample.cellSize]
    omega
  have taken : (content.toArray.extract (cell * 4) (cell * 4 + 4)).toList =
      (content.drop (4 * cell)).take 4 := by
    rw [Array.toList_extract, List.extract_eq_drop_take', List.drop_take]
    simp [Nat.mul_comm]
  rw [Sample.readCell, if_pos fits, Sample.cellSize, taken]

/-- The sample of the cell of a point can be read. -/
theorem sample_entryOf
    {p : CubePoint} (inside : p.Within stitcher.tiling.cube) (stored : stitcher.Stores files p) :
    ∃ content, files (stitcher.location (Bin.entryOf stitcher.tiling p).1) = .ok content ∧
      stitcher.sample content.toArray (Bin.entryOf stitcher.tiling p).1
          (Bin.entryOf stitcher.tiling p).2 =
        .ok (stitcher.cellSample files (Bin.entryOf stitcher.tiling p)) := by
  obtain ⟨content, found, enough⟩ := stored
  refine ⟨content, found, ?_⟩
  have file := fileOf_eq found
  have number := Tiling.globalOffset_rootOf inside
  have point := stitcher.tiling.globalOf_rootOf_pointAt p
  simp only [Bin.entryOf, sample, cellSample, cellBytes, readCell_toArray enough, number, file,
    point]
  rfl

theorem encode_cellSample {p : CubePoint} (stored : stitcher.Stores files p) :
    (stitcher.cellSample files (Bin.entryOf stitcher.tiling p)).encode =
      stitcher.expectedSample files p := by
  obtain ⟨content, found, enough⟩ := stored
  have file := fileOf_eq found
  have four : (stitcher.cellBytes files (Bin.entryOf stitcher.tiling p)).length = 4 := by
    simp only [cellBytes, Bin.entryOf, file, List.length_take, List.length_drop]
    omega
  have word := Bytes.ofLittleEndian_lt (stitcher.cellBytes files (Bin.entryOf stitcher.tiling p))
  have back := Bytes.littleEndian_ofLittleEndian
    (stitcher.cellBytes files (Bin.entryOf stitcher.tiling p))
  rw [four] at word back
  have point := stitcher.tiling.globalOf_rootOf_pointAt p
  rw [Sample.encode, expectedSample, cellSample, UInt32.toNat_ofNat_of_lt' word, back]
  simp only [Bin.entryOf, point]

/-! ## Bins -/

/-- A cell of a bin can be read. -/
def Readable (stitcher : Stitcher) (files : Files) (entry : FragmentId × Nat) : Prop :=
  ∃ content, files (stitcher.location entry.1) = .ok content ∧
    stitcher.sample content.toArray entry.1 entry.2 = .ok (stitcher.cellSample files entry)

theorem samplesOfBin_eq
    {bin : Bin} (filled : bin.offsets ≠ [])
    (readable : ∀ entry ∈ bin.entries, stitcher.Readable files entry) :
    stitcher.samplesOfBin bin (files (stitcher.location bin.key)) =
      { written := bin.entries.map (stitcher.cellSample files), failure := none } := by
  have each (offset : Nat) (member : offset ∈ bin.offsets) :
      stitcher.Readable files (bin.key, offset) :=
    readable _ (List.mem_map_of_mem member)
  -- The file is there because a cell of it can be read.
  obtain ⟨first, member⟩ := List.exists_mem_of_ne_nil _ filled
  obtain ⟨content, found, _⟩ := each first member
  have written : ∀ offset ∈ bin.offsets,
      stitcher.sampleOrFault content.toArray bin.key offset =
        { written := [stitcher.cellSample files (bin.key, offset)], failure := none } := by
    intro offset member
    obtain ⟨other, again, sampled⟩ := each offset member
    rw [found] at again
    cases again
    rw [sampleOrFault, sampled]
  rw [found, samplesOfBin, Bin.entries, List.map_map, List.map_eq_flatMap]
  exact Samples.ofItems_eq written

theorem samplesOfBins_eq
    {bins : List Bin} (filled : ∀ bin ∈ bins, bin.offsets ≠ [])
    (readable : ∀ entry ∈ bins.flatMap Bin.entries, stitcher.Readable files entry) :
    stitcher.samplesOfBins (stitcher.withFiles files bins) =
      { written := (bins.flatMap Bin.entries).map (stitcher.cellSample files)
        failure := none } := by
  have each : ∀ item ∈ stitcher.withFiles files bins,
      stitcher.samplesOfBin item.1 item.2 =
        { written := item.1.entries.map (stitcher.cellSample files), failure := none } := by
    intro item member
    obtain ⟨bin, listed, rfl⟩ := List.mem_map.mp member
    apply samplesOfBin_eq (filled bin listed)
    intro entry inside
    exact readable entry (List.mem_flatMap.mpr ⟨bin, listed, inside⟩)
  have written : (stitcher.withFiles files bins).flatMap
      (fun item => item.1.entries.map (stitcher.cellSample files)) =
        (bins.flatMap Bin.entries).map (stitcher.cellSample files) := by
    rw [withFiles, List.flatMap_map, List.map_flatMap]
  rw [samplesOfBins, ← written]
  exact Samples.ofItems_eq each

/-! ## Runs -/

/-- A stream begins with a record and its points, which lie in the cube, and the
files hold their cells. -/
structure Feeds (stitcher : Stitcher) (files : Files) (stream : Bytes) (record : PointRecord)
    (points : List CubePoint) : Prop where
  begins : ∃ trailing,
    PointRecord.read? stream = some (record, Stitch.pointBytes points ++ trailing)
  announced : points.length = record.size
  few : record.size * Stitch.pointSize < wordLimit
  fits : ∀ p ∈ points, Stitch.FitsPoint p
  inside : ∀ p ∈ points, p.Within stitcher.tiling.cube
  stored : ∀ p ∈ points, stitcher.Stores files p

/-- The run succeeds.  It writes the record and then samples of twelve bytes, as
many as the record announces, which are the expected ones in some order. -/
structure WritesAll (run : Run) (record : PointRecord) (expected : List Bytes) : Prop where
  succeeds : run.failure = none
  writes : ∃ samples : List Bytes, run.output = writeDocument record ++ samples.flatten ∧
    samples.length = record.size ∧ (∀ sample ∈ samples, sample.length = 12) ∧
    samples.Perm expected

section Feeds

variable {stream : Bytes} {record : PointRecord} {points : List CubePoint}

theorem Feeds.record_eq (feeds : stitcher.Feeds files stream record points) :
    (StitchInput.ofStream stream).record = some record := by
  obtain ⟨trailing, found⟩ := feeds.begins
  rw [StitchInput.ofStream_eq found feeds.announced feeds.fits feeds.few]

theorem Feeds.exists_bins (feeds : stitcher.Feeds files stream record points) :
    ∃ bins, stitcher.bins (StitchInput.ofStream stream) = .ok bins ∧
      Bin.ofPoints stitcher.tiling points = .ok bins := by
  obtain ⟨trailing, found⟩ := feeds.begins
  have made := Bin.ofPoints_eq_ok.mpr ⟨feeds.inside, rfl⟩
  refine ⟨_, ?_, made⟩
  rw [bins, StitchInput.ofStream_eq found feeds.announced feeds.fits feeds.few]
  exact bind_eq_ok.mpr ⟨points, rfl, made⟩

/-- The cells of the points in any order give the expected samples in some order. -/
theorem Feeds.encoded_perm
    (feeds : stitcher.Feeds files stream record points) {cells : List (FragmentId × Nat)}
    (same : cells.Perm (points.map (Bin.entryOf stitcher.tiling))) :
    ((cells.map (stitcher.cellSample files)).map Sample.encode).Perm
      (points.map (stitcher.expectedSample files)) := by
  have expected : points.map (stitcher.expectedSample files) =
      ((points.map (Bin.entryOf stitcher.tiling)).map (stitcher.cellSample files)).map
        Sample.encode := by
    rw [List.map_map, List.map_map]
    apply List.map_congr_left
    intro p listed
    exact (encode_cellSample (feeds.stored p listed)).symm
  rw [expected]
  exact (same.map _).map _

/-- The bins are written in full, in whatever order they are taken. -/
theorem Feeds.finish_writesAll
    (feeds : stitcher.Feeds files stream record points) {bins order : List Bin}
    (made : Bin.ofPoints stitcher.tiling points = .ok bins) (same : order.Perm bins) :
    WritesAll
      (stitcher.finish (StitchInput.ofStream stream) (.ok (stitcher.withFiles files order)))
      record (points.map (stitcher.expectedSample files)) := by
  have cells : (order.flatMap Bin.entries).Perm
      (points.map (Bin.entryOf stitcher.tiling)) :=
    (same.flatMap_right Bin.entries).trans (Bin.entries_perm made)
  have filled (bin : Bin) (member : bin ∈ order) : bin.offsets ≠ [] :=
    Bin.offsets_ne_nil made (same.mem_iff.mp member)
  have readable : ∀ entry ∈ order.flatMap Bin.entries, stitcher.Readable files entry := by
    intro entry member
    rw [cells.mem_iff, List.mem_map] at member
    obtain ⟨p, listed, rfl⟩ := member
    exact sample_entryOf (feeds.inside p listed) (feeds.stored p listed)
  have written := samplesOfBins_eq filled readable
  have permuted := feeds.encoded_perm cells
  constructor
  · rw [Run.failure, finish, written]
  · refine ⟨_, ?_, ?_, ?_, permuted⟩
    · rw [Run.output, finish, written, feeds.record_eq, List.flatMap_def]
      rfl
    · rw [permuted.length_eq, List.length_map, feeds.announced]
    · intro sample member
      obtain ⟨origin, _, rfl⟩ := List.mem_map.mp member
      exact Sample.length_encode origin

end Feeds

/-! ## Runs on a file tree -/

theorem mapM_read_fileTree (bins : List Bin) (tree : FileTree) :
    (bins.mapM (m := StateM FileTree) fun bin => do
        return (bin, ← FileTree.host.read (stitcher.location bin.key))).run tree =
      (stitcher.withFiles tree.read bins, tree) := by
  induction bins with
  | nil => rfl
  | cons bin rest ih =>
      have here : (FileTree.host.read (stitcher.location bin.key)).run tree =
          pure (tree.read (stitcher.location bin.key), tree) := rfl
      simp only [List.mapM_cons, StateT.run_bind, StateT.run_pure, here, pure_bind, ih]
      rfl

theorem readFiles_fileTree (bins : Except Fault (List Bin)) (tree : FileTree) :
    (stitcher.readFiles FileTree.host bins).run tree =
      (bins.map (stitcher.withFiles tree.read), tree) := by
  cases bins with
  | error fault => rfl
  | ok bins =>
      rw [readFiles, StateT.run_bind, mapM_read_fileTree]
      rfl

/-- A run on a file tree leaves the tree as it was until it reports its timing. -/
theorem exists_runOn_fileTree (stitcher : Stitcher) (stream : Bytes) (tree : FileTree) :
    ∃ timing, (stitcher.runOn FileTree.host stream).run tree =
      (stitcher.reportTiming FileTree.host (stitcher.run tree.read stream) timing).run tree := by
  -- The clock and the date of a file tree stand still.
  have clock : FileTree.host.clock.run tree = pure (0, tree) := rfl
  have date : FileTree.host.date.run tree = pure ({ seconds := 0, nanos := 0 }, tree) := rfl
  have files (bins : Except Fault (List Bin)) :
      (stitcher.readFiles FileTree.host bins).run tree =
        pure (bins.map (stitcher.withFiles tree.read), tree) := readFiles_fileTree bins tree
  simp only [runOn, StateT.run_bind, files, clock, date, pure_bind]
  rw [run]
  exact ⟨_, rfl⟩

/-- Without a timing report a run on a file tree reads files and leaves the tree
as it was. -/
theorem runOn_fileTree (untimed : stitcher.config.timingFile = none) (stream : Bytes)
    (tree : FileTree) :
    (stitcher.runOn FileTree.host stream).run tree = (stitcher.run tree.read stream, tree) := by
  obtain ⟨timing, same⟩ := exists_runOn_fileTree stitcher stream tree
  rw [same, reportTiming, untimed]
  rfl

end Stitcher

/-! ## Stitching -/

/-- A manifest of shapes that are not empty gives a stitcher.  Its bins hold cells
of the cube only.  A run on a stream whose points lie in the cube and whose cells
are in the files writes all their samples, in whatever order the bins are taken,
and so does a run on a file tree. -/
theorem stitch_writes_every_sample
    (manifest : StitchManifest) (config : StitchConfig) (cube : manifest.cube.Positive)
    (fragment : manifest.fragment.Positive) (untimed : config.timingFile = none) :
    ∃ stitcher, Stitcher.ofManifest manifest config = .ok stitcher ∧
      stitcher.tiling.cube = manifest.cube ∧ stitcher.tiling.fragment = manifest.fragment ∧
      (∀ points bins, Bin.ofPoints stitcher.tiling points = .ok bins →
        ∀ bin ∈ bins, ∀ offset ∈ bin.offsets,
          ∃ n, stitcher.tiling.globalOffset offset bin.key = .ok n) ∧
      ∀ files stream record points, stitcher.Feeds files stream record points →
        (∃ bins, stitcher.bins (StitchInput.ofStream stream) = .ok bins ∧
          ∀ order : List Bin, order.Perm bins →
            Stitcher.WritesAll
              (stitcher.finish (StitchInput.ofStream stream)
                (.ok (stitcher.withFiles files order)))
              record (points.map (stitcher.expectedSample files))) ∧
        Stitcher.WritesAll (stitcher.run files stream) record
          (points.map (stitcher.expectedSample files)) ∧
        ∀ tree : FileTree, tree.read = files →
          (stitcher.runOn FileTree.host stream).run tree =
            (stitcher.run files stream, tree) := by
  have tiled : manifest.tiling = .ok ⟨manifest.cube, manifest.fragment, cube, fragment⟩ :=
    Manifest.tile_eq_ok.mpr ⟨rfl, rfl⟩
  refine ⟨_, bind_eq_ok.mpr ⟨_, tiled, rfl⟩, rfl, rfl, ?_, ?_⟩
  · intro points bins made bin member offset inside
    exact Bin.exists_globalOffset made member inside
  · intro files stream record points feeds
    obtain ⟨bins, binned, made⟩ := feeds.exists_bins
    refine ⟨⟨bins, binned, fun order same => feeds.finish_writesAll made same⟩, ?_, ?_⟩
    · rw [Stitcher.run, binned]
      exact feeds.finish_writesAll made (List.Perm.refl bins)
    · rintro tree rfl
      exact Stitcher.runOn_fileTree untimed stream tree

/-- A cube with partial fragments along every axis. -/
def smallHorizon : StitchManifest where
  basename := "horizon"
  fragment := ⟨3, 3, 4⟩
  cube := ⟨7, 5, 6⟩

/-- The stitcher of the small horizon. -/
def smallStitcher : Stitcher where
  manifest := smallHorizon
  tiling := ⟨⟨7, 5, 6⟩, ⟨3, 3, 4⟩, by decide, by decide⟩
  config := {}

/-- The last corner of the cube, its first corner and its last again. -/
def smallPoints : List CubePoint := [⟨6, 4, 5⟩, ⟨0, 0, 0⟩, ⟨6, 4, 5⟩]

/-- A record of three points, the points and one more byte. -/
def smallStream : Bytes :=
  Text.bytes "\x7b\"size\":3\x7d" ++ (Stitch.pointBytes smallPoints ++ [7])

/-- Files that end with the cells of the points. -/
def smallTree : FileTree where
  entries := [
    (.fromWork ["horizon-0-0-0.f32"], .file [1, 2, 3, 4]),
    (.fromWork ["horizon-2-1-1.f32"], .file (List.replicate 20 0 ++ [5, 6, 7, 8]))]

theorem smallStitcher_feeds :
    smallStitcher.Feeds smallTree.read smallStream { size := 3, extra := [] } smallPoints where
  begins := ⟨[7], rfl⟩
  announced := rfl
  few := by decide
  fits := by simp [smallPoints, Stitch.FitsPoint]
  inside := by decide
  stored := by
    intro p member
    simp only [smallPoints, List.mem_cons, List.not_mem_nil, or_false] at member
    rcases member with rfl | rfl | rfl
    · exact ⟨List.replicate 20 0 ++ [5, 6, 7, 8], rfl, by decide⟩
    · exact ⟨[1, 2, 3, 4], rfl, by decide⟩
    · exact ⟨List.replicate 20 0 ++ [5, 6, 7, 8], rfl, by decide⟩

/-- The samples of the small points. -/
def smallSamples : List Bytes := [
  [209, 0, 0, 0, 0, 0, 0, 0, 5, 6, 7, 8],
  [0, 0, 0, 0, 0, 0, 0, 0, 1, 2, 3, 4],
  [209, 0, 0, 0, 0, 0, 0, 0, 5, 6, 7, 8]]

/-- The sample of the last corner is written twice, also when the bins are taken
backwards. -/
theorem smallHorizon_writes_every_sample :
    ∃ bins run, smallStitcher.bins (StitchInput.ofStream smallStream) = .ok bins ∧
      Stitcher.WritesAll
        (smallStitcher.finish (StitchInput.ofStream smallStream)
          (.ok (smallStitcher.withFiles smallTree.read bins.reverse)))
        { size := 3, extra := [] } smallSamples ∧
      (smallStitcher.runOn FileTree.host smallStream).run smallTree = (run, smallTree) ∧
      Stitcher.WritesAll run { size := 3, extra := [] } smallSamples := by
  obtain ⟨stitcher, made, _, _, _, all⟩ :=
    stitch_writes_every_sample smallHorizon {} (by decide) (by decide) rfl
  have same : stitcher = smallStitcher := (Except.ok.inj made).symm
  subst same
  obtain ⟨⟨bins, binned, anyOrder⟩, writes, onTree⟩ := all _ _ _ _ smallStitcher_feeds
  have backwards := anyOrder bins.reverse bins.reverse_perm
  exact ⟨bins, _, binned, backwards, onTree smallTree rfl, writes⟩

end SurveyCube
