import SurveyCube.Proofs.Pool

/-!
# Runs on many workers

A run either refuses its input before any sample is written, or it comes down
to the work of a pool.  `Stitcher.Account` lists the ways in which a run may
end, each with the state of the input and with what was written.

* The input is examined first, in the order of the cases of `Account`.  Nothing
  but the record is written before all points are known to lie in the cube.
* Then the run succeeds exactly when all cells are in the files.  Otherwise any
  point whose cell is missing may be the one that is blamed, and what was written
  depends on the order of the work, but it is whole samples of points of the
  input, and those of a bin are its first ones.

Machine words have to count the cells of the cube and of a fragment.  Where they
cannot, as for `wideStitcher`, a run may fail although nothing is missing.
-/

namespace SurveyCube

namespace Stitcher

variable {stitcher : Stitcher} {numbering : Numbering} {files : Files} {stream : Bytes}

/-- What a run on a stream may come to, whichever worker goes on at any time. -/
inductive Yields (stitcher : Stitcher) (numbering : Numbering) (files : Files) (stream : Bytes) :
    Run → Prop
  | refused {fault : Fault}
      (refused : stitcher.binsBy numbering (StitchInput.ofStream stream) = .error fault) :
      Yields stitcher numbering files stream
        (stitcher.finish (StitchInput.ofStream stream) (.error fault))
  | stitched {bins : List Bin} {pool : Pool} {failure : Option Fault}
      (binned : stitcher.binsBy numbering (StitchInput.ofStream stream) = .ok bins)
      (steps : Relation.ReflTransGen (stitcher.Step numbering files) (.start bins) pool)
      (ends : pool.Ends failure) :
      Yields stitcher numbering files stream {
        echo := (StitchInput.ofStream stream).record
        samples := { written := pool.written, failure }
        unread := (StitchInput.ofStream stream).unread }

theorem binsBy_eq (agrees : numbering.Agrees stitcher.tiling) (input : StitchInput) :
    stitcher.binsBy numbering input = stitcher.bins input := by
  rw [binsBy, bins, funext agrees.bins_eq]

/-! ## One bin after the other -/

/-- The end of the work on a bin. -/
def ended : Option Fault → Progress
  | none => .finished
  | some fault => .stopped fault

/-- The pool after one bin was worked on and gave samples. -/
def settled (bin : Bin) (samples : Samples) (before after : List (Bin × Progress))
    (written : List Sample) : Pool :=
  ⟨before ++ (bin, ended samples.failure) :: after, written ++ samples.written⟩

/-- The numbering reads the samples of some cells of a bin as a run reads them. -/
def ReadsAlike (stitcher : Stitcher) (numbering : Numbering) (bin : Bin) (cells : List Nat) :
    Prop :=
  ∀ cell ∈ cells, ∀ file, numbering.sample file bin.key cell = stitcher.sample file bin.key cell

theorem readsAlike_of_mem (agrees : numbering.Agrees stitcher.tiling) {points : List CubePoint}
    {bins : List Bin} (made : Bin.ofPoints stitcher.tiling points = .ok bins) :
    ∀ bin ∈ bins, stitcher.ReadsAlike numbering bin bin.offsets := by
  intro bin member cell inside file
  obtain ⟨p, listed, same⟩ := Bin.exists_point made member inside
  have alike := sample_eq agrees ((Bin.ofPoints_eq_ok.mp made).1 p listed) file
  rwa [same] at alike

theorem cells_steps
    (files : Files) (bin : Bin) (file : Array UInt8) {cells : List Nat}
    (alike : stitcher.ReadsAlike numbering bin cells) (before after : List (Bin × Progress))
    (written : List Sample) :
    Relation.ReflTransGen (stitcher.Step numbering files)
      ⟨before ++ (bin, .reading file cells) :: after, written⟩
      (settled bin (Samples.ofItems (stitcher.sampleOrFault file bin.key) cells) before after
        written) := by
  induction cells generalizing written with
  | nil => exact .single (.mk rfl before after written)
  | cons cell rest ih =>
      obtain ⟨same, alike⟩ := List.forall_mem_cons.mp alike
      replace same := same file
      cases read : stitcher.sample file bin.key cell with
      | ok sample =>
          have worked : stitcher.work numbering files bin (.reading file (cell :: rest)) =
              some (.reading file rest, [sample]) := by
            simp only [work, same, read]
          have first := Step.mk worked before after written
          have later := ih alike (written ++ [sample])
          simp only [settled, Samples.ofItems, sampleOrFault, read, ← List.append_assoc]
          exact .head first later
      | error fault =>
          have worked : stitcher.work numbering files bin (.reading file (cell :: rest)) =
              some (.stopped fault, []) := by
            simp only [work, same, read]
          simp only [settled, Samples.ofItems, sampleOrFault, read, Samples.failed]
          exact .single (.mk worked before after written)

/-- The samples of a bin on its own. -/
def binSamples (stitcher : Stitcher) (files : Files) (bin : Bin) : Samples :=
  stitcher.samplesOfBin bin (files (stitcher.location bin.key))

/-- A worker may go through its whole bin while the others wait. -/
theorem bin_steps
    (files : Files) {bin : Bin} (alike : stitcher.ReadsAlike numbering bin bin.offsets)
    (before after : List (Bin × Progress)) (written : List Sample) :
    Relation.ReflTransGen (stitcher.Step numbering files)
      ⟨before ++ (bin, .waiting) :: after, written⟩
      (settled bin (stitcher.binSamples files bin) before after written) := by
  unfold binSamples
  cases content : files (stitcher.location bin.key) with
  | ok bytes =>
      have worked : stitcher.work numbering files bin .waiting =
          some (.reading bytes.toArray bin.offsets, []) := by
        simp only [work, content]
      have first := Step.mk worked before after written
      rw [List.append_nil] at first
      exact .head first (cells_steps files bin _ alike before after written)
  | error cause =>
      cases cause with
      | missing =>
          have worked : stitcher.work numbering files bin .waiting =
              some (.stopped (.fragmentNotFound (stitcher.location bin.key)), []) := by
            simp only [work, content]
          exact .single (.mk worked before after written)
      | unusable =>
          have worked : stitcher.work numbering files bin .waiting =
              some (.stopped (.io .unusable), []) := by
            simp only [work, content]
          exact .single (.mk worked before after written)

section Stitch

variable {bin : Bin} {rest : List Bin}

theorem stitch_cons_of_none (failure : (stitcher.binSamples files bin).failure = none) :
    stitcher.stitch files (bin :: rest) = {
      written := (stitcher.binSamples files bin).written ++ (stitcher.stitch files rest).written
      failure := (stitcher.stitch files rest).failure } := by
  unfold binSamples at failure ⊢
  simp [stitch, samplesOfBins, withFiles, Samples.ofItems, failure]

theorem stitch_cons_of_some {fault : Fault}
    (failure : (stitcher.binSamples files bin).failure = some fault) :
    stitcher.stitch files (bin :: rest) = stitcher.binSamples files bin := by
  unfold binSamples at failure ⊢
  simp [stitch, samplesOfBins, withFiles, Samples.ofItems, failure]

end Stitch

/-- The bins may be taken one after the other, up to the first fault. -/
theorem bins_steps
    (files : Files) {bins : List Bin}
    (alike : ∀ bin ∈ bins, stitcher.ReadsAlike numbering bin bin.offsets)
    (before : List (Bin × Progress)) (written : List Sample)
    (done : ∀ worker ∈ before, worker.2 = .finished) :
    ∃ pool, Relation.ReflTransGen (stitcher.Step numbering files)
        ⟨before ++ (Pool.start bins).workers, written⟩ pool ∧
      pool.written = written ++ (stitcher.stitch files bins).written ∧
      pool.Ends (stitcher.stitch files bins).failure := by
  induction bins generalizing before written with
  | nil =>
      refine ⟨_, .refl, (List.append_nil _).symm, .success ?_⟩
      simpa [Pool.start] using done
  | cons bin rest ih =>
      rw [List.forall_mem_cons] at alike
      have first := bin_steps files alike.1 before (Pool.start rest).workers written
      cases failure : (stitcher.binSamples files bin).failure with
      | none =>
          obtain ⟨pool, later, all, ends⟩ := ih alike.2 (before ++ [(bin, .finished)])
            (written ++ (stitcher.binSamples files bin).written)
            (List.forall_mem_append.mpr ⟨done, List.forall_mem_singleton.mpr rfl⟩)
          rw [List.append_assoc] at later all
          rw [settled, failure] at first
          rw [stitch_cons_of_none failure]
          exact ⟨pool, first.trans later, all, ends⟩
      | some fault =>
          rw [settled, failure] at first
          rw [stitch_cons_of_some failure, failure]
          refine ⟨_, first, rfl, .failure ?_ ⟨(bin, .stopped fault), by simp [ended], rfl⟩⟩
          intro worker member file cells busy
          rw [List.mem_append, List.mem_cons] at member
          rcases member with member | rfl | member
          · rw [done worker member] at busy
            cases busy
          · cases busy
          · obtain ⟨_, _, rfl⟩ := List.mem_map.mp member
            cases busy

/-- The run that takes one bin after the other is one of the possible runs. -/
theorem run_yields (agrees : numbering.Agrees stitcher.tiling) (files : Files) (stream : Bytes) :
    stitcher.Yields numbering files stream (stitcher.run files stream) := by
  have same := binsBy_eq agrees (StitchInput.ofStream stream)
  cases binned : stitcher.bins (StitchInput.ofStream stream) with
  | error fault =>
      rw [run, binned]
      exact .refused (same.trans binned)
  | ok bins =>
      rw [run, binned]
      obtain ⟨points, _, made⟩ := bind_eq_ok.mp binned
      obtain ⟨pool, steps, written, ends⟩ :=
        bins_steps files (readsAlike_of_mem agrees made) [] [] (by simp)
      have yields := Yields.stitched (same.trans binned) steps ends
      rw [List.nil_append] at written
      rw [written] at yields
      exact yields

/-! ## What a run comes to -/

/-- The run fails with a fault of a certain kind, and this is all it has written. -/
structure EndsAt (run : Run) (fault : Fault) (kind : FaultKind) (written : Bytes) : Prop where
  failure : run.failure = some fault
  kind : fault.kind = kind
  output : run.output = written

/-- The bytes after a record begin with as many points as it announces, whose
coordinates are not negative. -/
structure Denotes (record : PointRecord) (rest : Bytes) (points : List CubePoint) : Prop where
  announced : points.length = record.size
  fits : ∀ p ∈ points, Stitch.FitsPoint p
  bytes : ∃ trailing, rest = Stitch.pointBytes points ++ trailing
  positive : ∀ i < 3 * record.size, 0 ≤ Stitch.signedWord rest i

/-- What a run fails for whose points lie in the cube: a file is missing, or cannot be
opened, or is too short. -/
def blamedKinds : List FaultKind := [.storageInconsistency, .io, .outOfRange]

/-- What a run makes of points that lie in the cube. -/
structure Writes (stitcher : Stitcher) (files : Files) (record : PointRecord)
    (points : List CubePoint) (bins : List Bin) (run : Run) : Prop where
  /-- The record is followed by whole samples of some of the points, those of every
  bin from its front and ascending.  If the run succeeds these are all of the points. -/
  samples : ∃ kept : List CubePoint,
    run.output = writeDocument record ++ (kept.map (stitcher.expectedSample files)).flatten ∧
    (∀ p ∈ kept, (stitcher.expectedSample files p).length = 12) ∧ kept.Subperm points ∧
    (∀ bin ∈ bins, Bin.offsetsIn stitcher.tiling kept bin.key <+: bin.offsets ∧
      bin.offsets.Pairwise (· ≤ ·)) ∧
    (run.failure = none → kept.Perm points)
  succeeds : run.failure = none ↔ ∀ p ∈ points, stitcher.Stores files p
  fails : ∀ fault, run.failure = some fault →
    (∃ p ∈ points, stitcher.Blames files p fault) ∧
      fault.kind ∈ blamedKinds

/-- How a run ends, by the state of its input. -/
inductive Account (stitcher : Stitcher) (files : Files) (stream : Bytes) (run : Run) : Prop
  /-- There is no record. -/
  | noRecord (absent : PointRecord.read? stream = none)
      (ends : EndsAt run .unreadableDocument .invalidDocument [])
  /-- The record announces more points than a word can count bytes of. -/
  | tooLarge {record : PointRecord} {rest : Bytes}
      (found : PointRecord.read? stream = some (record, rest))
      (large : 2 ^ 64 ≤ 12 * record.size)
      (ends : EndsAt run (.recordSizeTooLarge record.size) .overflow (writeDocument record))
  /-- The record announces more points than follow. -/
  | tooShort {record : PointRecord} {rest : Bytes}
      (found : PointRecord.read? stream = some (record, rest))
      (few : 12 * record.size < 2 ^ 64) (short : rest.length < 12 * record.size)
      (ends : EndsAt run (.shortRecordInput record.size (12 * record.size) rest.length)
        .invalidDocument (writeDocument record))
  /-- A coordinate is negative. -/
  | negative {record : PointRecord} {rest : Bytes} {i : Nat}
      (found : PointRecord.read? stream = some (record, rest))
      (few : 12 * record.size < 2 ^ 64) (room : 12 * record.size ≤ rest.length)
      (inside : i < 3 * record.size) (negative : Stitch.signedWord rest i < 0)
      (ends : EndsAt run (.negativeCoordinate (Stitch.signedWord rest i)) .outOfRange
        (writeDocument record))
  /-- A point is outside the cube. -/
  | outside {record : PointRecord} {rest : Bytes} {points : List CubePoint} {p : CubePoint}
      (found : PointRecord.read? stream = some (record, rest))
      (few : 12 * record.size < 2 ^ 64) (denotes : Denotes record rest points)
      (listed : p ∈ points) (outside : ¬ p.Within stitcher.tiling.cube)
      (ends : EndsAt run (.pointOutsideCube p stitcher.tiling.cube) .outOfRange
        (writeDocument record))
  /-- All points are in the cube. -/
  | stitched {record : PointRecord} {rest : Bytes} {points : List CubePoint} {bins : List Bin}
      (found : PointRecord.read? stream = some (record, rest))
      (few : 12 * record.size < 2 ^ 64) (denotes : Denotes record rest points)
      (inside : ∀ p ∈ points, p.Within stitcher.tiling.cube)
      (binned : Bin.ofPoints stitcher.tiling points = .ok bins)
      (writes : stitcher.Writes files record points bins run)

theorem Blames.kind {p : CubePoint} {fault : Fault} (blames : stitcher.Blames files p fault) :
    fault.kind ∈ blamedKinds := by
  rcases blames with ⟨_, rfl⟩ | ⟨_, rfl⟩ | ⟨_, _, _, rfl⟩ <;> simp [blamedKinds, Fault.kind]

theorem length_expectedSample {p : CubePoint} (stored : stitcher.Stores files p) :
    (stitcher.expectedSample files p).length = 12 := by
  rw [← encode_cellSample stored]
  exact Sample.length_encode _

section Yields

variable {run : Run}

theorem Yields.endsAt {fault : Fault} {kind : FaultKind} {written : Bytes}
    (yields : stitcher.Yields numbering files stream run)
    (refused : stitcher.binsBy numbering (StitchInput.ofStream stream) = .error fault)
    (same : fault.kind = kind)
    (echoed : ((StitchInput.ofStream stream).record.map writeDocument).getD [] = written) :
    EndsAt run fault kind written := by
  cases yields with
  | refused again =>
      rw [refused] at again
      cases again
      refine ⟨rfl, same, ?_⟩
      rw [Run.output, ← echoed]
      exact List.append_nil _
  | stitched binned _ _ =>
      rw [refused] at binned
      cases binned

/-- All workers are done, or one has stopped. -/
theorem Sound.writes {record : PointRecord} {points kept : List CubePoint} {bins : List Bin}
    {pool : Pool} {failure : Option Fault} (sound : stitcher.Sound files points bins pool kept)
    (made : Bin.ofPoints stitcher.tiling points = .ok bins) (ends : pool.Ends failure)
    (unread : Bytes) :
    stitcher.Writes files record points bins
      { echo := some record, samples := { written := pool.written, failure }, unread } := by
  have among (p : CubePoint) (listed : p ∈ kept) : p ∈ points := (sound.stored p listed).1
  have all (success : failure = none) : kept.Perm points := by
    subst success
    apply Bin.perm_of_offsets made among
    intro bin member
    rw [← sound.bins] at member
    obtain ⟨worker, present, rfl⟩ := List.mem_map.mp member
    have tracks := sound.tracked worker present
    cases ends with
    | success finished =>
        rw [finished worker present] at tracks
        cases tracks with
        | finished full => exact full
  have blamed (fault : Fault) (failed : failure = some fault) :
      ∃ p ∈ points, stitcher.Blames files p fault := by
    subst failed
    cases ends with
    | failure _ stopped =>
        obtain ⟨worker, present, last⟩ := stopped
        have tracks := sound.tracked worker present
        rw [last] at tracks
        cases tracks with
        | stopped _ cause => exact cause
  refine ⟨⟨kept, ?_, ?_, ?_, ?_, all⟩, ?_, ?_⟩
  · have bytes : pool.written.flatMap Sample.encode =
        (kept.map (stitcher.expectedSample files)).flatten := by
      rw [sound.written, List.flatMap_map, List.flatMap_def]
      congr 1
      apply List.map_congr_left
      intro p listed
      exact encode_cellSample (sound.stored p listed).2
    rw [Run.output, bytes]
    rfl
  · intro p listed
    exact length_expectedSample (sound.stored p listed).2
  · exact Bin.subperm_of_prefixes made among fun bin member => sound.front member
  · exact fun bin member => ⟨sound.front member, Bin.offsets_ascending made member⟩
  · constructor
    · intro success p listed
      exact (sound.stored p ((all success).mem_iff.mpr listed)).2
    · intro stored
      cases failed : failure with
      | none => rfl
      | some fault =>
          obtain ⟨p, listed, blames⟩ := blamed fault failed
          exact absurd (stored p listed) blames.not_stores
  · intro fault failed
    obtain ⟨p, listed, blames⟩ := blamed fault failed
    exact ⟨⟨p, listed, blames⟩, blames.kind⟩

/-- The points of an input that is not refused are written by a pool. -/
theorem Yields.writes {record : PointRecord} {points : List CubePoint} {bins : List Bin}
    (agrees : numbering.Agrees stitcher.tiling)
    (yields : stitcher.Yields numbering files stream run)
    (echo : (StitchInput.ofStream stream).record = some record)
    (binned : stitcher.binsBy numbering (StitchInput.ofStream stream) = .ok bins)
    (made : Bin.ofPoints stitcher.tiling points = .ok bins) :
    stitcher.Writes files record points bins run := by
  cases yields with
  | refused refused =>
      rw [binned] at refused
      cases refused
  | stitched again steps ends =>
      rw [binned] at again
      cases again
      obtain ⟨kept, sound⟩ := Sound.steps made agrees steps
      rw [echo]
      exact sound.writes made ends _

/-- Every run is accounted for. -/
theorem Yields.account (agrees : numbering.Agrees stitcher.tiling)
    (yields : stitcher.Yields numbering files stream run) : stitcher.Account files stream run := by
  cases found : PointRecord.read? stream with
  | none =>
      have input : StitchInput.ofStream stream =
          ⟨none, .error .unreadableDocument, PointRecord.unread stream⟩ := by
        rw [StitchInput.ofStream, found]
      refine .noRecord found (yields.endsAt ?_ rfl ?_)
      · rw [binsBy, input]
        rfl
      · rw [input]
        rfl
  | some pair =>
      obtain ⟨record, rest⟩ := pair
      have input : StitchInput.ofStream stream =
          ⟨some record, StitchInput.surface record rest,
            StitchInput.afterSurface record rest⟩ := by
        rw [StitchInput.ofStream, found]
      have echoed : ((StitchInput.ofStream stream).record.map writeDocument).getD [] =
          writeDocument record := by
        rw [input]
        rfl
      have size : record.size * Stitch.pointSize = 12 * record.size := Nat.mul_comm _ _
      -- The checks of the input follow in the order in which they are made.
      have binned : stitcher.binsBy numbering (StitchInput.ofStream stream) =
          StitchInput.surface record rest >>= Bin.ofPoints stitcher.tiling := by
        rw [binsBy_eq agrees, bins, input]
      by_cases large : 2 ^ 64 ≤ 12 * record.size
      · have surface : StitchInput.surface record rest =
            .error (.recordSizeTooLarge record.size) := by
          rw [StitchInput.surface, size]
          exact if_pos large
        rw [surface] at binned
        exact .tooLarge found large (yields.endsAt binned rfl echoed)
      have few := Nat.lt_of_not_le large
      by_cases short : rest.length < 12 * record.size
      · have surface : StitchInput.surface record rest =
            .error (.shortRecordInput record.size (12 * record.size) rest.length) := by
          rw [StitchInput.surface, size]
          exact (if_neg large).trans (if_pos short)
        rw [surface] at binned
        exact .tooShort found few short (yields.endsAt binned rfl echoed)
      have room := Nat.le_of_not_lt short
      rcases StitchInput.surface_cases (by rw [size]; exact few) (by rw [size]; exact room) with
        ⟨points, trailing, surface, announced, fits, split, positive⟩ |
        ⟨i, inside, negative, surface⟩
      swap
      · rw [surface] at binned
        exact .negative found few room inside negative (yields.endsAt binned rfl echoed)
      have denotes : Denotes record rest points := ⟨announced, fits, ⟨trailing, split⟩, positive⟩
      rw [surface, ok_bind] at binned
      cases made : Bin.ofPoints stitcher.tiling points with
      | error fault =>
          obtain ⟨p, listed, outside, rfl⟩ := Bin.exists_of_ofPoints_eq_error made
          rw [made] at binned
          exact .outside found few denotes listed outside (yields.endsAt binned rfl echoed)
      | ok bins =>
          rw [made] at binned
          have echo : (StitchInput.ofStream stream).record = some record := by
            rw [input]
          exact .stitched found few denotes (Bin.ofPoints_eq_ok.mp made).1 made
            (yields.writes agrees echo binned made)

end Yields

end Stitcher

/-- Without a timing report a run is accounted for, whichever worker goes on at
any time, as long as machine words can count the cells.  The work never gets stuck,
and a run on a file tree takes one of the possible ways. -/
theorem parallel_runs_accounted
    (stitcher : Stitcher) (untimed : stitcher.config.timingFile = none)
    (fits : stitcher.tiling.FitsWords) (files : Files) (stream : Bytes) :
    (∀ run, stitcher.Yields stitcher.tiling.inWords files stream run →
      stitcher.Account files stream run) ∧
    (∀ bins pool,
      Relation.ReflTransGen (stitcher.Step stitcher.tiling.inWords files) (.start bins) pool →
        ∃ last failure,
          Relation.ReflTransGen (stitcher.Step stitcher.tiling.inWords files) pool last ∧
            last.Ends failure) ∧
    (∀ tree : FileTree, tree.read = files →
      ∃ run, (stitcher.runOn FileTree.host stream).run tree = (run, tree) ∧
        stitcher.Yields stitcher.tiling.inWords files stream run) := by
  refine ⟨?_, ?_, ?_⟩
  · intro run yields
    exact yields.account fits.agrees
  · intro bins pool _
    exact Stitcher.exists_ends stitcher stitcher.tiling.inWords files pool
  · rintro tree rfl
    exact ⟨_, Stitcher.runOn_fileTree untimed stream tree,
      Stitcher.run_yields fits.agrees tree.read stream⟩

/-- The first file ends before the cell of the first corner. -/
def shortTree : FileTree where
  entries := [
    (.fromWork ["horizon-0-0-0.f32"], .file [1, 2, 3]),
    (.fromWork ["horizon-2-1-1.f32"], .file (List.replicate 20 0 ++ [5, 6, 7, 8]))]

theorem shortTree_not_stores : ¬ smallStitcher.Stores shortTree.read ⟨0, 0, 0⟩ := by
  rintro ⟨content, found, enough⟩
  cases found
  exact absurd enough (by decide)

theorem smallStitcher_fitsWords : smallStitcher.tiling.FitsWords where
  cube := by decide
  fragment := by decide

/-- No run on the short file succeeds, in whatever order the points are taken. -/
theorem shortTree_accounted :
    (∃ run, (smallStitcher.runOn FileTree.host smallStream).run shortTree = (run, shortTree) ∧
      smallStitcher.Account shortTree.read smallStream run) ∧
    ∀ run, smallStitcher.Yields smallStitcher.tiling.inWords shortTree.read smallStream run →
      run.failure ≠ none := by
  obtain ⟨accounts, _, onTree⟩ :=
    parallel_runs_accounted smallStitcher rfl smallStitcher_fitsWords shortTree.read smallStream
  constructor
  · obtain ⟨run, same, yields⟩ := onTree shortTree rfl
    exact ⟨run, same, accounts run yields⟩
  · intro run yields success
    obtain ⟨bins, binned, made⟩ := smallStitcher_feeds.exists_bins
    have agrees := smallStitcher_fitsWords.agrees
    rw [← Stitcher.binsBy_eq agrees] at binned
    have writes := yields.writes agrees smallStitcher_feeds.record_eq binned made
    have corner : (⟨0, 0, 0⟩ : CubePoint) ∈ smallPoints := by
      decide
    exact shortTree_not_stores (writes.succeeds.mp success _ corner)

/-! ## Where nothing is accounted for -/

/-- A record of one point, and the first corner of a cube. -/
def cornerStream : Bytes :=
  Text.bytes "\x7b\"size\":1\x7d" ++ Stitch.pointBytes [⟨0, 0, 0⟩]

def cornerBin : Bin where
  key := ⟨0, 0, 0⟩
  offsets := [0]
  indices := [0]

/-- A cube of one cell in a larger fragment. -/
def cornerStitcher (basename : String) (fragment : Shape) (positive : fragment.Positive) :
    Stitcher where
  manifest := { basename, fragment, cube := ⟨1, 1, 1⟩ }
  tiling := ⟨⟨1, 1, 1⟩, fragment, by decide, positive⟩
  config := {}

/-- The fragments are looked for below a file. -/
def blockedStitcher : Stitcher :=
  cornerStitcher "x/cube" ⟨1, 1, 1⟩ (by decide)

def blockedTree : FileTree where
  entries := [(.fromWork ["x"], .file [1, 2, 3, 4])]

/-- The cells of a fragment are as many as a word has values. -/
def wideStitcher : Stitcher :=
  cornerStitcher "cube" ⟨9223372036854775808, 2, 1⟩ (by decide)

def wideTree : FileTree where
  entries := [(.fromWork ["cube-0-0-0.f32"], .file [1, 2, 3, 4])]

/-- A run whose only worker stops has failed. -/
theorem exists_yields_of_stop
    {stitcher : Stitcher} {numbering : Numbering} {files : Files} {stream : Bytes} {bin : Bin}
    {fault : Fault} (binned : stitcher.binsBy numbering (StitchInput.ofStream stream) = .ok [bin])
    (steps : Relation.ReflTransGen (stitcher.Step numbering files) (.start [bin])
      ⟨[(bin, .stopped fault)], []⟩) :
    ∃ run, stitcher.Yields numbering files stream run ∧ run.failure = some fault := by
  refine ⟨_, .stitched binned steps (.failure ?_ ⟨_, List.mem_singleton.mpr rfl, rfl⟩), rfl⟩
  intro worker member file cells reading
  rw [List.mem_singleton.mp member] at reading
  cases reading

/-- A fragment below a file is not there, but it is not reported as missing.  A cell that
is stored is not found if the number of cells has lost all of its bits. -/
theorem corner_runs_fail_otherwise :
    (blockedTree.entry? (.fromWork ["x", "cube-0-0-0.f32"]) = none ∧
      blockedStitcher.tiling.FitsWords ∧
      ∃ run, blockedStitcher.Yields blockedStitcher.tiling.inWords blockedTree.read cornerStream
        run ∧ run.failure = some (.io .unusable)) ∧
    (wideStitcher.Stores wideTree.read ⟨0, 0, 0⟩ ∧
      ∃ run, wideStitcher.Yields wideStitcher.tiling.inWords wideTree.read cornerStream
        run ∧ run.failure = some (.localOffsetOutOfRange 0 0)) := by
  have blocked : blockedStitcher.binsBy blockedStitcher.tiling.inWords
      (StitchInput.ofStream cornerStream) = .ok [cornerBin] := by
    decide +kernel
  have wide : wideStitcher.binsBy wideStitcher.tiling.inWords
      (StitchInput.ofStream cornerStream) = .ok [cornerBin] := by
    decide +kernel
  have refused : blockedStitcher.work blockedStitcher.tiling.inWords blockedTree.read cornerBin
      .waiting = some (.stopped (.io .unusable), []) := rfl
  have opened : wideStitcher.work wideStitcher.tiling.inWords wideTree.read cornerBin .waiting =
      some (.reading #[1, 2, 3, 4] [0], []) := rfl
  have failed : wideStitcher.work wideStitcher.tiling.inWords wideTree.read cornerBin
      (.reading #[1, 2, 3, 4] [0]) = some (.stopped (.localOffsetOutOfRange 0 0), []) := rfl
  have few : blockedStitcher.tiling.FitsWords := ⟨by decide, by decide⟩
  refine ⟨⟨rfl, few, exists_yields_of_stop blocked ?_⟩, ⟨_, rfl, by decide⟩,
    exists_yields_of_stop wide ?_⟩
  · exact .single (.mk refused [] [] [])
  · exact .head (.mk opened [] [] []) (.single (.mk failed [] [] []))

end SurveyCube
