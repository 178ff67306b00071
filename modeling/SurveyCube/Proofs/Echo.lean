import SurveyCube.Proofs.Parallel
import SurveyCube.Proofs.Record

/-!
# Records pass through

The output of a run begins with the record of its input.  Nothing separates the
record from the samples behind it, and nothing has to: the record ends where a
reader stops that takes it from the start of the output, and what is left are
the samples, twelve bytes for every point.

* `Stitcher.Balanced` counts the samples that were written and those that the
  workers still owe.  A step of any worker keeps the balance, unless a fault stops
  the worker, and so a run that succeeds has written all of them.
* `Stitcher.Performs` takes together the runs with workers on files and the runs
  on a file tree.
-/

namespace SurveyCube

namespace Stitcher

variable {stitcher : Stitcher} {numbering : Numbering} {files : Files} {stream : Bytes}
  {run : Run}

/-! ## Counting the samples -/

/-- The number of samples that a worker has still to write. -/
def owed (worker : Bin × Progress) : Nat :=
  match worker.2 with
  | .waiting => worker.1.offsets.length
  | .reading _ cells => cells.length
  | .finished | .stopped _ => 0

/-- A worker writes what it owes, unless a fault stops it. -/
theorem Works.owed_eq {bin : Bin} {progress next : Progress} {samples : List Sample}
    (works : stitcher.Works numbering files bin progress next samples) :
    (∃ fault, next = .stopped fault) ∨
      samples.length + owed (bin, next) = owed (bin, progress) := by
  cases works with
  | opens _ => exact Or.inr (Nat.zero_add _)
  | misses _ | refuses _ | stops _ _ => exact Or.inl ⟨_, rfl⟩
  | closes _ => exact Or.inr rfl
  | writes rest _ => exact Or.inr (Nat.add_comm 1 rest.length)

/-- Some worker was stopped, or the samples that were written and those that are
still owed are as many as there are cells. -/
def Balanced (bins : List Bin) (pool : Pool) : Prop :=
  (∃ worker ∈ pool.workers, ∃ fault, worker.2 = .stopped fault) ∨
    pool.written.length + (pool.workers.map owed).sum = (bins.map Bin.size).sum

variable {bins : List Bin} {pool next : Pool}

theorem balanced_start (bins : List Bin) : Balanced bins (.start bins) := by
  right
  rw [Pool.start, List.map_map, List.length_nil, Nat.zero_add]
  rfl

theorem Balanced.step (balanced : Balanced bins pool)
    (step : stitcher.Step numbering files pool next) :
    Balanced bins next := by
  obtain @⟨bin, progress, after, samples, worked, front, back, written⟩ := step
  have works := works_of_work worked
  rcases balanced with ⟨worker, present, fault, last⟩ | counted
  · -- A stopped worker does not go on.
    left
    have other : worker ∈ front ++ (bin, after) :: back := by
      rw [List.mem_append, List.mem_cons] at present ⊢
      rcases present with before | rfl | behind
      · exact Or.inl before
      · cases last
        cases works
      · exact Or.inr (Or.inr behind)
    exact ⟨worker, other, fault, last⟩
  · rcases works.owed_eq with ⟨fault, rfl⟩ | paid
    · exact Or.inl ⟨_, List.mem_append_right _ List.mem_cons_self, fault, rfl⟩
    · right
      simp only [List.map_append, List.map_cons, List.sum_append, List.sum_cons,
        List.length_append] at counted ⊢
      omega

theorem Balanced.steps
    (steps : Relation.ReflTransGen (stitcher.Step numbering files) (.start bins) pool) :
    Balanced bins pool := by
  induction steps with
  | refl => exact balanced_start bins
  | tail _ last ih => exact ih.step last

theorem Balanced.length_written (balanced : Balanced bins pool) (ends : pool.Ends none) :
    pool.written.length = (bins.map Bin.size).sum := by
  cases ends with
  | success finished =>
      rcases balanced with ⟨worker, present, fault, last⟩ | counted
      · rw [finished worker present] at last
        cases last
      · have nothing : (pool.workers.map owed).sum = 0 := by
          apply List.sum_eq_zero
          intro n member
          obtain ⟨worker, present, rfl⟩ := List.mem_map.mp member
          rw [owed, finished worker present]
        rwa [nothing, Nat.add_zero] at counted

/-- Bins are as large as the points are many, whatever the numbers of their cells. -/
theorem sum_size {tiling : Tiling} {points : List CubePoint}
    (made : numbering.bins tiling points = .ok bins) :
    (bins.map Bin.size).sum = points.length := by
  obtain ⟨placed, each, made⟩ := bind_eq_ok.mp made
  obtain rfl := pure_eq_ok.mp made
  have count := (mapM_eq_ok.mp each).length_eq
  have same := (Bin.entries_ofPlaced placed).length_eq
  rw [List.length_flatMap, List.length_map] at same
  rw [List.length_zipIdx] at count
  rw [count, ← same]
  congr 1
  apply List.map_congr_left
  intro bin _
  exact (List.length_map _).symm

/-- A run that succeeds writes as many samples as its record announces. -/
theorem Yields.length_written {record : PointRecord} {rest : Bytes}
    (yields : stitcher.Yields numbering files stream run)
    (found : PointRecord.read? stream = some (record, rest)) (success : run.failure = none) :
    run.samples.written.length = record.size := by
  have input : (StitchInput.ofStream stream).points = StitchInput.surface record rest := by
    rw [StitchInput.ofStream, found]
  cases yields with
  | refused _ => cases success
  | stitched binned steps ends =>
      obtain ⟨points, read, made⟩ := bind_eq_ok.mp binned
      rw [input] at read
      cases success
      rw [(Balanced.steps steps).length_written ends, sum_size made,
        StitchInput.length_of_surface read]

/-! ## Runs on a file tree -/

/-- A timing report changes nothing about a run but whether it succeeds. -/
theorem reportTiming_fileTree (stitcher : Stitcher) (run : Run) (timing : Timing)
    (tree : FileTree) :
    ((stitcher.reportTiming FileTree.host run timing).run tree).1 = run ∨
      ∃ fault, ((stitcher.reportTiming FileTree.host run timing).run tree).1 =
        run.failedLate fault := by
  rw [reportTiming]
  split
  · next path _ _ =>
    rw [StateT.run_bind]
    cases (FileTree.host.append path (Text.bytes timing.report)).run tree with
    | mk outcome after =>
        cases outcome with
        | ok _ => exact Or.inl rfl
        | error cause => exact Or.inr ⟨.io cause, rfl⟩
  · exact Or.inl rfl

/-- A run on a stream goes its way with workers on files, or on a file tree, where
it may report its timing. -/
inductive Performs (stitcher : Stitcher) (stream : Bytes) : Run → Prop
  | onFiles {numbering : Numbering} {files : Files} {run : Run}
      (yields : stitcher.Yields numbering files stream run) :
      Performs stitcher stream run
  | onTree (tree : FileTree) :
      Performs stitcher stream ((stitcher.runOn FileTree.host stream).run tree).1

theorem Yields.echo_eq (yields : stitcher.Yields numbering files stream run) :
    run.echo = (StitchInput.ofStream stream).record := by
  cases yields with
  | refused _ => rfl
  | stitched _ _ _ => rfl

theorem Performs.echo_eq (performs : stitcher.Performs stream run) :
    run.echo = (StitchInput.ofStream stream).record := by
  cases performs with
  | onFiles yields => exact yields.echo_eq
  | onTree tree =>
      obtain ⟨timing, same⟩ := exists_runOn_fileTree stitcher stream tree
      rw [same]
      rcases reportTiming_fileTree stitcher (stitcher.run tree.read stream) timing tree with
        quiet | ⟨fault, late⟩
      · rw [quiet]
        rfl
      · rw [late]
        rfl

theorem Performs.exists_yields (performs : stitcher.Performs stream run)
    (success : run.failure = none) :
    ∃ numbering files, stitcher.Yields numbering files stream run := by
  cases performs with
  | onFiles yields => exact ⟨_, _, yields⟩
  | onTree tree =>
      obtain ⟨timing, same⟩ := exists_runOn_fileTree stitcher stream tree
      rw [same] at success ⊢
      rcases reportTiming_fileTree stitcher (stitcher.run tree.read stream) timing tree with
        quiet | ⟨fault, late⟩
      · rw [quiet]
        exact ⟨_, tree.read, run_yields stitcher.tiling.unbounded_agrees tree.read stream⟩
      · rw [late] at success
        cases success

end Stitcher

/-! ## Echoes -/

/-- A reader of the output finds the record and stops in front of the first sample. -/
structure Run.Delimits (run : Run) (record : PointRecord) : Prop where
  output_eq : run.output = writeDocument record ++ run.samples.written.flatMap Sample.encode
  stops : PointRecord.read? run.output =
    some (record, run.samples.written.flatMap Sample.encode)
  remains : (run.samples.written.flatMap Sample.encode).length = 12 * record.size

theorem length_flatMap_encode (samples : List Sample) :
    (samples.flatMap Sample.encode).length = 12 * samples.length := by
  induction samples with
  | nil => rfl
  | cons sample rest ih =>
      rw [List.flatMap_cons, List.length_append, Sample.length_encode, ih, List.length_cons]
      omega

/-- A record without doubles is found again in front of whatever follows it, and it
says what the stream says that it was read from.  Every run on the stream writes
the record, and so does every run on what was written.  A reader of the output of
a run that succeeds stops in front of the first sample. -/
theorem records_echoed {stream rest : Bytes} {record : PointRecord}
    (found : PointRecord.read? stream = some (record, rest))
    (integral : record.isIntegral = true) :
    (∀ following,
      PointRecord.read? (writeDocument record ++ following) = some (record, following)) ∧
    (∃ datum written, Json.read? stream = some (datum, rest) ∧
      Json.document? (writeDocument record) = some written ∧ written.Alike datum) ∧
    (∀ (stitcher : Stitcher) run, stitcher.Performs stream run →
      run.echo.map writeDocument = some (writeDocument record)) ∧
    (∀ (stitcher : Stitcher) following run,
      stitcher.Performs (writeDocument record ++ following) run →
        run.echo.map writeDocument = some (writeDocument record)) ∧
    (∀ (stitcher : Stitcher) run, stitcher.Performs stream run → run.failure = none →
      run.Delimits record) := by
  have again := PointRecord.read?_writeDocument found integral
  have echoes {bytes after : Bytes} (read : PointRecord.read? bytes = some (record, after))
      {stitcher : Stitcher} {run : Run} (performs : stitcher.Performs bytes run) :
      run.echo = some record := by
    rw [performs.echo_eq, StitchInput.ofStream, read]
  refine ⟨again, PointRecord.exists_document?_alike found integral, ?_, ?_, ?_⟩
  · intro stitcher run performs
    rw [echoes found performs, Option.map_some]
  · intro stitcher following run performs
    rw [echoes (again following) performs, Option.map_some]
  · intro stitcher run performs success
    obtain ⟨_, _, yields⟩ := performs.exists_yields success
    have output : run.output =
        writeDocument record ++ run.samples.written.flatMap Sample.encode := by
      rw [Run.output, echoes found performs]
      rfl
    refine ⟨output, ?_, ?_⟩
    · rw [output]
      exact again _
    · rw [length_flatMap_encode, yields.length_written found success]

/-- A record of three points that repeats names, beside the size and below it. -/
def labelledText : Bytes :=
  Text.bytes <| "\x7b\"a\":1.5, \"size\":3," ++
    "\"z\":[\x7b\"y\":1,\"x\":-2,\"y\":18446744073709551615\x7d],\"a\":null\x7d"

/-- The record, the points of the small horizon and one more byte. -/
def labelledStream : Bytes :=
  labelledText ++ (Stitch.pointBytes smallPoints ++ [7])

/-- What is read of the record.  Its double is gone, for another field of the same
name follows it. -/
def labelledRecord : PointRecord where
  size := 3
  extra := [
    ("a", .null),
    ("z", .list [.record [("x", .int (-2)), ("y", .int 18446744073709551615)]])]

theorem labelledStream_feeds :
    smallStitcher.Feeds smallTree.read labelledStream labelledRecord smallPoints where
  begins := ⟨[7], rfl⟩
  announced := rfl
  few := smallStitcher_feeds.few
  fits := smallStitcher_feeds.fits
  inside := smallStitcher_feeds.inside
  stored := smallStitcher_feeds.stored

/-- The greatest word is still found on its path, and a run on the small tree
writes the record in front of three samples. -/
theorem labelledRecord_echoed :
    PointRecord.read? (writeDocument labelledRecord ++ [1, 2, 3]) =
      some (labelledRecord, [1, 2, 3]) ∧
    (∃ written, Json.document? (writeDocument labelledRecord) = some written ∧
      (written.at? [.field "z", .item 0, .field "y"]).map Datum.head =
        some (.int 18446744073709551615)) ∧
    (((smallStitcher.runOn FileTree.host labelledStream).run smallTree).1.echo.map
      writeDocument = some (writeDocument labelledRecord)) ∧
    ((smallStitcher.runOn FileTree.host labelledStream).run smallTree).1.Delimits
      labelledRecord := by
  have found : PointRecord.read? labelledStream =
      some (labelledRecord, Stitch.pointBytes smallPoints ++ [7]) := rfl
  obtain ⟨again, ⟨datum, written, begins, document, alike⟩, echoes, _, delimits⟩ :=
    records_echoed found rfl
  have greatest : ((Json.read? labelledStream).bind fun found =>
      found.1.at? [.field "z", .item 0, .field "y"]) = some (.int 18446744073709551615) := rfl
  rw [begins, Option.bind_some] at greatest
  have success : ((smallStitcher.runOn FileTree.host labelledStream).run smallTree).1.failure =
      none := by
    obtain ⟨bins, binned, made⟩ := labelledStream_feeds.exists_bins
    rw [Stitcher.runOn_fileTree rfl, Stitcher.run, binned]
    exact (labelledStream_feeds.finish_writesAll made (List.Perm.refl bins)).succeeds
  refine ⟨again [1, 2, 3], ⟨written, document, ?_⟩, echoes _ _ (.onTree smallTree),
    delimits _ _ (.onTree smallTree) success⟩
  rw [alike, greatest]
  rfl

end SurveyCube
