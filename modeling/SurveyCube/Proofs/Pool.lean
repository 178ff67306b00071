import Mathlib.Data.List.Count
import Mathlib.Logic.Relation
import SurveyCube.Proofs.Groups
import SurveyCube.Proofs.Stitch
import SurveyCube.Proofs.WordGeometry
import SurveyCube.Stitch.Pool

/-!
# Workers that interleave

Whatever the order in which workers go on, the samples that were written belong
to points of the input, no point has more of them than it should, and in the
output the samples of one bin keep the order of the bin.

* `Numbering.Agrees` holds of a numbering that gives every point of the cube its
  own cell and number.  All numbers are alike then, whatever their arithmetic.
* `Stitcher.Tracks` ties the state of a worker to the samples of its bin that
  are in the output, and `Tracks.step` is one step of the worker.
* `Stitcher.Sound` says so for all bins at once, for the points whose samples
  were written.  It holds at the start, a step of any worker preserves it, and
  so it holds of every run.
-/

namespace SurveyCube

/-! ## Numberings -/

/-- Every point of the cube has its own cell, and the cell has the number of the point. -/
structure Numbering.Agrees (numbering : Numbering) (tiling : Tiling) : Prop where
  cellOf : ∀ p : CubePoint, p.Within tiling.cube →
    numbering.cellOf p = Shape.offset tiling.fragment (tiling.localOf p)
  numberOf : ∀ p : CubePoint, p.Within tiling.cube →
    numbering.numberOf (Shape.offset tiling.fragment (tiling.localOf p)) (tiling.rootOf p) =
      .ok (Shape.offset tiling.cube p)

theorem Tiling.unbounded_agrees (tiling : Tiling) : tiling.unbounded.Agrees tiling where
  cellOf _ _ := rfl
  numberOf _ inside := globalOffset_rootOf inside

/-- Words are enough for a cube and fragments whose cells can be counted. -/
theorem Tiling.FitsWords.agrees {tiling : Tiling} (fits : tiling.FitsWords) :
    tiling.inWords.Agrees tiling where
  cellOf p _ := Shape.wordOffset_eq fits.fragment (tiling.localOf_within p)
  numberOf _ inside := wordGlobalOffset_rootOf fits inside

namespace Numbering.Agrees

variable {numbering : Numbering} {tiling : Tiling}

theorem locate_eq (agrees : numbering.Agrees tiling) (p : CubePoint) (index : Nat) :
    numbering.locate tiling p index = PlacedPoint.locate tiling p index := by
  rw [locate, PlacedPoint.locate]
  by_cases inside : p.Within tiling.cube
  · rw [agrees.cellOf p inside]
  · have outside : tiling.fragmentOf p = .error (.pointOutsideCube p tiling.cube) := by
      rw [Tiling.fragmentOf, map_eq_error, Tiling.inside_eq_error]
      exact ⟨inside, rfl⟩
    rw [outside]
    rfl

theorem bins_eq (agrees : numbering.Agrees tiling) (points : List CubePoint) :
    numbering.bins tiling points = Bin.ofPoints tiling points := by
  simp only [bins, Bin.ofPoints, agrees.locate_eq]

end Numbering.Agrees

/-! ## Cells in a fragment -/

theorem count_valuesUnder {ν : Type} [DecidableEq ν] (entries : List (Triple × ν)) (k : Triple)
    (value : ν) : (valuesUnder entries k).count value = entries.count (k, value) := by
  induction entries with
  | nil => rfl
  | cons entry rest ih =>
      obtain ⟨key, found⟩ := entry
      rw [← List.singleton_append, valuesUnder_append, List.count_append, List.count_append, ih]
      by_cases same : key = k
      · subst same
        simp [valuesUnder, List.count_singleton]
      · simp [valuesUnder, same]

namespace Bin

variable {tiling : Tiling} {points kept : List CubePoint} {bins : List Bin}

/-- The cells of points in a fragment, in the order of the points. -/
def offsetsIn (tiling : Tiling) (points : List CubePoint) (id : FragmentId) : List Nat :=
  valuesUnder (points.map (entryOf tiling)) id

theorem offsetsIn_append_self (kept : List CubePoint) {p : CubePoint} {bin : Bin} {offset : Nat}
    (here : entryOf tiling p = (bin.key, offset)) :
    offsetsIn tiling (kept ++ [p]) bin.key = offsetsIn tiling kept bin.key ++ [offset] := by
  rw [offsetsIn, List.map_append, valuesUnder_append, List.map_singleton, here]
  simp [valuesUnder, offsetsIn]

theorem offsetsIn_append_of_ne (kept : List CubePoint) {p : CubePoint} {id : FragmentId}
    (elsewhere : (entryOf tiling p).1 ≠ id) :
    offsetsIn tiling (kept ++ [p]) id = offsetsIn tiling kept id := by
  rw [offsetsIn, List.map_append, valuesUnder_append, List.map_singleton]
  simp [valuesUnder, offsetsIn, elsewhere]

theorem count_offsetsIn (points : List CubePoint) (p : CubePoint) :
    (offsetsIn tiling points (entryOf tiling p).1).count (entryOf tiling p).2 = points.count p := by
  rw [offsetsIn, count_valuesUnder]
  exact List.count_map_of_injective points _ (entryOf_injective tiling) p

/-- Points are counted in the bins. -/
theorem count_offsets (made : ofPoints tiling points = .ok bins) {bin : Bin} (member : bin ∈ bins)
    {p : CubePoint} (root : (entryOf tiling p).1 = bin.key) :
    bin.offsets.count (entryOf tiling p).2 = points.count p := by
  have same := ((grouped made).values_perm member).count_eq (entryOf tiling p).2
  rw [same, ← root]
  exact count_offsetsIn points p

/-- Points that come first in every bin are among the points of the bins. -/
theorem subperm_of_prefixes (made : ofPoints tiling points = .ok bins)
    (among : ∀ p ∈ kept, p ∈ points)
    (front : ∀ bin ∈ bins, offsetsIn tiling kept bin.key <+: bin.offsets) :
    kept.Subperm points := by
  rw [List.subperm_ext_iff]
  intro p listed
  obtain ⟨bin, member, root⟩ := exists_bin made (among p listed)
  have fewer := (front bin member).sublist.count_le (entryOf tiling p).2
  rwa [count_offsets made member root, ← root, count_offsetsIn] at fewer

/-- Points that fill every bin are the points of the bins. -/
theorem perm_of_offsets (made : ofPoints tiling points = .ok bins)
    (among : ∀ p ∈ kept, p ∈ points)
    (full : ∀ bin ∈ bins, offsetsIn tiling kept bin.key = bin.offsets) : kept.Perm points := by
  have fewer := subperm_of_prefixes made among fun bin member =>
    ⟨[], by rw [List.append_nil, full bin member]⟩
  refine fewer.antisymm ?_
  rw [List.subperm_ext_iff]
  intro p listed
  obtain ⟨bin, member, root⟩ := exists_bin made listed
  have same := count_offsets made member root
  rw [← full bin member, ← root, count_offsetsIn] at same
  exact Nat.le_of_eq same.symm

end Bin

namespace Stitcher

variable {stitcher : Stitcher} {numbering : Numbering} {files : Files}
  {points kept : List CubePoint} {bins : List Bin}

/-! ## Faults -/

/-- The file of the fragment of a point is missing, or it cannot be opened, or it ends
before the cell of the point, and the fault says so. -/
def Blames (stitcher : Stitcher) (files : Files) (p : CubePoint) (fault : Fault) : Prop :=
  (files (stitcher.location (stitcher.tiling.rootOf p)) = .error .missing ∧
    fault = .fragmentNotFound (stitcher.location (stitcher.tiling.rootOf p))) ∨
  (files (stitcher.location (stitcher.tiling.rootOf p)) = .error .unusable ∧
    fault = .io .unusable) ∨
  (∃ content, files (stitcher.location (stitcher.tiling.rootOf p)) = .ok content ∧
    content.length < 4 * (Shape.offset stitcher.tiling.fragment (stitcher.tiling.localOf p) + 1) ∧
    fault = .cellPastEnd (Shape.offset stitcher.tiling.fragment (stitcher.tiling.localOf p))
      content.length)

theorem Blames.not_stores {p : CubePoint} {fault : Fault} (blames : stitcher.Blames files p fault) :
    ¬ stitcher.Stores files p := by
  rintro ⟨content, found, enough⟩
  rcases blames with ⟨missing, _⟩ | ⟨unusable, _⟩ | ⟨other, again, short, _⟩
  · rw [missing] at found
    cases found
  · rw [unusable] at found
    cases found
  · rw [again] at found
    cases found
    omega

theorem readCell_toArray_short {content : Bytes} {cell : Nat}
    (short : content.length < 4 * (cell + 1)) :
    Sample.readCell content.toArray cell = .error (.cellPastEnd cell content.length) := by
  have past : ¬ cell * Sample.cellSize + Sample.cellSize ≤ content.toArray.size := by
    rw [List.size_toArray, Sample.cellSize]
    omega
  rw [Sample.readCell, if_neg past, List.size_toArray]

/-- Numberings that agree read the same sample of the cell of a point. -/
theorem sample_eq (agrees : numbering.Agrees stitcher.tiling) {p : CubePoint}
    (inside : p.Within stitcher.tiling.cube) (file : Array UInt8) :
    numbering.sample file (Bin.entryOf stitcher.tiling p).1 (Bin.entryOf stitcher.tiling p).2 =
      stitcher.sample file (Bin.entryOf stitcher.tiling p).1
        (Bin.entryOf stitcher.tiling p).2 := by
  have number := agrees.numberOf p inside
  have same := Tiling.globalOffset_rootOf inside
  simp only [Numbering.sample, sample, Bin.entryOf, number, same]

/-- In a file that exists the cell of a point is read, or the file is too short for it. -/
theorem sample_cases (agrees : numbering.Agrees stitcher.tiling) {p : CubePoint}
    (inside : p.Within stitcher.tiling.cube) {content : Bytes}
    (found : files (stitcher.location (Bin.entryOf stitcher.tiling p).1) = .ok content) :
    (stitcher.Stores files p ∧
      numbering.sample content.toArray (Bin.entryOf stitcher.tiling p).1
          (Bin.entryOf stitcher.tiling p).2 =
        .ok (stitcher.cellSample files (Bin.entryOf stitcher.tiling p))) ∨
    (∃ fault, stitcher.Blames files p fault ∧
      numbering.sample content.toArray (Bin.entryOf stitcher.tiling p).1
        (Bin.entryOf stitcher.tiling p).2 = .error fault) := by
  rw [sample_eq agrees inside]
  by_cases enough : 4 * ((Bin.entryOf stitcher.tiling p).2 + 1) ≤ content.length
  · have stored : stitcher.Stores files p := ⟨content, found, enough⟩
    obtain ⟨same, again, read⟩ := sample_entryOf inside stored
    rw [found] at again
    cases again
    exact Or.inl ⟨stored, read⟩
  · have short := Nat.lt_of_not_le enough
    refine Or.inr ⟨_, Or.inr (Or.inr ⟨content, found, short, rfl⟩), ?_⟩
    rw [sample, readCell_toArray_short short]
    rfl

/-! ## One worker -/

/-- What a worker may do. -/
inductive Works (stitcher : Stitcher) (numbering : Numbering) (files : Files) (bin : Bin) :
    Progress → Progress → List Sample → Prop
  | opens {content : Bytes} (found : files (stitcher.location bin.key) = .ok content) :
      Works stitcher numbering files bin .waiting (.reading content.toArray bin.offsets) []
  | misses (missing : files (stitcher.location bin.key) = .error .missing) :
      Works stitcher numbering files bin .waiting
        (.stopped (.fragmentNotFound (stitcher.location bin.key))) []
  | refuses (unusable : files (stitcher.location bin.key) = .error .unusable) :
      Works stitcher numbering files bin .waiting (.stopped (.io .unusable)) []
  | closes (file : Array UInt8) : Works stitcher numbering files bin (.reading file []) .finished []
  | writes {file : Array UInt8} {cell : Nat} {sample : Sample} (rest : List Nat)
      (read : numbering.sample file bin.key cell = .ok sample) :
      Works stitcher numbering files bin (.reading file (cell :: rest)) (.reading file rest)
        [sample]
  | stops {file : Array UInt8} {cell : Nat} {fault : Fault} (rest : List Nat)
      (failed : numbering.sample file bin.key cell = .error fault) :
      Works stitcher numbering files bin (.reading file (cell :: rest)) (.stopped fault) []

theorem works_of_work {bin : Bin} {progress next : Progress} {samples : List Sample}
    (worked : stitcher.work numbering files bin progress = some (next, samples)) :
    stitcher.Works numbering files bin progress next samples := by
  cases progress with
  | waiting =>
      cases content : files (stitcher.location bin.key) with
      | ok bytes =>
          simp only [work, content] at worked
          cases worked
          exact .opens content
      | error cause =>
          cases cause with
          | missing =>
              simp only [work, content] at worked
              cases worked
              exact .misses content
          | unusable =>
              simp only [work, content] at worked
              cases worked
              exact .refuses content
  | reading file cells =>
      cases cells with
      | nil =>
          cases worked
          exact .closes file
      | cons cell rest =>
          cases read : numbering.sample file bin.key cell with
          | ok sample =>
              simp only [work, read] at worked
              cases worked
              exact .writes rest read
          | error fault =>
              simp only [work, read] at worked
              cases worked
              exact .stops rest read
  | finished => cases worked
  | stopped fault => cases worked

/-- The state of the work on a bin, given the cells whose samples were written. -/
inductive Tracks (stitcher : Stitcher) (files : Files) (points : List CubePoint) (bin : Bin)
    (cells : List Nat) : Progress → Prop
  | waiting (nothing : cells = []) : Tracks stitcher files points bin cells .waiting
  | reading {content : Bytes} {left : List Nat}
      (found : files (stitcher.location bin.key) = .ok content)
      (split : bin.offsets = cells ++ left) :
      Tracks stitcher files points bin cells (.reading content.toArray left)
  | finished (all : cells = bin.offsets) : Tracks stitcher files points bin cells .finished
  | stopped {fault : Fault} (front : cells <+: bin.offsets)
      (cause : ∃ p ∈ points, stitcher.Blames files p fault) :
      Tracks stitcher files points bin cells (.stopped fault)

/-- The next cell of a bin is the cell of a point. -/
theorem exists_point_of_split (made : Bin.ofPoints stitcher.tiling points = .ok bins) {bin : Bin}
    (member : bin ∈ bins) {cells rest : List Nat} {cell : Nat}
    (split : bin.offsets = cells ++ cell :: rest) :
    ∃ p ∈ points, Bin.entryOf stitcher.tiling p = (bin.key, cell) := by
  apply Bin.exists_point made member
  rw [split]
  exact List.mem_append_right cells List.mem_cons_self

theorem Tracks.front {bin : Bin} {cells : List Nat} {progress : Progress}
    (tracks : stitcher.Tracks files points bin cells progress) : cells <+: bin.offsets := by
  cases tracks with
  | waiting nothing =>
      rw [nothing]
      exact List.nil_prefix
  | reading _ split => exact ⟨_, split.symm⟩
  | finished all => exact ⟨[], by rw [List.append_nil, all]⟩
  | stopped front _ => exact front

/-- One step of a worker: it writes nothing, or it writes the sample of a point in
its bin. -/
theorem Tracks.step (made : Bin.ofPoints stitcher.tiling points = .ok bins)
    (agrees : numbering.Agrees stitcher.tiling) {bin : Bin} (member : bin ∈ bins)
    {cells : List Nat} {progress next : Progress} {samples : List Sample}
    (tracks : stitcher.Tracks files points bin cells progress)
    (works : stitcher.Works numbering files bin progress next samples) :
    (samples = [] ∧ stitcher.Tracks files points bin cells next) ∨
    (∃ p ∈ points, ∃ offset, Bin.entryOf stitcher.tiling p = (bin.key, offset) ∧
      stitcher.Stores files p ∧
      samples = [stitcher.cellSample files (Bin.entryOf stitcher.tiling p)] ∧
      stitcher.Tracks files points bin (cells ++ [offset]) next) := by
  have within := (Bin.ofPoints_eq_ok.mp made).1
  -- No bin is empty, so that its fragment is that of a point.
  obtain ⟨first, filled⟩ := List.exists_mem_of_ne_nil _ (Bin.offsets_ne_nil made member)
  obtain ⟨p, listed, same⟩ := Bin.exists_point made member filled
  have root : stitcher.tiling.rootOf p = bin.key := (Prod.mk.inj same).1
  cases works with
  | opens found =>
      cases tracks with
      | waiting nothing =>
          subst nothing
          exact Or.inl ⟨rfl, .reading found rfl⟩
  | misses missing =>
      cases tracks with
      | waiting nothing =>
          subst nothing
          rw [← root] at missing ⊢
          exact Or.inl ⟨rfl, .stopped List.nil_prefix ⟨p, listed, Or.inl ⟨missing, rfl⟩⟩⟩
  | refuses unusable =>
      cases tracks with
      | waiting nothing =>
          subst nothing
          rw [← root] at unusable
          exact Or.inl ⟨rfl, .stopped List.nil_prefix
            ⟨p, listed, Or.inr (Or.inl ⟨unusable, rfl⟩)⟩⟩
  | closes file =>
      cases tracks with
      | reading _ split =>
          rw [List.append_nil] at split
          exact Or.inl ⟨rfl, .finished split.symm⟩
  | @writes _ cell sample rest read =>
      cases tracks with
      | @reading content _ found split =>
          obtain ⟨q, further, place⟩ := exists_point_of_split made member split
          rcases sample_cases agrees (within q further) (by rw [place]; exact found) with
            ⟨stored, again⟩ | ⟨fault, _, failed⟩
          · rw [place] at again
            cases read.symm.trans again
            refine Or.inr ⟨q, further, cell, place, stored, by rw [place], .reading found ?_⟩
            rw [split, List.append_assoc, List.singleton_append]
          · rw [place] at failed
            cases read.symm.trans failed
  | @stops _ cell fault rest failed =>
      cases tracks with
      | @reading content _ found split =>
          obtain ⟨q, further, place⟩ := exists_point_of_split made member split
          rcases sample_cases agrees (within q further) (by rw [place]; exact found) with
            ⟨_, read⟩ | ⟨cause, blames, again⟩
          · rw [place] at read
            cases failed.symm.trans read
          · rw [place] at again
            cases failed.symm.trans again
            exact Or.inl ⟨rfl, .stopped ⟨_, split.symm⟩ ⟨q, further, blames⟩⟩

/-! ## All workers -/

/-- The samples that were written are those of certain points, and every worker is
where these samples leave it. -/
structure Sound (stitcher : Stitcher) (files : Files) (points : List CubePoint)
    (bins : List Bin) (pool : Pool) (kept : List CubePoint) : Prop where
  bins : pool.workers.map Prod.fst = bins
  written : pool.written = kept.map fun p =>
    stitcher.cellSample files (Bin.entryOf stitcher.tiling p)
  stored : ∀ p ∈ kept, p ∈ points ∧ stitcher.Stores files p
  tracked : ∀ worker ∈ pool.workers, stitcher.Tracks files points worker.1
    (Bin.offsetsIn stitcher.tiling kept worker.1.key) worker.2

namespace Sound

variable {pool next : Pool}

theorem start (stitcher : Stitcher) (files : Files) (points : List CubePoint) (bins : List Bin) :
    stitcher.Sound files points bins (.start bins) [] where
  bins := by
    rw [Pool.start, List.map_map]
    exact List.map_id bins
  written := rfl
  stored _ absent := absurd absent List.not_mem_nil
  tracked := by
    intro worker member
    obtain ⟨bin, _, rfl⟩ := List.mem_map.mp member
    exact .waiting rfl

/-- A step of any worker writes the sample of one more point, or none. -/
theorem step (made : Bin.ofPoints stitcher.tiling points = .ok bins)
    (agrees : numbering.Agrees stitcher.tiling)
    (sound : stitcher.Sound files points bins pool kept)
    (step : stitcher.Step numbering files pool next) :
    ∃ more, stitcher.Sound files points bins next (kept ++ more) := by
  obtain @⟨bin, progress, after, samples, worked, front, back, written⟩ := step
  have listed := sound.bins
  simp only [List.map_append, List.map_cons] at listed
  have member : bin ∈ bins := by
    rw [← listed]
    exact List.mem_append_right _ List.mem_cons_self
  -- The fragments of the bins are distinct, so that one worker only is concerned.
  have distinct := Triple.nodup_of_ascending (Bin.keys_ascending made)
  rw [← listed, List.map_append, List.map_cons, List.perm_middle.nodup_iff] at distinct
  have other (worker : Bin × Progress) (present : worker ∈ front ++ back) :
      bin.key ≠ worker.1.key := by
    intro same
    apply (List.nodup_cons.mp distinct).1
    rw [same, ← List.map_append, ← List.map_append]
    exact List.mem_map_of_mem (List.mem_map_of_mem present)
  have here := sound.tracked (bin, progress) (List.mem_append_right _ List.mem_cons_self)
  have elsewhere (worker : Bin × Progress) (present : worker ∈ front ++ back) :
      worker ∈ front ++ (bin, progress) :: back := by
    rw [List.mem_append] at present ⊢
    exact present.imp_right (List.mem_cons_of_mem _)
  have moved (worker : Bin × Progress) (present : worker ∈ front ++ (bin, after) :: back) :
      worker = (bin, after) ∨ worker ∈ front ++ back := by
    rw [List.mem_append, List.mem_cons] at present
    rw [List.mem_append]
    tauto
  rcases here.step made agrees member (works_of_work worked) with
    ⟨rfl, tracks⟩ | ⟨p, inside, offset, place, stored, rfl, tracks⟩
  · refine ⟨[], ?_⟩
    simp only [List.append_nil]
    refine ⟨by simpa using listed, sound.written, sound.stored, ?_⟩
    intro worker present
    rcases moved worker present with rfl | present
    · exact tracks
    · exact sound.tracked worker (elsewhere worker present)
  · refine ⟨[p], by simpa using listed, ?_, ?_, ?_⟩
    · have earlier := sound.written
      simp only at earlier
      rw [List.map_append, ← earlier]
      rfl
    · intro q present
      rw [List.mem_append, List.mem_singleton] at present
      rcases present with present | rfl
      · exact sound.stored q present
      · exact ⟨inside, stored⟩
    · intro worker present
      rcases moved worker present with rfl | present
      · rw [Bin.offsetsIn_append_self kept place]
        exact tracks
      · have differs := other worker present
        rw [Bin.offsetsIn_append_of_ne kept (by rw [place]; exact differs)]
        exact sound.tracked worker (elsewhere worker present)

/-- What holds at the start of the work and after every step holds of any run. -/
theorem steps (made : Bin.ofPoints stitcher.tiling points = .ok bins)
    (agrees : numbering.Agrees stitcher.tiling)
    (steps : Relation.ReflTransGen (stitcher.Step numbering files) (.start bins) pool) :
    ∃ kept, stitcher.Sound files points bins pool kept := by
  induction steps with
  | refl => exact ⟨[], start stitcher files points bins⟩
  | tail _ last ih =>
      obtain ⟨kept, sound⟩ := ih
      obtain ⟨more, next⟩ := sound.step made agrees last
      exact ⟨kept ++ more, next⟩

theorem front (sound : stitcher.Sound files points bins pool kept) {bin : Bin}
    (member : bin ∈ bins) : Bin.offsetsIn stitcher.tiling kept bin.key <+: bin.offsets := by
  rw [← sound.bins] at member
  obtain ⟨worker, present, rfl⟩ := List.mem_map.mp member
  exact (sound.tracked worker present).front

end Sound

/-! ## The work comes to an end -/

/-- The number of steps that are left on a bin. -/
def stepsLeft (worker : Bin × Progress) : Nat :=
  match worker.2 with
  | .waiting => worker.1.offsets.length + 2
  | .reading _ cells => cells.length + 1
  | .finished | .stopped _ => 0

theorem Works.stepsLeft_lt {bin : Bin} {progress next : Progress} {samples : List Sample}
    (works : stitcher.Works numbering files bin progress next samples) :
    stepsLeft (bin, next) < stepsLeft (bin, progress) := by
  cases works <;> simp [stepsLeft]

/-- Nobody can go on without end. -/
theorem step_wellFounded (stitcher : Stitcher) (numbering : Numbering) (files : Files) :
    WellFounded fun next pool => stitcher.Step numbering files pool next := by
  have fewer : Subrelation (fun next pool => stitcher.Step numbering files pool next)
      (InvImage (· < ·) fun pool : Pool => (pool.workers.map stepsLeft).sum) := by
    intro next pool step
    obtain @⟨bin, progress, after, samples, worked, front, back, written⟩ := step
    have less := (works_of_work worked).stepsLeft_lt
    simp only [InvImage, List.map_append, List.map_cons, List.sum_append, List.sum_cons]
    omega
  exact fewer.wf (InvImage.wf _ Nat.lt_wfRel.wf)

theorem work_eq_none {bin : Bin} {progress : Progress}
    (idle : stitcher.work numbering files bin progress = none) :
    progress = .finished ∨ ∃ fault, progress = .stopped fault := by
  cases progress with
  | waiting =>
      simp only [work] at idle
      split at idle <;> cases idle
  | reading file cells =>
      cases cells with
      | nil => cases idle
      | cons cell rest =>
          simp only [work] at idle
          split at idle <;> cases idle
  | finished => exact Or.inl rfl
  | stopped fault => exact Or.inr ⟨fault, rfl⟩

/-- Where nobody can go on the work is over. -/
theorem exists_step_or_ends
    (stitcher : Stitcher) (numbering : Numbering) (files : Files) (pool : Pool) :
    (∃ next, stitcher.Step numbering files pool next) ∨ ∃ failure, pool.Ends failure := by
  by_cases busy : ∃ worker ∈ pool.workers, stitcher.work numbering files worker.1 worker.2 ≠ none
  · left
    obtain ⟨⟨bin, progress⟩, present, worked⟩ := busy
    obtain ⟨⟨next, samples⟩, worked⟩ := Option.ne_none_iff_exists'.mp worked
    obtain ⟨front, back, split⟩ := List.append_of_mem present
    obtain ⟨workers, written⟩ := pool
    simp only at split
    rw [split]
    exact ⟨_, .mk worked front back written⟩
  right
  have idle (worker : Bin × Progress) (present : worker ∈ pool.workers) :
      worker.2 = .finished ∨ ∃ fault, worker.2 = .stopped fault := by
    have none : stitcher.work numbering files worker.1 worker.2 = none := by
      by_contra worked
      exact busy ⟨worker, present, worked⟩
    exact work_eq_none none
  by_cases stopped : ∃ worker ∈ pool.workers, ∃ fault, worker.2 = .stopped fault
  · obtain ⟨worker, present, fault, last⟩ := stopped
    refine ⟨some fault, .failure ?_ ⟨worker, present, last⟩⟩
    intro other member file cells reading
    rcases idle other member with done | ⟨_, done⟩
    · rw [done] at reading
      cases reading
    · rw [done] at reading
      cases reading
  · refine ⟨none, .success ?_⟩
    intro worker present
    rcases idle worker present with done | ⟨fault, last⟩
    · exact done
    · exact absurd ⟨worker, present, fault, last⟩ stopped

/-- From anywhere the work can be brought to an end. -/
theorem exists_ends
    (stitcher : Stitcher) (numbering : Numbering) (files : Files) (pool : Pool) :
    ∃ last failure, Relation.ReflTransGen (stitcher.Step numbering files) pool last ∧
      last.Ends failure := by
  induction pool using (step_wellFounded stitcher numbering files).induction with
  | _ pool ih =>
      rcases exists_step_or_ends stitcher numbering files pool with
        ⟨next, step⟩ | ⟨failure, ends⟩
      · obtain ⟨last, failure, steps, ends⟩ := ih next step
        exact ⟨last, failure, .head step steps, ends⟩
      · exact ⟨pool, failure, .refl, ends⟩

end Stitcher

end SurveyCube
