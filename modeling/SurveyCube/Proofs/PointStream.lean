import SurveyCube.Proofs.Need
import SurveyCube.Proofs.Point

/-!
# Points in any byte string

Reading so many points from a byte string needs three things, and looks for them in this order:
a word counts the bytes of the points, the bytes are there, and no coordinate has its sign bit
set.

* `Stitch.pointNeeds` lists the needs, and they decide over the outcome.
* The points that are read are written as the bytes that they were read from.
* Points that are written are read, whatever bytes follow them.
-/

namespace SurveyCube.Stitch

variable {bytes : Bytes} {count : Nat}

/-! ## Sign bits -/

/-- The word of four bytes at a position of a point stream. -/
def wordAt (bytes : Bytes) (i : Nat) : Nat :=
  Bytes.ofLittleEndian ((bytes.drop (4 * i)).take 4)

/-- The word at a position of a point stream has its sign bit set. -/
def HasSignBit (bytes : Bytes) (i : Nat) : Prop :=
  (wordAt bytes i).testBit 31 = true

theorem wordAt_lt (bytes : Bytes) (i : Nat) : wordAt bytes i < 2 ^ 32 := by
  have below := Bytes.ofLittleEndian_lt ((bytes.drop (4 * i)).take 4)
  have four : ((bytes.drop (4 * i)).take 4).length ≤ 4 := List.length_take_le 4 _
  exact Nat.lt_of_lt_of_le below (Nat.pow_le_pow_right (by decide) four)

theorem signedWord_neg_iff {i : Nat} : signedWord bytes i < 0 ↔ HasSignBit bytes i := by
  have word : signedWord bytes i = Bytes.signed 4 (wordAt bytes i) := rfl
  have below := wordAt_lt bytes i
  rw [HasSignBit, Nat.testBit_eq_decide_div_mod_eq, decide_eq_true_iff, word, Bytes.signed]
  split <;> omega

/-! ## Reading -/

/-- What reading so many points from a byte string needs, in the order in which it is
looked for. -/
def pointNeeds (bytes : Bytes) (count : Nat) : List Need := [
  .ofKind (12 * count < wordLimit) .overflow,
  .ofKind (12 * count ≤ bytes.length) .invalidArgument,
  .ofKind (∀ i < 3 * count, ¬ HasSignBit bytes i) .outOfRange]

theorem readPoints_eq (bytes : Bytes) (count : Nat) :
    readPoints bytes count =
      if wordLimit ≤ 12 * count then .error (.tooManyPoints count)
      else if bytes.length < 12 * count then .error (.shortPoints (12 * count) bytes.length)
      else points count bytes := by
  rw [readPoints, show count * pointSize = 12 * count from Nat.mul_comm count 12]

/-- Enough bytes are points, or one of their words has its sign bit set. -/
theorem points_governed (enough : 12 * count ≤ bytes.length) :
    Governs [.ofKind (∀ i < 3 * count, ¬ HasSignBit bytes i) .outOfRange] (points count bytes) := by
  rw [Nat.mul_comm] at enough
  rcases points_cases enough with ⟨_, read, _, _, _, positive⟩ | ⟨i, inside, negative, failed⟩
  · refine (Governs.of_eq_ok read).after ?_
    intro i inside sign
    exact Int.not_lt.mpr (positive i inside) (signedWord_neg_iff.mpr sign)
  · have unmet : ¬ ∀ i < 3 * count, ¬ HasSignBit bytes i :=
      fun none => none i inside (signedWord_neg_iff.mp negative)
    exact Governs.of_unmet unmet ⟨_, failed, rfl⟩

theorem readPoints_governed (bytes : Bytes) (count : Nat) :
    Governs (pointNeeds bytes count) (readPoints bytes count) := by
  rw [readPoints_eq]
  split
  · rename_i tooMany
    exact Governs.of_unmet (Nat.not_lt.mpr tooMany) ⟨_, rfl, rfl⟩
  · rename_i few
    refine Governs.after ?_ (Nat.not_le.mp few)
    split
    · rename_i short
      exact Governs.of_unmet (Nat.not_le.mpr short) ⟨_, rfl, rfl⟩
    · rename_i enough
      exact (points_governed (Nat.not_lt.mp enough)).after (Nat.not_lt.mp enough)

theorem readPoints_eq_ok {items : List CubePoint} :
    readPoints bytes count = .ok items ↔
      12 * count < wordLimit ∧ 12 * count ≤ bytes.length ∧ points count bytes = .ok items := by
  rw [readPoints_eq]
  split
  · rename_i tooMany
    simp [Nat.not_lt.mpr tooMany]
  · split
    · rename_i short
      simp [Nat.not_le.mpr short]
    · rename_i few enough
      simp [Nat.not_le.mp few, Nat.not_lt.mp enough]

/-- The points that are read are the first bytes in another form. -/
theorem pointBytes_of_points {items : List CubePoint} (enough : 12 * count ≤ bytes.length)
    (read : points count bytes = .ok items) : pointBytes items = bytes.take (12 * count) := by
  rw [Nat.mul_comm] at enough ⊢
  rcases points_cases enough with ⟨_, found, _, _, back, _⟩ | ⟨_, _, _, failed⟩
  · rw [found] at read
    cases read
    exact back
  · rw [failed] at read
    cases read

/-! ## Writing -/

/-- Bytes after the points are not looked at. -/
theorem points_append {front : Bytes} (enough : count * pointSize ≤ front.length) (rest : Bytes) :
    points count (front ++ rest) = points count front := by
  induction count generalizing front with
  | zero => rfl
  | succ count ih =>
      rw [Nat.succ_mul] at enough
      have here : pointSize ≤ front.length := Nat.le_trans (Nat.le_add_left _ _) enough
      have later : count * pointSize ≤ (front.drop pointSize).length := by
        rw [List.length_drop]
        omega
      rw [points, points, List.take_append_of_le_length here, List.drop_append_of_le_length here,
        ih later]

/-- Points are read back in front of any bytes if a word counts their own bytes. -/
theorem readPoints_pointBytes_append {items : List CubePoint}
    (fits : ∀ p ∈ items, FitsPoint p) (rest : Bytes) :
    readPoints (pointBytes items ++ rest) items.length = .ok items ↔
      12 * items.length < wordLimit := by
  have length : (pointBytes items).length = 12 * items.length := by
    rw [length_pointBytes]
    exact Nat.mul_comm _ 12
  have enough : 12 * items.length ≤ (pointBytes items ++ rest).length := by
    rw [List.length_append, length]
    exact Nat.le_add_right _ _
  have read : points items.length (pointBytes items ++ rest) = .ok items := by
    rw [points_append (Nat.le_of_eq (length_pointBytes items).symm), points_pointBytes fits]
  rw [readPoints_eq_ok, and_iff_left ⟨enough, read⟩]

/-! ## Main result -/

/-- Reading points fails with an overflow, an invalid argument or a number out of range,
whichever of the needs is the first that is not met, and otherwise gives so many points whose
own bytes are the first of those that were read.  Points with coordinates below `2 ^ 31` are
read back from their bytes, whatever follows, if a word counts the bytes at all. -/
theorem points_read_and_written :
    (∀ (bytes : Bytes) (count : Nat),
      Governs (pointNeeds bytes count) (readPoints bytes count) ∧
      ∀ items, readPoints bytes count = .ok items →
        items.length = count ∧ pointBytes items = bytes.take (12 * count)) ∧
    ∀ (items : List CubePoint) (rest : Bytes), (∀ p ∈ items, FitsPoint p) →
      (readPoints (pointBytes items ++ rest) items.length = .ok items ↔
        12 * items.length < wordLimit) := by
  constructor
  · intro bytes count
    refine ⟨readPoints_governed bytes count, ?_⟩
    intro items read
    obtain ⟨_, enough, found⟩ := readPoints_eq_ok.mp read
    exact ⟨length_of_points found, pointBytes_of_points enough found⟩
  · intro items rest fits
    exact readPoints_pointBytes_append fits rest

/-- The bytes of a point with a coordinate below zero. -/
def negativeStream : Bytes :=
  [0, 0, 0, 0, 0xff, 0xff, 0xff, 0xff, 0, 0, 0, 0]

/-- Two points are read in front of a byte that belongs to neither.  Bytes that are enough for
a point are refused for a sign bit, and for their number if two points are asked for. -/
theorem small_streams_read_and_written :
    readPoints (pointBytes [⟨1, 2, 3⟩, ⟨0, 0, 70000⟩] ++ [0xff]) 2 =
      .ok [⟨1, 2, 3⟩, ⟨0, 0, 70000⟩] ∧
    (readPoints negativeStream 1 = .error (.negativeCoordinate (-1)) ∧
      FirstUnmet (.negativeCoordinate (-1)) (pointNeeds negativeStream 1)) ∧
    readPoints negativeStream 2 = .error (.shortPoints 24 12) ∧
      FirstUnmet (.shortPoints 24 12) (pointNeeds negativeStream 2) := by
  obtain ⟨reads, writes⟩ := points_read_and_written
  have fits : ∀ p ∈ ([⟨1, 2, 3⟩, ⟨0, 0, 70000⟩] : List CubePoint), FitsPoint p := by
    simp [FitsPoint]
  have signed : readPoints negativeStream 1 = .error (.negativeCoordinate (-1)) := by decide
  have short : readPoints negativeStream 2 = .error (.shortPoints 24 12) := by decide
  refine ⟨(writes _ [0xff] fits).mpr (by decide), ⟨signed, ?_⟩, short, ?_⟩
  · exact (reads negativeStream 1).1.blames_first _ signed
  · exact (reads negativeStream 2).1.blames_first _ short

end SurveyCube.Stitch
