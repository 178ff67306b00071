import SurveyCube.Stitch.Run
import SurveyCube.Proofs.Outcome

/-!
# Points and cells are words of bytes

* Bytes that are read as a word and written as a word come back.
* A coordinate that fits a signed word is read back from its bytes, and so are
  points, one after the other.
* A stream of a record, its points and anything else is an input of that record
  and those points.
-/

namespace SurveyCube

/-! ## Words -/

namespace Bytes

theorem ofLittleEndian_lt (bytes : Bytes) : ofLittleEndian bytes < 256 ^ bytes.length := by
  induction bytes with
  | nil => decide
  | cons byte rest ih =>
      have low : byte.toNat < 256 := byte.toNat_lt
      rw [ofLittleEndian, List.length_cons, Nat.pow_succ]
      omega

theorem littleEndian_ofLittleEndian (bytes : Bytes) :
    littleEndian bytes.length (ofLittleEndian bytes) = bytes := by
  induction bytes with
  | nil => rfl
  | cons byte rest ih =>
      have low : byte.toNat < 256 := byte.toNat_lt
      have first : (byte.toNat + 256 * ofLittleEndian rest) % 256 = byte.toNat := by
        omega
      have later : (byte.toNat + 256 * ofLittleEndian rest) / 256 = ofLittleEndian rest := by
        omega
      rw [ofLittleEndian, List.length_cons, littleEndian, first, later, ih, UInt8.ofNat_toNat]

end Bytes

/-! ## Points -/

namespace Stitch

/-- The coordinates of a point fit signed words of four bytes. -/
def FitsPoint (p : CubePoint) : Prop :=
  p.x < 2 ^ 31 ∧ p.y < 2 ^ 31 ∧ p.z < 2 ^ 31

theorem coordinate_littleEndian {n : Nat} (fits : n < 2 ^ 31) :
    coordinate (Bytes.littleEndian 4 n) = .ok n := by
  have word : n < 256 ^ 4 := Nat.lt_trans fits (by decide)
  have positive : Bytes.signed 4 n = Int.ofNat n := if_pos fits
  rw [coordinate, Bytes.ofLittleEndian_littleEndian word, positive]

/-- The bytes of one point. -/
def bytesOf (p : CubePoint) : Bytes :=
  p.toList.flatMap (Bytes.littleEndian 4)

theorem length_bytesOf (p : CubePoint) : (bytesOf p).length = pointSize := by
  simp [bytesOf, Triple.toList, pointSize]

theorem length_pointBytes (items : List CubePoint) :
    (pointBytes items).length = items.length * pointSize := by
  induction items with
  | nil => rfl
  | cons p rest ih =>
      have size := length_bytesOf p
      rw [pointBytes, List.flatMap_cons, List.length_append, ← pointBytes, ih, ← bytesOf, size,
        List.length_cons, Nat.succ_mul, Nat.add_comm]

theorem point_bytesOf {p : CubePoint} (fits : FitsPoint p) : point (bytesOf p) = .ok p := by
  obtain ⟨fitsX, fitsY, fitsZ⟩ := fits
  have whole : bytesOf p = Bytes.littleEndian 4 p.x ++ (Bytes.littleEndian 4 p.y ++
      Bytes.littleEndian 4 p.z) := by
    simp [bytesOf, Triple.toList]
  have first : (bytesOf p).take 4 = Bytes.littleEndian 4 p.x := by
    rw [whole, List.take_left' (Bytes.length_littleEndian 4 p.x)]
  have afterFirst : (bytesOf p).drop 4 = Bytes.littleEndian 4 p.y ++ Bytes.littleEndian 4 p.z := by
    rw [whole, List.drop_left' (Bytes.length_littleEndian 4 p.x)]
  have second : ((bytesOf p).drop 4).take 4 = Bytes.littleEndian 4 p.y := by
    rw [afterFirst, List.take_left' (Bytes.length_littleEndian 4 p.y)]
  have afterSecond : (bytesOf p).drop 8 = Bytes.littleEndian 4 p.z := by
    rw [show 8 = 4 + 4 from rfl, ← List.drop_drop, afterFirst,
      List.drop_left' (Bytes.length_littleEndian 4 p.y)]
  have third : ((bytesOf p).drop 8).take 4 = Bytes.littleEndian 4 p.z := by
    rw [afterSecond, List.take_of_length_le (Nat.le_of_eq (Bytes.length_littleEndian 4 p.z))]
  rw [point, first, second, third, coordinate_littleEndian fitsX, coordinate_littleEndian fitsY,
    coordinate_littleEndian fitsZ]
  rfl

/-- Points that fit are read back one after the other. -/
theorem points_pointBytes
    {items : List CubePoint} (fits : ∀ p ∈ items, FitsPoint p) :
    points items.length (pointBytes items) = .ok items := by
  induction items with
  | nil => rfl
  | cons p rest ih =>
      rw [List.forall_mem_cons] at fits
      have whole : pointBytes (p :: rest) = bytesOf p ++ pointBytes rest := List.flatMap_cons
      have first := point_bytesOf fits.1
      have later := ih fits.2
      rw [List.length_cons, points, whole, List.take_left' (length_bytesOf p),
        List.drop_left' (length_bytesOf p), first, later]
      rfl

theorem readPoints_pointBytes
    {items : List CubePoint} (fits : ∀ p ∈ items, FitsPoint p)
    (few : items.length * pointSize < wordLimit) :
    readPoints (pointBytes items) items.length = .ok items := by
  have enough : ¬ (pointBytes items).length < items.length * pointSize := by
    rw [length_pointBytes]
    exact Nat.lt_irrefl _
  rw [readPoints, if_neg (Nat.not_le_of_lt few), if_neg enough]
  exact points_pointBytes fits

/-! ### Any bytes -/

/-- The signed word at a position of a point stream. -/
def signedWord (bytes : Bytes) (i : Nat) : Int :=
  Bytes.signed 4 (Bytes.ofLittleEndian ((bytes.drop (4 * i)).take 4))

theorem signedWord_drop (bytes : Bytes) (n i : Nat) :
    signedWord (bytes.drop (4 * n)) i = signedWord bytes (n + i) := by
  rw [signedWord, List.drop_drop, ← Nat.mul_add, signedWord]

theorem signedWord_take {bytes : Bytes} {n i : Nat} (inside : i < n) :
    signedWord (bytes.take (4 * n)) i = signedWord bytes i := by
  have whole : min 4 (4 * n - 4 * i) = 4 := by
    omega
  rw [signedWord, List.drop_take, List.take_take, whole, signedWord]

/-- A word is a coordinate, or it is negative. -/
theorem coordinate_cases {word : Bytes} (four : word.length = 4) :
    (∃ n, coordinate word = .ok n ∧ n < 2 ^ 31 ∧ Bytes.littleEndian 4 n = word ∧
      0 ≤ Bytes.signed 4 (Bytes.ofLittleEndian word)) ∨
      (Bytes.signed 4 (Bytes.ofLittleEndian word) < 0 ∧
        coordinate word =
          .error (.negativeCoordinate (Bytes.signed 4 (Bytes.ofLittleEndian word)))) := by
  have below := Bytes.ofLittleEndian_lt word
  have back := Bytes.littleEndian_ofLittleEndian word
  rw [four] at below back
  unfold coordinate
  by_cases small : Bytes.ofLittleEndian word < 256 ^ 4 / 2
  · have positive : Bytes.signed 4 (Bytes.ofLittleEndian word) =
        Int.ofNat (Bytes.ofLittleEndian word) := if_pos small
    rw [positive]
    exact Or.inl ⟨_, rfl, small, back, Int.natCast_nonneg _⟩
  · have negative : Bytes.signed 4 (Bytes.ofLittleEndian word) < 0 := by
      rw [Bytes.signed, if_neg small]
      omega
    obtain ⟨n, same⟩ := Int.eq_negSucc_of_lt_zero negative
    rw [same]
    exact Or.inr ⟨Int.negSucc_lt_zero n, rfl⟩

/-- Twelve bytes are a point, or one of its coordinates is negative. -/
theorem point_cases {bytes : Bytes} (enough : pointSize ≤ bytes.length) :
    (∃ p, point (bytes.take pointSize) = .ok p ∧ FitsPoint p ∧
      bytesOf p = bytes.take pointSize ∧ ∀ i < 3, 0 ≤ signedWord bytes i) ∨
      (∃ i < 3, signedWord bytes i < 0 ∧
        point (bytes.take pointSize) = .error (.negativeCoordinate (signedWord bytes i))) := by
  unfold pointSize at enough ⊢
  have word (i : Nat) (inside : i < 3) : ((bytes.drop (4 * i)).take 4).length = 4 := by
    rw [List.length_take, List.length_drop]
    omega
  have taken : ((bytes.take 12).take 4 = (bytes.drop (4 * 0)).take 4) ∧
      ((bytes.take 12).drop 4).take 4 = (bytes.drop (4 * 1)).take 4 ∧
      ((bytes.take 12).drop 8).take 4 = (bytes.drop (4 * 2)).take 4 := by
    simp [List.take_take, List.drop_take]
  unfold point
  rw [taken.1, taken.2.1, taken.2.2]
  rcases coordinate_cases (word 0 (by decide)) with
    ⟨x, readX, fitsX, backX, positiveX⟩ | ⟨negative, failed⟩
  swap
  · exact Or.inr ⟨0, by decide, negative, by rw [failed]; rfl⟩
  rcases coordinate_cases (word 1 (by decide)) with
    ⟨y, readY, fitsY, backY, positiveY⟩ | ⟨negative, failed⟩
  swap
  · exact Or.inr ⟨1, by decide, negative, by rw [readX, failed]; rfl⟩
  rcases coordinate_cases (word 2 (by decide)) with
    ⟨z, readZ, fitsZ, backZ, positiveZ⟩ | ⟨negative, failed⟩
  swap
  · exact Or.inr ⟨2, by decide, negative, by rw [readX, readY, failed]; rfl⟩
  refine Or.inl ⟨⟨x, y, z⟩, by rw [readX, readY, readZ]; rfl, ⟨fitsX, fitsY, fitsZ⟩, ?_, ?_⟩
  · have whole : bytesOf ⟨x, y, z⟩ = Bytes.littleEndian 4 x ++ (Bytes.littleEndian 4 y ++
        Bytes.littleEndian 4 z) := by
      simp [bytesOf, Triple.toList]
    rw [whole, backX, backY, backZ, show 12 = 4 + (4 + 4) from rfl, List.take_add, List.take_add,
      List.drop_drop]
    rfl
  · intro i inside
    obtain rfl | rfl | rfl : i = 0 ∨ i = 1 ∨ i = 2 := by omega
    · exact positiveX
    · exact positiveY
    · exact positiveZ

/-- Bytes are as many points as they have room for, or one of the words is negative. -/
theorem points_cases {count : Nat} {bytes : Bytes} (enough : count * pointSize ≤ bytes.length) :
    (∃ items, points count bytes = .ok items ∧ items.length = count ∧
      (∀ p ∈ items, FitsPoint p) ∧ pointBytes items = bytes.take (count * pointSize) ∧
      ∀ i < 3 * count, 0 ≤ signedWord bytes i) ∨
    (∃ i < 3 * count, signedWord bytes i < 0 ∧
      points count bytes = .error (.negativeCoordinate (signedWord bytes i))) := by
  induction count generalizing bytes with
  | zero => exact Or.inl ⟨[], rfl, rfl, by simp, by simp [pointBytes], by simp⟩
  | succ count ih =>
      have room : pointSize ≤ bytes.length := by
        rw [Nat.succ_mul] at enough
        omega
      have later : count * pointSize ≤ (bytes.drop pointSize).length := by
        rw [Nat.succ_mul] at enough
        rw [List.length_drop]
        omega
      have moved (i : Nat) : signedWord (bytes.drop pointSize) i = signedWord bytes (3 + i) :=
        signedWord_drop bytes 3 i
      rcases point_cases room with ⟨p, first, fits, back, positive⟩ | ⟨i, inside, negative, failed⟩
      swap
      · exact Or.inr ⟨i, by omega, negative, by rw [points, failed]; rfl⟩
      rcases ih later with
        ⟨items, others, length, fit, rest, later⟩ | ⟨i, inside, negative, failed⟩
      swap
      · rw [moved] at negative failed
        exact Or.inr ⟨3 + i, by omega, negative, by rw [points, first, failed]; rfl⟩
      refine Or.inl ⟨p :: items, ?_, congrArg (· + 1) length, List.forall_mem_cons.mpr ⟨fits, fit⟩,
        ?_, ?_⟩
      · rw [points, first, others]
        rfl
      · have whole : pointBytes (p :: items) = bytesOf p ++ pointBytes items := List.flatMap_cons
        rw [whole, back, rest, Nat.succ_mul, Nat.add_comm, List.take_add]
      · intro i inside
        by_cases early : i < 3
        · exact positive i early
        · have further := later (i - 3) (by omega)
          rwa [moved, Nat.add_sub_cancel' (by omega)] at further

theorem length_of_points {count : Nat} {bytes : Bytes} {items : List CubePoint}
    (read : points count bytes = .ok items) : items.length = count := by
  induction count generalizing bytes items with
  | zero =>
      cases read
      rfl
  | succ count ih =>
      obtain ⟨first, _, read⟩ := bind_eq_ok.mp read
      obtain ⟨rest, later, same⟩ := bind_eq_ok.mp read
      cases same
      rw [List.length_cons, ih later]

end Stitch

/-! ## Inputs -/

namespace StitchInput

/-- Enough bytes for the points of a record are points, or one of their words is
negative. -/
theorem surface_cases {record : PointRecord} {bytes : Bytes}
    (few : record.size * Stitch.pointSize < wordLimit)
    (room : record.size * Stitch.pointSize ≤ bytes.length) :
    (∃ points trailing, surface record bytes = .ok points ∧ points.length = record.size ∧
      (∀ p ∈ points, Stitch.FitsPoint p) ∧ bytes = Stitch.pointBytes points ++ trailing ∧
      ∀ i < 3 * record.size, 0 ≤ Stitch.signedWord bytes i) ∨
    (∃ i < 3 * record.size, Stitch.signedWord bytes i < 0 ∧
      surface record bytes = .error (.negativeCoordinate (Stitch.signedWord bytes i))) := by
  have length : (bytes.take (record.size * Stitch.pointSize)).length =
      record.size * Stitch.pointSize := List.length_take_of_le room
  have read : surface record bytes =
      Stitch.points record.size (bytes.take (record.size * Stitch.pointSize)) := by
    rw [surface, if_neg (Nat.not_le_of_lt few), if_neg (Nat.not_lt_of_le room), Stitch.readPoints,
      if_neg (Nat.not_le_of_lt few), if_neg (Nat.not_lt_of_le (Nat.le_of_eq length.symm))]
  rw [read]
  have word {i : Nat} (inside : i < 3 * record.size) :
      Stitch.signedWord (bytes.take (record.size * Stitch.pointSize)) i =
        Stitch.signedWord bytes i := by
    have four : record.size * Stitch.pointSize = 4 * (3 * record.size) := by
      unfold Stitch.pointSize
      omega
    rw [four]
    exact Stitch.signedWord_take inside
  rcases Stitch.points_cases (Nat.le_of_eq length.symm) with
    ⟨points, found, count, fits, same, positive⟩ | ⟨i, inside, negative, failed⟩
  · refine Or.inl ⟨points, bytes.drop (record.size * Stitch.pointSize), found, count, fits, ?_, ?_⟩
    · rw [same, List.take_take, Nat.min_self, List.take_append_drop]
    · intro i inside
      have here := positive i inside
      rwa [word inside] at here
  · rw [word inside] at negative failed
    exact Or.inr ⟨i, inside, negative, failed⟩

/-- There are as many points as the record announces. -/
theorem length_of_surface {record : PointRecord} {bytes : Bytes} {points : List CubePoint}
    (read : surface record bytes = .ok points) : points.length = record.size := by
  simp only [surface, Stitch.readPoints] at read
  split at read
  · cases read
  · split at read
    · cases read
    · split at read
      · cases read
      · exact Stitch.length_of_points read

/-- The input of a stream that begins with a record and as many points as it
announces. -/
theorem ofStream_eq
    {stream trailing : Bytes} {record : PointRecord} {points : List CubePoint}
    (found : PointRecord.read? stream = some (record, Stitch.pointBytes points ++ trailing))
    (announced : points.length = record.size) (fits : ∀ p ∈ points, Stitch.FitsPoint p)
    (few : record.size * Stitch.pointSize < wordLimit) :
    ofStream stream = { record := some record, points := .ok points, unread := trailing } := by
  have length : (Stitch.pointBytes points).length = record.size * Stitch.pointSize := by
    rw [Stitch.length_pointBytes, announced]
  have enough :
      ¬ (Stitch.pointBytes points ++ trailing).length < record.size * Stitch.pointSize := by
    rw [List.length_append, length]
    omega
  have read : surface record (Stitch.pointBytes points ++ trailing) = .ok points := by
    rw [← announced] at few
    have parsed := Stitch.readPoints_pointBytes fits few
    rw [announced] at few parsed
    rw [surface, if_neg (Nat.not_le_of_lt few), if_neg enough, List.take_left' length, parsed]
  have rest : afterSurface record (Stitch.pointBytes points ++ trailing) = trailing := by
    rw [afterSurface, if_neg (Nat.not_le_of_lt few), List.drop_left' length]
  rw [ofStream, found]
  simp only [read, rest]

end StitchInput

end SurveyCube
