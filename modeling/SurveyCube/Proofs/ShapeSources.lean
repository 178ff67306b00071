import SurveyCube.Document
import SurveyCube.Proofs.Json.Document
import SurveyCube.Proofs.Message
import SurveyCube.Proofs.Plain
import SurveyCube.Proofs.WordGeometry
import SurveyCube.Tiling

/-!
# Where shapes come from

A shape is built from extents that are checked, alone or for a tiling, or it is read from a
document or a message.  Reading checks that the extents are words and nothing else.

* `Shape.Built` holds of the shapes with positive extents, and of no others.
* A shape can be read exactly if its extents fit machine words, zeros included.
* `Shape.planeIndex?_safe_iff` and `Shape.pointAt?_safe_iff` say which shapes divide by zero.
  A shape with an extent of zero does, and so does a layer whose cells are counted as none,
  because their number has lost all of its bits.
-/

namespace SurveyCube

/-! ## Building -/

namespace Shape

variable {shape : Shape}

/-- The shapes that are built for a role. -/
inductive Built : ShapeRole → Shape → Prop
  | alone {role : ShapeRole} {extents shape : Shape}
      (made : checked role extents = .ok shape) : Built role shape
  | cube {cube fragment : Shape} {tiling : Tiling}
      (made : Tiling.ofShapes cube fragment = .ok tiling) : Built .cube tiling.cube
  | fragment {cube fragment : Shape} {tiling : Tiling}
      (made : Tiling.ofShapes cube fragment = .ok tiling) : Built .fragment tiling.fragment

theorem checked_eq_ok {role : ShapeRole} {extents : Shape} :
    checked role extents = .ok shape ↔ extents.Positive ∧ extents = shape := by
  unfold checked
  split
  · rename_i positive
    simp [positive]
  · rename_i empty
    simp [empty]

theorem built_iff {role : ShapeRole} : Built role shape ↔ shape.Positive := by
  constructor
  · intro built
    cases built with
    | alone made =>
        obtain ⟨positive, rfl⟩ := checked_eq_ok.mp made
        exact positive
    | @cube _ _ tiling _ => exact tiling.cube_pos
    | @fragment _ _ tiling _ => exact tiling.fragment_pos
  · intro positive
    exact .alone (checked_eq_ok.mpr ⟨positive, rfl⟩)

end Shape

/-! ## Reading -/

section Reading

variable {α : Type} [Serial α]

theorem readDocument_eq_ok {document : Bytes} {value : α} :
    readDocument α document = .ok value ↔
      ∃ datum, Json.document? document = some datum ∧ ofDatum? datum = some value := by
  rw [← Option.bind_eq_some_iff (f := ofDatum? (α := α)), readDocument]
  cases (Json.document? document).bind (ofDatum? (α := α)) <;> simp

theorem readDocument_writeDocument
    [Words α] [LawfulSerial α] [PlainSerial α] {value : α} (words : fitWords value = true)
    (shallow : LawfulSerial.levels α ≤ Json.maxDepth) :
    readDocument α (writeDocument value) = .ok value := by
  have held := Json.document?_compact (isPlain_toDatum words)
    (LawfulSerial.depth_toDatum_le_of shallow value)
  exact readDocument_eq_ok.mpr ⟨_, held, ofDatum?_toDatum words⟩

theorem message?_eq_some {bytes rest : Bytes} {value : α} :
    message? α bytes = some (value, rest) ↔
      ∃ datum, Msgpack.read? bytes = some (datum, rest) ∧ ofDatum? datum = some value := by
  simp [message?, Option.bind_eq_some_iff]

end Reading

theorem fitWords_of_ofDatum?_nat {datum : Datum} {n : Nat} (read : ofDatum? datum = some n) :
    fitWords n = true := by
  match datum, read with
  | .int (.ofNat number), read =>
      have word : (if number < wordLimit then some number else none) = some n := read
      split at word
      · rename_i below
        cases word
        exact fitWords_nat_iff.mpr below
      · cases word

theorem Triple.ofList?_eq_some {numbers : List Nat} {t : Triple} :
    ofList? numbers = some t ↔ numbers = t.toList := by
  constructor
  · intro made
    match numbers, made with
    | [_, _, _], made =>
        cases made
        rfl
  · rintro rfl
    exact ofList?_toList t

namespace Shape

variable {shape : Shape}

theorem fitWords_of_ofDatum? {datum : Datum} (read : ofDatum? datum = some shape) :
    fitWords shape = true := by
  obtain ⟨numbers, listed, made⟩ := Option.bind_eq_some_iff.mp read
  obtain ⟨items, _, each⟩ := Option.bind_eq_some_iff.mp listed
  have words : ∀ n ∈ numbers, n < wordLimit := by
    intro n member
    obtain ⟨item, _, found⟩ := exists_item_of_forall₂ (mapM_eq_some.mp each) member
    exact fitWords_nat_iff.mp (fitWords_of_ofDatum?_nat found)
  rw [Triple.ofList?_eq_some.mp made] at words
  simpa [Triple.toList, fitWords_triple_iff] using words

theorem exists_readDocument_iff :
    (∃ document, readDocument Shape document = .ok shape) ↔ fitWords shape = true := by
  constructor
  · rintro ⟨document, read⟩
    obtain ⟨datum, _, found⟩ := readDocument_eq_ok.mp read
    exact fitWords_of_ofDatum? found
  · intro words
    exact ⟨_, readDocument_writeDocument words (by decide)⟩

/-- No position stands for a shape. -/
theorem positioned?_eq_none (bytes : Bytes) : positioned? Shape bytes = none := by
  rw [positioned?]
  cases Msgpack.position? bytes <;> rfl

theorem exists_readMessage_iff :
    (∃ message rest, readMessage Shape message = .ok (shape, rest)) ↔ fitWords shape = true := by
  constructor
  · rintro ⟨message, rest, read⟩
    rw [readMessage, positioned?_eq_none] at read
    cases found : message? Shape message with
    | none =>
        rw [found] at read
        cases read
    | some pair =>
        rw [found] at read
        cases read
        obtain ⟨datum, _, here⟩ := message?_eq_some.mp found
        exact fitWords_of_ofDatum? here
  · intro words
    exact ⟨_, [], readMessage_writeMessage words rfl (by decide) []⟩

/-! ## Dividing -/

theorem planeIndex?_safe_iff :
    (∀ axis index, planeIndex? shape axis index = .ok (shape.planeIndex axis index)) ↔
      shape.Positive := by
  rw [Triple.positive_iff]
  constructor
  · intro safe axis
    obtain ⟨positive, _⟩ := remainder?_eq_ok.mp (safe axis 0)
    exact Nat.pos_of_ne_zero positive
  · intro positive axis index
    exact remainder?_eq_ok.mpr ⟨Nat.ne_zero_of_lt (positive axis), rfl⟩

theorem pointAt?_safe_iff :
    (∀ number, pointAt? shape number = .ok (shape.wordPointAt number)) ↔
      ¬ wordLimit ∣ shape.y * shape.z := by
  rw [Nat.dvd_iff_mod_eq_zero]
  constructor
  · intro safe
    exact (pointAt?_eq_ok.mp (safe 0)).1
  · intro counted number
    exact pointAt?_eq_ok.mpr ⟨counted, rfl⟩

/-! ## Main result -/

/-- A shape is built exactly if all of its extents are positive, and it is read exactly if all
of them fit words.  The place of a plane is found on any input exactly if the shape could have
been built, and the point of a number exactly if the cells of a layer leave a remainder in a
word.  Listing a plane never divides by zero. -/
theorem shapes_divide_safely (shape : Shape) :
    (∀ role, Built role shape ↔ shape.Positive) ∧
    ((∃ document, readDocument Shape document = .ok shape) ↔ fitWords shape = true) ∧
    ((∃ message rest, readMessage Shape message = .ok (shape, rest)) ↔ fitWords shape = true) ∧
    ((∀ axis index, planeIndex? shape axis index = .ok (shape.planeIndex axis index)) ↔
      shape.Positive) ∧
    ((∀ number, pointAt? shape number = .ok (shape.wordPointAt number)) ↔
      ¬ wordLimit ∣ shape.y * shape.z) ∧
    ∀ axis index, planeOffsets? shape axis index =
      .ok (if index < shape.get axis then .ok ((plane shape axis index).map (wordOffset shape))
        else .error (.localIndexOutOfRange index (shape.get axis) axis)) :=
  ⟨fun _ => built_iff, exists_readDocument_iff, exists_readMessage_iff, planeIndex?_safe_iff,
    pointAt?_safe_iff, planeOffsets?_eq shape⟩

/-- A document and a message with an extent of zero are read as a shape, which then divides by
zero.  So does a shape that is built, if the cells of its layers are as many as a word has
values. -/
theorem emptyRow_divides_by_zero :
    (∃ shape : Shape, readDocument Shape (Text.bytes "[2,0,2]") = .ok shape ∧
      readMessage Shape [0x93, 2, 0, 2] = .ok (shape, []) ∧ ¬ shape.Positive ∧
      shape.planeIndex? .crossline 5 = .error .remainder ∧
      shape.pointAt? 3 = .error .quotient) ∧
    ∃ shape : Shape, checked .fragment ⟨1, 4294967296, 4294967296⟩ = .ok shape ∧
      fitWords shape = true ∧ shape.pointAt? 0 = .error .quotient := by
  constructor
  · refine ⟨⟨2, 0, 2⟩, ?_, ?_, ?_, ?_, ?_⟩
    · decide +kernel
    · decide +kernel
    · decide
    · decide
    · decide
  · exact ⟨_, rfl, by decide, by decide⟩

end Shape

end SurveyCube
