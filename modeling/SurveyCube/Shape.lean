import SurveyCube.Fault

/-!
# Shapes and row-major offsets

A shape gives the extents of a box of cells.  Cells are numbered in row-major
order with the depth axis varying fastest.

* `Shape.offset` and `Shape.pointAt` pass between points and their numbers.
* `Shape.plane` lists the points of an axis-aligned plane in lexicographic
  order; the same list enumerates the cells of a plane inside a fragment and
  the fragments that a plane of the cube meets.
* `Shape.wordOffset`, `Shape.wordPointAt` and `Shape.planeOffsets?` are the same
  arithmetic in machine words.  Products and sums that pass a word lose their
  highest bits.  Where nothing passes a word nothing is lost.
* `Shape.planeIndex?`, `Shape.pointAt?` and `Shape.planeOffsets?` divide by extents
  and by products of them.  A divisor may be zero, because the shape was read from
  a document or because the product lost all of its bits, and then they say so.
-/

namespace SurveyCube

/-- Arithmetic that an extent of zero leaves without a result. -/
inductive ZeroExtent where
  | quotient
  | remainder
  deriving DecidableEq, Repr

def ZeroExtent.message : ZeroExtent → String
  | .quotient => "attempt to divide by zero"
  | .remainder => "attempt to calculate the remainder with a divisor of zero"

def quotient? (number divisor : Nat) : Except ZeroExtent Nat :=
  if divisor = 0 then .error .quotient else .ok (number / divisor)

def remainder? (number divisor : Nat) : Except ZeroExtent Nat :=
  if divisor = 0 then .error .remainder else .ok (number % divisor)

namespace Shape

/-- A shape with positive extents, or the complaint about it. -/
def checked (role : ShapeRole) (shape : Shape) : Except EmptyShape Shape :=
  if shape.Positive then .ok shape else .error ⟨role, shape⟩

def offset (shape : Shape) (p : Triple) : Nat :=
  p.x * shape.y * shape.z + p.y * shape.z + p.z

def pointAt (shape : Shape) (offset : Nat) : Triple :=
  ⟨offset / (shape.y * shape.z), offset / shape.z % shape.y, offset % shape.z⟩

/-- The place inside a fragment of the plane at `index` of the whole cube. -/
def planeIndex (shape : Shape) (axis : Axis) (index : Nat) : Nat :=
  index % shape.get axis

/-- `planeIndex` for a shape that may be empty. -/
def planeIndex? (shape : Shape) (axis : Axis) (index : Nat) : Except ZeroExtent Nat :=
  remainder? index (shape.get axis)

def wordOffset (shape : Shape) (p : Triple) : Nat :=
  offset shape p % wordLimit

/-- The number of cells in a layer across the first axis, in a machine word. -/
def wordLayer (shape : Shape) : Nat :=
  shape.y * shape.z % wordLimit

/-- `pointAt` in machine words, for a shape without a divisor of zero. -/
def wordPointAt (shape : Shape) (number : Nat) : LocalPoint :=
  ⟨number / shape.wordLayer, number / shape.z % shape.y, number % shape.z⟩

/-- `wordPointAt` for any shape.  The extent along the first axis is never divided by. -/
def pointAt? (shape : Shape) (number : Nat) : Except ZeroExtent LocalPoint := do
  let x ← quotient? number shape.wordLayer
  let line ← quotient? number shape.z
  let y ← remainder? line shape.y
  let z ← remainder? number shape.z
  return ⟨x, y, z⟩

/-- The indices along `axis` of a plane that is fixed at `pin` along `fixed`. -/
def axisSpan (extents : Shape) (fixed : Axis) (pin : Nat) (axis : Axis) : List Nat :=
  if axis = fixed then [pin] else List.range (extents.get axis)

/-- The points of the plane at `pin` along `fixed`, in lexicographic order. -/
def plane (extents : Shape) (fixed : Axis) (pin : Nat) : List Triple :=
  (axisSpan extents fixed pin .inline).flatMap fun x =>
    (axisSpan extents fixed pin .crossline).flatMap fun y =>
      (axisSpan extents fixed pin .depth).map fun z => ⟨x, y, z⟩

/-- The numbers of the cells of the plane at `index` along `axis`, ascending. -/
def planeOffsets (shape : Shape) (axis : Axis) (index : Nat) : Except Fault (List Nat) :=
  if index < shape.get axis then
    .ok ((plane shape axis index).map (offset shape))
  else
    .error (.localIndexOutOfRange index (shape.get axis) axis)

/-- `planeOffsets` in machine words, for any shape.  The number of the cells is a
quotient that is reckoned before they are listed. -/
def planeOffsets? (shape : Shape) (axis : Axis) (index : Nat) :
    Except ZeroExtent (Except Fault (List Nat)) :=
  if index < shape.get axis then do
    let _cells ← quotient? shape.wordVolume (shape.get axis)
    return .ok ((plane shape axis index).map (wordOffset shape))
  else
    return .error (.localIndexOutOfRange index (shape.get axis) axis)

theorem mem_axisSpan {extents : Shape} {fixed axis : Axis} {pin i : Nat} :
    i ∈ axisSpan extents fixed pin axis ↔
      if axis = fixed then i = pin else i < extents.get axis := by
  unfold axisSpan
  split <;> simp

theorem mem_plane {extents : Shape} {fixed : Axis} {pin : Nat} {p : Triple} :
    p ∈ plane extents fixed pin ↔
      ∀ axis, if axis = fixed then p.get axis = pin else p.get axis < extents.get axis := by
  simp only [plane, List.mem_flatMap, List.mem_map, mem_axisSpan]
  constructor
  · rintro ⟨x, hx, y, hy, z, hz, rfl⟩ axis
    cases axis <;> assumption
  · intro h
    exact ⟨p.x, h .inline, p.y, h .crossline, p.z, h .depth, rfl⟩

end Shape

end SurveyCube
