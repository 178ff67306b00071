/-!
# Axes of a survey cube

A survey cube has three axes: axis 0 is the inline, axis 1 the crossline and
axis 2 the depth (or time).  Documents and messages refer to an axis by its
number or by its name; inside the library an axis is always one of the three.
-/

namespace SurveyCube

inductive Axis where
  | inline
  | crossline
  | depth
  deriving DecidableEq, Repr

namespace Axis

def all : List Axis :=
  [.inline, .crossline, .depth]

def index : Axis → Nat
  | .inline => 0
  | .crossline => 1
  | .depth => 2

def ofIndex? : Nat → Option Axis
  | 0 => some .inline
  | 1 => some .crossline
  | 2 => some .depth
  | _ => none

/-- How messages name an axis. -/
def label (axis : Axis) : String :=
  "dim" ++ toString axis.index

/-- How documents name an axis. -/
def name (axis : Axis) : String :=
  "Dim" ++ toString axis.index

def ofName? : String → Option Axis
  | "Dim0" => some .inline
  | "Dim1" => some .crossline
  | "Dim2" => some .depth
  | _ => none

@[simp]
theorem ofIndex?_index (axis : Axis) : ofIndex? axis.index = some axis := by
  cases axis <;> rfl

theorem ofIndex?_eq_some_iff {i : Nat} {axis : Axis} :
    ofIndex? i = some axis ↔ i = axis.index := by
  constructor
  · intro found
    match i, found with
    | 0, found | 1, found | 2, found => cases found; rfl
  · rintro rfl
    exact ofIndex?_index axis

theorem ofIndex?_eq_none_iff {i : Nat} : ofIndex? i = none ↔ 3 ≤ i := by
  match i with
  | 0 | 1 | 2 => simp [ofIndex?]
  | i + 3 => simp [ofIndex?]

@[simp]
theorem mem_all (axis : Axis) : axis ∈ all := by
  cases axis <;> decide

end Axis

end SurveyCube
