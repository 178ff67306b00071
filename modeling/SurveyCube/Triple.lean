import SurveyCube.Axis
import SurveyCube.Bytes

/-!
# Triples

Points, fragment ids and shapes are all triples of natural numbers, one per
axis.  The order is lexicographic on `(x, y, z)`; sorted bins and task lists
rely on it.
-/

namespace SurveyCube

/-- One natural number per axis. -/
@[ext]
structure Triple where
  x : Nat
  y : Nat
  z : Nat
  deriving DecidableEq, Repr, Inhabited

/-- A point of the whole cube. -/
abbrev CubePoint := Triple

/-- A point inside one fragment, relative to the fragment's first cell. -/
abbrev LocalPoint := Triple

/-- The place of a fragment in the grid of fragments. -/
abbrev FragmentId := Triple

/-- The extents of a cube or a fragment along the three axes. -/
abbrev Shape := Triple

namespace Triple

def get (t : Triple) : Axis → Nat
  | .inline => t.x
  | .crossline => t.y
  | .depth => t.z

def ofFn (component : Axis → Nat) : Triple :=
  ⟨component .inline, component .crossline, component .depth⟩

def origin : Triple :=
  ⟨0, 0, 0⟩

def toList (t : Triple) : List Nat :=
  [t.x, t.y, t.z]

/-- The triple with three given components, if there are exactly three. -/
def ofList? : List Nat → Option Triple
  | [x, y, z] => some ⟨x, y, z⟩
  | _ => none

/-- The same triple with another component along the depth axis. -/
def withZ (t : Triple) (z : Nat) : Triple :=
  { t with z }

def set (t : Triple) (axis : Axis) (value : Nat) : Triple :=
  ofFn fun a => if a = axis then value else t.get a

def volume (t : Triple) : Nat :=
  t.x * t.y * t.z

/-- The product of the components in a machine word, which keeps the lowest bits alone. -/
def wordVolume (t : Triple) : Nat :=
  t.volume % wordLimit

def Positive (t : Triple) : Prop :=
  0 < t.x ∧ 0 < t.y ∧ 0 < t.z

instance (t : Triple) : Decidable t.Positive :=
  inferInstanceAs (Decidable (_ ∧ _))

/-- Every component of the first triple is below that of the second. -/
def Within (t bound : Triple) : Prop :=
  t.x < bound.x ∧ t.y < bound.y ∧ t.z < bound.z

instance (t bound : Triple) : Decidable (t.Within bound) :=
  inferInstanceAs (Decidable (_ ∧ _))

/-- The lexicographic order on `(x, y, z)`. -/
instance : LT Triple where
  lt a b := a.x < b.x ∨ a.x = b.x ∧ (a.y < b.y ∨ a.y = b.y ∧ a.z < b.z)

theorem lt_def {a b : Triple} :
    a < b ↔ a.x < b.x ∨ a.x = b.x ∧ (a.y < b.y ∨ a.y = b.y ∧ a.z < b.z) :=
  Iff.rfl

instance (a b : Triple) : Decidable (a < b) :=
  decidable_of_iff' _ lt_def

instance : LE Triple where
  le a b := ¬ b < a

instance (a b : Triple) : Decidable (a ≤ b) :=
  inferInstanceAs (Decidable (¬ b < a))

/-- How the first triple stands to the second in the lexicographic order. -/
def compare (a b : Triple) : Ordering :=
  if a < b then .lt else if a = b then .eq else .gt

/-- A triple as messages show a point. -/
def pointText (t : Triple) : String :=
  s!"({t.x}, {t.y}, {t.z})"

/-- A triple as messages show a shape. -/
def shapeText (t : Triple) : String :=
  s!"[{t.x}, {t.y}, {t.z}]"

@[simp]
theorem get_ofFn (component : Axis → Nat) (axis : Axis) :
    (ofFn component).get axis = component axis := by
  cases axis <;> rfl

theorem ext_get {a b : Triple} (same : ∀ axis, a.get axis = b.get axis) : a = b :=
  Triple.ext (same .inline) (same .crossline) (same .depth)

@[simp]
theorem ofList?_toList (t : Triple) : ofList? t.toList = some t := rfl

theorem positive_iff {t : Triple} : t.Positive ↔ ∀ axis, 0 < t.get axis :=
  ⟨fun ⟨hx, hy, hz⟩ axis => by cases axis <;> assumption,
    fun pos => ⟨pos .inline, pos .crossline, pos .depth⟩⟩

theorem within_iff {t bound : Triple} : t.Within bound ↔ ∀ axis, t.get axis < bound.get axis :=
  ⟨fun ⟨hx, hy, hz⟩ axis => by cases axis <;> assumption,
    fun below => ⟨below .inline, below .crossline, below .depth⟩⟩

theorem lt_irrefl (a : Triple) : ¬ a < a := by
  rw [lt_def]; omega

theorem lt_trans {a b c : Triple} (hab : a < b) (hbc : b < c) : a < c := by
  rw [lt_def] at *; omega

theorem lt_or_eq_or_gt (a b : Triple) : a < b ∨ a = b ∨ b < a := by
  rw [lt_def, lt_def, Triple.ext_iff]; omega

end Triple

end SurveyCube
