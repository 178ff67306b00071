import SurveyCube.Proofs.Canonical
import SurveyCube.Proofs.Json.Textual

/-!
# Data that say the same

What a datum says is what one finds on its paths.  A path goes into the items of
a list by their position and into the fields of a record by their name, where
the last of equal names counts.  Two data are alike if no path tells them apart:
on every path both have nothing, or the same value, or a list, or a record.  The
order of fields plays no part in this, nor does a field that another one of the
same name follows.

The canonical form of a datum that could come from a document is alike to it.
-/

namespace SurveyCube.Datum

/-- A step into a datum: to an item of a list or to a field of a record. -/
inductive Step where
  | item (position : Nat)
  | field (name : String)
  deriving DecidableEq, Repr

/-- What one finds after a step. -/
def child? : Datum → Step → Option Datum
  | .list items, .item position => items[position]?
  | .record fields, .field name => fields.reverse.lookup name
  | _, _ => none

/-- What one finds on a path. -/
def at? (datum : Datum) (path : List Step) : Option Datum :=
  path.foldlM child? datum

/-- A datum without what lies inside. -/
def head : Datum → Datum
  | .list _ => .list []
  | .record _ => .record []
  | datum => datum

/-- No path tells the two apart. -/
def Alike (a b : Datum) : Prop :=
  ∀ path, (a.at? path).map head = (b.at? path).map head

variable {a b c datum : Datum}

theorem Alike.trans (first : Alike a b) (second : Alike b c) : Alike a c :=
  fun path => (first path).trans (second path)

theorem at?_cons (datum : Datum) (step : Step) (path : List Step) :
    datum.at? (step :: path) = (datum.child? step).bind fun inner => inner.at? path :=
  List.foldlM_cons

theorem alike_of_child? (heads : a.head = b.head)
    (children : ∀ step, a.child? step = b.child? step) : Alike a b := by
  intro path
  cases path with
  | nil => exact congrArg some heads
  | cons step path => rw [at?_cons, at?_cons, children]

/-! ## The canonical form -/

theorem child?_canonical (datum : Datum) (step : Step) :
    datum.canonical.child? step = (datum.child? step).map canonical := by
  cases datum with
  | list items =>
      cases step with
      | item position =>
          rw [canonical, canonicalItems_eq_map, child?, child?, List.getElem?_map]
      | field name => rfl
  | record fields =>
      cases step with
      | item position => rfl
      | field name =>
          rw [canonical, child?, child?, ← lookup_canonicalFields_last]
          exact lookup_eq_of_perm (names_canonicalFields_nodup fields) (List.reverse_perm _) name
  | real value =>
      rw [canonical]
      split <;> rfl
  | null | bool _ | int _ | text _ | bytes _ | table _ | foreign | unreadable => rfl

theorem at?_canonical (datum : Datum) (path : List Step) :
    datum.canonical.at? path = (datum.at? path).map canonical := by
  induction path generalizing datum with
  | nil => rfl
  | cons step path ih =>
      rw [at?_cons, at?_cons, child?_canonical]
      cases datum.child? step with
      | none => rfl
      | some inner => exact ih inner

theorem isTextual_of_child? {inner : Datum} {step : Step} (textual : datum.isTextual = true)
    (found : datum.child? step = some inner) : inner.isTextual = true := by
  cases datum with
  | list items =>
      cases step with
      | item position => exact isTextual_list_iff.mp textual inner (List.mem_of_getElem? found)
      | field name => cases found
  | record fields =>
      cases step with
      | item position => cases found
      | field name =>
          have member := List.mem_reverse.mp (mem_of_lookup found)
          exact isTextual_record_iff.mp textual _ member
  | null | bool _ | int _ | real _ | text _ | bytes _ | table _ | foreign | unreadable =>
      cases found

theorem isTextual_of_at? {inner : Datum} {path : List Step} (textual : datum.isTextual = true)
    (found : datum.at? path = some inner) : inner.isTextual = true := by
  induction path generalizing datum with
  | nil =>
      cases found
      exact textual
  | cons step path ih =>
      rw [at?_cons] at found
      obtain ⟨next, first, later⟩ := Option.bind_eq_some_iff.mp found
      exact ih (isTextual_of_child? textual first) later

/-- Only a double that is no number has another head in canonical form. -/
theorem head_canonical (textual : datum.isTextual = true) : datum.canonical.head = datum.head := by
  cases datum with
  | real value =>
      have finite : value.isFinite = true := textual
      rw [canonical, if_pos finite]
  | list _ | record _ | null | bool _ | int _ | text _ | bytes _ | table _ | foreign
  | unreadable => rfl

theorem alike_canonical (textual : datum.isTextual = true) : Alike datum.canonical datum := by
  intro path
  rw [at?_canonical, Option.map_map]
  cases found : datum.at? path with
  | none => rfl
  | some inner => exact congrArg some (head_canonical (isTextual_of_at? textual found))

end SurveyCube.Datum
