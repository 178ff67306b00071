import SurveyCube.Task

/-!
# Process headers

The header is the first thing a client reads from a response.  It says how many
task results to expect and how to assemble them, in whatever order they arrive.

* `index` holds the sizes of the output dimensions, followed by the line
  numbers along each dimension in turn.
* `shapes` holds the output shape of every attribute, each preceded by its rank.

The trace values come first among the attributes.
-/

namespace SurveyCube

structure ProcessHeader where
  pid : String
  function : Function
  /-- The number of task results in the response. -/
  bundles : Nat
  dims : Nat
  /-- The names of the axes. -/
  labels : List String
  index : List Int
  attributes : List String
  shapes : List Nat
  deriving DecidableEq, Repr

namespace ProcessHeader

/-- The sizes of the output dimensions. -/
def indexSizes (header : ProcessHeader) : List Int :=
  header.index.take header.dims

/-- The entry at a position in a list of entries that are preceded by their
lengths. -/
def entryAt? : Nat → List Nat → Option (List Nat)
  | _, [] => none
  | 0, rank :: rest => if rank ≤ rest.length then some (rest.take rank) else none
  | position + 1, rank :: rest =>
      if rank ≤ rest.length then entryAt? position (rest.drop rank) else none

def shapeOf? (header : ProcessHeader) (name : String) : Option (List Nat) :=
  (header.attributes.idxOf? name).bind fun position => entryAt? position header.shapes

/-- An entry preceded by its length. -/
def entry (shape : List Nat) : List Nat :=
  shape.length :: shape

def ofQuery (base : QueryBase) (function : Function) (ntasks : Nat) (index : List Int)
    (dataShape attributeShape : List Nat) : ProcessHeader :=
  { pid := base.pid
    function
    bundles := ntasks
    dims := 3
    labels := base.manifest.lineLabels
    index
    attributes := TaskBase.dataAttribute :: base.attributes
    shapes := entry dataShape ++ base.attributes.flatMap fun _ => entry attributeShape }

end ProcessHeader

namespace SliceQuery

/-- The size of the output along an axis.  The queried axis keeps a single line. -/
def outputSize (query : SliceQuery) (queried axis : Axis) : Except Fault Nat :=
  if axis = queried then .ok 1 else (query.base.manifest.dimension axis).map List.length

def outputLines (query : SliceQuery) (queried : Axis) (line : Int) (axis : Axis) :
    Except Fault (List Int) :=
  if axis = queried then .ok [line] else query.base.manifest.dimension axis

/-- The header of a slice.  The trace values have the shape of the index;
attributes have one value per trace, so their last extent is 1. -/
def header (query : SliceQuery) (ntasks : Nat) : Except Fault ProcessHeader := do
  let axis ← Axis.ofIndex query.dim
  let line ← query.base.manifest.lineNumber axis query.idx
  let sizes ← Axis.all.mapM (query.outputSize axis)
  let lines ← Axis.all.mapM (query.outputLines axis line)
  return .ofQuery query.base .slice ntasks
    (sizes.map Int.ofNat ++ lines.flatten)
    sizes
    (sizes.dropLast ++ [1])

end SliceQuery

namespace CurtainQuery

/-- The header of a curtain.  Attributes have one value per trace. -/
def header (query : CurtainQuery) (ntasks : Nat) : Except Fault ProcessHeader := do
  let manifest := query.base.manifest
  let pairs ← query.pairs
  let depth ← manifest.dimension .depth
  let inlines ← query.dim0s.mapM (manifest.lineNumber .inline)
  let crosslines ← query.dim1s.mapM (manifest.lineNumber .crossline)
  let sizes := [query.dim0s.length, query.dim1s.length, depth.length]
  return .ofQuery query.base .curtain ntasks
    (sizes.map Int.ofNat ++ (inlines ++ crosslines ++ depth))
    [pairs.length, depth.length]
    [pairs.length]

end CurtainQuery

/-! ## Documents and messages -/

instance : Serial ProcessHeader where
  toDatum header := .record [
    ("pid", toDatum header.pid),
    ("function", toDatum header.function),
    ("nbundles", toDatum header.bundles),
    ("ndims", toDatum header.dims),
    ("labels", toDatum header.labels),
    ("index", toDatum header.index),
    ("attributes", toDatum header.attributes),
    ("shapes", toDatum header.shapes)]
  ofDatum? datum := do
    let fields ← datum.fields?
      ["pid", "function", "nbundles", "ndims", "labels", "index", "attributes", "shapes"]
    return {
      pid := ← fields.required "pid"
      function := ← fields.required "function"
      bundles := ← fields.required "nbundles"
      dims := ← fields.required "ndims"
      labels := ← fields.required "labels"
      index := ← fields.required "index"
      attributes := ← fields.required "attributes"
      shapes := ← fields.required "shapes" }

end SurveyCube
