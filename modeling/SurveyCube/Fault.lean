import SurveyCube.Triple

/-!
# Faults

Every operation that can fail names its cause.  A cause belongs to one kind;
the kind decides who is to blame, and the kind's opening words followed by the
detail of the cause make up the message.

* `Fault` lists the causes with the values that the message shows.
* `Fault.kind` sorts them, and `FaultKind.isClient` says which kinds are the
  fault of a request rather than of the service.
* `Fault.detail` is the text of a cause.  Three causes have none worth
  comparing: a file system failure, an unreadable document and an unreadable
  message.
-/

namespace SurveyCube

/-- Why an access to a file failed. -/
inductive FileFault where
  /-- The file, or a directory on the way to it, does not exist. -/
  | missing
  /-- Something is there, but it cannot be used as the access needs it. -/
  | unusable
  deriving DecidableEq, Repr

inductive ShapeRole where
  | cube
  | fragment
  deriving DecidableEq, Repr

def ShapeRole.label : ShapeRole → String
  | .cube => "cube shape"
  | .fragment => "fragment shape"

/-- A shape with an extent of zero. -/
structure EmptyShape where
  role : ShapeRole
  shape : Shape
  deriving DecidableEq, Repr

def EmptyShape.detail (empty : EmptyShape) : String :=
  s!"{empty.role.label} must be positive in every dimension, was {empty.shape.shapeText}"

/-- The kinds of fault.  The format version that a reader expects is part of
its kind, since it stands in the opening words. -/
inductive FaultKind where
  | io
  | unsupportedFormatVersion (expected : Nat)
  | unknownFunction
  | invalidArgument
  | overflow
  | outOfRange
  | invalidDocument
  | serialization
  | notFound
  | storageInconsistency
  | configuration
  deriving DecidableEq, Repr

namespace FaultKind

/-- The opening words of a message. -/
def opening : FaultKind → String
  | .io => "IO error: "
  | .unsupportedFormatVersion expected =>
      s!"unsupported format-version; expected {expected}, was "
  | .unknownFunction => "no handler for function "
  | .invalidArgument => "Invalid argument: "
  | .overflow => "Overflow: "
  | .outOfRange => "Out of range: "
  | .invalidDocument => "Invalid document: "
  | .serialization => "Serialization error: "
  | .notFound => "Not found: "
  | .storageInconsistency => "Storage inconsistency: "
  | .configuration => "Configuration error: "

def message (kind : FaultKind) (detail : String) : String :=
  kind.opening ++ detail

/-- A client fault is caused by the request rather than by the service.  A
missing manifest is the caller's concern; a fragment that is missing after its
manifest promised it is not. -/
def isClient : FaultKind → Bool
  | .unsupportedFormatVersion _ => true
  | .unknownFunction => true
  | .outOfRange => true
  | .invalidDocument => true
  | .notFound => true
  | _ => false

end FaultKind

inductive Fault where
  /-- The file system refused. -/
  | io (cause : FileFault)
  /-- A manifest is written in another version of the format. -/
  | unsupportedFormatVersion (found : String)
  /-- No planner is known by this name. -/
  | unknownFunction (name : String)
  | emptyShape (empty : EmptyShape)
  | shortPoints (expected actual : Nat)
  | zeroTaskSize (taskSize : Nat)
  | tooManyPoints (count : Nat)
  | recordSizeTooLarge (size : Nat)
  | taskCountOverflow (jobs taskSize : Nat)
  | totalTaskCountOverflow
  | tooManyTasks (count : Nat)
  | tooManyBundles (count : Nat)
  | axisOutOfRange (index : Nat)
  | localIndexOutOfRange (index extent : Nat) (axis : Axis)
  | indexOutOfRange (index extent : Nat) (axis : Axis)
  | localOffsetOutOfRange (offset cells : Nat)
  | pointOutsideCube (point : CubePoint) (cube : Shape)
  | negativeCoordinate (value : Int)
  | cellPastEnd (cell size : Nat)
  /-- A document is not well formed, or not of the expected form. -/
  | unreadableDocument
  | wrongDimensionCount (found : Nat)
  | emptyLineNumbers
  /-- The cube or fragment shape of the data volume is empty. -/
  | emptyDataShape (empty : EmptyShape)
  /-- The cube or fragment shape of an attribute volume is empty. -/
  | emptyAttributeShape (name : String) (empty : EmptyShape)
  | missingData
  | missingShape
  | attributeWithoutShapes (name : String)
  | missingLineNumbers (axis : Axis)
  | raggedCurtain (inlines crosslines : Nat)
  | shortRecordInput (size expected actual : Nat)
  | missingFormatVersion
  /-- A format version that is no number, given as compact text. -/
  | formatVersionNotNumber (found : String)
  | missingFunction
  /-- A packed message is not well formed, or not of the expected form. -/
  | unreadableMessage
  | envelopeLength (found : Nat)
  | manifestNotFound (name : String)
  | fragmentNotFound (name : String)
  /-- A setting that is no number, given in quotes. -/
  | settingNotNumber (setting quoted : String)
  | taskSizeBelowOne (taskSize : Nat)
  | unsupportedScheme (scheme : String)
  deriving DecidableEq, Repr

namespace Fault

/-- The version of the manifest format that this library reads. -/
def formatVersion : Nat := 1

def kind : Fault → FaultKind
  | io _ => .io
  | unsupportedFormatVersion _ => .unsupportedFormatVersion formatVersion
  | unknownFunction _ => .unknownFunction
  | emptyShape _ | shortPoints .. | zeroTaskSize _ => .invalidArgument
  | tooManyPoints _ | recordSizeTooLarge _ | taskCountOverflow .. | totalTaskCountOverflow
  | tooManyTasks _ | tooManyBundles _ => .overflow
  | axisOutOfRange _ | localIndexOutOfRange .. | indexOutOfRange .. | localOffsetOutOfRange ..
  | pointOutsideCube .. | negativeCoordinate _ | cellPastEnd .. => .outOfRange
  | unreadableDocument | wrongDimensionCount _ | emptyLineNumbers | emptyDataShape _
  | emptyAttributeShape .. | missingData | missingShape | attributeWithoutShapes _
  | missingLineNumbers _ | raggedCurtain .. | shortRecordInput .. | missingFormatVersion
  | formatVersionNotNumber _ | missingFunction => .invalidDocument
  | unreadableMessage | envelopeLength _ => .serialization
  | manifestNotFound _ => .notFound
  | fragmentNotFound _ => .storageInconsistency
  | settingNotNumber .. | taskSizeBelowOne _ | unsupportedScheme _ => .configuration

def detail? : Fault → Option String
  | io _ | unreadableDocument | unreadableMessage => none
  | unsupportedFormatVersion found => some found
  | unknownFunction name => some name
  | emptyShape empty => some empty.detail
  | shortPoints expected actual => some s!"expected {expected} bytes of points, got {actual}"
  | zeroTaskSize taskSize => some s!"task_size (= {taskSize}) < 1"
  | tooManyPoints count => some s!"{count} points do not fit in memory"
  | recordSizeTooLarge size => some s!"size (= {size}) too large"
  | taskCountOverflow jobs taskSize =>
      some s!"task count for {jobs} jobs of size {taskSize} overflows"
  | totalTaskCountOverflow => some "total task count overflows"
  | tooManyTasks count => some s!"task count (= {count}) does not fit in a message array"
  | tooManyBundles count => some s!"nbundles (= {count}) does not fit in a message array"
  | axisOutOfRange index => some s!"axis (= {index}) not in [0, 3)"
  | localIndexOutOfRange index extent axis =>
      some s!"local index (= {index}) not in [0, {extent}) along {axis.label}"
  | indexOutOfRange index extent axis =>
      some s!"index (= {index}) not in [0, {extent}) along {axis.label}"
  | localOffsetOutOfRange offset cells =>
      some s!"local offset (= {offset}) not in [0, {cells})"
  | pointOutsideCube point cube =>
      some s!"point {point.pointText} outside cube {cube.shapeText}"
  | negativeCoordinate value => some s!"negative coordinate (= {value})"
  | cellPastEnd cell size => some s!"cell (= {cell}) past the end of a {size} byte fragment"
  | wrongDimensionCount found => some s!"expected 3 line-number dimensions, was {found}"
  | emptyLineNumbers => some "line-numbers must be non-empty in every dimension"
  | emptyDataShape empty => some (FaultKind.invalidArgument.message empty.detail)
  | emptyAttributeShape name empty =>
      some s!"{name}: {FaultKind.invalidArgument.message empty.detail}"
  | missingData => some "Missing data field"
  | missingShape => some "Missing shape field"
  | attributeWithoutShapes name => some s!"attribute {name} has no shapes"
  | missingLineNumbers axis => some s!"missing line numbers for {axis.label}"
  | raggedCurtain inlines crosslines =>
      some s!"dim0s and dim1s differ in length ({inlines} != {crosslines})"
  | shortRecordInput size expected actual =>
      some s!"size (= {size}) needs {expected} bytes of points, input has {actual}"
  | missingFormatVersion => some "missing manifest.format-version"
  | formatVersionNotNumber found => some s!"format-version must be a number, was {found}"
  | missingFunction => some "missing function"
  | envelopeLength found => some s!"expected envelope of length 2, was {found}"
  | manifestNotFound name => some s!"manifest {name}"
  | fragmentNotFound name => some s!"fragment {name} not found"
  | settingNotNumber setting quoted => some s!"{setting} (= {quoted}) is not a number"
  | taskSizeBelowOne taskSize => some s!"task_size (= {taskSize}) < 1"
  | unsupportedScheme scheme => some s!"unsupported storage scheme: {scheme}"

/-- The whole message of a fault, if its cause has a text of its own. -/
def message? (fault : Fault) : Option String :=
  fault.detail?.map fault.kind.message

def isClient (fault : Fault) : Bool :=
  fault.kind.isClient

end Fault

/-- The axis with a given number, or the complaint about the number. -/
def Axis.ofIndex (index : Nat) : Except Fault Axis :=
  match Axis.ofIndex? index with
  | some axis => .ok axis
  | none => .error (.axisOutOfRange index)

end SurveyCube
