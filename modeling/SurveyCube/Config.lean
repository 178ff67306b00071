import SurveyCube.Document
import SurveyCube.Text.Blank
import SurveyCube.Text.Quoted

/-!
# Configuration

The scheduler has one setting, the number of fragment ids per task; the
environment may override its default.  The stitcher is told where its files
lie, how many workers to use and whether to report its timing.

A document of a configuration may leave out any field.
-/

namespace SurveyCube

def version : String := "0.1.0"

/-- The machine word that a setting denotes: digits after an optional plus. -/
def wordSetting? (text : String) : Option Nat :=
  let digits := match Text.bytes text with
    | 43 :: rest => rest
    | bytes => bytes
  match Decimal.ofDigits? digits with
  | some n => if n < wordLimit then some n else none
  | none => none

/-! ## The scheduler -/

structure SchedulerConfig where
  /-- The greatest number of fragment ids in one task. -/
  taskSize : Nat := 10
  deriving DecidableEq, Repr

namespace SchedulerConfig

def taskSizeVariable : String := "FRAGCUBE_TASK_SIZE"

/-- A task holds at least one id. -/
def validate (config : SchedulerConfig) : Except Fault Unit :=
  if config.taskSize < 1 then .error (.taskSizeBelowOne config.taskSize) else .ok ()

/-- The configuration after a setting of the task size, with blanks around the
number passed over. -/
def ofSetting (value : String) : Except Fault SchedulerConfig :=
  match wordSetting? (String.ofList (Text.trim value.toList)) with
  | some taskSize => .ok { taskSize }
  | none => .error (.settingNotNumber taskSizeVariable (Text.quoted value))

/-- The defaults, overridden by the environment.  The result is valid. -/
def ofEnvironment (lookup : String → Option String) : Except Fault SchedulerConfig := do
  let config ← match lookup taskSizeVariable with
    | some value => ofSetting value
    | none => .ok {}
  config.validate
  return config

end SchedulerConfig

instance : Serial SchedulerConfig where
  toDatum config := .record [("task_size", toDatum config.taskSize)]
  ofDatum? datum := do
    let fields ← datum.fields? ["task_size"]
    return { taskSize := ← fields.orElse "task_size" ({} : SchedulerConfig).taskSize }

/-! ## The stitcher -/

structure StitchConfig where
  /-- The directory of the manifest and the fragment files. -/
  inputDir : String := "./"
  /-- The number of workers; as many as the machine has processors if absent. -/
  threads : Option Nat := none
  /-- The file that timing reports are appended to. -/
  timingFile : Option String := none
  deriving DecidableEq, Repr

namespace StitchConfig

/-- The number of workers that the configuration asks for.  Zero asks for
none in particular. -/
def workers? (config : StitchConfig) : Option Nat :=
  config.threads.filter fun n => 0 < n

def threadCount (config : StitchConfig) (processors : Nat) : Nat :=
  config.workers?.getD (max 1 processors)

end StitchConfig

instance : Serial StitchConfig where
  toDatum config := .record [
    ("input_dir", toDatum config.inputDir),
    ("threads", toDatum config.threads),
    ("timing_file", toDatum config.timingFile)]
  ofDatum? datum := do
    let fields ← datum.fields? ["input_dir", "threads", "timing_file"]
    return {
      inputDir := ← fields.orElse "input_dir" ({} : StitchConfig).inputDir
      threads := ← fields.nullable "threads"
      timingFile := ← fields.nullable "timing_file" }

end SurveyCube
