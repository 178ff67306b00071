import SurveyCube.Stitch.Host

/-!
# The command line of the stitcher

The command names a manifest and may set options.  A long option stands after
two hyphens, with its value after an equals sign or as the next argument; short
options stand after one hyphen and may be clustered, the last of them with its
value.  What follows two hyphens alone is no option.  Two options take their
default from the environment.

The input of a run comes from the standard input, its output goes to the
standard output.
-/

namespace SurveyCube.CommandLine

/-- Why a command line asks for no run. -/
inductive Usage where
  /-- It asks for help. -/
  | help
  /-- It cannot be understood. -/
  | misuse
  deriving DecidableEq, Repr

inductive Switch where
  | inputDir
  | time
  | timeFile
  | threads
  | verbose
  | help
  deriving DecidableEq, Repr

namespace Switch

def ofLong? : String → Option Switch
  | "input-dir" => some .inputDir
  | "time" => some .time
  | "time-file" => some .timeFile
  | "threads" => some .threads
  | "verbose" => some .verbose
  | "help" => some .help
  | _ => none

def ofShort? : Char → Option Switch
  | 'i' => some .inputDir
  | 't' => some .time
  | 'v' => some .verbose
  | 'h' => some .help
  | _ => none

def takesValue : Switch → Bool
  | .inputDir | .timeFile | .threads => true
  | .time | .verbose | .help => false

end Switch

/-! ## Reading arguments -/

structure Given where
  manifest : Option String := none
  inputDir : Option String := none
  time : Bool := false
  timeFile : Option String := none
  threads : Option Nat := none
  verbose : Bool := false
  deriving DecidableEq, Repr

/-- A path, which is never empty. -/
def path (value : String) : Except Usage String :=
  if value.isEmpty then .error .misuse else .ok value

def workers (value : String) : Except Usage Nat :=
  match wordSetting? value with
  | some n => .ok n
  | none => .error .misuse

/-- Set what may be set once only. -/
def once {α : Type} (held : Option α) (value : Except Usage α) : Except Usage (Option α) :=
  match held with
  | some _ => .error .misuse
  | none => value.map some

namespace Given

def positional (given : Given) (value : String) : Except Usage Given :=
  return { given with manifest := ← once given.manifest (path value) }

def setValue (given : Given) (switch : Switch) (value : String) : Except Usage Given :=
  match switch with
  | .inputDir => return { given with inputDir := ← once given.inputDir (path value) }
  | .timeFile => return { given with timeFile := ← once given.timeFile (path value) }
  | .threads => return { given with threads := ← once given.threads (workers value) }
  | .time | .verbose | .help => .error .misuse

def setFlag (given : Given) (switch : Switch) : Except Usage Given :=
  match switch with
  | .time => if given.time then .error .misuse else .ok { given with time := true }
  | .verbose => if given.verbose then .error .misuse else .ok { given with verbose := true }
  | .help => .error .help
  | .inputDir | .timeFile | .threads => .error .misuse

/-- Read a long option without its hyphens.  If its value is still to come, the
option is returned as well. -/
def readLong (given : Given) (argument : List Char) : Except Usage (Given × Option Switch) := do
  let name := argument.takeWhile (· ≠ '=')
  match Switch.ofLong? (String.ofList name), argument.drop name.length with
  | none, _ => .error .misuse
  | some switch, [] =>
      if switch.takesValue then return (given, some switch)
      else return (← given.setFlag switch, none)
  | some switch, _ :: value =>
      return (← given.setValue switch (String.ofList value), none)

/-- Read a cluster of short options without its hyphen.  If a value is still to
come, its option is returned as well. -/
def readShort (given : Given) : List Char → Except Usage (Given × Option Switch)
  | [] => return (given, none)
  | c :: rest =>
      match Switch.ofShort? c, rest with
      | none, _ => .error .misuse
      | some switch, rest =>
          if switch.takesValue then
            match rest with
            | [] => return (given, some switch)
            | '=' :: value => return (← given.setValue switch (String.ofList value), none)
            | value => return (← given.setValue switch (String.ofList value), none)
          else do
            readShort (← given.setFlag switch) rest

def read (given : Given) (argument : String) : Except Usage (Given × Option Switch) :=
  match argument.toList with
  | '-' :: '-' :: name => given.readLong name
  | '-' :: c :: cluster => given.readShort (c :: cluster)
  | _ => return (← given.positional argument, none)

end Given

def isOptionLike (argument : String) : Bool :=
  argument.toList.head? = some '-' && argument ≠ "-"

/-- Read arguments.  The option whose value comes next is passed along. -/
def readAll : Given → Option Switch → List String → Except Usage Given
  | given, none, [] => .ok given
  | _, some _, [] => .error .misuse
  | given, some switch, value :: rest =>
      if isOptionLike value then .error .misuse
      else do readAll (← given.setValue switch value) none rest
  | given, none, argument :: rest =>
      if argument = "--" then rest.foldlM Given.positional given
      else do
        let (given, pending) ← given.read argument
        readAll given pending rest

/-! ## The command -/

structure Command where
  /-- The path of the manifest below the input directory. -/
  manifest : String
  config : StitchConfig
  verbose : Bool
  deriving DecidableEq, Repr

def inputDirVariable : String := "FRAGCUBE_INPUT_DIR"

def threadsVariable : String := "FRAGCUBE_STITCH_THREADS"

/-- What is given, or else what the environment says. -/
def orVariable {α : Type} (given : Option α) (fallback : Option String)
    (read : String → Except Usage α) : Except Usage (Option α) :=
  match given, fallback with
  | some value, _ => .ok (some value)
  | none, some text => (read text).map some
  | none, none => .ok none

def Command.ofArguments (environment : String → Option String) (arguments : List String) :
    Except Usage Command := do
  let given ← readAll {} none arguments
  let inputDir ← orVariable given.inputDir (environment inputDirVariable) path
  let threads ← orVariable given.threads (environment threadsVariable) workers
  match given.manifest with
  | none => .error .misuse
  | some manifest => return {
      manifest
      config := {
        inputDir := inputDir.getD ({} : StitchConfig).inputDir
        threads
        timingFile := if given.time then some (given.timeFile.getD "./time") else none }
      verbose := given.verbose }

/-- Why a command failed. -/
inductive Failure where
  /-- The manifest at a path could not be used. -/
  | opening (path : String) (cause : Fault)
  /-- The run ended early. -/
  | stitching (cause : Fault)
  deriving DecidableEq, Repr

namespace Failure

def context : Failure → String
  | .opening path _ => s!"unable to open {path}"
  | .stitching _ => "stitching failed"

def cause : Failure → Fault
  | .opening _ cause => cause
  | .stitching cause => cause

end Failure

structure Outcome where
  /-- The run, if there was one. -/
  run : Option Run
  failure : Option Failure
  deriving Repr

namespace Outcome

def exitCode (outcome : Outcome) : Nat :=
  if outcome.failure.isSome then 1 else 0

end Outcome

def Usage.exitCode : Usage → Nat
  | .help => 0
  | .misuse => 2

/-- Carry out a command on a host, with the input that it is to read. -/
def Command.execute {m : Type → Type} [Monad m] (host : Host m) (input : m Bytes)
    (command : Command) : m Outcome := do
  match ← Stitcher.load host command.config command.manifest with
  | .error cause =>
      let path := Stitcher.manifestPath command.config command.manifest
      return { run := none, failure := some (.opening path cause) }
  | .ok stitcher =>
      let run ← stitcher.runOn host (← input)
      return { run := some run, failure := run.failure.map .stitching }

end SurveyCube.CommandLine
