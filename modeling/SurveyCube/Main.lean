import Std.Time.DateTime.Timestamp
import SurveyCube.CommandLine

/-!
# The stitcher

The command reads a record and points from the standard input and writes the
record and the samples to the standard output.  Failures go to the standard
error.
-/

namespace SurveyCube.CommandLine

/-- The way the operating system reports a missing file. -/
def fileFault : IO.Error → FileFault
  | .noFileOrDirectory .. => .missing
  | _ => .unusable

def attempt {α : Type} (access : IO α) : IO (Except FileFault α) := do
  match ← access.toBaseIO with
  | .ok value => return .ok value
  | .error fault => return .error (fileFault fault)

/-- The files and the clock of the operating system. -/
def systemHost : Host IO where
  read path := attempt do return (← IO.FS.readBinFile path).data.toList
  append path content := attempt do
    let handle ← IO.FS.Handle.mk path .append
    handle.write ⟨content.toArray⟩
  clock := IO.monoNanosNow
  date := do
    let nanos := (← Std.Time.Timestamp.now).toNanosecondsSinceUnixEpoch.toInt
    return {
      seconds := nanos.fdiv Timestamp.nanosPerSecond
      nanos := (nanos.fmod Timestamp.nanosPerSecond).toNat }

def helpText : String :=
  "Read points from fragment files and write them with their global offsets\n\n" ++
  "Usage: stitch [OPTIONS] <MANIFEST>\n\n" ++
  "Arguments:\n" ++
  "  <MANIFEST>  Stitch manifest, relative to the input directory\n\n" ++
  "Options:\n" ++
  "  -i, --input-dir <INPUT_DIR>  Directory holding the manifest and the fragment files\n" ++
  "  -t, --time                   Append a timing report to the time file\n" ++
  "      --time-file <TIME_FILE>  Where to write the timing report\n" ++
  "      --threads <THREADS>      Worker threads\n" ++
  "  -v, --verbose                Log progress to stderr\n" ++
  "  -h, --help                   Print help\n"

def causeText (cause : Fault) : String :=
  let detail := match cause with
    | .io .missing => "no such file or directory"
    | .io .unusable => "not usable as a file"
    | .unreadableDocument => "not readable"
    | _ => ""
  cause.message?.getD (cause.kind.message detail)

def report (outcome : Outcome) : IO UInt32 := do
  if let some run := outcome.run then
    let stdout ← IO.getStdout
    stdout.write ⟨run.output.toArray⟩
    stdout.flush
  if let some failure := outcome.failure then
    IO.eprintln s!"Error: {failure.context}\n\nCaused by:"
    IO.eprintln ("    " ++ causeText failure.cause)
  return UInt32.ofNat outcome.exitCode

end SurveyCube.CommandLine

open SurveyCube SurveyCube.CommandLine in
/-- Stitch as the arguments and the environment say. -/
def main (arguments : List String) : IO UInt32 := do
  let inputDir ← IO.getEnv inputDirVariable
  let threads ← IO.getEnv threadsVariable
  let environment := [(inputDirVariable, inputDir), (threadsVariable, threads)]
  match Command.ofArguments (fun name => (environment.lookup name).join) arguments with
  | .error .help =>
      IO.print helpText
      return UInt32.ofNat Usage.help.exitCode
  | .error .misuse =>
      IO.eprint helpText
      return UInt32.ofNat Usage.misuse.exitCode
  | .ok command =>
      let input : IO Bytes := do return (← (← IO.getStdin).readBinToEnd).data.toList
      report (← command.execute systemHost input)
