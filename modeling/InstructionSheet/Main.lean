/-
# The command as a program

Runs the standard job on the machine's own files. What is written and what is said comes from the
library; here the file is opened and written, and the lines are printed.

Key definitions: `main`.
-/
import InstructionSheet.CommandLine

namespace InstructionSheet
namespace CommandLine

/-- The name of the environment variable that holds the log setting. -/
def settingName : String := "RUST_LOG"

/-- The fault that an error of the machine stands for. -/
def faultOf : IO.Error → Fault
  | .noFileOrDirectory .. => .notFound
  | .inappropriateType _ 20 _ => .notADirectory
  | .inappropriateType _ 21 _ => .isADirectory
  | .resourceExhausted _ 28 _ => .noSpace
  | .permissionDenied _ code details => .other (details ++ " (os error " ++ toString code ++ ")")
  | e => .other (toString e)

/-- Writes bytes to a file of the machine, which is made or emptied first. -/
def writeFile (path : String) (bytes : ByteArray) : IO (Except ExportError Unit) := do
  match ← (IO.FS.Handle.mk path .write).toBaseIO with
  | .error e => return .error (.create path (faultOf e))
  | .ok handle =>
    match ← (do handle.write bytes; handle.flush : IO Unit).toBaseIO with
    | .error e => return .error (.finish (faultOf e))
    | .ok () => return .ok ()

/-- Runs a job on the machine's files. -/
def runOnMachine (job : Job) : IO (Except ExportError Nat × List Log.Event) := do
  let (sink, written) := job.sheet.writeTo Sink.unbounded
  match written with
  | .error e => return (.error e, [])
  | .ok () =>
    match ← writeFile job.output sink.received with
    | .error e => return (.error e, [])
    | .ok () => return (.ok job.sheet.size, [.exported job.output job.sheet.size])

end CommandLine
end InstructionSheet

open InstructionSheet in
/-- Runs the standard job; the exit code is the status of the report. -/
def main : IO UInt32 := do
  let filter := Log.Filter.ofSetting (← IO.getEnv CommandLine.settingName)
  let (job, events) := Job.standard
  let (result, more) ← CommandLine.runOnMachine job
  let report := CommandLine.report filter job.output (events ++ more) result
  IO.print report.stdout
  for line in report.stderr do
    IO.eprintln line
  return report.status.toUInt32
