/-
# The command

The command takes no arguments. It runs the standard job and says nothing unless the log setting
asks for it or the job fails. The setting decides which events are shown; files and status do not
hang on it.

Key definitions: `Report`, `CommandLine.report`, `CommandLine.run`.
-/
import InstructionSheet.Log.Filter
import InstructionSheet.Output.Job

namespace InstructionSheet

/-- What a run of the command leaves behind it: its status and the two streams. -/
structure Report where
  status : Nat
  stdout : String
  /-- The lines of the error stream. -/
  stderr : List String
deriving DecidableEq, Repr

namespace CommandLine

/-- The log lines of the events that a filter shows. -/
def logLines (filter : Log.Filter) (events : List Log.Event) : List String :=
  (events.filter filter.shows).map Log.Event.line

/-- Causes from the outermost to the innermost, each with its number. -/
def causeLines (causes : List String) : List String :=
  causes.mapIdx fun i cause => "    " ++ toString i ++ ": " ++ cause

/-- What is said of a job that failed. -/
def failureLines (output : String) (e : ExportError) : List String :=
  ["Error: writing " ++ output, "", "Caused by:"] ++ causeLines e.chain

/-- The report on a job of which the events and the result are known. -/
def report (filter : Log.Filter) (output : String) (events : List Log.Event)
    (result : Except ExportError Nat) : Report :=
  match result with
  | .ok rows => ⟨0, "", logLines filter (events ++ [.done rows])⟩
  | .error e => ⟨1, "", logLines filter events ++ failureLines output e⟩

/-- Runs the standard job among the given files. -/
def run (t : Files) (setting : Option String) : Files × Report :=
  let outcome := Job.runMos6502 Job.standardOutput t
  (outcome.files,
    report (Log.Filter.ofSetting setting) Job.standardOutput outcome.events outcome.result)

end CommandLine

end InstructionSheet
