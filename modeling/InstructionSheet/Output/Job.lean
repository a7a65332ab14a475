/-
# Exporting a sheet to a file

An export opens its path, making the file or emptying it, writes the sheet and reports the event
once all bytes are taken. When the path cannot be opened nothing has changed.

A job is a sheet and the path that it goes to. The standard job writes the instruction set of the
6502 to `instructions.csv`.

Key definitions: `Sheet.exportTo`, `Job`, `Job.run`, `Job.standard`.
-/
import InstructionSheet.Files.Tree
import InstructionSheet.Output.Writer
import InstructionSheet.Sheet.Mos6502

namespace InstructionSheet

/-- What came of work on files: the files afterwards, the result, and the events to report. -/
structure Outcome (α : Type) where
  files : Files
  result : Except ExportError α
  events : List Log.Event

/-- Writes a sheet to a path. -/
def Sheet.exportTo (s : Sheet) (t : Files) (path : String) : Outcome Unit :=
  match t.place path with
  | .error f => ⟨t, .error (.create path f), []⟩
  | .ok l =>
    let written := s.writeTo (t.sinkAt l)
    let files := t.store l written.1.received
    match written.2 with
    | .error e => ⟨files, .error e, []⟩
    | .ok () => ⟨files, .ok (), [.exported path s.size]⟩

/-- A sheet and the path that it goes to. -/
structure Job where
  output : String
  sheet : Sheet

namespace Job

/-- The path of a job that names none. -/
def standardOutput : String := "instructions.csv"

/-- The instruction set of the 6502 for a path, with the events that reading it reports. -/
def mos6502 (output : String) : Job × List Log.Event := (⟨output, Mos6502.sheet.1⟩, Mos6502.sheet.2)

/-- The instruction set of the 6502 for the standard path. -/
def standard : Job × List Log.Event := mos6502 standardOutput

/-- Exports the sheet; the result is the number of its rows. -/
def run (j : Job) (t : Files) : Outcome Nat :=
  let outcome := j.sheet.exportTo t j.output
  ⟨outcome.files, outcome.result.map fun _ => j.sheet.size, outcome.events⟩

/-- Makes the instruction set's job and runs it; its events come after those of the reading. -/
def runMos6502 (output : String) (t : Files) : Outcome Nat :=
  let outcome := (mos6502 output).1.run t
  { outcome with events := (mos6502 output).2 ++ outcome.events }

end Job

end InstructionSheet
