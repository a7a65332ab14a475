/-
# A workspace

A workspace is a sheet to work on, a second one set aside, and files. Commands change it one at a
time; each has an answer and reports its events in the order in which they came.

Key definitions: `Workspace`, `Command`, `Answer`, `Workspace.execute`.
-/
import InstructionSheet.CommandLine
import InstructionSheet.Csv.Record

namespace InstructionSheet

/-- Two sheets and files. -/
structure Workspace where
  sheet : Sheet
  saved : Sheet
  files : Files

/-- What a workspace can be told to do. -/
inductive Command
  /-- Begins an empty sheet. -/
  | clear
  /-- Takes the instruction set of the 6502 as the sheet. -/
  | mos6502
  /-- Reads a text as the sheet. -/
  | parse (text : String)
  | insert (e : Entry)
  /-- Inserts the entry of a source line. -/
  | insertLine (line : String)
  | get (mnemonic : String)
  | isEmpty
  | rows
  | csv
  /-- Decodes the sheet's own CSV text. -/
  | reread
  /-- Sets a copy of the sheet aside. -/
  | save
  /-- Lets the sheet and the one set aside change places. -/
  | swap
  | equalsSaved
  /-- Shows the standard job. -/
  | standardJob
  /-- Makes the standard job anew and runs it. -/
  | runStandard
  /-- Makes the standard job for another path and runs it. -/
  | runMos6502 (output : String)
  /-- Runs the sheet as a job. -/
  | runSheet (output : String)
  | exportSheet (output : String)
  /-- Runs the command with a log setting. -/
  | commandLine (setting : Option String)
  | makeFolders (path : String)
  | write (path : String) (content : String)
  | read (path : String)

/-- What a command is answered. -/
inductive Answer
  | done
  | flag (value : Bool)
  | description (value : Option String)
  | rows (value : List Entry)
  | csv (value : Except ExportError String)
  | decoded (value : Except ExportError Csv.Decoded)
  | job (value : Job)
  | runCount (value : Except ExportError Nat)
  /-- A run of the given job. -/
  | jobRun (job : Job) (value : Except ExportError Nat)
  | exported (value : Except ExportError Unit)
  | report (value : Report)
  | fileDone (value : Except Fault Unit)
  | content (value : Except Fault ByteArray)

namespace Workspace

/-- Two empty sheets and an empty working folder. -/
def initial : Workspace := ⟨Sheet.empty, Sheet.empty, Files.initial⟩

/-- The workspace, the answer and the events after a command. -/
structure Reply where
  workspace : Workspace
  answer : Answer
  events : List Log.Event

/-- A reply that leaves the workspace as it is and reports nothing. -/
def answering (w : Workspace) (a : Answer) : Reply := ⟨w, a, []⟩

/-- Another sheet to work on, with the events that making it reported. -/
def withSheet (w : Workspace) (made : Sheet × List Log.Event) : Reply :=
  ⟨{ w with sheet := made.1 }, .done, made.2⟩

/-- Inserts an entry into the sheet. -/
def insertEntry (w : Workspace) (e : Entry) : Reply :=
  let inserted := w.sheet.insert e
  ⟨{ w with sheet := inserted.sheet }, .flag inserted.replaced, inserted.events⟩

/-- Work on the files alone. -/
def onFiles {α : Type} (w : Workspace) (outcome : Outcome α)
    (answer : Except ExportError α → Answer) : Reply :=
  ⟨{ w with files := outcome.files }, answer outcome.result, outcome.events⟩

/-- Carries out a command. -/
def execute (w : Workspace) : Command → Reply
  | .clear => w.withSheet (Sheet.empty, [])
  | .mos6502 => w.withSheet Mos6502.sheet
  | .parse text => w.withSheet (Sheet.parse text)
  | .insert e => w.insertEntry e
  | .insertLine line => w.insertEntry (Entry.ofLine line.toList)
  | .get mnemonic => w.answering (.description (w.sheet.get? mnemonic))
  | .isEmpty => w.answering (.flag w.sheet.isEmpty)
  | .rows => w.answering (.rows w.sheet.rows)
  | .csv => w.answering (.csv w.sheet.toCsv)
  | .reread => w.answering (.decoded (w.sheet.toCsv.map Csv.decode))
  | .save => ⟨{ w with saved := w.sheet }, .done, []⟩
  | .swap => ⟨{ w with sheet := w.saved, saved := w.sheet }, .done, []⟩
  | .equalsSaved => w.answering (.flag (decide (w.sheet = w.saved)))
  | .standardJob => ⟨w, .job Job.standard.1, Job.standard.2⟩
  | .runStandard => w.onFiles (Job.runMos6502 Job.standardOutput w.files) .runCount
  | .runMos6502 output => w.onFiles (Job.runMos6502 output w.files) .runCount
  | .runSheet output =>
    let job : Job := ⟨output, w.sheet⟩
    w.onFiles (job.run w.files) (.jobRun job)
  | .exportSheet output => w.onFiles (w.sheet.exportTo w.files output) .exported
  | .commandLine setting =>
    let ran := CommandLine.run w.files setting
    ⟨{ w with files := ran.1 }, .report ran.2, []⟩
  | .makeFolders path =>
    let made := w.files.makeFolders path
    ⟨{ w with files := made.1 }, .fileDone made.2, []⟩
  | .write path content =>
    let written := w.files.write path content.toByteArray
    ⟨{ w with files := written.1 }, .fileDone written.2, []⟩
  | .read path => w.answering (.content (w.files.read path))

/-- Carries out commands in order; the replies are given in the same order. -/
def executeAll : Workspace → List Command → List Reply
  | _, [] => []
  | w, c :: cs =>
    let reply := w.execute c
    reply :: executeAll reply.workspace cs

end Workspace
end InstructionSheet
