/-
# Why output fails

A fault is what the system or a sink answers when it refuses an operation. An export error says at
which stage an export met its fault: when its file was opened, while rows were being written, or at
the end, when the last bytes are handed over.

Key definitions: `Fault`, `Fault.text`, `ExportError`, `ExportError.message`, `ExportError.chain`.
-/
import InstructionSheet.Text.Stop

namespace InstructionSheet

/-- The reason why an operation on files or on a sink was refused. -/
inductive Fault
  /-- A name on the way does not exist. -/
  | notFound
  /-- The name to be made exists. -/
  | alreadyExists
  /-- A folder stands where a file is needed. -/
  | isADirectory
  /-- A file stands where a folder is needed. -/
  | notADirectory
  /-- A name or a whole path is longer than the system allows. -/
  | nameTooLong
  /-- A path holds the character NUL. -/
  | nulInName
  /-- A device has no room left. -/
  | noSpace
  /-- A sink took none of the bytes it was given. -/
  | nothingTaken
  /-- The bytes written are no text; they can be read up to `stop`. -/
  | invalidText {stop : Text.Stop}
  /-- Any other reason, in its own words. -/
  | other (text : String)
deriving DecidableEq, Repr

/-- The words for a fault. -/
def Fault.text : Fault → String
  | .notFound => "No such file or directory (os error 2)"
  | .alreadyExists => "File exists (os error 17)"
  | .isADirectory => "Is a directory (os error 21)"
  | .notADirectory => "Not a directory (os error 20)"
  | .nameTooLong => "File name too long (os error 36)"
  | .nulInName => "file name contained an unexpected NUL byte"
  | .noSpace => "No space left on device (os error 28)"
  | .nothingTaken => "failed to write whole buffer"
  | @invalidText stop => stop.words
  | .other text => text

/-- An export that failed, by the stage that it reached. -/
inductive ExportError
  /-- The file at `path` could not be opened; nothing was written. -/
  | create (path : String) (fault : Fault)
  /-- The buffer had to be emptied to make room for a row and could not be. -/
  | row (fault : Fault)
  /-- All rows were taken, and handing over the last of them failed. -/
  | finish (fault : Fault)
deriving DecidableEq, Repr

namespace ExportError

/-- The fault behind the error. -/
def fault : ExportError → Fault
  | .create _ f => f
  | .row f => f
  | .finish f => f

/-- The error in words, which end in the words for its fault. -/
def message : ExportError → String
  | .create path f => "cannot open " ++ path ++ " for writing: " ++ f.text
  | .row f => "CSV write failed: " ++ f.text
  | .finish f => "I/O error: " ++ f.text

/-- What lies behind the error, in words. Between a row and its fault stands the error of the CSV
writer, which has the words of the fault. -/
def causes : ExportError → List String
  | .create _ f => [f.text]
  | .row f => [f.text, f.text]
  | .finish f => [f.text]

/-- The error and then its causes, each in words. -/
def chain (e : ExportError) : List String := e.message :: e.causes

end ExportError
end InstructionSheet
