/-
# Log events

What the library reports while it works. An event has a level, the part of the program that it
comes from (its target), a message and named fields; `Event.line` puts it on one line.

Key definitions: `Level`, `Event`, `Event.fields`, `Event.hasField`, `Event.line`.
-/

namespace InstructionSheet
namespace Log

/-- How much an event matters, from most to least. -/
inductive Level
  | error
  | warn
  | info
  | debug
  | trace
deriving DecidableEq, Repr

/-- The place of a level in the order, from 1 for errors. -/
def Level.rank : Level → Nat
  | .error => 1
  | .warn => 2
  | .info => 3
  | .debug => 4
  | .trace => 5

/-- The word for a level in a log line. -/
def Level.name : Level → String
  | .error => "ERROR"
  | .warn => "WARN"
  | .info => "INFO"
  | .debug => "DEBUG"
  | .trace => "TRACE"

/-- Something that happened to a sheet or to a run. -/
inductive Event
  /-- A mnemonic was given a new description. -/
  | replaced (mnemonic old new : String)
  /-- A text was read into a sheet. -/
  | parsed (lines mnemonics : Nat)
  /-- A sheet was written to a path. -/
  | exported (path : String) (rows : Nat)
  /-- A run of the command has come to its end. -/
  | done (rows : Nat)
deriving DecidableEq, Repr

/-- The value of a field of an event. -/
inductive FieldValue
  | text (s : String)
  | number (n : Nat)
deriving DecidableEq, Repr

/-- The value as it stands in a log line: a text unquoted, a number in decimal. -/
def FieldValue.render : FieldValue → String
  | .text s => s
  | .number n => toString n

namespace Event

/-- How much an event matters: a replacement is a warning, an export is for information. -/
def level : Event → Level
  | .replaced .. => .warn
  | .parsed .. => .debug
  | .exported .. => .info
  | .done .. => .debug

/-- The part of the program that an event comes from. -/
def target : Event → String
  | .replaced .. => "mnemonic_table::table"
  | .parsed .. => "mnemonic_table::table"
  | .exported .. => "mnemonic_table::export"
  | .done .. => "mnemonic_csv"

/-- What happened, without the particulars. -/
def message : Event → String
  | .replaced .. => "duplicate mnemonic, keeping the later description"
  | .parsed .. => "parsed instruction table"
  | .exported .. => "wrote instruction table"
  | .done .. => "done"

/-- The particulars of an event, each with its name, in the order in which they are shown. -/
def fields : Event → List (String × FieldValue)
  | .replaced mnemonic old new =>
    [("mnemonic", .text mnemonic), ("old", .text old), ("new", .text new)]
  | .parsed lines mnemonics => [("lines", .number lines), ("mnemonics", .number mnemonics)]
  | .exported path rows => [("path", .text path), ("rows", .number rows)]
  | .done rows => [("rows", .number rows)]

/-- Whether an event has a field of the given name. Its message counts as one. -/
def hasField (e : Event) (name : List Char) : Bool :=
  name == "message".toList || e.fields.any fun f => f.1.toList == name

/-- An event on one line: level, target, message, then each field as `name=value`. -/
def line (e : Event) : String :=
  e.fields.foldl (fun text f => text ++ " " ++ f.1 ++ "=" ++ f.2.render)
    (e.level.name ++ " " ++ e.target ++ ": " ++ e.message)

example : (Event.exported "a.csv" 56).line =
    "INFO mnemonic_table::export: wrote instruction table path=a.csv rows=56" := by decide

end Event

end Log
end InstructionSheet
