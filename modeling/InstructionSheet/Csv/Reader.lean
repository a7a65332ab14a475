/-
# Reading CSV text

The reader goes through a text once, character by character, and gives its rows as lists of fields.
Fields are parted by commas and are not trimmed. Rows end at LF, CR or any run of the two, so blank
lines are no rows; a last row need not be ended. A field that opens with a quote runs to the next
single quote, and a doubled quote stands for one; what follows the closing quote belongs to the
field as it is. A quote inside a field that opened without one is a character like any other.

Key definitions: `Scan`, `Scan.step`, `Csv.readRows`.
-/

namespace InstructionSheet
namespace Csv

/-- Where in a row the reader stands. -/
inductive Mode
  /-- Before a row: no character of it has come yet. -/
  | rowStart
  /-- Just after a comma. -/
  | fieldStart
  /-- In a field, outside quotes. -/
  | bare
  /-- Between quotes. -/
  | quoted
  /-- Just after a quote that came between quotes. -/
  | quoteSeen
deriving DecidableEq, Repr

/-- What the reader remembers: where it stands, the characters of the field it is in (the latest
first), and the fields of the row before that one (the latest first). -/
structure Scan where
  mode : Mode
  field : List Char
  row : List String
deriving DecidableEq, Repr

namespace Scan

/-- The reader before a row. -/
def start : Scan := ⟨.rowStart, [], []⟩

/-- The characters that end a row outside quotes. -/
def isRowEnd (c : Char) : Bool := c == '\r' || c == '\n'

/-- Takes a character into the field. -/
def copy (s : Scan) (mode : Mode) (c : Char) : Scan := { s with mode := mode, field := c :: s.field }

/-- All fields of the row, the one the reader is in included. -/
def wholeRow (s : Scan) : List String := (String.ofList s.field.reverse :: s.row).reverse

/-- Ends the field and stands before the next. -/
def endField (s : Scan) : Scan := ⟨.fieldStart, [], String.ofList s.field.reverse :: s.row⟩

/-- A character outside quotes, with the row that it ends if it ends one. -/
def plain (s : Scan) (c : Char) : Scan × Option (List String) :=
  if c = ',' then (s.endField, none)
  else if isRowEnd c then (start, some s.wholeRow)
  else (s.copy .bare c, none)

/-- The first character of a field. -/
def first (s : Scan) (c : Char) : Scan × Option (List String) :=
  if c = '"' then ({ s with mode := .quoted }, none) else s.plain c

/-- One character, with the row that it ends if it ends one. -/
def step (s : Scan) (c : Char) : Scan × Option (List String) :=
  match s.mode with
  | .rowStart => if isRowEnd c then (s, none) else s.first c
  | .fieldStart => s.first c
  | .bare => s.plain c
  | .quoted => if c = '"' then ({ s with mode := .quoteSeen }, none) else (s.copy .quoted c, none)
  | .quoteSeen => if c = '"' then (s.copy .quoted c, none) else s.plain c

/-- The row that the end of the text ends, if a row has begun. -/
def finish (s : Scan) : Option (List String) :=
  match s.mode with
  | .rowStart => none
  | _ => some s.wholeRow

/-- The rows from here to the end of the text, the one the reader is in first. -/
def rows : Scan → List Char → List (List String)
  | s, [] => s.finish.toList
  | s, c :: cs =>
    match s.step c with
    | (s', none) => rows s' cs
    | (s', some row) => row :: rows s' cs

end Scan

/-- The text without the byte order mark at its start, if it has one. -/
def dropMark : List Char → List Char
  | [] => []
  | c :: cs => if c = '\uFEFF' then cs else c :: cs

/-- The rows of a CSV text. -/
def readRows (text : List Char) : List (List String) := Scan.start.rows (dropMark text)

example : readRows "a,\"b\"\"c\nd\"\r\n\r\n,".toList = [["a", "b\"c\nd"], ["", ""]] := by decide

example : readRows "x\"y,\"p\"q".toList = [["x\"y", "pq"]] := by decide

end Csv
end InstructionSheet
