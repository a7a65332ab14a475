/-
# Sheets

A sheet is a list of entries with at most one row for each mnemonic. Rows keep the order in which
their mnemonics first came; inserting a mnemonic that has a row replaces the description there. A
hash map beside the rows tells at which of them a mnemonic stands.

Key definitions: `Sheet`, `Sheet.rows`, `Sheet.get?`, `Sheet.insert`, `Sheet.parse`.
-/
import Std.Data.ExtHashMap
import InstructionSheet.Entry
import InstructionSheet.Log.Event
import InstructionSheet.Text.Pieces

namespace InstructionSheet

/-- Rows in the order of their mnemonics' first insertion, and for each mnemonic the index of its
row. -/
structure Sheet where
  entries : Array Entry
  slots : Std.ExtHashMap String Nat
deriving DecidableEq

namespace Sheet

/-- The sheet without rows. -/
def empty : Sheet := ⟨#[], ∅⟩

/-- The rows from first to last. -/
def rows (s : Sheet) : List Entry := s.entries.toList

/-- The number of rows. -/
def size (s : Sheet) : Nat := s.entries.size

/-- Whether a sheet has no rows. -/
def isEmpty (s : Sheet) : Bool := s.entries.isEmpty

/-- The index that the map has for a mnemonic. -/
def slot? (s : Sheet) (mnemonic : String) : Option Nat := s.slots[mnemonic]?

/-- The number of mnemonics that the map has an index for. -/
def slotCount (s : Sheet) : Nat := s.slots.size

/-- The description that stands beside a mnemonic. -/
def get? (s : Sheet) (mnemonic : String) : Option String :=
  (s.slots[mnemonic]?).bind fun i => s.entries[i]?.map Entry.description

/-- What came of an insertion: the new sheet, whether a description was replaced in it, and the
events to report. -/
structure Insertion where
  sheet : Sheet
  replaced : Bool
  events : List Log.Event

/-- Gives the row at an index another description. -/
def describe (s : Sheet) (i : Nat) (description : String) : Sheet :=
  { s with entries := s.entries.modify i fun e => { e with description := description } }

/-- Adds a row at the end. -/
def append (s : Sheet) (e : Entry) : Sheet :=
  ⟨s.entries.push e, s.slots.insert e.mnemonic s.entries.size⟩

@[simp] theorem rows_empty : empty.rows = [] := rfl

theorem length_rows (s : Sheet) : s.rows.length = s.size := Array.length_toList

@[simp] theorem rows_append (s : Sheet) (e : Entry) : (s.append e).rows = s.rows ++ [e] := by
  simp [rows, append]

@[simp] theorem rows_describe (s : Sheet) (i : Nat) (d : String) :
    (s.describe i d).rows = s.rows.modify i fun e => { e with description := d } := by
  simp [rows, describe]

/-- Puts an entry into a sheet: a mnemonic that has a row keeps the row and gets the new
description, any other gets a row at the end. Each replacement is reported, even by an equal
description. -/
def insert (s : Sheet) (e : Entry) : Insertion :=
  match s.slots[e.mnemonic]? with
  | some i =>
    let old := ((s.entries[i]?).map Entry.description).getD ""
    ⟨s.describe i e.description, true, [.replaced e.mnemonic old e.description]⟩
  | none => ⟨s.append e, false, []⟩

/-- Inserts entries in order and collects the events of all insertions. -/
def insertAll : Sheet → List Entry → Sheet × List Log.Event
  | s, [] => (s, [])
  | s, e :: es =>
    let first := s.insert e
    let rest := insertAll first.sheet es
    (rest.1, first.events ++ rest.2)

theorem insertAll_append (s : Sheet) (es es' : List Entry) :
    s.insertAll (es ++ es') =
      ((s.insertAll es).1.insertAll es' |>.1,
        (s.insertAll es).2 ++ ((s.insertAll es).1.insertAll es').2) := by
  induction es generalizing s with
  | nil => rfl
  | cons e es ih => simp [insertAll, ih]

/-- The lines of a text: the text without the blanks at its ends, cut at line feeds alone. -/
def lines (text : String) : List (List Char) := Text.pieces '\n' (Text.trim text.toList)

/-- Reads a text into a sheet, one entry for each line. A blank line is an entry as well, so the
empty text has one row. -/
def parse (text : String) : Sheet × List Log.Event :=
  let result := empty.insertAll ((lines text).map Entry.ofLine)
  (result.1, result.2 ++ [.parsed (lines text).length result.1.size])

end Sheet
end InstructionSheet
