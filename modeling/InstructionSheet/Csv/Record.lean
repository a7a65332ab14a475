/-
# From rows of fields to entries

The first row of a CSV text names its columns; every later row is an entry or an error of its own,
so a faulty row changes no other. Of the columns, those named `Instruction` and `Description` are
used, in whatever order they stand, and the rest are passed over. Where a row has several faults,
an unequal number of fields counts before a column named twice, and that before a missing column.

Key definitions: `Column`, `RowError`, `Csv.entryOfRow`, `Csv.decode`.
-/
import InstructionSheet.Csv.Encode
import InstructionSheet.Csv.Reader

namespace InstructionSheet
namespace Csv

/-- A column that an entry is read from. -/
inductive Column
  | instruction
  | description
deriving DecidableEq, Repr

/-- The name that stands for a column in the first row. -/
def Column.name : Column → String
  | .instruction => header.mnemonic
  | .description => header.description

/-- The column of a name, which has to agree to the letter. -/
def Column.ofName? (name : String) : Option Column :=
  if name = Column.instruction.name then some .instruction
  else if name = Column.description.name then some .description
  else none

/-- Why a row is no entry. -/
inductive RowError
  /-- The row has not as many fields as there are columns. -/
  | unequalLengths (expected found : Nat)
  /-- The column is named a second time. -/
  | duplicateColumn (column : Column)
  /-- The column is not named at all. -/
  | missingColumn (column : Column)
deriving DecidableEq, Repr

/-- The error in words. -/
def RowError.message : RowError → String
  | .unequalLengths expected found =>
    "expected " ++ toString expected ++ " fields, found " ++ toString found
  | .duplicateColumn column => "duplicate field `" ++ column.name ++ "`"
  | .missingColumn column => "missing field `" ++ column.name ++ "`"

/-- The entry whose parts were found, or the first part that was not. -/
def complete : Option String → Option String → Except RowError Entry
  | none, _ => .error (.missingColumn .instruction)
  | some _, none => .error (.missingColumn .description)
  | some mnemonic, some description => .ok ⟨mnemonic, description⟩

/-- Visits columns from left to right with the parts found so far. -/
def collect (mnemonic? description? : Option String) :
    List (String × String) → Except RowError Entry
  | [] => complete mnemonic? description?
  | (name, value) :: rest =>
    match Column.ofName? name with
    | none => collect mnemonic? description? rest
    | some .instruction =>
      if mnemonic?.isSome then .error (.duplicateColumn .instruction)
      else collect (some value) description? rest
    | some .description =>
      if description?.isSome then .error (.duplicateColumn .description)
      else collect mnemonic? (some value) rest

/-- The entry in a row below the given column names. -/
def entryOfRow (headers row : List String) : Except RowError Entry :=
  if headers.length = row.length then collect none none (headers.zip row)
  else .error (.unequalLengths headers.length row.length)

/-- What a CSV text holds: the names of its columns and, for each further row, an entry or an
error. -/
structure Decoded where
  headers : List String
  entries : List (Except RowError Entry)

/-- The content of a list of rows; without any row there are no columns either. -/
def decodeRows : List (List String) → Decoded
  | [] => ⟨[], []⟩
  | headers :: rows => ⟨headers, rows.map (entryOfRow headers)⟩

/-- The content of a CSV text. -/
def decode (text : String) : Decoded := decodeRows (readRows text.toList)

end Csv
end InstructionSheet
