/-
# Writing a sheet as CSV text

A row is its two fields with a comma between them and CR LF after them. A field is put between
quotes exactly when it holds a comma, a quote, CR or LF, and a quote inside such a field is written
twice. The header is a row like any other and is there even when no row follows it.

Key definitions: `Csv.encodeField`, `Csv.encodeRow`, `Csv.encode`, `Sheet.csv`.
-/
import InstructionSheet.Sheet.Basic

namespace InstructionSheet
namespace Csv

/-- The names of the two columns. -/
def header : Entry := ⟨"Instruction", "Description"⟩

/-- The characters that a field outside quotes cannot hold: the comma, the quote and the two ends
of a line. -/
def isDelicate (c : Char) : Bool := c == ',' || c == '"' || c == '\r' || c == '\n'

/-- Whether a field has to stand between quotes. -/
def needsQuotes (field : List Char) : Bool := field.any isDelicate

/-- Every quote written twice. -/
def doubleQuotes : List Char → List Char
  | [] => []
  | c :: cs => if c = '"' then '"' :: '"' :: doubleQuotes cs else c :: doubleQuotes cs

/-- A field between quotes where it needs them and as it is elsewhere. -/
def encodeField (field : List Char) : List Char :=
  if needsQuotes field then '"' :: (doubleQuotes field ++ ['"']) else field

/-- A row with its end. -/
def encodeRow (e : Entry) : List Char :=
  encodeField e.mnemonic.toList ++ ',' :: (encodeField e.description.toList ++ ['\r', '\n'])

/-- The header and the given rows. -/
def encode (rows : List Entry) : List Char := (header :: rows).flatMap encodeRow

example : encodeRow ⟨"A\"B", "x, y"⟩ = "\"A\"\"B\",\"x, y\"\r\n".toList := by decide

example : encodeRow ⟨"", ""⟩ = [',', '\r', '\n'] := by decide

end Csv

/-- The CSV text of a sheet. -/
def Sheet.csv (s : Sheet) : String := String.ofList (Csv.encode s.rows)

end InstructionSheet
