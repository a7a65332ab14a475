/-
# The indivisible parts of CSV output

Output passes through a buffer, which may be emptied between any two bytes of a field's text but
never inside a doubled quote or inside the CR LF that ends a row. An atom is what always stays
together: one byte, or one such pair.

Key definitions: `Atom`, `Atom.bytes`, `Csv.atoms`.
-/
import InstructionSheet.Csv.Encode

namespace InstructionSheet
namespace Csv

/-- A stretch of output that reaches the buffer as a whole. -/
inductive Atom
  | byte (b : UInt8)
  | doubledQuote
  | rowEnd
deriving DecidableEq, Repr

namespace Atom

/-- The comma between the fields of a row. -/
def comma : Atom := .byte 0x2C

/-- A quote that opens or closes a field. -/
def quote : Atom := .byte 0x22

/-- The bytes that an atom stands for. -/
def bytes : Atom → List UInt8
  | .byte b => [b]
  | .doubledQuote => [0x22, 0x22]
  | .rowEnd => [0x0D, 0x0A]

/-- The number of its bytes. -/
def size : Atom → Nat
  | .byte _ => 1
  | .doubledQuote => 2
  | .rowEnd => 2

theorem length_bytes (a : Atom) : a.bytes.length = a.size := by
  cases a <;> rfl

end Atom

/-- A character of a field outside quotes: its bytes in UTF-8. -/
def bareAtoms (c : Char) : List Atom := (String.utf8EncodeChar c).map .byte

/-- A character of a field between quotes: a quote is doubled. -/
def quotedAtoms (c : Char) : List Atom := if c = '"' then [.doubledQuote] else bareAtoms c

/-- A field as atoms. -/
def fieldAtoms (field : List Char) : List Atom :=
  if needsQuotes field then .quote :: (field.flatMap quotedAtoms ++ [.quote])
  else field.flatMap bareAtoms

/-- A row with its end as atoms. -/
def rowAtoms (e : Entry) : List Atom :=
  fieldAtoms e.mnemonic.toList ++ .comma :: (fieldAtoms e.description.toList ++ [.rowEnd])

/-- The header and the given rows as atoms. -/
def atoms (rows : List Entry) : List Atom := (header :: rows).flatMap rowAtoms

example : rowAtoms ⟨"\"", "é"⟩ =
    [.quote, .doubledQuote, .quote, .comma, .byte 0xC3, .byte 0xA9, .rowEnd] := by decide

end Csv
end InstructionSheet
