/-
# Entries

An entry is one row of a sheet: a mnemonic and what it stands for. In a source line the mnemonic is
the first three characters, blanks included, and the description is the rest without the blanks at
its ends. A line of fewer characters is all mnemonic.

Key definitions: `Entry`, `Entry.ofLine`.
-/
import InstructionSheet.Text.Blank
import InstructionSheet.Text.Bytes

namespace InstructionSheet

/-- A mnemonic with its description. -/
structure Entry where
  mnemonic : String
  description : String
deriving DecidableEq, Repr, Inhabited

namespace Entry

/-- The number of characters of a line that make its mnemonic. -/
def mnemonicLength : Nat := 3

/-- The byte offset that ends the mnemonic of a line: where the character after it begins, or the
end of a line that has none. -/
def cutOffset (line : List Char) : Nat :=
  (Text.offset? mnemonicLength line).getD (Text.utf8Length line)

/-- The mnemonic of a line and what follows it. The offset is always a place to cut, so the line
is never returned whole for want of one. -/
def cut (line : List Char) : List Char × List Char :=
  (Text.splitAtByte? (cutOffset line) line).getD (line, [])

/-- The entry that a source line holds. -/
def ofLine (line : List Char) : Entry where
  mnemonic := String.ofList (cut line).1
  description := String.ofList (Text.trim (cut line).2)

example : ofLine ['Ä', 'Ö', 'Ü', ' ', 'u'] = ⟨"ÄÖÜ", "u"⟩ := by decide

example : ofLine ['R', 'T'] = ⟨"RT", ""⟩ := by decide

end Entry
end InstructionSheet
