/-
# Blank characters and trimming

A character is blank when it has the Unicode property `White_Space` (25 characters, the same in
every Unicode version since 6.3). `trim` cuts the blanks off both ends of a text and keeps those
inside.

Key definitions: `isBlank`, `trim`.
-/
import InstructionSheet.Text.Ranges

namespace InstructionSheet
namespace Text

/-- The code points with the property `White_Space`, as closed ranges, ascending and apart. -/
def blankRanges : List (Nat × Nat) :=
  [(0x09, 0x0D), (0x20, 0x20), (0x85, 0x85), (0xA0, 0xA0), (0x1680, 0x1680), (0x2000, 0x200A),
    (0x2028, 0x2029), (0x202F, 0x202F), (0x205F, 0x205F), (0x3000, 0x3000)]

/-- Whether a character is white space. -/
def isBlank (c : Char) : Bool := within blankRanges c

/-- The text without its leading blanks. -/
def trimStart (cs : List Char) : List Char := cs.dropWhile isBlank

/-- The text without its trailing blanks. -/
def trimEnd (cs : List Char) : List Char := (trimStart cs.reverse).reverse

/-- The text without the blanks at its two ends. -/
def trim (cs : List Char) : List Char := trimEnd (trimStart cs)

example : areApart blankRanges = true ∧ sizeOfRanges blankRanges = 25 := by decide

example : trim [' ', 'a', ' ', '\t', 'b', '\u0085', '\n'] = ['a', ' ', '\t', 'b'] := by decide

example : trim [' ', '\u3000'] = [] := by decide

end Text
end InstructionSheet
