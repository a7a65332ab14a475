/-
# Modes and escapes of patterns

A pattern is read in a mode, which its switches change as it goes. The mode says whether case is
ignored, whether characters are characters and not bytes, and whether blanks and remarks are passed
over. It also says what a pattern may ask for: letters in any case, and classes such as that of all
digits, need tables of the characters that are not at hand, while bytes may not leave ASCII, since
beyond it they are no text. What needs such a table, or leaves ASCII as bytes, is refused.

Key definitions: `Mode`, `Mode.skip`, `Escape`, `Mode.escape?`, `Mode.admits`.
-/
import InstructionSheet.Text.Blank

namespace InstructionSheet
namespace Log
namespace Pattern

/-- How the characters of a pattern are taken. -/
structure Mode where
  ignoreCase : Bool
  unicode : Bool
  spaced : Bool
deriving DecidableEq, Repr

/-- What a backslash and the characters after it stand for. -/
inductive Escape
  | character (c : Char)
  /-- A character given by the number of a byte. -/
  | byte (c : Char)
  /-- A class of digits, blanks or letters, or its complement. -/
  | charClass (complement : Bool)
  /-- The start or the end of the text. -/
  | textEdge
  /-- A place where a word begins or ends, or does not. -/
  | wordEdge
deriving DecidableEq, Repr

/-- Whether a character is a digit of base 16. -/
def isHexDigit (c : Char) : Bool :=
  c.isDigit || (decide ('a'.toNat ≤ c.toNat) && decide (c.toNat ≤ 'f'.toNat)) ||
    (decide ('A'.toNat ≤ c.toNat) && decide (c.toNat ≤ 'F'.toNat))

/-- The number that a digit of base 16 stands for. -/
def hexDigit (c : Char) : Nat :=
  if c.isDigit then c.toNat - '0'.toNat
  else if 'a'.toNat ≤ c.toNat then 10 + (c.toNat - 'a'.toNat)
  else 10 + (c.toNat - 'A'.toNat)

/-- The letters that stand for control characters, with these. -/
def controls : List (Char × Char) :=
  [('a', '\x07'), ('f', '\x0c'), ('n', '\n'), ('r', '\r'), ('t', '\t'), ('v', '\x0b')]

/-- A text without the blanks and remarks at its start. A remark runs from `#` to the end of the
line; `inRemark` says whether the text begins in one. -/
def dropSpace : Bool → List Char → List Char
  | _, [] => []
  | true, c :: cs => dropSpace (c != '\n') cs
  | false, c :: cs =>
    if Text.isBlank c then dropSpace false cs
    else if c = '#' then dropSpace true cs
    else c :: cs

namespace Mode

/-- The mode in which a pattern begins. -/
def standard : Mode := ⟨false, true, false⟩

/-- Whether a mode asks for the cases of all letters. -/
def needsCases (m : Mode) : Bool := m.ignoreCase && m.unicode

/-- Whether a class can have a character for a member. -/
def hasMember (m : Mode) (c : Char) : Bool :=
  !m.needsCases && (m.unicode || decide (c.toNat < 0x80))

/-- What is left of a text once blanks and remarks are passed over, if the mode says so. -/
def skip (m : Mode) (cs : List Char) : List Char := if m.spaced then dropSpace false cs else cs

/-- The character that comes next where a range may go on. Blanks and one `#` are passed over, but
not the rest of a remark. -/
def peek? (m : Mode) (cs : List Char) : Option Char :=
  if m.spaced then
    match cs.dropWhile Text.isBlank with
    | '#' :: rest => (rest.dropWhile Text.isBlank).head?
    | rest => rest.head?
  else cs.head?

/-- The number written in the next `n` digits of base 16, with what follows it. -/
def hexNumber? (m : Mode) : Nat → Nat → List Char → Option (Nat × List Char)
  | 0, value, cs => some (value, cs)
  | n + 1, value, cs =>
    match m.skip cs with
    | c :: rest => if isHexDigit c then m.hexNumber? n (16 * value + hexDigit c) rest else none
    | [] => none

/-- The character whose code point is written in the next `n` digits of base 16. -/
def codePoint? (m : Mode) (n : Nat) (cs : List Char) : Option (Char × List Char) :=
  match m.hexNumber? n 0 cs with
  | some (value, rest) => if value.isValidChar then some (Char.ofNat value, rest) else none
  | none => none

/-- The escape after a backslash, with what follows it. A letter, a digit or a character beyond ASCII
that has no special meaning cannot be escaped; any other character stands for itself. -/
def escape? (m : Mode) : List Char → Option (Escape × List Char)
  | [] => none
  | c :: cs =>
    if c = 'x' then (m.codePoint? 2 cs).map fun p => (.byte p.1, p.2)
    else if c = 'u' then (m.codePoint? 4 cs).map fun p => (.character p.1, p.2)
    else if c = 'U' then (m.codePoint? 8 cs).map fun p => (.character p.1, p.2)
    else if ['d', 's', 'w'].contains c then some (.charClass false, cs)
    else if ['D', 'S', 'W'].contains c then some (.charClass true, cs)
    else if ['A', 'z'].contains c then some (.textEdge, cs)
    else if ['b', 'B', '<', '>'].contains c then some (.wordEdge, cs)
    else
      match controls.lookup c with
      | some control => some (.character control, cs)
      | none =>
        if c.isAlphanum || decide (0x80 ≤ c.toNat) then none else some (.character c, cs)

/-- Whether an escape may stand outside brackets. -/
def admits (m : Mode) : Escape → Bool
  | .character _ => !m.needsCases
  | .byte c => m.hasMember c
  | .charClass complement => !m.unicode && !complement
  | .textEdge => true
  | .wordEdge => !m.unicode

/-- The letters of the switches that a mode has. -/
def switchLetters : List Char := ['i', 'm', 's', 'U', 'u', 'R', 'x']

/-- The mode after the given switches, those that come after the hyphen turned off. -/
def switched (m : Mode) (switches : List Char) : Mode :=
  let on := switches.takeWhile (· ≠ '-')
  let off := switches.drop on.length
  let set (letter : Char) (old : Bool) : Bool :=
    if on.contains letter then true else if off.contains letter then false else old
  ⟨set 'i' m.ignoreCase, set 'u' m.unicode, set 'x' m.spaced⟩

end Mode

end Pattern
end Log
end InstructionSheet
