/-
# Where bytes stop being text

Bytes are read as UTF-8, one character after the other. The first byte of a character says how many
bytes follow it and from which range each of them is. The second byte has a smaller range behind
some first bytes, which keeps out characters written longer than need be, surrogates, and what lies
behind the last code point. The reading stops at a byte out of its range or where the bytes end.

Key definitions: `Text.Stop`, `Text.Stop.words`, `Text.stop`.
-/

namespace InstructionSheet
namespace Text

/-- Where the reading of bytes stops. -/
structure Stop where
  /-- The number of bytes in front, which make whole characters. -/
  index : Nat
  /-- The number of bytes from there on that cannot be read, or `none` if the bytes end too soon. -/
  length : Option Nat
deriving DecidableEq, Repr

/-- A stop in words. -/
def Stop.words : Stop → String
  | ⟨index, some length⟩ =>
    "invalid utf-8 sequence of " ++ toString length ++ " bytes from index " ++ toString index
  | ⟨index, none⟩ => "incomplete utf-8 byte sequence from index " ++ toString index

/-- The range of most bytes that are not the first of their character. -/
def continuation : UInt8 × UInt8 := (0x80, 0xBF)

/-- The ranges of the bytes that follow the first byte of a character, or `none` if no character
begins with the byte. -/
def following? (b : UInt8) : Option (List (UInt8 × UInt8)) :=
  if b ≤ 0x7F then some []
  else if b < 0xC2 then none
  else if b ≤ 0xDF then some [continuation]
  else if b = 0xE0 then some [(0xA0, 0xBF), continuation]
  else if b = 0xED then some [(0x80, 0x9F), continuation]
  else if b ≤ 0xEF then some [continuation, continuation]
  else if b = 0xF0 then some [(0x90, 0xBF), continuation, continuation]
  else if b ≤ 0xF3 then some [continuation, continuation, continuation]
  else if b = 0xF4 then some [(0x80, 0x8F), continuation, continuation]
  else none

/-- Reads on inside a character that began at `index`: `seen` bytes of it have been read, and the
bytes still to come have the given ranges. -/
def stopFrom (index seen : Nat) : List (UInt8 × UInt8) → List UInt8 → Stop
  | [], [] => ⟨index + seen, none⟩
  | _ :: _, [] => ⟨index, none⟩
  | [], b :: bytes =>
    match following? b with
    | none => ⟨index + seen, some 1⟩
    | some ranges => stopFrom (index + seen) 1 ranges bytes
  | (low, high) :: ranges, b :: bytes =>
    if low ≤ b ∧ b ≤ high then stopFrom index (seen + 1) ranges bytes
    else ⟨index, some seen⟩

/-- Where the reading of bytes as UTF-8 stops. -/
def stop (bytes : List UInt8) : Stop := stopFrom 0 0 [] bytes

example : stop [0xC3, 0xA9, 0xFF] = ⟨2, some 1⟩ ∧ stop [0xC3, 0xA9, 0xC3] = ⟨2, none⟩ := by decide

example : stop [0xED, 0xA0, 0x80] = ⟨0, some 1⟩ ∧ stop [0xF4, 0x8F, 0xBF, 0x61] = ⟨0, some 3⟩ := by
  decide

end Text
end InstructionSheet
