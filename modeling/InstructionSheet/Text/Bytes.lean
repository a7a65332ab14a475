/-
# Byte offsets in a text

Texts are stored in UTF-8, and a cut is made at a byte offset. An offset is a place to cut only at
the start of a character or at the end of the text: `splitAtByte?` refuses every other one.

Key definitions: `utf8Length`, `offset?`, `splitAtByte?`, `slice?`.
-/

namespace InstructionSheet
namespace Text

/-- The number of bytes that a text takes in UTF-8. -/
def utf8Length : List Char → Nat
  | [] => 0
  | c :: cs => c.utf8Size + utf8Length cs

/-- The byte offset of the `n`-th character (from 0), if the text is that long. -/
def offset? : Nat → List Char → Option Nat
  | _, [] => none
  | 0, _ :: _ => some 0
  | n + 1, c :: cs => (offset? n cs).map (c.utf8Size + ·)

/-- The two parts of a text cut at a byte offset, or `none` when the offset lies beyond the end or
inside a character. -/
def splitAtByte? : Nat → List Char → Option (List Char × List Char)
  | 0, cs => some ([], cs)
  | _ + 1, [] => none
  | n + 1, c :: cs =>
    if c.utf8Size ≤ n + 1 then (splitAtByte? (n + 1 - c.utf8Size) cs).map fun p => (c :: p.1, p.2)
    else none

/-- The stretch of a text from one byte offset to another, or `none` when one of them is no place to
cut. -/
def slice? (start stop : Nat) (cs : List Char) : Option (List Char) :=
  (splitAtByte? start cs).bind fun p => (splitAtByte? (stop - start) p.2).map Prod.fst

example : splitAtByte? 3 ['é', 'a', '😀'] = some (['é', 'a'], ['😀']) := by decide

example : splitAtByte? 1 ['é', 'a'] = none := by decide

end Text
end InstructionSheet
