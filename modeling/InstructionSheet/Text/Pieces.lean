/-
# Cutting a text at a separator

`pieces sep` cuts a text at every character `sep` and drops nothing else. A text with `n`
separators has `n + 1` pieces, so the empty text has one, the empty piece, and two separators side
by side have an empty piece between them.

Key definitions: `pieces`.
-/

namespace InstructionSheet
namespace Text

/-- Puts a character in front of the first piece. -/
def consFirst (c : Char) : List (List Char) → List (List Char)
  | [] => [[c]]
  | p :: ps => (c :: p) :: ps

/-- The stretches between the separators of a text, in order. -/
def pieces (sep : Char) (cs : List Char) : List (List Char) :=
  cs.foldr (fun c ps => if c = sep then [] :: ps else consFirst c ps) [[]]

theorem pieces_nil (sep : Char) : pieces sep [] = [[]] := rfl

theorem pieces_sep (sep : Char) (cs : List Char) : pieces sep (sep :: cs) = [] :: pieces sep cs := by
  simp [pieces]

theorem pieces_cons {sep c : Char} (h : c ≠ sep) (cs : List Char) :
    pieces sep (c :: cs) = consFirst c (pieces sep cs) := by
  simp [pieces, h]

example : pieces '\n' ['a', '\r', '\n', '\n', 'b'] = [['a', '\r'], [], ['b']] := by decide

end Text
end InstructionSheet
