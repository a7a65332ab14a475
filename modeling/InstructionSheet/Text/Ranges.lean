/-
# Ranges of code points

A property of characters is written down as the closed ranges of code points that have it.

Key definitions: `within`, `areApart`, `sizeOfRanges`.
-/

namespace InstructionSheet
namespace Text

/-- Whether a character lies in one of the ranges. -/
def within (ranges : List (Nat × Nat)) (c : Char) : Bool :=
  ranges.any fun r => decide (r.1 ≤ c.toNat) && decide (c.toNat ≤ r.2)

/-- Whether no range is empty and each begins after the one before it ends, with a gap between
them. -/
def areApart : List (Nat × Nat) → Bool
  | [] => true
  | [r] => decide (r.1 ≤ r.2)
  | r :: r' :: rs => decide (r.1 ≤ r.2) && decide (r.2 + 1 < r'.1) && areApart (r' :: rs)

/-- The number of code points in ranges that are apart. -/
def sizeOfRanges : List (Nat × Nat) → Nat
  | [] => 0
  | r :: rs => (r.2 + 1 - r.1) + sizeOfRanges rs

end Text
end InstructionSheet
