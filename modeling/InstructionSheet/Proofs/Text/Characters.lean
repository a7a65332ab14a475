/-
# Kinds of characters

The blanks, the letters and the numerals are given as ranges of code points. No range of the one
kind meets a range of the others (`areDisjoint`), so a character that is a letter or a numeral of
any script is no blank (`isBlank_of_isAlphanumeric`).

Key definitions: `Text.areDisjoint`.
Key theorems: `Text.within_of_areDisjoint`, `Text.isBlank_of_isAlphanumeric`.
-/
import InstructionSheet.Text.Alphanumeric
import InstructionSheet.Text.Blank

namespace InstructionSheet
namespace Text

/-- Whether no range of one list has a code point in common with a range of the other. -/
def areDisjoint (ranges ranges' : List (Nat × Nat)) : Bool :=
  ranges.all fun r => ranges'.all fun r' => Nat.blt r.2 r'.1 || Nat.blt r'.2 r.1

theorem within_of_areDisjoint {ranges ranges' : List (Nat × Nat)}
    (h : areDisjoint ranges ranges' = true) {c : Char} (hc : within ranges c = true) :
    within ranges' c = false := by
  obtain ⟨r, hr, hin⟩ := List.any_eq_true.mp hc
  apply List.any_eq_false.mpr
  intro r' hr'
  have hapart := List.all_eq_true.mp (List.all_eq_true.mp h r hr) r' hr'
  simp [Nat.blt_eq] at hapart hin ⊢
  omega

theorem isBlank_of_isAlphanum {c : Char} (h : c.isAlphanum = true) : isBlank c = false := by
  unfold Char.isAlphanum Char.isAlpha Char.isUpper Char.isLower Char.isDigit at h
  simp [UInt32.le_iff_toNat_le] at h
  simp [isBlank, within, blankRanges]
  omega

/-- **No blank is a letter or a numeral of any script.** -/
theorem isBlank_of_isAlphanumeric {c : Char} (h : isAlphanumeric c = true) :
    isBlank c = false := by
  have hletters : areDisjoint letterRanges blankRanges = true := by decide +kernel
  have hnumerals : areDisjoint numeralRanges blankRanges = true := by decide +kernel
  simp only [isAlphanumeric, isLetter, Bool.or_eq_true] at h
  rcases h with ((h | h) | h) | h
  · exact isBlank_of_isAlphanum (by rw [Char.isAlphanum, h, Bool.true_or])
  · exact within_of_areDisjoint hletters h
  · exact isBlank_of_isAlphanum (by rw [Char.isAlphanum, h, Bool.or_true])
  · exact within_of_areDisjoint hnumerals h

theorem isAlphanumeric_of_isAlphanum {c : Char} (h : c.isAlphanum = true) :
    isAlphanumeric c = true := by
  rw [Char.isAlphanum, Bool.or_eq_true] at h
  rcases h with h | h <;> simp [isAlphanumeric, isLetter, h]

end Text
end InstructionSheet
