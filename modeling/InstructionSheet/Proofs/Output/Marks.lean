/-
# Where the buffer is emptied

The buffer is emptied when it is full, or one byte earlier when a pair of bytes that stay together
would not fit any more. So the emptyings end at the marks of the text: each mark is 8192 bytes
behind the one before it, or 8191 where a pair begins at its last byte, as long as text is left
(`Csv.lastMark`). That the buffer follows the marks is an invariant of putting atoms (`Buffered`):
it holds before the first (`Sheet.buffered_start`), each atom keeps it, whether it fits
(`Buffered.hold`) or not (`Buffered.drain`), and at the end it says that the early emptyings end at
the last mark (`Buffered.lastMark_eq`). It lies at most 8192 bytes before the end of the text and
never at it (`Sheet.last_bounds`).

Key definitions: `Csv.nextMark`, `Csv.lastMark`, `Buffered`.
Key theorems: `Buffered.lastMark_eq`, `Sheet.lastMark_eq_early`, `Sheet.lastMark_pos_iff`.
-/
import InstructionSheet.Proofs.Csv.Pairs
import InstructionSheet.Proofs.Output.Delivery

namespace InstructionSheet
namespace Csv

/-- The mark behind a mark `m`: 8192 bytes on, or 8191 when the last of these begins a pair. -/
def nextMark (pairs : List Nat) (m : Nat) : Nat :=
  if m + 8191 ∈ pairs then m + 8191 else m + 8192

theorem lt_nextMark (pairs : List Nat) (m : Nat) : m < nextMark pairs m := by
  unfold nextMark
  split <;> omega

/-- The last mark from `m` on of a text of `total` bytes: marks go on while they are below `total`.
-/
def lastMark (pairs : List Nat) (total m : Nat) : Nat :=
  if nextMark pairs m < total then lastMark pairs total (nextMark pairs m) else m
termination_by total - m
decreasing_by
  have := lt_nextMark pairs m
  omega

theorem lastMark_of_lt {pairs : List Nat} {total m : Nat} (h : nextMark pairs m < total) :
    lastMark pairs total m = lastMark pairs total (nextMark pairs m) := by
  rw [lastMark, if_pos h]

theorem lastMark_of_ge {pairs : List Nat} {total m : Nat} (h : total ≤ nextMark pairs m) :
    lastMark pairs total m = m := by
  rw [lastMark, if_neg (Nat.not_lt.mpr h)]

end Csv

open Csv

/-- The last mark of a sheet's CSV text. -/
def Sheet.lastMark (s : Sheet) : Nat := Csv.lastMark s.pairs s.csv.utf8ByteSize 0

/-! ### The buffer follows the marks -/

/-- The buffer holds the text from the mark `m` on, and `as` is what follows it in a text of `total`
bytes with the given `pairs`. -/
structure Buffered (pairs : List Nat) (total m : Nat) (pending : List UInt8)
    (as : List Atom) : Prop where
  total_eq : total = m + pending.length + (bytesOf as).length
  ahead : ∀ q, m + pending.length ≤ q → (q ∈ pairs ↔ q ∈ pairsOf (m + pending.length) as)
  length_le : pending.length ≤ 8192
  /-- A full buffer ends in whole atoms, so no pair begins at its last byte. -/
  full : pending.length = 8192 → m + 8191 ∉ pairs

namespace Buffered

variable {pairs : List Nat} {total m : Nat} {pending : List UInt8} {a : Atom} {as : List Atom}

theorem ahead_cons (h : Buffered pairs total m pending (a :: as)) (q : Nat)
    (hq : m + pending.length + a.size ≤ q) :
    q ∈ pairs ↔ q ∈ pairsOf (m + pending.length + a.size) as := by
  have hsize := a.size_pos
  rw [h.ahead q (by omega), mem_pairsOf_cons]
  constructor
  · rintro (⟨-, rfl⟩ | hmem)
    · omega
    · exact hmem
  · exact .inr

theorem not_mem_last (h : Buffered pairs total m pending (a :: as)) :
    m + pending.length + a.size - 1 ∉ pairs := by
  have hsize := a.size_pos
  intro hmem
  rw [h.ahead _ (by omega), mem_pairsOf_cons] at hmem
  rcases hmem with ⟨ha, heq⟩ | hmem
  · omega
  · have := (pairsOf_bounds as _ _ hmem).1
    omega

/-- An atom that fits. -/
theorem hold (h : Buffered pairs total m pending (a :: as))
    (hfit : pending.length + a.size ≤ 8192) : Buffered pairs total m (pending ++ a.bytes) as := by
  have hlen : (pending ++ a.bytes).length = pending.length + a.size := by
    rw [List.length_append, Atom.length_bytes]
  have htotal := h.total_eq
  rw [length_bytesOf_cons] at htotal
  refine ⟨by omega, fun q hq => ?_, by omega, fun hfull => ?_⟩
  · rw [hlen, ← Nat.add_assoc] at hq ⊢
    exact h.ahead_cons q hq
  · have := h.not_mem_last
    rwa [show m + 8191 = m + pending.length + a.size - 1 by omega]

/-- An atom that does not fit: the buffer ends at the next mark, and the atom begins there. -/
theorem drain (h : Buffered pairs total m pending (a :: as))
    (hfit : ¬ pending.length + a.size ≤ 8192) :
    nextMark pairs m = m + pending.length ∧ m + pending.length < total ∧
      Buffered pairs total (m + pending.length) a.bytes as := by
  have hsize := a.size_pos
  have hle := a.size_le_two
  have hlen := Atom.length_bytes a
  have htotal := h.total_eq
  have hpend := h.length_le
  rw [length_bytesOf_cons] at htotal
  refine ⟨?_, by omega, by omega, fun q hq => ?_, by omega, by omega⟩
  · rcases Nat.lt_or_ge pending.length 8192 with hlt | hge
    · -- one byte is free and the atom is a pair
      have hmem : m + 8191 ∈ pairs := by
        rw [h.ahead _ (by omega), mem_pairsOf_cons]
        exact .inl ⟨by omega, by omega⟩
      rw [nextMark, if_pos hmem]
      omega
    · rw [nextMark, if_neg (h.full (by omega))]
      omega
  · rw [hlen] at hq ⊢
    exact h.ahead_cons q hq

theorem le_nextMark (h : Buffered pairs total m pending []) : total ≤ nextMark pairs m := by
  have htotal := h.total_eq
  have hpend := h.length_le
  rw [bytesOf_nil, List.length_nil] at htotal
  unfold nextMark
  split
  · rename_i hmem
    rcases Nat.lt_or_ge pending.length 8192 with hlt | hge
    · rw [h.ahead _ (by omega)] at hmem
      exact absurd hmem List.not_mem_nil
    · exact absurd hmem (h.full (by omega))
  · omega

/-- **The early emptyings end at the last mark.** -/
theorem lastMark_eq : ∀ (as : List Atom) {m : Nat} {pending : List UInt8},
    Buffered pairs total m pending as →
    Csv.lastMark pairs total m = m + (Writer.emptyings pending as).early.flatten.length
  | [], m, pending, h => by
    rw [lastMark_of_ge h.le_nextMark, Writer.emptyings]
    rfl
  | a :: as, m, pending, h => by
    by_cases hfit : pending.length + a.size ≤ 8192
    · rw [Writer.emptyings_of_fits hfit]
      exact lastMark_eq as (h.hold hfit)
    · obtain ⟨hnext, hlt, h'⟩ := h.drain hfit
      rw [lastMark_of_lt (by omega), hnext, lastMark_eq as h', Writer.emptyings_of_not_fits hfit,
        List.flatten_cons, List.length_append, Nat.add_assoc]

end Buffered

/-! ### What the emptyings hold -/

namespace Writer

theorem length_last_le : ∀ (as : List Atom) (pending : List UInt8), pending.length ≤ 8192 →
    (emptyings pending as).last.length ≤ 8192
  | [], _, h => h
  | a :: as, pending, _ => by
    have hlen := Atom.length_bytes a
    have hle := a.size_le_two
    by_cases hfit : pending.length + a.size ≤ 8192
    · rw [emptyings_of_fits hfit]
      exact length_last_le as _ (by rw [List.length_append]; omega)
    · rw [emptyings_of_not_fits hfit]
      exact length_last_le as _ (by omega)

theorem length_last_pos : ∀ (as : List Atom) (pending : List UInt8),
    0 < pending.length + (bytesOf as).length → 0 < (emptyings pending as).last.length
  | [], _, h => h
  | a :: as, pending, _ => by
    have hlen := Atom.length_bytes a
    have hsize := a.size_pos
    by_cases hfit : pending.length + a.size ≤ 8192
    · rw [emptyings_of_fits hfit]
      exact length_last_pos as _ (by rw [List.length_append]; omega)
    · rw [emptyings_of_not_fits hfit]
      exact length_last_pos as _ (by omega)

theorem early_eq_nil : ∀ (as : List Atom) (pending : List UInt8),
    pending.length + (bytesOf as).length ≤ 8192 → (emptyings pending as).early = []
  | [], _, _ => rfl
  | a :: as, pending, h => by
    rw [length_bytesOf_cons] at h
    have hlen := Atom.length_bytes a
    rw [emptyings_of_fits (show _ ≤ capacity by unfold capacity; omega)]
    exact early_eq_nil as _ (by rw [List.length_append]; omega)

/-- When a buffer that atoms were put into has no room for one more, it lacks at most one byte. -/
theorem size_pending_of_full {k : Sink} {before : List Atom} {a : Atom} {w : Writer}
    (hw : (start k).putAll before = (w, none)) (hfull : capacity < w.pending.size + a.size) :
    w.pending.size = 8191 ∨ w.pending.size = 8192 := by
  have hpend := (putAll_eq before (start k)).2
  rw [hw] at hpend
  have hlast := length_last_le before [] (Nat.zero_le _)
  have heq : w.pending.data.toList = (emptyings [] before).last := hpend rfl
  rw [← heq, length_pending] at hlast
  have hle := a.size_le_two
  unfold capacity at hfull
  omega

end Writer

namespace Sheet

theorem length_bytes_atoms (s : Sheet) : (bytesOf (atoms s.rows)).length = s.csv.utf8ByteSize := by
  rw [bytes_atoms, ← length_csvBytes]; rfl

theorem buffered_start (s : Sheet) :
    Buffered s.pairs s.csv.utf8ByteSize 0 [] (atoms s.rows) := by
  refine ⟨?_, fun q _ => ?_, Nat.zero_le _, fun h => absurd h (by decide)⟩
  · rw [length_bytes_atoms]
    simp
  · rw [Sheet.pairs, pairs_eq_pairsOf]
    rfl

theorem lastMark_eq_early (s : Sheet) : s.lastMark = s.emptyings.early.flatten.length := by
  rw [lastMark, s.buffered_start.lastMark_eq, Nat.zero_add]
  rfl

theorem lastMark_add_last (s : Sheet) :
    s.lastMark + s.emptyings.last.length = s.csv.utf8ByteSize := by
  rw [lastMark_eq_early, ← length_csvBytes, ← emptyings_flatten, Emptyings.flatten,
    List.length_append]

theorem last_bounds (s : Sheet) :
    0 < s.emptyings.last.length ∧ s.emptyings.last.length ≤ 8192 := by
  refine ⟨Writer.length_last_pos _ [] ?_, Writer.length_last_le _ [] (Nat.zero_le _)⟩
  have hrow : atoms s.rows = rowAtoms header ++ s.rows.flatMap rowAtoms := rfl
  rw [hrow, bytesOf_append, List.length_append, bytes_rowAtoms]
  have hheader : 0 < (Text.utf8 (encodeRow header)).length := by decide
  omega

/-- The last mark is behind the start exactly when the text does not fit the buffer. -/
theorem lastMark_pos_iff (s : Sheet) : 0 < s.lastMark ↔ 8192 < s.csv.utf8ByteSize := by
  have hsum := s.lastMark_add_last
  have hlast := s.last_bounds
  constructor
  · intro hpos
    rcases Nat.lt_or_ge 8192 s.csv.utf8ByteSize with h | h
    · exact h
    · have hnil : s.emptyings.early = [] := by
        refine Writer.early_eq_nil _ [] ?_
        rw [length_bytes_atoms]
        simpa using h
      rw [lastMark_eq_early, hnil] at hpos
      exact absurd hpos (Nat.lt_irrefl _)
  · intro h
    omega

end Sheet
end InstructionSheet
