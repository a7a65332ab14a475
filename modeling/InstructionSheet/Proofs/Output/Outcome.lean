/-
# Which error a failing sink gives

Where a sink's room ends decides how an export into it ends. If it ends before the last mark of the
text, an early emptying meets a full sink while rows are being written; if it ends behind the last
mark and before the end of the text, the last emptying does; and if all bytes are taken, only the
flush can fail (`Sheet.writeTo_outcome_by_mark`). A sink that looks at no bytes refuses the first
emptying, which is an early one exactly when the text is longer than the buffer.

Key theorems: `Sheet.put_cases`, `Sheet.writeTo_outcome_by_mark`.
-/
import InstructionSheet.Proofs.Output.Marks

namespace InstructionSheet
namespace Sheet

open Csv

/-! ### A sink that looks at bytes -/

theorem flushed_trial (chunk limit : Option Nat) (flushFails : Bool) :
    flushed (Sink.trial chunk limit flushFails) =
      if flushFails then .error (.finish (.other "flush refused")) else .ok () := by
  cases flushFails with
  | true => rfl
  | false => rfl

theorem result_writeTo_trial (s : Sheet) {chunk : Option Nat} (hc : chunk ≠ some 0)
    (limit : Option Nat) (flushFails : Bool) :
    (s.writeTo (Sink.trial chunk limit flushFails)).2 =
      if (Sink.trial chunk limit flushFails).fits s.lastMark then
        if (Sink.trial chunk limit flushFails).fits s.csv.utf8ByteSize then
          if flushFails then .error (.finish (.other "flush refused")) else .ok ()
        else .error (.finish (.other "disk full"))
      else .error (.row (.other "disk full")) := by
  rw [writeTo_trial s hc, flushed_trial, ← lastMark_eq_early, length_csvBytes]

/-- The four outcomes, each with the limits it comes from. -/
theorem outcome_of_chunk_ne_zero (s : Sheet) {chunk : Option Nat} (hc : chunk ≠ some 0)
    (limit : Option Nat) (flushFails : Bool) :
    ((s.writeTo (Sink.trial chunk limit flushFails)).2 = .error (.row (.other "disk full")) ↔
        ∃ l, limit = some l ∧ l < s.lastMark) ∧
      ((s.writeTo (Sink.trial chunk limit flushFails)).2 = .error (.finish (.other "disk full")) ↔
        ∃ l, limit = some l ∧ s.lastMark ≤ l ∧ l < s.csv.utf8ByteSize) ∧
      ((s.writeTo (Sink.trial chunk limit flushFails)).2 =
          .error (.finish (.other "flush refused")) ↔
        (∀ l, limit = some l → s.csv.utf8ByteSize ≤ l) ∧ flushFails = true) ∧
      ((s.writeTo (Sink.trial chunk limit flushFails)).2 = .ok () ↔
        (∀ l, limit = some l → s.csv.utf8ByteSize ≤ l) ∧ flushFails = false) := by
  have hle : s.lastMark ≤ s.csv.utf8ByteSize := by
    have := s.lastMark_add_last
    omega
  have hfits : ∀ n, (Sink.trial chunk limit flushFails).fits n = true ↔
      ∀ l, limit = some l → n ≤ l := Sink.fits_trial chunk limit flushFails
  rw [result_writeTo_trial s hc]
  simp only [hfits]
  cases limit with
  | none => cases flushFails <;> simp
  | some l =>
    simp only [Option.some.injEq, forall_eq', exists_eq_left']
    by_cases hmark : s.lastMark ≤ l
    · by_cases htotal : s.csv.utf8ByteSize ≤ l
      · have h1 : ¬ l < s.lastMark := by omega
        have h2 : ¬ l < s.csv.utf8ByteSize := by omega
        cases flushFails <;> simp [hmark, htotal, h1, h2]
      · have h1 : ¬ l < s.lastMark := by omega
        have h2 : l < s.csv.utf8ByteSize := by omega
        simp [hmark, htotal, h1, h2]
    · have h1 : l < s.lastMark := by omega
      have h2 : ¬ s.csv.utf8ByteSize ≤ l := by omega
      simp [hmark, h1, h2]

/-! ### A sink that looks at no bytes -/

theorem outcome_of_chunk_zero (s : Sheet) {k : Sink} (hc : k.chunk = some 0) :
    s.writeTo k =
      (k, .error (if 0 < s.lastMark then .row .nothingTaken else .finish .nothingTaken)) := by
  have hlast : s.emptyings.last ≠ [] := List.length_pos_iff.mp s.last_bounds.1
  rw [writeTo_eq, Sink.writeAll_of_chunk_zero hc, lastMark_eq_early]
  generalize s.emptyings.early.flatten = early
  cases early with
  | nil => simp [Sink.writeAll_of_chunk_zero hc, hlast]
  | cons b bytes => simp

/-! ### The emptyings before the last one -/

/-- Each atom of a sheet is held beside what waits, or 8191 or 8192 bytes are handed over first, and
these end with a whole pair if they end with a byte of one. -/
theorem put_cases (s : Sheet) {k : Sink} {before after : List Atom} {a : Atom} {w : Writer}
    (hatoms : atoms s.rows = before ++ a :: after)
    (hw : (Writer.start k).putAll before = (w, none)) :
    w.put a = (w.hold a, none) ∨
      (w.put a = (w.drain.1.hold a, w.drain.2) ∧
        (w.pending.size = 8191 ∨ w.pending.size = 8192) ∧
        ∀ p ∈ s.pairs, (bytesOf before).length ≠ p + 1) := by
  by_cases hfit : w.pending.size + a.size ≤ Writer.capacity
  · exact .inl (if_pos hfit)
  · refine .inr ⟨if_neg hfit, Writer.size_pending_of_full hw (Nat.lt_of_not_le hfit),
      fun p hp => ?_⟩
    have hpairs : s.pairs = pairsOf 0 (before ++ a :: after) := by
      rw [Sheet.pairs, pairs_eq_pairsOf, ← hatoms]
      rfl
    rw [hpairs] at hp
    have := pairsOf_apart before _ 0 p hp
    omega

/-- **Which error a failing sink gives.** Let `s.lastMark` be the last mark of a sheet's CSV text. A
sink that looks at one byte or more at a time fails in a row exactly when its limit is below the
last mark, for want of room at the finish exactly when its limit is at least the last mark and below
the length of the text, by its flush exactly when all bytes have room and the flush is refused, and
not at all otherwise. A sink that looks at no bytes receives none and fails in a row exactly when
the last mark is not 0, which is so exactly for a text of more than 8192 bytes. At most 8192 bytes
follow the last mark and at least one; every earlier emptying hands over 8191 or 8192 bytes and does
not end inside a pair. -/
theorem writeTo_outcome_by_mark (s : Sheet) :
    (∀ (chunk limit : Option Nat) (flushFails : Bool), chunk ≠ some 0 →
      ((s.writeTo (Sink.trial chunk limit flushFails)).2 = .error (.row (.other "disk full")) ↔
          ∃ l, limit = some l ∧ l < s.lastMark) ∧
        ((s.writeTo (Sink.trial chunk limit flushFails)).2 = .error (.finish (.other "disk full")) ↔
          ∃ l, limit = some l ∧ s.lastMark ≤ l ∧ l < s.csv.utf8ByteSize) ∧
        ((s.writeTo (Sink.trial chunk limit flushFails)).2 =
            .error (.finish (.other "flush refused")) ↔
          (∀ l, limit = some l → s.csv.utf8ByteSize ≤ l) ∧ flushFails = true) ∧
        ((s.writeTo (Sink.trial chunk limit flushFails)).2 = .ok () ↔
          (∀ l, limit = some l → s.csv.utf8ByteSize ≤ l) ∧ flushFails = false)) ∧
      (∀ (limit : Option Nat) (flushFails : Bool),
        s.writeTo (Sink.trial (some 0) limit flushFails) =
          (Sink.trial (some 0) limit flushFails,
            .error (if 0 < s.lastMark then .row .nothingTaken else .finish .nothingTaken))) ∧
      (0 < s.lastMark ↔ 8192 < s.csv.utf8ByteSize) ∧
      1 ≤ s.csv.utf8ByteSize - s.lastMark ∧ s.csv.utf8ByteSize - s.lastMark ≤ 8192 ∧
      (∀ (k : Sink) (before after : List Atom) (a : Atom) (w : Writer),
        atoms s.rows = before ++ a :: after → (Writer.start k).putAll before = (w, none) →
        w.put a = (w.hold a, none) ∨
          (w.put a = (w.drain.1.hold a, w.drain.2) ∧
            (w.pending.size = 8191 ∨ w.pending.size = 8192) ∧
            ∀ p ∈ s.pairs, (bytesOf before).length ≠ p + 1)) := by
  have hsum := s.lastMark_add_last
  have hlast := s.last_bounds
  refine ⟨fun chunk limit flushFails hc => s.outcome_of_chunk_ne_zero hc limit flushFails,
    fun limit flushFails => s.outcome_of_chunk_zero rfl, s.lastMark_pos_iff, by omega, by omega,
    fun k before after a w hatoms hw => s.put_cases hatoms hw⟩

theorem writeTo_outcome_of_long_text :
    (some 1 : Option Nat) ≠ some 0 ∧
      ((Sheet.empty.append ⟨"", String.ofList (List.replicate 9000 'x')⟩).writeTo
        (Sink.trial (some 1) (some 0) false)).2 = .error (.row (.other "disk full")) ∧
      ((Sheet.empty.append ⟨"", String.ofList (List.replicate 9000 'x')⟩).writeTo
        (Sink.trial (some 0) none true)).2 = .error (.row .nothingTaken) := by
  have hc : (some 1 : Option Nat) ≠ some 0 := by decide
  obtain ⟨hlooks, hblind, hpos, -⟩ :=
    writeTo_outcome_by_mark (Sheet.empty.append ⟨"", String.ofList (List.replicate 9000 'x')⟩)
  have hlong := length_description_le
    (Sheet.empty.append ⟨"", String.ofList (List.replicate 9000 'x')⟩)
    (e := ⟨"", String.ofList (List.replicate 9000 'x')⟩)
    (by rw [rows_append]; exact List.mem_append_right _ List.mem_cons_self)
  rw [String.toList_ofList, List.length_replicate] at hlong
  have hmark := hpos.mpr (Nat.lt_of_lt_of_le (by decide) hlong)
  refine ⟨hc, ((hlooks (some 1) (some 0) false hc).1).mpr ⟨0, rfl, hmark⟩, ?_⟩
  rw [hblind, if_pos hmark]

end Sheet
end InstructionSheet
