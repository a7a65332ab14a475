/-
# What a sink takes

A sink that looks at some bytes at a time takes what it has room for, however many bytes it looks
at: `writeAll` leaves it as `accept` does, and fails exactly when the bytes do not fit
(`writeAll_of_chunk_ne_zero`). A sink that looks at none takes nothing and refuses any byte
(`writeAll_of_chunk_zero`). In both cases it makes no difference whether bytes are offered at once
or one stretch after another (`writeAll_append`).

Key definitions: `Sink.accept`, `Sink.fits`, `Sink.allowed`.
Key theorems: `Sink.writeAll_of_chunk_ne_zero`, `Sink.writeAll_append`.
-/
import InstructionSheet.Output.Sink

namespace InstructionSheet
namespace Sink

/-- The sink with as many more of the bytes as it has room for. -/
def accept (k : Sink) (bytes : List UInt8) : Sink :=
  { k with received := k.received ++ (upTo k.room bytes).toByteArray }

/-- How many of `total` bytes a limit lets through. -/
def allowed (limit : Option Nat) (total : Nat) : Nat :=
  match limit with
  | none => total
  | some n => min n total

/-- Whether there is room for `n` more bytes. -/
def fits (k : Sink) (n : Nat) : Bool :=
  match k.room with
  | none => true
  | some r => decide (n ≤ r)

/-! ### Bounds -/

theorem prefix_of_upTo (bound : Option Nat) (bytes : List UInt8) : upTo bound bytes <+: bytes := by
  cases bound with
  | none => exact List.prefix_refl _
  | some n => exact List.take_prefix n bytes

theorem upTo_ne_nil {bound : Option Nat} (h : bound ≠ some 0) {bytes : List UInt8}
    (hb : bytes ≠ []) : upTo bound bytes ≠ [] := by
  cases bound with
  | none => exact hb
  | some n =>
    have hn : n ≠ 0 := fun h0 => h (by rw [h0])
    simp [upTo, hn, hb]

theorem upTo_append (bound : Option Nat) (a b : List UInt8) :
    upTo bound (a ++ b) = upTo bound a ++ upTo (bound.map (· - a.length)) b := by
  cases bound with
  | none => rfl
  | some n => exact List.take_append

theorem fits_iff (k : Sink) (n : Nat) : k.fits n = true ↔ ∀ r, k.room = some r → n ≤ r := by
  unfold fits
  cases k.room with
  | none => simp
  | some r => simp

theorem not_fits_iff (k : Sink) (n : Nat) : k.fits n = false ↔ ∃ r, k.room = some r ∧ r < n := by
  unfold fits
  cases k.room with
  | none => simp
  | some r => simp

theorem upTo_of_fits {k : Sink} {bytes : List UInt8} (h : k.fits bytes.length = true) :
    upTo k.room bytes = bytes := by
  rw [fits_iff] at h
  cases hr : k.room with
  | none => rfl
  | some r => exact List.take_of_length_le (h r hr)

theorem upTo_eq_take (bound : Option Nat) (bytes : List UInt8) :
    upTo bound bytes = bytes.take (allowed bound bytes.length) := by
  cases bound with
  | none => exact (List.take_length).symm
  | some n => exact List.take_eq_take_min

/-! ### Taking bytes in stretches -/

theorem accept_nil (k : Sink) : k.accept [] = k := by
  have h : upTo k.room [] = [] := by
    cases k.room with
    | none => rfl
    | some r => exact List.take_nil
  simp [accept, h]

theorem room_accept (k : Sink) (bytes : List UInt8) :
    (k.accept bytes).room = k.room.map (· - bytes.length) := by
  unfold accept room
  cases k.limit with
  | none => rfl
  | some l =>
    simp only [Option.map_some, upTo, Option.some.injEq, ByteArray.size_append,
      List.size_toByteArray, List.length_take]
    omega

/-- A sink that is offered `a` and then `b` takes what it takes of `a ++ b`. -/
theorem accept_append (k : Sink) (a b : List UInt8) :
    k.accept (a ++ b) = (k.accept a).accept b := by
  have hr := room_accept k a
  unfold accept at hr ⊢
  simp only [hr, upTo_append, List.toByteArray_append, ByteArray.append_assoc]

theorem fits_accept (k : Sink) (a : List UInt8) (h : k.fits a.length = true) (n : Nat) :
    (k.accept a).fits n = k.fits (a.length + n) := by
  rw [fits_iff] at h
  unfold fits
  rw [room_accept]
  cases hr : k.room with
  | none => rfl
  | some r =>
    have hle := h r hr
    have hiff : n ≤ r - a.length ↔ a.length + n ≤ r := by omega
    simp only [Option.map_some, hiff]

/-- Bytes that do not fit use the room up, so the sink takes nothing more. -/
theorem accept_append_of_not_fits (k : Sink) (a b : List UInt8) (h : k.fits a.length = false) :
    k.accept (a ++ b) = k.accept a := by
  rw [accept_append]
  obtain ⟨r, hroom, hlt⟩ := (not_fits_iff k _).mp h
  have hr : (k.accept a).room = some 0 := by
    rw [room_accept, hroom, Option.map_some, Nat.sub_eq_zero_of_le (Nat.le_of_lt hlt)]
  unfold accept at hr ⊢
  rw [hr]
  simp [upTo]

theorem not_fits_add (k : Sink) (n m : Nat) (h : k.fits n = false) : k.fits (n + m) = false := by
  obtain ⟨r, hroom, hlt⟩ := (not_fits_iff k n).mp h
  exact (not_fits_iff k _).mpr ⟨r, hroom, by omega⟩

/-! ### The sinks of trials -/

theorem room_trial (chunk limit : Option Nat) (flushFails : Bool) :
    (trial chunk limit flushFails).room = limit := by
  cases limit with
  | none => rfl
  | some n => rfl

theorem received_accept_trial (chunk limit : Option Nat) (flushFails : Bool) (bytes : List UInt8) :
    ((trial chunk limit flushFails).accept bytes).received =
      (bytes.take (allowed limit bytes.length)).toByteArray := by
  unfold accept
  rw [room_trial, upTo_eq_take]
  exact ByteArray.empty_append

theorem fits_trial (chunk limit : Option Nat) (flushFails : Bool) (n : Nat) :
    (trial chunk limit flushFails).fits n = true ↔ ∀ l, limit = some l → n ≤ l := by
  rw [fits_iff, room_trial]

/-! ### Writing -/

/-- One write of some bytes: it is refused when the room is used up, and otherwise takes some of
them that fit. -/
theorem write_spec {k : Sink} (hc : k.chunk ≠ some 0) {bytes : List UInt8} (hb : bytes ≠ []) :
    (k.room = some 0 ∧ k.write bytes = (k, .error k.full)) ∨
    ∃ taken, taken <+: bytes ∧ taken ≠ [] ∧ k.fits taken.length = true ∧
      k.write bytes = (k.accept taken, .ok taken.length) := by
  have hoff : upTo k.chunk bytes ≠ [] := upTo_ne_nil hc hb
  by_cases hr : k.room = some 0
  · left
    exact ⟨hr, by simp [write, hoff, hr]⟩
  · right
    have htaken : upTo k.room (upTo k.chunk bytes) ≠ [] := upTo_ne_nil hr hoff
    have hfits : k.fits (upTo k.room (upTo k.chunk bytes)).length = true := by
      rw [fits_iff]
      intro r hroom
      rw [hroom]
      exact List.length_take_le r _
    refine ⟨_, (prefix_of_upTo _ _).trans (prefix_of_upTo _ _), htaken, hfits, ?_⟩
    simp only [write, List.isEmpty_iff, hoff, hr, ↓reduceIte, accept, upTo_of_fits hfits]

/-- **A sink that looks at bytes takes what fits.** It fails exactly when not all bytes fit, and how
many it looks at does not matter. -/
theorem writeAll_of_chunk_ne_zero (k : Sink) (hc : k.chunk ≠ some 0) (bytes : List UInt8) :
    k.writeAll bytes = (k.accept bytes, if k.fits bytes.length then none else some k.full) := by
  match bytes with
  | [] =>
    have h0 : k.fits 0 = true := (fits_iff k 0).mpr fun r _ => Nat.zero_le r
    simp [writeAll, accept_nil, h0]
  | b :: rest =>
    rw [writeAll]
    rcases write_spec hc (List.cons_ne_nil b rest) with ⟨hr, hw⟩ | ⟨taken, hpre, hne, hfits, hw⟩
    · have hno : k.fits (b :: rest).length = false := by simp [fits, hr]
      have hsame : k.accept (b :: rest) = k := by
        unfold accept
        rw [hr]
        simp [upTo]
      rw [hw, hno, hsame]
      rfl
    · -- some bytes are taken, and the rest is written in the same way
      obtain ⟨t, ts, rfl⟩ := List.exists_cons_of_ne_nil hne
      obtain ⟨later, hlater⟩ := hpre
      obtain ⟨rfl, hrest⟩ : t = b ∧ ts ++ later = rest := by simpa using hlater
      have hdrop : rest.drop ts.length = later := by rw [← hrest, List.drop_left]
      have hlt : later.length < (t :: rest).length := by
        rw [← hrest, List.length_cons, List.length_append]; omega
      have ih := writeAll_of_chunk_ne_zero (k.accept (t :: ts)) hc later
      have hlen : (t :: ts).length + later.length = (t :: rest).length := by
        rw [← List.length_append, hlater]
      rw [hw]
      simp only [List.length_cons, hdrop, ih, ← accept_append, hlater, fits_accept k _ hfits]
      simp only [List.length_cons] at hlen
      rw [hlen]
      rfl
termination_by bytes.length

/-- A sink that looks at no bytes takes none, and its refusal is not for want of room. -/
theorem writeAll_of_chunk_zero {k : Sink} (hc : k.chunk = some 0) (bytes : List UInt8) :
    k.writeAll bytes = (k, if bytes = [] then none else some .nothingTaken) := by
  cases bytes with
  | nil => simp [writeAll]
  | cons b rest =>
    have hw : k.write (b :: rest) = (k, .ok 0) := by simp [write, hc, upTo]
    rw [writeAll, hw]
    simp

/-- **Offering bytes in two stretches is offering them at once.** -/
theorem writeAll_append (k : Sink) (a b : List UInt8) :
    k.writeAll (a ++ b) =
      match k.writeAll a with
      | (k', none) => k'.writeAll b
      | (k', some f) => (k', some f) := by
  by_cases hc : k.chunk = some 0
  · simp only [writeAll_of_chunk_zero hc]
    by_cases ha : a = []
    · simp [ha, writeAll_of_chunk_zero hc]
    · simp [ha]
  · rw [writeAll_of_chunk_ne_zero k hc, writeAll_of_chunk_ne_zero k hc a, List.length_append]
    cases hf : k.fits a.length with
    | true =>
      simp only [↓reduceIte]
      rw [writeAll_of_chunk_ne_zero (k.accept a) hc, fits_accept k a hf, accept_append]
      rfl
    | false =>
      rw [not_fits_add k _ _ hf, accept_append_of_not_fits k a b hf]
      rfl

end Sink
end InstructionSheet
