/-
# The buffered writer delivers the plain text

The writer is compared with the plain encoding in two steps. Which bytes its buffer hands over at
which emptying depends on the atoms alone (`Writer.emptyings`); the stretches handed over, one after
another, are the bytes of the text (`Sheet.emptyings_flatten`). And a sink that is handed a text in
stretches takes what it would take of the whole (`Sink.writeAll_append`). So the sink receives the
first bytes of the text, as many as it has room for, and the outcome depends on where the room ends:
before the last stretch begins, within it, or not at all (`Sheet.writeTo_of_chunk_ne_zero`).

Key definitions: `Emptyings`, `Writer.emptyings`.
Key theorems: `Writer.putAll_eq`, `Sheet.writeTo_of_chunk_ne_zero`, `Sheet.writeTo_delivers`.
-/
import InstructionSheet.Output.Writer
import InstructionSheet.Proofs.Csv.Spelling
import InstructionSheet.Proofs.Output.Taking

namespace InstructionSheet

/-- What a buffer hands over: the stretches that made room for an atom, and the one at the end. -/
structure Emptyings where
  early : List (List UInt8)
  last : List UInt8

/-- All bytes handed over. -/
def Emptyings.flatten (e : Emptyings) : List UInt8 := e.early.flatten ++ e.last

namespace Writer

/-- The stretches that a buffer hands over when atoms follow the `pending` bytes in it. -/
def emptyings (pending : List UInt8) : List Csv.Atom → Emptyings
  | [] => ⟨[], pending⟩
  | a :: as =>
    if pending.length + a.size ≤ capacity then emptyings (pending ++ a.bytes) as
    else ⟨pending :: (emptyings a.bytes as).early, (emptyings a.bytes as).last⟩

theorem emptyings_of_fits {pending : List UInt8} {a : Csv.Atom}
    (h : pending.length + a.size ≤ capacity) (as : List Csv.Atom) :
    emptyings pending (a :: as) = emptyings (pending ++ a.bytes) as := by
  rw [emptyings, if_pos h]

theorem emptyings_of_not_fits {pending : List UInt8} {a : Csv.Atom}
    (h : ¬ pending.length + a.size ≤ capacity) (as : List Csv.Atom) :
    emptyings pending (a :: as) =
      ⟨pending :: (emptyings a.bytes as).early, (emptyings a.bytes as).last⟩ := by
  rw [emptyings, if_neg h]

theorem emptyings_flatten : ∀ (as : List Csv.Atom) (pending : List UInt8),
    (emptyings pending as).flatten = pending ++ Csv.bytesOf as
  | [], pending => by simp [emptyings, Emptyings.flatten]
  | a :: as, pending => by
    by_cases h : pending.length + a.size ≤ capacity
    · rw [emptyings_of_fits h, emptyings_flatten as, Csv.bytesOf_cons, List.append_assoc]
    · have ih := emptyings_flatten as a.bytes
      unfold Emptyings.flatten at ih
      rw [emptyings_of_not_fits h, Csv.bytesOf_cons, ← ih]
      simp [Emptyings.flatten]

/-! ### The writer hands over its emptyings -/

theorem toList_pending_hold (w : Writer) (a : Csv.Atom) :
    (w.hold a).pending.data.toList = w.pending.data.toList ++ a.bytes := by
  simp [hold]

theorem length_pending (w : Writer) : w.pending.data.toList.length = w.pending.size := rfl

/-- **Putting atoms is writing the early stretches into the sink.** After a failure-free run the
last stretch is what waits in the buffer. -/
theorem putAll_eq : ∀ (as : List Csv.Atom) (w : Writer),
    ((w.putAll as).1.sink, (w.putAll as).2) =
        w.sink.writeAll (emptyings w.pending.data.toList as).early.flatten ∧
      ((w.putAll as).2 = none →
        (w.putAll as).1.pending.data.toList = (emptyings w.pending.data.toList as).last)
  | [], w => by simp [putAll, emptyings, Sink.writeAll]
  | a :: as, w => by
    by_cases h : w.pending.data.toList.length + a.size ≤ capacity
    · have hput : w.put a = (w.hold a, none) := if_pos h
      have ih := putAll_eq as (w.hold a)
      rw [toList_pending_hold] at ih
      rw [emptyings_of_fits h, putAll, hput]
      exact ih
    · -- the buffer is emptied; what follows starts from `a` alone
      have hput : w.put a = (w.drain.1.hold a, w.drain.2) := if_neg h
      have ih := putAll_eq as (w.drain.1.hold a)
      have hpend : (w.drain.1.hold a).pending.data.toList = a.bytes := by
        rw [toList_pending_hold]; rfl
      rw [hpend] at ih
      rw [emptyings_of_not_fits h, putAll, hput, List.flatten_cons, Sink.writeAll_append]
      have hdrain : w.sink.writeAll w.pending.data.toList = (w.drain.1.sink, w.drain.2) := rfl
      rw [hdrain]
      cases hf : w.drain.2 with
      | none => exact ih
      | some f => exact ⟨rfl, fun h => absurd h (Option.some_ne_none f)⟩

end Writer

namespace Sheet

/-- The stretches in which a sheet's CSV text is handed over. -/
def emptyings (s : Sheet) : Emptyings := Writer.emptyings [] (Csv.atoms s.rows)

theorem emptyings_flatten (s : Sheet) : s.emptyings.flatten = s.csvBytes := by
  rw [emptyings, Writer.emptyings_flatten, Csv.bytes_atoms]; rfl

/-- The end of an export whose bytes are all taken: the sink is flushed. -/
def flushed (k : Sink) : Except ExportError Unit :=
  match k.flushFault with
  | some f => .error (.finish f)
  | none => .ok ()

/-- **Writing a sheet is writing its early stretches, then the last one, then flushing.** A failure
in an early stretch is an error of a row, one in the last stretch an error of the finish. -/
theorem writeTo_eq (s : Sheet) (k : Sink) :
    s.writeTo k =
      match k.writeAll s.emptyings.early.flatten with
      | (k', some f) => (k', .error (.row f))
      | (k', none) =>
        match k'.writeAll s.emptyings.last with
        | (k'', some f) => (k'', .error (.finish f))
        | (k'', none) => (k'', flushed k'') := by
  obtain ⟨hsink, hpend⟩ := Writer.putAll_eq (Csv.atoms s.rows) (Writer.start k)
  have hempty : Writer.emptyings (Writer.start k).pending.data.toList (Csv.atoms s.rows) =
      s.emptyings := rfl
  rw [hempty] at hsink hpend
  rw [writeTo]
  have hstart : (Writer.start k).sink = k := rfl
  rw [hstart] at hsink
  rw [← hsink]
  rcases hp : (Writer.start k).putAll (Csv.atoms s.rows) with ⟨w, _ | f⟩
  · rw [hp] at hpend
    have hlast : w.pending.data.toList = s.emptyings.last := hpend rfl
    simp only [Writer.finish, Writer.drain, hlast, flushed]
    rcases w.sink.writeAll s.emptyings.last with ⟨k', _ | f⟩
    · cases hf : k'.flushFault with
      | none => simp only [hf]
      | some f => simp only [hf]
    · rfl
  · rfl

/-! ### Sinks that look at the bytes -/

/-- **The outcome by the room of the sink**: it receives the first bytes of the text, as many as it
has room for, and the export fails in a row if the early stretches do not fit, at the finish if the
whole text does not. -/
theorem writeTo_of_chunk_ne_zero (s : Sheet) {k : Sink} (hc : k.chunk ≠ some 0) :
    s.writeTo k = (k.accept s.csvBytes,
      if k.fits s.emptyings.early.flatten.length then
        if k.fits s.csvBytes.length then flushed k else .error (.finish k.full)
      else .error (.row k.full)) := by
  rw [writeTo_eq, Sink.writeAll_of_chunk_ne_zero k hc, ← emptyings_flatten, Emptyings.flatten]
  cases hf : k.fits s.emptyings.early.flatten.length with
  | false =>
    rw [k.accept_append_of_not_fits _ _ hf]
    rfl
  | true =>
    have hc' : (k.accept s.emptyings.early.flatten).chunk ≠ some 0 := hc
    simp only [↓reduceIte]
    rw [Sink.writeAll_of_chunk_ne_zero _ hc', k.fits_accept _ hf, ← k.accept_append,
      ← List.length_append]
    cases k.fits (s.emptyings.early.flatten ++ s.emptyings.last).length with
    | false => rfl
    | true => rfl

theorem writeTo_trial (s : Sheet) {chunk : Option Nat} (hc : chunk ≠ some 0) (limit : Option Nat)
    (flushFails : Bool) :
    s.writeTo (Sink.trial chunk limit flushFails) =
      ((Sink.trial chunk limit flushFails).accept s.csvBytes,
        if (Sink.trial chunk limit flushFails).fits s.emptyings.early.flatten.length then
          if (Sink.trial chunk limit flushFails).fits s.csvBytes.length then
            flushed (Sink.trial chunk limit flushFails)
          else .error (.finish (.other "disk full"))
        else .error (.row (.other "disk full"))) :=
  writeTo_of_chunk_ne_zero s hc

/-! ### Delivery -/

theorem extract_toByteArray (bytes : List UInt8) (n : Nat) :
    bytes.toByteArray.extract 0 n = (bytes.take n).toByteArray := by
  apply ByteArray.ext
  simp [List.extract_eq_take_drop]

theorem received_writeTo_trial (s : Sheet) {chunk : Option Nat} (hc : chunk ≠ some 0)
    (limit : Option Nat) (flushFails : Bool) :
    (s.writeTo (Sink.trial chunk limit flushFails)).1.received =
      s.csv.toByteArray.extract 0 (Sink.allowed limit s.csv.utf8ByteSize) := by
  rw [writeTo_trial s hc, Sink.received_accept_trial, toByteArray_csv, extract_toByteArray,
    length_csvBytes]

theorem fromUTF8?_toByteArray (text : String) : String.fromUTF8? text.toByteArray = some text := by
  rw [String.fromUTF8?, dif_pos text.isValidUTF8]
  rfl

theorem writeTo_unbounded (s : Sheet) :
    s.writeTo Sink.unbounded =
      ({ Sink.unbounded with received := s.csv.toByteArray }, .ok ()) := by
  have hfits : ∀ n, Sink.unbounded.fits n = true := fun _ => rfl
  have hbytes : (Sink.unbounded.accept s.csvBytes).received = s.csv.toByteArray := by
    rw [toByteArray_csv]
    exact ByteArray.empty_append
  rw [writeTo_of_chunk_ne_zero s (k := Sink.unbounded) (Option.some_ne_none 0).symm, hfits, hfits,
    ← hbytes]
  rfl

/-- **Memory receives the whole text.** The buffer may be emptied inside a character; the bytes read
as text nevertheless. -/
theorem toCsv_eq (s : Sheet) : s.toCsv = .ok s.csv := by
  simp only [toCsv, writeTo_unbounded, fromUTF8?_toByteArray]

/-- **The buffered writer delivers a prefix of the plain text.** A sink that looks at one byte or
more at a time receives the first bytes of the sheet's CSV text, as many as its limit lets through;
neither that nor the outcome depends on how many it looks at; and where nothing is limited and the
flush works, the writing succeeds and what memory has received reads as the text. -/
theorem writeTo_delivers (s : Sheet) (chunk chunk' limit : Option Nat) (flushFails : Bool)
    (hc : chunk ≠ some 0) (hc' : chunk' ≠ some 0) :
    (s.writeTo (Sink.trial chunk limit flushFails)).1.received =
        s.csv.toByteArray.extract 0 (Sink.allowed limit s.csv.utf8ByteSize) ∧
      (s.writeTo (Sink.trial chunk' limit flushFails)).1.received =
        (s.writeTo (Sink.trial chunk limit flushFails)).1.received ∧
      (s.writeTo (Sink.trial chunk' limit flushFails)).2 =
        (s.writeTo (Sink.trial chunk limit flushFails)).2 ∧
      (s.writeTo (Sink.trial chunk none false)).2 = .ok () ∧
      s.toCsv = .ok s.csv := by
  refine ⟨received_writeTo_trial s hc limit flushFails, ?_, ?_, ?_, toCsv_eq s⟩
  · rw [received_writeTo_trial s hc, received_writeTo_trial s hc']
  · rw [writeTo_trial s hc, writeTo_trial s hc']
    rfl
  · rw [writeTo_trial s hc]
    rfl

/-- The limit falls inside a character of two bytes: its first byte is received, whether the sink
looks at one byte at a time or at all of them. -/
theorem writeTo_delivers_inside_character :
    (some 1 : Option Nat) ≠ some 0 ∧ (none : Option Nat) ≠ some 0 ∧
      ((Sheet.empty.append ⟨"é", ""⟩).writeTo (Sink.trial (some 1) (some 26) true)).1.received =
        "Instruction,Description\r\n".toByteArray.push 0xC3 ∧
      ((Sheet.empty.append ⟨"é", ""⟩).writeTo (Sink.trial none (some 26) true)).1.received =
        "Instruction,Description\r\n".toByteArray.push 0xC3 := by
  have h1 : (some 1 : Option Nat) ≠ some 0 := by decide
  have h2 : (none : Option Nat) ≠ some 0 := by decide
  obtain ⟨hone, hall, -⟩ :=
    writeTo_delivers (Sheet.empty.append ⟨"é", ""⟩) (some 1) none (some 26) true h1 h2
  have hrows : (Sheet.empty.append ⟨"é", ""⟩).rows = [⟨"é", ""⟩] := rfl
  have hcut : (Sheet.empty.append ⟨"é", ""⟩).csv.toByteArray.extract 0
      (Sink.allowed (some 26) (Sheet.empty.append ⟨"é", ""⟩).csv.utf8ByteSize) =
        "Instruction,Description\r\n".toByteArray.push 0xC3 := by
    rw [csv, hrows]
    decide
  exact ⟨h1, h2, hone.trans hcut, hall.trans (hone.trans hcut)⟩

end Sheet
end InstructionSheet
