/-
# What an export does to the files

There are four ways for an export to go, and the files and the path decide which
(`Sheet.exportTo_cases`): the path opens no place; it opens the device that refuses every byte; it
opens the device that keeps nothing; or it opens a place for a plain file. The first two fail and
change nothing. In the last one the file then holds the sheet's CSV text and nothing else, whatever
it held before, and reading the path and decoding gives the sheet's rows (`Sheet.decodeAt_store`).

Key definitions: `Files.WrittenAt`, `Files.decodeAt`.
Key theorems: `Sheet.exportTo_cases`, `Sheet.grows_exportTo`, `Sheet.decodeAt_store`.
-/
import InstructionSheet.Csv.Record
import InstructionSheet.Output.Job
import InstructionSheet.Proofs.Csv.RoundTrip
import InstructionSheet.Proofs.Files.Growth
import InstructionSheet.Proofs.Output.Outcome

namespace InstructionSheet

namespace Files

/-- `t'` is `t` with one file written: the plain file at `l` has the given content, and all else is
as it was. -/
structure WrittenAt (t t' : Files) (l : Location) (content : ByteArray) : Prop where
  home : t'.home = t.home
  content : t'.node? l = some (.file content)
  others : ∀ l', l' ≠ l → t'.node? l' = t.node? l'

/-- What is decoded from the bytes that a path reads as, if it can be read and they are a text. -/
def decodeAt (t : Files) (path : String) : Option Csv.Decoded :=
  ((t.read path).toOption.bind String.fromUTF8?).map Csv.decode

theorem writtenAt_store {t : Files} {l : Location} (hdev : ∀ d, t.node? l ≠ some (.device d))
    (content : ByteArray) : t.WrittenAt (t.store l content) l content where
  home := home_store t l content
  content := node?_store_self hdev content
  others _ hne := node?_store_of_ne (Ne.symm hne) t content

end Files

namespace Sheet

/-- A sink without room refuses the first bytes that are handed over, which are those of an early
emptying exactly when the text is longer than the buffer. -/
theorem writeTo_withoutRoom (s : Sheet) :
    s.writeTo Sink.withoutRoom =
      (Sink.withoutRoom, .error (if 0 < s.lastMark then .row .noSpace else .finish .noSpace)) := by
  have hfits : ∀ n, Sink.withoutRoom.fits n = decide (n ≤ 0) := fun _ => rfl
  have hbytes : Sink.withoutRoom.accept s.csvBytes = Sink.withoutRoom := rfl
  have hsum := s.lastMark_add_last
  have hlast := s.last_bounds
  rw [writeTo_of_chunk_ne_zero s (k := Sink.withoutRoom) (Option.some_ne_none 0).symm, hbytes,
    hfits, hfits, ← lastMark_eq_early, length_csvBytes]
  by_cases hmark : 0 < s.lastMark
  · rw [decide_eq_false (Nat.not_le_of_lt hmark), if_neg Bool.false_ne_true, if_pos hmark]
    rfl
  · have hall : ¬ s.csv.utf8ByteSize ≤ 0 := by omega
    rw [decide_eq_true (Nat.le_of_not_lt hmark), if_pos rfl, decide_eq_false hall,
      if_neg Bool.false_ne_true, if_neg hmark]
    rfl

theorem exportTo_of_error (s : Sheet) {t : Files} {path : String} {f : Fault}
    (hplace : t.place path = .error f) :
    s.exportTo t path = ⟨t, .error (.create path f), []⟩ := by
  rw [exportTo, hplace]

theorem exportTo_of_unbounded (s : Sheet) {t : Files} {path : String} {l : Location}
    (hplace : t.place path = .ok l) (hfull : t.node? l ≠ some (.device .full)) :
    s.exportTo t path =
      ⟨t.store l s.csv.toByteArray, .ok (), [.exported path s.size]⟩ := by
  have hsink : t.sinkAt l = Sink.unbounded := by
    unfold Files.sinkAt
    split
    · rename_i hdev
      exact absurd hdev hfull
    · rfl
  simp only [exportTo, hplace, hsink, writeTo_unbounded]

/-- **The four ways of an export.** The path opens no place, a device that refuses every byte, a
device that keeps nothing, or a place for a plain file. -/
theorem exportTo_cases (s : Sheet) (t : Files) (path : String) :
    (∃ f, t.place path = .error f ∧ s.exportTo t path = ⟨t, .error (.create path f), []⟩) ∨
    (∃ l, t.place path = .ok l ∧ t.node? l = some (.device .full) ∧
      s.exportTo t path =
        ⟨t, .error (if 0 < s.lastMark then .row .noSpace else .finish .noSpace), []⟩) ∨
    (∃ l, t.place path = .ok l ∧ t.node? l = some (.device .null) ∧
      s.exportTo t path = ⟨t, .ok (), [.exported path s.size]⟩) ∨
    (∃ l, t.place path = .ok l ∧ (∀ d, t.node? l ≠ some (.device d)) ∧
      s.exportTo t path =
        ⟨t.store l s.csv.toByteArray, .ok (), [.exported path s.size]⟩) := by
  cases hplace : t.place path with
  | error f => exact .inl ⟨f, rfl, s.exportTo_of_error hplace⟩
  | ok l =>
    by_cases hfull : t.node? l = some (.device .full)
    · have hsink : t.sinkAt l = Sink.withoutRoom := by rw [Files.sinkAt, hfull]
      refine .inr (.inl ⟨l, rfl, hfull, ?_⟩)
      simp only [exportTo, hplace, hsink, writeTo_withoutRoom, Files.store_device hfull]
    have hexport := s.exportTo_of_unbounded hplace hfull
    by_cases hnull : t.node? l = some (.device .null)
    · rw [Files.store_device hnull] at hexport
      exact .inr (.inr (.inl ⟨l, rfl, hnull, hexport⟩))
    · refine .inr (.inr (.inr ⟨l, rfl, fun d hd => ?_, hexport⟩))
      cases d with
      | null => exact hnull hd
      | full => exact hfull hd

theorem grows_exportTo (s : Sheet) (t : Files) (path : String) :
    t.Grows (s.exportTo t path).files := by
  rcases s.exportTo_cases t path with
    ⟨_, -, h⟩ | ⟨_, -, -, h⟩ | ⟨_, -, -, h⟩ | ⟨l, hplace, -, h⟩
  · rw [h]; exact .refl t
  · rw [h]; exact .refl t
  · rw [h]; exact .refl t
  · rw [h]; exact Files.grows_store (Files.not_folder_of_place hplace) _

/-- **A stored sheet reads as itself**: the path gives the bytes of its CSV text, and decoding them
gives its rows. -/
theorem decodeAt_store (s : Sheet) {t : Files} {path : String} {l : Location}
    (hplace : t.place path = .ok l) (hdev : ∀ d, t.node? l ≠ some (.device d)) :
    (t.store l s.csv.toByteArray).read path = .ok s.csv.toByteArray ∧
      (t.store l s.csv.toByteArray).decodeAt path =
        some ⟨["Instruction", "Description"], s.rows.map .ok⟩ := by
  have hread := (Files.read_store hplace hdev s.csv.toByteArray).2
  refine ⟨hread, ?_⟩
  rw [Files.decodeAt, hread, Except.toOption, Option.bind_some, fromUTF8?_toByteArray, Option.map_some,
    csv, Csv.decode_encode]
  rfl

end Sheet
end InstructionSheet
