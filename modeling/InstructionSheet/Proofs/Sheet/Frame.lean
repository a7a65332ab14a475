/-
# What one insertion leaves alone

An insertion adds a row behind the others (`Sheet.Indexed.rows_insert_of_not_mem`) or gives the row
of its mnemonic another description (`Sheet.Indexed.rows_insert_of_row`). The row is the one that
the map names; since the map agrees with the rows, that is where the mnemonic stands, and no other
row is touched. The CSV text is the header's and then each row's, one after the other
(`Csv.encode_set`), so the text of the one row comes behind the text there was or takes the place of
that row's text, whatever quotes it has to be put in and however long it gets.

In a run of insertions mnemonics are therefore added behind those there are and never moved
(`Sheet.Indexed.mnemonics_prefix_insertAll`).

Key theorems: `Csv.encode_set`, `Sheet.Indexed.rows_insert_of_row`,
`Sheet.effect_of_insertion`.
-/
import InstructionSheet.Proofs.Csv.RoundTrip
import InstructionSheet.Proofs.Sheet.History

namespace InstructionSheet

namespace Csv

theorem encode_set {rows : List Entry} {i : Nat} (hi : i < rows.length) (e : Entry) :
    encode (rows.set i e) =
      encode (rows.take i) ++ encodeRow e ++ (rows.drop (i + 1)).flatMap encodeRow := by
  rw [List.set_eq_take_append_cons_drop, if_pos hi, encode_append, List.flatMap_cons,
    List.append_assoc]

theorem encode_of_row {rows : List Entry} {i : Nat} {e : Entry} (he : rows[i]? = some e) :
    encode rows =
      encode (rows.take i) ++ encodeRow e ++ (rows.drop (i + 1)).flatMap encodeRow := by
  obtain ⟨hi, rfl⟩ := List.getElem?_eq_some_iff.mp he
  have hset := encode_set hi rows[i]
  rwa [List.set_getElem_self] at hset

end Csv

namespace Sheet
namespace Indexed

variable {s : Sheet}

/-! ### Rows -/

theorem rows_insert_of_not_mem (h : s.Indexed) {e : Entry} (hnew : e.mnemonic ∉ s.mnemonics) :
    (s.insert e).sheet.rows = s.rows ++ [e] := by
  have hslot := (h.slot_eq_none_iff e.mnemonic).mpr hnew
  rw [insert_of_slot_none hslot]
  exact rows_append s e

/-- **A mnemonic that has a row keeps it, and its description alone changes.** -/
theorem rows_insert_of_row (h : s.Indexed) {e : Entry} {i : Nat} {old : String}
    (hrow : s.rows[i]? = some ⟨e.mnemonic, old⟩) : (s.insert e).sheet.rows = s.rows.set i e := by
  -- the map leads to this row and to no other
  have hslot : s.slot? e.mnemonic = some i := by
    rw [h.slot_iff, mnemonics, List.getElem?_map, hrow]
    rfl
  have hentry : s.entries[i]? = some ⟨e.mnemonic, old⟩ := by
    rw [← getElem?_rows]
    exact hrow
  rw [insert_of_slot hslot hentry, rows_describe, List.modify_eq_set, hrow]
  rfl

/-! ### Mnemonics in a run -/

theorem mnemonics_prefix_insert (h : s.Indexed) (e : Entry) :
    s.mnemonics <+: (s.insert e).sheet.mnemonics := by
  rw [h.mnemonics_insert]
  split
  · exact List.prefix_refl _
  · exact List.prefix_append _ _

/-- **Whatever is inserted, the mnemonics there were stay in front, in their order.** -/
theorem mnemonics_prefix_insertAll (h : s.Indexed) (es : List Entry) :
    s.mnemonics <+: (s.insertAll es).1.mnemonics := by
  induction es generalizing s with
  | nil => exact List.prefix_refl _
  | cons e es ih => exact (h.mnemonics_prefix_insert e).trans (ih (h.insert e))

end Indexed

/-! ### The effect of an insertion -/

/-- **The effect of one insertion on rows, look-ups and CSV text.** Into any built sheet, an entry
with a new mnemonic is put behind the rows, and its text comes behind the CSV text there was. An
entry whose mnemonic stands in row `i` changes the description there, and the CSV texts before and
after are the same but for the text of that row. In both cases the mnemonic then has the new
description and any other what it had. In a run of insertions the mnemonics at any time stay in
front of all that come later. -/
theorem effect_of_insertion {s : Sheet} (hs : s.Built) (e : Entry) :
    (e.mnemonic ∉ s.mnemonics →
      (s.insert e).sheet.rows = s.rows ++ [e] ∧
        ∃ text, s.toCsv = .ok text ∧
          (s.insert e).sheet.toCsv = .ok (text ++ String.ofList (Csv.encodeRow e))) ∧
      (∀ (i : Nat) (old : String), s.rows[i]? = some ⟨e.mnemonic, old⟩ →
        (s.insert e).sheet.rows = s.rows.set i ⟨e.mnemonic, e.description⟩ ∧
          let before := Csv.encode (s.rows.take i)
          let after := (s.rows.drop (i + 1)).flatMap Csv.encodeRow
          s.toCsv = .ok (String.ofList (before ++ Csv.encodeRow ⟨e.mnemonic, old⟩ ++ after)) ∧
            (s.insert e).sheet.toCsv =
              .ok (String.ofList
                (before ++ Csv.encodeRow ⟨e.mnemonic, e.description⟩ ++ after))) ∧
      (s.insert e).sheet.get? e.mnemonic = some e.description ∧
      (∀ m, m ≠ e.mnemonic → (s.insert e).sheet.get? m = s.get? m) ∧
      ∀ es es' : List Entry,
        (s.insertAll es).1.mnemonics <+: (s.insertAll (es ++ es')).1.mnemonics := by
  have h := hs.indexed
  refine ⟨fun hnew => ?_, fun i old hrow => ?_, ?_, fun m hm => ?_, fun es es' => ?_⟩
  · have hrows := h.rows_insert_of_not_mem hnew
    refine ⟨hrows, s.csv, toCsv_eq s, ?_⟩
    rw [toCsv_eq, csv, csv, hrows, Csv.encode_append, List.flatMap_singleton, String.ofList_append]
  · have hrows := h.rows_insert_of_row hrow
    obtain ⟨hi, -⟩ := List.getElem?_eq_some_iff.mp hrow
    refine ⟨hrows, ?_, ?_⟩
    · rw [toCsv_eq, csv, Csv.encode_of_row hrow]
    · rw [toCsv_eq, csv, hrows, Csv.encode_set hi]
  · rw [h.get?_insert, if_pos rfl]
  · rw [h.get?_insert, if_neg hm.symm]
  · rw [insertAll_append]
    exact (h.insertAll es).mnemonics_prefix_insertAll es'

/-- A row that needed no quotes gets a description that does, between two other rows; and a new
mnemonic comes behind all three. -/
theorem effect_of_insertion_quoted :
    let s := (empty.insertAll [⟨"LDA", "one"⟩, ⟨"LDX", "two"⟩, ⟨"LDY", "three"⟩]).1
    s.Built ∧ s.rows[1]? = some ⟨"LDX", "two"⟩ ∧ "STA" ∉ s.mnemonics ∧
      (s.insert ⟨"LDX", "\"2\""⟩).sheet.toCsv =
        .ok "Instruction,Description\r\nLDA,one\r\nLDX,\"\"\"2\"\"\"\r\nLDY,three\r\n" ∧
      (s.insert ⟨"LDX", "\"2\""⟩).sheet.get? "LDY" = s.get? "LDY" ∧
      (s.insert ⟨"STA", ""⟩).sheet.rows =
        [⟨"LDA", "one"⟩, ⟨"LDX", "two"⟩, ⟨"LDY", "three"⟩, ⟨"STA", ""⟩] := by
  intro s
  have hs : s.Built := ⟨_, rfl⟩
  have hrows : s.rows = [⟨"LDA", "one"⟩, ⟨"LDX", "two"⟩, ⟨"LDY", "three"⟩] :=
    rows_insertAll_eq ⟨by decide, by decide⟩
  have hrow : s.rows[1]? = some ⟨"LDX", "two"⟩ := by
    rw [hrows]
    rfl
  have hnew : "STA" ∉ s.mnemonics := by
    rw [mnemonics, hrows]
    decide
  obtain ⟨-, hreplaced, -, hothers, -⟩ := effect_of_insertion hs ⟨"LDX", "\"2\""⟩
  obtain ⟨-, -, hcsv⟩ := hreplaced 1 "two" hrow
  obtain ⟨happended, -⟩ := effect_of_insertion hs ⟨"STA", ""⟩
  refine ⟨hs, hrow, hnew, ?_, hothers "LDY" (by decide), ?_⟩
  · rw [hcsv, hrows]
    decide
  · rw [(happended hnew).1, hrows]
    rfl

end Sheet
end InstructionSheet
