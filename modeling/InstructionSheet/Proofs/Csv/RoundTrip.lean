/-
# Reading back what was written

Rows that are written and read again come back as they were, whatever characters their fields hold
(`Csv.readRows_encode`), and below the header that every sheet is written with each of them is the
entry it came from (`Csv.decode_encode`). A sheet is written through a buffer, which delivers the
same text, so decoding what it delivers gives the sheet's rows (`Sheet.decode_toCsv`).

After the text of some rows the reader stands before a row again, whatever follows
(`Csv.rows_encode_append`). So a text that begins with the text of some rows reads as these rows
first, and CSV texts begin with one another exactly when the rows do (`Csv.encode_prefix_iff`,
`Sheet.toCsv_prefix_iff`).

Key theorems: `Csv.readRows_encode`, `Csv.encode_prefix_iff`, `Sheet.decode_toCsv`,
`Sheet.toCsv_prefix_iff`.
-/
import InstructionSheet.Csv.Record
import InstructionSheet.Proofs.Csv.Scan
import InstructionSheet.Proofs.Output.Delivery

namespace InstructionSheet
namespace Csv

/-- The header's first letter is no byte order mark, so no beginning of a CSV text has one. -/
theorem dropMark_of_prefix {rows : List Entry} {p : List Char} (h : p <+: encode rows) :
    dropMark p = p := by
  obtain ⟨cs, hcs⟩ : ∃ cs, encode rows = 'I' :: cs := ⟨_, rfl⟩
  rw [hcs] at h
  rcases List.prefix_cons_iff.mp h with rfl | ⟨q, rfl, -⟩
  · rfl
  · rw [dropMark, if_neg (by decide)]

theorem rows_encode_append (rows : List Entry) (rest : List Char) :
    Scan.start.rows (encode rows ++ rest) =
      fieldsOf header :: rows.map fieldsOf ++ Scan.start.rows rest :=
  Scan.rows_flatMap_encodeRow (header :: rows) rest

theorem rows_encode (rows : List Entry) :
    Scan.start.rows (encode rows) = fieldsOf header :: rows.map fieldsOf := by
  have h := rows_encode_append rows []
  rwa [List.append_nil, show Scan.start.rows [] = [] from rfl, List.append_nil] at h

/-- **The rows of an encoded list of entries are the header's fields and theirs.** -/
theorem readRows_encode (rows : List Entry) :
    readRows (encode rows) = fieldsOf header :: rows.map fieldsOf := by
  rw [readRows, dropMark_of_prefix (List.prefix_refl _), rows_encode]

theorem entryOfRow_fieldsOf (e : Entry) : entryOfRow (fieldsOf header) (fieldsOf e) = .ok e := by
  have h1 : Column.ofName? header.mnemonic = some .instruction := by decide
  have h2 : Column.ofName? header.description = some .description := by decide
  simp [entryOfRow, fieldsOf, collect, h1, h2, complete]

theorem map_entryOfRow_fieldsOf (es : List Entry) :
    (es.map fieldsOf).map (entryOfRow (fieldsOf header)) = es.map .ok := by
  rw [List.map_map]
  exact List.map_congr_left fun e _ => entryOfRow_fieldsOf e

theorem decode_encode (rows : List Entry) :
    decode (String.ofList (encode rows)) = ⟨fieldsOf header, rows.map .ok⟩ := by
  rw [decode, String.toList_ofList, readRows_encode, decodeRows, map_entryOfRow_fieldsOf]

/-! ### Texts that begin alike -/

theorem fieldsOf_injective {e e' : Entry} (h : fieldsOf e = fieldsOf e') : e = e' := by
  cases e with
  | mk m d =>
    cases e' with
    | mk m' d' => simpa [fieldsOf] using h

theorem encode_append (rows more : List Entry) :
    encode (rows ++ more) = encode rows ++ more.flatMap encodeRow := by
  rw [encode, ← List.cons_append, List.flatMap_append]; rfl

/-- Rows whose text begins with the text of others begin with those others. Neither can the last row
end of the shorter text lie inside a field of the longer one: the reader has it end a row in both. -/
theorem prefix_of_encode_prefix {rows rows' : List Entry} (h : encode rows <+: encode rows') :
    rows <+: rows' := by
  obtain ⟨rest, hrest⟩ := h
  have hread := rows_encode_append rows rest
  rw [hrest, rows_encode, List.cons_append, List.cons.injEq] at hread
  have hfields : rows.map fieldsOf <+: rows'.map fieldsOf := ⟨_, hread.2.symm⟩
  exact (List.prefix_map_iff_of_injective fun _ _ => fieldsOf_injective).mp hfields

/-- **Texts begin with one another exactly when the rows do.** -/
theorem encode_prefix_iff (rows rows' : List Entry) :
    encode rows <+: encode rows' ↔ rows <+: rows' := by
  constructor
  · exact prefix_of_encode_prefix
  · rintro ⟨more, rfl⟩
    exact ⟨_, (encode_append rows more).symm⟩

theorem encode_injective {rows rows' : List Entry} (h : encode rows = encode rows') :
    rows = rows' := by
  have hle : rows <+: rows' := prefix_of_encode_prefix (h ▸ List.prefix_refl _)
  have hge : rows' <+: rows := prefix_of_encode_prefix (h ▸ List.prefix_refl _)
  exact hle.eq_of_length_le hge.length_le

end Csv

/-- **Round trip.** Whatever the history of a sheet and whatever its fields hold, its CSV text is
produced, and decoding it gives the two column names and the sheet's rows in their order, each of
them an entry and none an error. -/
theorem Sheet.decode_toCsv (s : Sheet) :
    s.toCsv.map Csv.decode = .ok ⟨["Instruction", "Description"], s.rows.map .ok⟩ := by
  rw [toCsv_eq, Except.map, csv, Csv.decode_encode]
  rfl

/-- **The CSV text keeps and reflects beginnings.** Any two sheets have CSV texts, and the one begins
with the other exactly when its rows begin with the rows of the other; the texts are the same
exactly when the rows are, in the same order. -/
theorem Sheet.toCsv_prefix_iff (s s' : Sheet) :
    ∃ text text', s.toCsv = .ok text ∧ s'.toCsv = .ok text' ∧
      (text.toList <+: text'.toList ↔ s.rows <+: s'.rows) ∧
      (text = text' ↔ s.rows = s'.rows) := by
  refine ⟨s.csv, s'.csv, toCsv_eq s, toCsv_eq s', ?_, fun htext => ?_, fun hrows => ?_⟩
  · rw [csv, csv, String.toList_ofList, String.toList_ofList]
    exact Csv.encode_prefix_iff s.rows s'.rows
  · exact Csv.encode_injective (String.ofList_injective htext)
  · rw [csv, csv, hrows]

end InstructionSheet
