/-
# The physical lines of a CSV text

A row ends in CR LF, and quoting adds no line feed to a field and takes none away
(`Csv.count_encodeField`). So a CSV text has one line feed for each row, the header's among them,
and those of its fields (`Csv.count_encode`).

The rows of a sheet that a text was read into have no line feed in their fields, since lines are cut
at every one. Then the line feeds of the CSV text are the row ends, each with its CR before it, and
what stands between them are the header and the rows, one on a line (`Csv.pieces_encode`,
`Csv.physicalLines_encode`). A CR in a mnemonic, as a short line that ended in CR LF leaves it, does
not break its row.

Key definitions: `Csv.encodeLine`, `Csv.physicalLines`.
Key theorems: `Csv.count_encode`, `Csv.pieces_encode`, `Sheet.physicalLines_toCsv`.
-/
import InstructionSheet.Proofs.Output.Delivery
import InstructionSheet.Proofs.Sheet.Legible

namespace InstructionSheet

namespace Csv

/-- A row without its end. -/
def encodeLine (e : Entry) : List Char :=
  encodeField e.mnemonic.toList ++ ',' :: encodeField e.description.toList

/-- A line without the CR at its end, if there is one. -/
def withoutCr (line : List Char) : List Char :=
  if line.getLast? = some '\r' then line.dropLast else line

/-- The physical lines of a text: what stands before each of its line feeds, without the CR that
ends it. What stands behind the last line feed is no line. -/
def physicalLines (text : List Char) : List (List Char) :=
  (Text.pieces '\n' text).dropLast.map withoutCr

theorem encodeRow_eq (e : Entry) : encodeRow e = encodeLine e ++ ['\r', '\n'] := by
  rw [encodeRow, encodeLine, List.append_assoc, List.cons_append]

theorem withoutCr_concat (line : List Char) : withoutCr (line ++ ['\r']) = line := by
  rw [withoutCr, if_pos List.getLast?_concat, List.dropLast_concat]

/-! ### Line feeds -/

theorem count_doubleQuotes (cs : List Char) : (doubleQuotes cs).count '\n' = cs.count '\n' := by
  induction cs with
  | nil => rfl
  | cons c cs ih =>
    by_cases hc : c = '"'
    · subst hc
      have hne : '"' ≠ '\n' := by decide
      rw [doubleQuotes, if_pos rfl, List.count_cons_of_ne hne, List.count_cons_of_ne hne,
        List.count_cons_of_ne hne, ih]
    · rw [doubleQuotes, if_neg hc, List.count_cons, List.count_cons, ih]

/-- **Quoting adds no line feed and takes none away.** -/
theorem count_encodeField (f : List Char) : (encodeField f).count '\n' = f.count '\n' := by
  unfold encodeField
  split
  · rw [List.count_cons_of_ne (by decide), List.count_append, count_doubleQuotes]
    rfl
  · rfl

theorem count_encodeLine (e : Entry) : (encodeLine e).count '\n' = e.joined.count '\n' := by
  rw [encodeLine, List.count_append, List.count_cons_of_ne (by decide), count_encodeField,
    count_encodeField, Entry.joined, List.count_append]

theorem count_encodeRow (e : Entry) : (encodeRow e).count '\n' = 1 + e.joined.count '\n' := by
  rw [encodeRow_eq, List.count_append, count_encodeLine, Nat.add_comm]
  rfl

theorem count_flatMap_encodeRow (es : List Entry) :
    (es.flatMap encodeRow).count '\n' = es.length + (es.flatMap Entry.joined).count '\n' := by
  induction es with
  | nil => rfl
  | cons e es ih =>
    rw [List.flatMap_cons, List.count_append, count_encodeRow, ih, List.length_cons,
      List.flatMap_cons, List.count_append]
    omega

/-- **A CSV text has a line feed for each row and those of the fields.** -/
theorem count_encode (rows : List Entry) :
    (encode rows).count '\n' = rows.length + 1 + (rows.flatMap Entry.joined).count '\n' := by
  have hheader : header.joined.count '\n' = 0 := by decide
  rw [encode, count_flatMap_encodeRow, List.length_cons, List.flatMap_cons, List.count_append,
    hheader, Nat.zero_add]

theorem rowEnd_suffix_encode (rows : List Entry) : ['\r', '\n'] <:+ encode rows := by
  obtain ⟨front, e, hlast⟩ := (List.eq_nil_or_concat' (header :: rows)).resolve_left (by simp)
  rw [encode, hlast, List.flatMap_append, List.flatMap_singleton, encodeRow_eq]
  exact List.suffix_append_of_suffix (List.suffix_append _ _)

/-! ### Lines -/

/-- Rows without line feeds in their fields make one piece each, with the CR of the row's end. -/
theorem pieces_flatMap_encodeRow {es : List Entry} (h : ∀ e ∈ es, '\n' ∉ e.joined) :
    Text.pieces '\n' (es.flatMap encodeRow) = es.map (fun e => encodeLine e ++ ['\r']) ++ [[]] := by
  induction es with
  | nil => rfl
  | cons e es ih =>
    obtain ⟨he, hes⟩ := List.forall_mem_cons.mp h
    have hline : '\n' ∉ encodeLine e ++ ['\r'] := by
      rw [← List.count_eq_zero, List.count_append, count_encodeLine, List.count_eq_zero.mpr he]
      rfl
    have hrow : encodeRow e ++ es.flatMap encodeRow =
        (encodeLine e ++ ['\r']) ++ '\n' :: es.flatMap encodeRow := by
      rw [encodeRow_eq]
      simp
    rw [List.flatMap_cons, hrow, Text.pieces_append_sep, Text.pieces_of_not_mem hline, ih hes]
    rfl

/-- **Cut at its line feeds, such a text is the header and the rows, one on a line.** -/
theorem pieces_encode {rows : List Entry} (h : ∀ e ∈ rows, '\n' ∉ e.joined) :
    Text.pieces '\n' (encode rows) =
      (header :: rows).map (fun e => encodeLine e ++ ['\r']) ++ [[]] :=
  pieces_flatMap_encodeRow (List.forall_mem_cons.mpr ⟨by decide, h⟩)

theorem physicalLines_encode {rows : List Entry} (h : ∀ e ∈ rows, '\n' ∉ e.joined) :
    physicalLines (encode rows) = (header :: rows).map encodeLine := by
  rw [physicalLines, pieces_encode h, List.dropLast_concat, List.map_map]
  exact List.map_congr_left fun e _ => withoutCr_concat (encodeLine e)

example : physicalLines (encode [⟨"RT\r", ""⟩]) =
    ["Instruction,Description".toList, "\"RT\r\",".toList] := by decide

theorem count_encode_of_not_mem {rows : List Entry} (h : ∀ e ∈ rows, '\n' ∉ e.joined) :
    (encode rows).count '\n' = rows.length + 1 := by
  have hlength := Text.length_pieces '\n' (encode rows)
  rw [pieces_encode h, List.length_append, List.length_map, List.length_singleton] at hlength
  exact (Nat.succ.inj hlength).symm

theorem cr_before_lf {rows : List Entry} (h : ∀ e ∈ rows, '\n' ∉ e.joined)
    {before after : List Char} (hcut : encode rows = before ++ '\n' :: after) :
    ['\r'] <:+ before := by
  have hpieces := pieces_encode h
  rw [hcut, Text.pieces_append_sep] at hpieces
  obtain ⟨ps, p, hp⟩ := (List.eq_nil_or_concat' (Text.pieces '\n' before)).resolve_left
    (Text.pieces_ne_nil '\n' before)
  obtain ⟨qs, q, hq⟩ := (List.eq_nil_or_concat' (Text.pieces '\n' after)).resolve_left
    (Text.pieces_ne_nil '\n' after)
  rw [hq, ← List.append_assoc] at hpieces
  -- the last piece before the line feed is one of the lines, so it ends in a CR
  have hlines := (List.append_inj' hpieces rfl).1
  have hmem : p ∈ (header :: rows).map fun e => encodeLine e ++ ['\r'] := by
    rw [← hlines, hp]
    simp
  obtain ⟨e, -, rfl⟩ := List.mem_map.mp hmem
  obtain ⟨ds, hds⟩ := Text.intercalate_concat_last '\n' '\r' (encodeLine e) ps
  rw [← hp, Text.intercalate_pieces] at hds
  rw [hds]
  exact List.suffix_append ds ['\r']

end Csv

namespace Sheet

theorem lf_not_mem_of_mem_parse {text : String} {e : Entry} (he : e ∈ (parse text).1.rows) :
    '\n' ∉ e.joined := by
  obtain ⟨line, hline, rfl⟩ := row_of_line he
  obtain ⟨⟨-, hm⟩, ⟨hd, -⟩, -⟩ := ofLine_legible hline
  rw [Entry.joined, List.mem_append, not_or]
  exact ⟨hm, hd⟩

/-- **The physical lines of CSV texts.** Any sheet has a CSV text, with a line feed for each row, one
for the header and those of its fields, and it ends in CR LF. Where the sheet was read from a text,
its CSV text has as many lines as rows and one more, each line feed stands behind a CR, the first
line is the header and line `i + 1` is row `i`. -/
theorem physicalLines_toCsv :
    (∀ s : Sheet, ∃ csv, s.toCsv = .ok csv ∧
      csv.toList.count '\n' = s.size + 1 + (s.rows.flatMap Entry.joined).count '\n' ∧
      ['\r', '\n'] <:+ csv.toList) ∧
      ∀ text : String, ∃ csv, (parse text).1.toCsv = .ok csv ∧
        csv.toList.count '\n' = (parse text).1.size + 1 ∧
        (∀ before after, csv.toList = before ++ '\n' :: after → ['\r'] <:+ before) ∧
        (Csv.physicalLines csv.toList).length = (parse text).1.size + 1 ∧
        (Csv.physicalLines csv.toList)[0]? = some "Instruction,Description".toList ∧
        ∀ (i : Nat) (e : Entry), (parse text).1.rows[i]? = some e →
          (Csv.physicalLines csv.toList)[i + 1]? = some (Csv.encodeLine e) := by
  constructor
  · intro s
    refine ⟨s.csv, toCsv_eq s, ?_, ?_⟩
    · rw [csv, String.toList_ofList, Csv.count_encode, length_rows]
    · rw [csv, String.toList_ofList]
      exact Csv.rowEnd_suffix_encode s.rows
  · intro text
    have hfields : ∀ e ∈ (parse text).1.rows, '\n' ∉ e.joined := fun _ => lf_not_mem_of_mem_parse
    have htext : (parse text).1.csv.toList = Csv.encode (parse text).1.rows := String.toList_ofList
    have hlines := Csv.physicalLines_encode hfields
    refine ⟨(parse text).1.csv, toCsv_eq _, ?_⟩
    rw [htext]
    refine ⟨?_, fun before after => Csv.cr_before_lf hfields, ?_, ?_, fun i e hi => ?_⟩
    · rw [Csv.count_encode_of_not_mem hfields, length_rows]
    · rw [hlines, List.length_map, List.length_cons, length_rows]
    · rw [hlines, List.map_cons, List.getElem?_cons_zero]
      exact congrArg some (by decide)
    · rw [hlines, List.getElem?_map, List.getElem?_cons_succ, hi]
      rfl

end Sheet
end InstructionSheet
