/-
# Merging sheets

Entries can be inserted into a sheet one by one, or they can first make a sheet of their own, and
then only the rows of that are inserted. The result is the same (`Sheet.Built.insertAll_rows`),
whichever of their mnemonics the sheet had before. For what entries do to a sheet depends on the
sheet that they make by themselves alone (`Sheet.Built.insertAll_congr`), and the rows of a sheet
make this sheet again (`Sheet.Indexed.insertAll_empty_rows`). Inserting rows into the sheet that
they come from changes nothing (`Sheet.Built.insertAll_of_mem_rows`).

The lines of two texts with a line feed between them are those of the one and then those of the
other, unless there are blanks at the seam (`Sheet.lines_seam`). So the sheet of such a text is the
first text's, merged with the second's (`Sheet.merge_after_deduplication`).

Key theorems: `Sheet.Built.insertAll_congr`, `Sheet.lines_seam`, `Sheet.merge_after_deduplication`.
-/
import InstructionSheet.Proofs.Sheet.History
import InstructionSheet.Proofs.Text.Lines

namespace InstructionSheet
namespace Sheet

/-! ### Two histories, one after the other -/

theorem latest?_append (history later : List Entry) (m : String) :
    latest? (history ++ later) m = (latest? later m).or (latest? history m) := by
  rw [latest?, List.filter_append, List.getLast?_append, Option.map_or]
  rfl

theorem eraseDups_append_eraseDups (ms later : List String) :
    (ms ++ later.eraseDups).eraseDups = (ms ++ later).eraseDups := by
  induction later using List.reverseRecOn with
  | nil => rfl
  | append_singleton later m ih =>
    rw [eraseDups_concat later m, ← List.append_assoc, eraseDups_concat (ms ++ later)]
    by_cases hm : m ∈ later
    · rw [if_pos hm, ih, if_pos (List.mem_append_right ms hm)]
    · rw [if_neg hm, ← List.append_assoc, eraseDups_concat (ms ++ later.eraseDups), ih]
      simp

theorem insertAll_insertAll (s : Sheet) (es es' : List Entry) :
    ((s.insertAll es).1.insertAll es').1 = (s.insertAll (es ++ es')).1 := by
  rw [insertAll_append]

/-- **Entries that make the same sheet do the same to every built sheet.** -/
theorem Built.insertAll_congr {t : Sheet} (ht : t.Built) {es es' : List Entry}
    (h : (empty.insertAll es).1 = (empty.insertAll es').1) :
    (t.insertAll es).1 = (t.insertAll es').1 := by
  obtain ⟨history, rfl⟩ := ht
  obtain ⟨horder, hlatest⟩ := (insertAll_eq_insertAll_iff es es').mp h
  rw [insertAll_insertAll, insertAll_insertAll, insertAll_eq_insertAll_iff]
  constructor
  · calc ((history ++ es).map Entry.mnemonic).eraseDups
        = (history.map Entry.mnemonic ++ (es.map Entry.mnemonic).eraseDups).eraseDups := by
          rw [List.map_append, eraseDups_append_eraseDups]
      _ = (history.map Entry.mnemonic ++ (es'.map Entry.mnemonic).eraseDups).eraseDups := by
          rw [horder]
      _ = ((history ++ es').map Entry.mnemonic).eraseDups := by
          rw [eraseDups_append_eraseDups, List.map_append]
  · intro m
    rw [latest?_append, latest?_append, hlatest]

/-! ### Rows as entries -/

/-- **The rows of a sheet make the sheet again.** -/
theorem Indexed.insertAll_empty_rows {s : Sheet} (h : s.Indexed) :
    (empty.insertAll s.rows).1 = s := by
  rw [(indexed_empty.insertAll s.rows).eq_iff h]
  exact rows_insertAll_eq (leaves_self h.nodup)

/-- **Merging after deduplication.** The rows that entries make do to a sheet what all the entries
do. -/
theorem Built.insertAll_rows {t : Sheet} (ht : t.Built) (es : List Entry) :
    (t.insertAll (empty.insertAll es).1.rows).1 = (t.insertAll es).1 :=
  ht.insertAll_congr (indexed_empty.insertAll es).insertAll_empty_rows

theorem Built.insert_of_mem_rows {t : Sheet} (ht : t.Built) {e : Entry} (he : e ∈ t.rows) :
    (t.insert e).sheet = t := by
  obtain ⟨history, rfl⟩ := ht
  have hindexed := indexed_empty.insertAll history
  rw [(hindexed.insert e).eq_iff hindexed, ← insertAll_concat]
  exact rows_insertAll_eq ((leaves_insertAll history).concat_row he)

theorem Built.insertAll_of_mem_rows {t : Sheet} (ht : t.Built) {es : List Entry}
    (hes : ∀ e ∈ es, e ∈ t.rows) : (t.insertAll es).1 = t := by
  induction es with
  | nil => rfl
  | cons e es ih =>
    obtain ⟨he, hes⟩ := List.forall_mem_cons.mp hes
    rw [insertAll, ht.insert_of_mem_rows he]
    exact ih hes

/-! ### Texts -/

/-- **The lines of two texts with a line feed between them**, of which the first ends and the second
begins with a character that is not blank. -/
theorem lines_seam {a b : String} (ha : ∃ c ∈ a.toList.getLast?, Text.isBlank c = false)
    (hb : ∃ c ∈ b.toList.head?, Text.isBlank c = false) :
    lines (a ++ "\n" ++ b) = lines a ++ lines b := by
  obtain ⟨c, hlast, hc⟩ := ha
  obtain ⟨d, hfirst, hd⟩ := hb
  obtain ⟨cs, hcs⟩ := List.getLast?_eq_some_iff.mp hlast
  obtain ⟨ds, hds⟩ := List.head?_eq_some_iff.mp hfirst
  have htext : (a ++ "\n" ++ b).toList = cs ++ [c] ++ '\n' :: d :: ds := by
    rw [String.toList_append, String.toList_append, hcs, hds]
    simp
  rw [lines, lines, lines, htext, hcs, hds, Text.trim_seam hc hd, Text.pieces_append_sep]

theorem parse_seam {a b : String} (ha : ∃ c ∈ a.toList.getLast?, Text.isBlank c = false)
    (hb : ∃ c ∈ b.toList.head?, Text.isBlank c = false) :
    (parse (a ++ "\n" ++ b)).1 = ((parse a).1.insertAll ((lines b).map Entry.ofLine)).1 := by
  rw [parse_sheet, parse_sheet, insertAll_insertAll, lines_seam ha hb, List.map_append]

/-- **Merging after deduplication equals inserting everything.** Whatever a built sheet holds,
entries inserted into it lead to the same sheet as the rows of the sheet that these entries make by
themselves. Hence a text put together at a line feed without blanks around it has the rows of its
first part's sheet with those of its second part's inserted; and the rows of a built sheet lead back
to it, from the empty sheet as from itself. -/
theorem merge_after_deduplication :
    (∀ t : Sheet, t.Built → ∀ es : List Entry,
      (t.insertAll es).1 = (t.insertAll (empty.insertAll es).1.rows).1) ∧
      (∀ a b : String, (∃ c ∈ a.toList.getLast?, Text.isBlank c = false) →
        (∃ c ∈ b.toList.head?, Text.isBlank c = false) →
        (parse (a ++ "\n" ++ b)).1.rows = ((parse a).1.insertAll (parse b).1.rows).1.rows) ∧
      ∀ t : Sheet, t.Built → (empty.insertAll t.rows).1 = t ∧ (t.insertAll t.rows).1 = t := by
  refine ⟨fun t ht es => (ht.insertAll_rows es).symm, fun a b ha hb => ?_, fun t ht => ?_⟩
  · rw [parse_seam ha hb, parse_sheet b, (built_parse a).insertAll_rows]
  · exact ⟨ht.indexed.insertAll_empty_rows, ht.insertAll_of_mem_rows fun _ he => he⟩

/-- The entries repeat a mnemonic of their own and one that the sheet has, and the order in which
they bring the two is not the sheet's; the texts repeat a mnemonic across the seam, with blank lines
and blanks elsewhere. -/
theorem merge_after_deduplication_interleaved :
    let t := (empty.insertAll [⟨"LDA", "one"⟩]).1
    let es : List Entry := [⟨"LDX", "two"⟩, ⟨"LDA", "three"⟩, ⟨"LDX", "four"⟩]
    let a := " LDA one\n\nLDX two"
    let b := "LDA three \n\nSTA\n"
    t.Built ∧
      (∃ c ∈ a.toList.getLast?, Text.isBlank c = false) ∧
      (∃ c ∈ b.toList.head?, Text.isBlank c = false) ∧
      (empty.insertAll es).1.rows = [⟨"LDX", "four"⟩, ⟨"LDA", "three"⟩] ∧
      (t.insertAll [⟨"LDX", "four"⟩, ⟨"LDA", "three"⟩]).1.rows =
        [⟨"LDA", "three"⟩, ⟨"LDX", "four"⟩] ∧
      (t.insertAll t.rows).1 = t ∧
      ((parse a).1.insertAll (parse b).1.rows).1.rows =
        [⟨"LDA", "three"⟩, ⟨"", ""⟩, ⟨"LDX", "two"⟩, ⟨"STA", ""⟩] := by
  intro t es a b
  have ht : t.Built := ⟨_, rfl⟩
  have ha : ∃ c ∈ a.toList.getLast?, Text.isBlank c = false := ⟨'o', by decide, by decide⟩
  have hb : ∃ c ∈ b.toList.head?, Text.isBlank c = false := ⟨'L', by decide, by decide⟩
  obtain ⟨hmerge, hseam, hself⟩ := merge_after_deduplication
  have hrows : (empty.insertAll es).1.rows = [⟨"LDX", "four"⟩, ⟨"LDA", "three"⟩] :=
    rows_insertAll_eq ⟨by decide, by decide⟩
  refine ⟨ht, ha, hb, hrows, ?_, (hself t ht).2, ?_⟩
  · rw [← hrows, ← hmerge t ht es, insertAll_insertAll]
    exact rows_insertAll_eq ⟨by decide, by decide⟩
  · rw [← hseam a b ha hb]
    exact (leaves_parse _).unique ⟨by decide, by decide⟩

end Sheet
end InstructionSheet
