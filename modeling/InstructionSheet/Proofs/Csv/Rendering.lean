/-
# The many ways to write the same rows

The writer has one way to write a sheet; a reader has to do with others. A field may stand between
quotes though it need not, rows may be parted by any run of CR and LF, such a run may also come
before the first row and after the last, and a byte order mark may open the text. `Renders rows
text` is the grammar of all these texts. The reader does not tell them apart: it gives the rows
that were written (`Csv.readRows_of_renders`), so what is decoded depends on the rows alone
(`Csv.decode_of_renders`).

Key definitions: `Csv.FieldText`, `Csv.RowText`, `Csv.RowsText`, `Csv.Renders`.
Key theorems: `Csv.Scan.rows_of_rowsText`, `Csv.readRows_of_renders`, `Csv.decode_of_renders`.
-/
import InstructionSheet.Csv.Record
import InstructionSheet.Proofs.Csv.Scan

namespace InstructionSheet
namespace Csv

/-- The texts of a field: the field as it is, if it has no delicate character, and the field between
quotes with its own quotes doubled. -/
inductive FieldText (f : String) : List Char → Prop
  | bare (h : needsQuotes f.toList = false) : FieldText f f.toList
  | quoted : FieldText f ('"' :: (doubleQuotes f.toList ++ ['"']))

/-- The texts of a row: texts of its fields with a comma between every two. -/
inductive RowText : List String → List Char → Prop
  | single {f : String} {t : List Char} (h : FieldText f t) : RowText [f] t
  | cons {f : String} {fs : List String} {t ts : List Char} (h : FieldText f t)
    (hs : RowText fs ts) : RowText (f :: fs) (t ++ ',' :: ts)

/-- Characters that end rows, and no others. -/
def RowEnds (g : List Char) : Prop := ∀ c ∈ g, c = '\r' ∨ c = '\n'

/-- The texts of rows: texts of the rows with at least one row end between every two, and any number
of row ends after the last. A row of one empty field has to stand between quotes, for bare it could
not be told from a blank line. -/
inductive RowsText : List (List String) → List Char → Prop
  | last {row : List String} {t g : List Char} (h : RowText row t) (hne : row = [""] → t ≠ [])
    (hg : RowEnds g) : RowsText [row] (t ++ g)
  | cons {row : List String} {rows : List (List String)} {t g ts : List Char} (h : RowText row t)
    (hne : row = [""] → t ≠ []) (hg : RowEnds g) (hgap : g ≠ []) (hs : RowsText rows ts) :
    RowsText (row :: rows) (t ++ (g ++ ts))

/-- The texts that render rows: possibly a byte order mark, any number of row ends, and a text of
the rows. -/
def Renders (rows : List (List String)) (text : List Char) : Prop :=
  ∃ mark before body, text = mark ++ (before ++ body) ∧ (mark = [] ∨ mark = ['\uFEFF']) ∧
    RowEnds before ∧ RowsText rows body

/-- Only a row of one empty field can be written as nothing. -/
theorem RowText.ne_nil {row : List String} {t : List Char} (h : RowText row t)
    (hne : row = [""] → t ≠ []) : t ≠ [] := by
  cases h with
  | @single f t hf =>
    cases hf with
    | bare _ =>
      intro hnil
      exact hne (by rw [String.toList_eq_nil_iff.mp hnil]) hnil
    | quoted => exact List.cons_ne_nil _ _
  | cons _ _ => simp

namespace Scan

/-! ### Row ends -/

theorem isRowEnd_of_mem {g : List Char} (hg : RowEnds g) {c : Char} (hc : c ∈ g) :
    isRowEnd c = true := by
  rcases hg c hc with rfl | rfl
  · rfl
  · rfl

theorem rows_start_rowEnds : ∀ {g : List Char}, RowEnds g → ∀ rest : List Char,
    start.rows (g ++ rest) = start.rows rest
  | [], _, _ => rfl
  | c :: g, hg, rest => by
    have hc := isRowEnd_of_mem hg List.mem_cons_self
    rw [List.cons_append, rows_start_rowEnd hc]
    exact rows_start_rowEnds (fun c' hc' => hg c' (List.mem_cons_of_mem c hc')) rest

theorem rows_gap {s : Scan} (h : s.mode ≠ .quoted) (h0 : s.mode ≠ .rowStart) {g : List Char}
    (hg : RowEnds g) (hgap : g ≠ []) (rest : List Char) :
    s.rows (g ++ rest) = s.wholeRow :: start.rows rest := by
  obtain ⟨c, g, rfl⟩ := List.exists_cons_of_ne_nil hgap
  have hc := isRowEnd_of_mem hg List.mem_cons_self
  rw [List.cons_append, rows_rowEnd h h0 hc,
    rows_start_rowEnds (fun c' hc' => hg c' (List.mem_cons_of_mem c hc')) rest]

theorem rows_last {s : Scan} (h : s.mode ≠ .quoted) (h0 : s.mode ≠ .rowStart) {g : List Char}
    (hg : RowEnds g) : s.rows g = [s.wholeRow] := by
  by_cases hgap : g = []
  · subst hgap
    cases hm : s.mode with
    | rowStart => exact absurd hm h0
    | _ => simp [rows, finish, hm]
  · have hrows := rows_gap h h0 hg hgap []
    rw [List.append_nil] at hrows
    rw [hrows]
    rfl

/-! ### A row -/

theorem reads_fieldText {f : String} {t : List Char} (h : FieldText f t) : Reads t f.toList := by
  cases h with
  | bare h => exact reads_bare h
  | quoted => exact reads_quoted f.toList

/-- Read from the first place of a field, a text of fields takes the reader through them: it comes
to stand outside quotes, with these fields behind those it had, and still before the row only if
there was nothing to read. -/
theorem reads_rowText {row : List String} {t : List Char} (h : RowText row t) :
    ∀ (m : Mode) (before : List String), m.opensField = true →
      ∃ s : Scan, s.mode ≠ .quoted ∧ (s.mode = .rowStart → m = .rowStart ∧ t = []) ∧
        s.wholeRow = before.reverse ++ row ∧
        ∀ rest, rows ⟨m, [], before⟩ (t ++ rest) = s.rows rest := by
  induction h with
  | @single f t hf =>
    intro m before hm
    obtain ⟨m', hq, h0, hrows⟩ := reads_fieldText hf m before hm
    exact ⟨⟨m', f.toList.reverse, before⟩, hq, h0, by simp [wholeRow], hrows⟩
  | @cons f fs t ts hf _ ih =>
    intro m before hm
    obtain ⟨s, hq, h0, hwhole, hrows⟩ := ih .fieldStart (f :: before) rfl
    refine ⟨s, hq, fun hs => absurd (h0 hs).1 (by decide), ?_, fun rest => ?_⟩
    · rw [hwhole, List.reverse_cons, List.append_assoc]
      rfl
    · rw [List.append_assoc, List.cons_append, reads_comma (reads_fieldText hf) hm,
        String.ofList_toList]
      exact hrows rest

theorem start_rowText {row : List String} {t : List Char} (h : RowText row t)
    (hne : row = [""] → t ≠ []) :
    ∃ s : Scan, s.mode ≠ .quoted ∧ s.mode ≠ .rowStart ∧ s.wholeRow = row ∧
      ∀ rest, start.rows (t ++ rest) = s.rows rest := by
  obtain ⟨s, hq, h0, hwhole, hrows⟩ := reads_rowText h .rowStart [] rfl
  exact ⟨s, hq, fun hs => h.ne_nil hne (h0 hs).2, hwhole, hrows⟩

/-- **The reader gives the rows that a text renders.** -/
theorem rows_of_rowsText {rs : List (List String)} {text : List Char} (h : RowsText rs text) :
    start.rows text = rs := by
  induction h with
  | last h hne hg =>
    obtain ⟨s, hq, h0, hwhole, hrows⟩ := start_rowText h hne
    rw [hrows, rows_last hq h0 hg, hwhole]
  | cons h hne hg hgap _ ih =>
    obtain ⟨s, hq, h0, hwhole, hrows⟩ := start_rowText h hne
    rw [hrows, rows_gap hq h0 hg hgap, hwhole, ih]

end Scan

/-! ### The byte order mark -/

/-- A text of fields opens with a quote, with the first field's first character, or, if that field
is empty, with a comma or not at all. -/
theorem head?_rowText {f : String} {fs : List String} {t : List Char} (h : RowText (f :: fs) t) :
    t.head? = some '"' ∨ t.head? = f.toList.head? ∨ t.head? = some ',' := by
  have hfield : ∀ {t' : List Char}, FieldText f t' →
      t'.head? = some '"' ∨ t' = f.toList := by
    intro t' ht'
    cases ht' with
    | bare _ => exact .inr rfl
    | quoted => exact .inl rfl
  cases h with
  | single h =>
    rcases hfield h with h | rfl
    · exact .inl h
    · exact .inr (.inl rfl)
  | @cons _ _ t' ts h _ =>
    rw [List.head?_append]
    rcases hfield h with h | rfl
    · exact .inl (by rw [h]; rfl)
    · cases f.toList.head? with
      | none => exact .inr (.inr rfl)
      | some c => exact .inr (.inl rfl)

theorem head?_rowsText {f : String} {fs : List String} {rs : List (List String)} {text : List Char}
    (h : RowsText ((f :: fs) :: rs) text) (hf : f.toList.head? ≠ some '\uFEFF') :
    text.head? ≠ some '\uFEFF' := by
  obtain ⟨t, rest, rfl, hrow, hne⟩ : ∃ t rest, text = t ++ rest ∧ RowText (f :: fs) t ∧ t ≠ [] := by
    cases h with
    | last hrow hne _ => exact ⟨_, _, rfl, hrow, hrow.ne_nil hne⟩
    | cons hrow hne _ _ _ => exact ⟨_, _, rfl, hrow, hrow.ne_nil hne⟩
  obtain ⟨c, t, rfl⟩ := List.exists_cons_of_ne_nil hne
  have hc := head?_rowText hrow
  rw [List.head?_cons] at hc
  rw [List.cons_append, List.head?_cons]
  rcases hc with hc | hc | hc
  · rw [hc]
    decide
  · rw [hc]
    exact hf
  · rw [hc]
    decide

theorem dropMark_of_head? {cs : List Char} (h : cs.head? ≠ some '\uFEFF') : dropMark cs = cs := by
  cases cs with
  | nil => rfl
  | cons c cs =>
    have hc : c ≠ '\uFEFF' := by
      rintro rfl
      exact h rfl
    rw [dropMark, if_neg hc]

theorem dropMark_rendering {f : String} {fs : List String} {rs : List (List String)}
    {mark before body : List Char} (hmark : mark = [] ∨ mark = ['\uFEFF'])
    (hbefore : RowEnds before) (hbody : RowsText ((f :: fs) :: rs) body)
    (hf : f.toList.head? ≠ some '\uFEFF') :
    dropMark (mark ++ (before ++ body)) = before ++ body := by
  rcases hmark with rfl | rfl
  · rw [List.nil_append]
    apply dropMark_of_head?
    cases before with
    | nil => exact head?_rowsText hbody hf
    | cons c cs =>
      rw [List.cons_append, List.head?_cons]
      rcases hbefore c List.mem_cons_self with rfl | rfl
      · decide
      · decide
  · rw [List.singleton_append, dropMark, if_pos rfl]

/-- **Whatever way rows are written, they are read as they are.** -/
theorem readRows_of_renders {f : String} {fs : List String} {rs : List (List String)}
    {text : List Char} (h : Renders ((f :: fs) :: rs) text)
    (hf : f.toList.head? ≠ some '\uFEFF') : readRows text = (f :: fs) :: rs := by
  obtain ⟨mark, before, body, rfl, hmark, hbefore, hbody⟩ := h
  rw [readRows, dropMark_rendering hmark hbefore hbody hf, Scan.rows_start_rowEnds hbefore,
    Scan.rows_of_rowsText hbody]

/-- **The reader accepts every rendering of the same rows.** Let a text render a first row and
further rows, and let the first field of the first row not begin with a byte order mark. The rows
that are read are these; the first row gives the headers, and each further row one entry, which is
made of the headers and the fields of that row and of nothing else. -/
theorem decode_of_renders {f : String} {fs : List String} {rs : List (List String)} {text : String}
    (h : Renders ((f :: fs) :: rs) text.toList) (hf : f.toList.head? ≠ some '\uFEFF') :
    readRows text.toList = (f :: fs) :: rs ∧
      (decode text).headers = f :: fs ∧
      (decode text).entries = rs.map (entryOfRow (f :: fs)) := by
  have hrows := readRows_of_renders h hf
  refine ⟨hrows, ?_, ?_⟩
  · rw [decode, hrows, decodeRows]
  · rw [decode, hrows, decodeRows]

/-- A byte order mark, a blank line, quotes where none are needed and where they are, row ends of
four kinds, and no row end after the last row. -/
theorem decode_of_renders_mixed :
    let text := "\uFEFF\r\n\"Instruction\",Description\r\r\n\n\"A\"\"\r\n\",\n\"\"\r,x"
    Renders [["Instruction", "Description"], ["A\"\r\n", ""], [""], ["", "x"]] text.toList ∧
      "Instruction".toList.head? ≠ some '\uFEFF' ∧
      (decode text).entries =
        [.ok ⟨"A\"\r\n", ""⟩, .error (.unequalLengths 2 1), .ok ⟨"", "x"⟩] := by
  intro text
  have hends : ∀ {g : List Char}, g.all Scan.isRowEnd = true → RowEnds g := by
    intro g hg c hc
    simpa [Scan.isRowEnd] using List.all_eq_true.mp hg c hc
  have hgap₀ : RowEnds ['\r', '\r', '\n', '\n'] := hends (by decide)
  have hgap₁ : RowEnds ['\n'] := hends (by decide)
  have hgap₂ : RowEnds ['\r'] := hends (by decide)
  have hgap₃ : RowEnds [] := hends (by decide)
  have hrow₀ : RowText ["Instruction", "Description"] _ :=
    .cons .quoted (.single (.bare (by decide)))
  have hrow₁ : RowText ["A\"\r\n", ""] _ := .cons .quoted (.single (.bare (by decide)))
  have hrow₂ : RowText [""] _ := .single .quoted
  have hrow₃ : RowText ["", "x"] _ := .cons (.bare (by decide)) (.single (.bare (by decide)))
  have hrows : RowsText _ _ :=
    .cons hrow₀ (by decide) hgap₀ (by decide) (.cons hrow₁ (by decide) hgap₁ (by decide)
      (.cons hrow₂ (by decide) hgap₂ (by decide) (.last hrow₃ (by decide) hgap₃)))
  have hrenders : Renders _ text.toList :=
    ⟨['\uFEFF'], ['\r', '\n'], _, by decide, .inr rfl, hends (by decide), hrows⟩
  have hf : "Instruction".toList.head? ≠ some '\uFEFF' := by decide
  refine ⟨hrenders, hf, ?_⟩
  rw [(decode_of_renders hrenders hf).2.2]
  rfl

end Csv
end InstructionSheet
