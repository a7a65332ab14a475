/-
# The rows that a text can be read into

A blank text is read into one row of two empty fields. Of any other text the rows are legible: each
is the entry of a line, the first line begins with a character that is not blank, and the last one
ends with such a character (`legible_parse`). Legible rows, in turn, can be written as lines, and
read into the same rows again (`exists_parse_of_legible`). The last of these rows may end in blanks,
which trimming would take off the text, so a row that does not end so is written once more at the
end, where it replaces its own description by the same.

Key definitions: `Sheet.Legible`.
Key theorems: `Sheet.legible_parse`, `Sheet.exists_parse_of_legible`,
`Sheet.exists_parse_eq_iff`.
-/
import InstructionSheet.Proofs.Entry.Line
import InstructionSheet.Proofs.Sheet.History

namespace InstructionSheet
namespace Sheet

/-- What holds of the rows that a text is read into unless it is blank. -/
structure Legible (rows : List Entry) : Prop where
  /-- There is a row. -/
  nonempty : rows ≠ []
  /-- No two rows have the same mnemonic. -/
  distinct : (rows.map Entry.mnemonic).Nodup
  /-- A mnemonic has at most three characters and no line feed. -/
  mnemonic : ∀ e ∈ rows, e.mnemonic.length ≤ 3 ∧ '\n' ∉ e.mnemonic.toList
  /-- A description has no line feed and no blank at its ends. -/
  description : ∀ e ∈ rows, '\n' ∉ e.description.toList ∧ Text.Trimmed e.description.toList
  /-- Beside a mnemonic of fewer than three characters the description is empty. -/
  short : ∀ e ∈ rows, e.mnemonic.length < 3 → e.description = ""
  /-- The first mnemonic begins with a character that is not blank. -/
  first : ∃ e ∈ rows.head?, ∃ c ∈ e.mnemonic.toList.head?, Text.isBlank c = false
  /-- In some row the last character of the two fields together is not blank. -/
  last : ∃ e ∈ rows, ∃ c ∈ (e.mnemonic.toList ++ e.description.toList).getLast?,
    Text.isBlank c = false

/-! ### The rows of a text are legible -/

/-- The entry of a line without line feeds, as far as it does not matter where the line stands. -/
theorem ofLine_legible {line : List Char} (hline : '\n' ∉ line) :
    ((Entry.ofLine line).mnemonic.length ≤ 3 ∧ '\n' ∉ (Entry.ofLine line).mnemonic.toList) ∧
      ('\n' ∉ (Entry.ofLine line).description.toList ∧
        Text.Trimmed (Entry.ofLine line).description.toList) ∧
      ((Entry.ofLine line).mnemonic.length < 3 → (Entry.ofLine line).description = "") := by
  have hlength : (Entry.ofLine line).mnemonic.length = min 3 line.length := by
    rw [← String.length_toList, Entry.toList_mnemonic_ofLine, List.length_take]
  rw [hlength, Entry.toList_mnemonic_ofLine, Entry.toList_description_ofLine]
  refine ⟨⟨Nat.min_le_left 3 _, fun h => hline (List.mem_of_mem_take h)⟩,
    ⟨fun h => hline (List.mem_of_mem_drop (Text.mem_of_mem_trim h)), Text.trimmed_trim _⟩,
    fun hshort => ?_⟩
  have hdrop : line.drop 3 = [] := List.drop_of_length_le (by omega)
  rw [Entry.ofLine_eq, hdrop]
  rfl

theorem lines_eq_cons {text : String} (h : Text.trim text.toList ≠ []) :
    ∃ c p ps, Text.isBlank c = false ∧ lines text = (c :: p) :: ps := by
  obtain ⟨c, ds, hc⟩ := List.exists_cons_of_ne_nil h
  have hblank : Text.isBlank c = false :=
    (Text.trimmed_trim text.toList).first c (by rw [hc]; rfl)
  obtain ⟨p, ps, -, hpieces⟩ := Text.pieces_cons_of_ne (Text.ne_lf_of_not_blank hblank) ds
  exact ⟨c, p, ps, hblank, by rw [lines, hc, hpieces]⟩

theorem lines_eq_concat {text : String} (h : Text.trim text.toList ≠ []) :
    ∃ ps p c, Text.isBlank c = false ∧ lines text = ps ++ [p ++ [c]] := by
  obtain ⟨ds, c, hc⟩ := (List.eq_nil_or_concat' (Text.trim text.toList)).resolve_left h
  have hblank : Text.isBlank c = false :=
    (Text.trimmed_trim text.toList).last c (by rw [hc]; simp)
  obtain ⟨ps, p, hpieces⟩ := Text.pieces_concat_of_ne (Text.ne_lf_of_not_blank hblank) ds
  exact ⟨ps, p, c, hblank, by rw [lines, hc, hpieces]⟩

theorem row_of_line {text : String} {e : Entry} (he : e ∈ (parse text).1.rows) :
    ∃ line, '\n' ∉ line ∧ Entry.ofLine line = e := by
  obtain ⟨line, hline, heq⟩ := List.mem_map.mp ((leaves_parse text).mem_history he)
  exact ⟨line, Text.not_mem_of_mem_pieces hline, heq⟩

/-- **The rows of a text that is not blank are legible.** -/
theorem legible_parse {text : String} (h : Text.trim text.toList ≠ []) :
    Legible (parse text).1.rows := by
  obtain ⟨c, p, ps, hc, hfirst⟩ := lines_eq_cons h
  obtain ⟨qs, q, c', hc', hlast⟩ := lines_eq_concat h
  have hhead := leaves_parse text
  rw [hfirst, List.map_cons] at hhead
  obtain ⟨d, rest, hrows⟩ := hhead.head
  have hend := leaves_parse text
  rw [hlast, List.map_append, List.map_singleton] at hend
  constructor
  case nonempty =>
    rw [hrows]
    exact List.cons_ne_nil _ _
  case distinct => exact (built_parse text).indexed.nodup
  case mnemonic =>
    intro e he
    obtain ⟨line, hline, rfl⟩ := row_of_line he
    exact (ofLine_legible hline).1
  case description =>
    intro e he
    obtain ⟨line, hline, rfl⟩ := row_of_line he
    exact (ofLine_legible hline).2.1
  case short =>
    intro e he
    obtain ⟨line, hline, rfl⟩ := row_of_line he
    exact (ofLine_legible hline).2.2
  case first =>
    refine ⟨⟨(Entry.ofLine (c :: p)).mnemonic, d⟩, by rw [hrows]; rfl, c, ?_, hc⟩
    rw [Entry.toList_mnemonic_ofLine]
    rfl
  case last => exact ⟨_, hend.last_mem, c', Entry.getLast?_joined_ofLine hc' q, hc'⟩

theorem parse_blank {text : String} (h : Text.trim text.toList = []) :
    (parse text).1.rows = [⟨"", ""⟩] := by
  have hleaves : Leaves ((lines text).map Entry.ofLine) [⟨"", ""⟩] := by
    rw [lines, h, Text.pieces_nil]
    exact leaves_self (by simp)
  exact (leaves_parse text).unique hleaves

/-! ### Legible rows can be written as a text -/

theorem Legible.ofLine_joined {rows : List Entry} (h : Legible rows) {e : Entry} (he : e ∈ rows) :
    Entry.ofLine e.joined = e :=
  Entry.ofLine_joined (h.mnemonic e he).1 (h.short e he) (h.description e he).2

theorem Legible.lf_not_mem_joined {rows : List Entry} (h : Legible rows) {e : Entry}
    (he : e ∈ rows) : '\n' ∉ e.joined := by
  rw [Entry.joined, List.mem_append, not_or]
  exact ⟨(h.mnemonic e he).2, (h.description e he).1⟩

theorem trimmed_intercalate_joined {e₀ e : Entry} {c₀ c : Char}
    (hfirst : c₀ ∈ e₀.mnemonic.toList.head?) (hc₀ : Text.isBlank c₀ = false)
    (hlast : c ∈ e.joined.getLast?) (hc : Text.isBlank c = false) (es : List Entry) :
    Text.Trimmed (['\n'].intercalate ((e₀ :: (es ++ [e])).map Entry.joined)) := by
  obtain ⟨m, hm⟩ := List.head?_eq_some_iff.mp hfirst
  obtain ⟨front, hfront⟩ := List.getLast?_eq_some_iff.mp hlast
  obtain ⟨ds, hbegin⟩ :
      ∃ ds, ['\n'].intercalate ((e₀ :: (es ++ [e])).map Entry.joined) = c₀ :: ds := by
    rw [List.map_cons, Entry.joined, hm]
    exact Text.intercalate_cons_first '\n' c₀ _ _
  obtain ⟨ds', hend⟩ :
      ∃ ds', ['\n'].intercalate ((e₀ :: (es ++ [e])).map Entry.joined) = ds' ++ [c] := by
    rw [← List.cons_append, List.map_append, List.map_singleton, hfront]
    exact Text.intercalate_concat_last '\n' c front _
  exact Text.trimmed_of_ends hbegin hc₀ hend hc

/-- Legible rows as lines, with one of them that does not end in a blank once more at the end. -/
theorem Legible.lines_joined {rows : List Entry} (h : Legible rows) :
    ∃ e ∈ rows, ∃ text : String, lines text = (rows ++ [e]).map Entry.joined := by
  obtain ⟨e, he, c, hlast, hc⟩ := h.last
  obtain ⟨e₀, hhead, c₀, hfirst, hc₀⟩ := h.first
  obtain ⟨es, rfl⟩ := List.head?_eq_some_iff.mp hhead
  have htrimmed := trimmed_intercalate_joined hfirst hc₀ hlast hc es
  have hsep : ∀ line ∈ (e₀ :: (es ++ [e])).map Entry.joined, '\n' ∉ line := by
    intro line hline
    obtain ⟨e', he', rfl⟩ := List.mem_map.mp hline
    rw [← List.cons_append] at he'
    rcases List.mem_append.mp he' with he' | he'
    · exact h.lf_not_mem_joined he'
    · rw [List.mem_singleton.mp he']
      exact h.lf_not_mem_joined he
  refine ⟨e, he, String.ofList (['\n'].intercalate ((e₀ :: (es ++ [e])).map Entry.joined)), ?_⟩
  rw [lines, String.toList_ofList, Text.trim_eq_self htrimmed,
    Text.pieces_intercalate hsep (by simp), List.cons_append]

/-- **Legible rows are the rows of a text.** -/
theorem exists_parse_of_legible {rows : List Entry} (h : Legible rows) :
    ∃ text, (parse text).1.rows = rows := by
  obtain ⟨e, he, text, hlines⟩ := h.lines_joined
  have hentries : (lines text).map Entry.ofLine = rows ++ [e] := by
    rw [hlines, List.map_map]
    refine (List.map_congr_left fun e' he' => ?_).trans (List.map_id _)
    rcases List.mem_append.mp he' with he' | he'
    · exact h.ofLine_joined he'
    · rw [List.mem_singleton.mp he']
      exact h.ofLine_joined he
  have hleaves : Leaves ((lines text).map Entry.ofLine) rows := by
    rw [hentries]
    exact (leaves_self h.distinct).concat_row he
  exact ⟨text, (leaves_parse text).unique hleaves⟩

/-- **The rows that texts are read into** are the single row of two empty fields, and any rows that
are legible. -/
theorem exists_parse_eq_iff (rows : List Entry) :
    (∃ text, (parse text).1.rows = rows) ↔ rows = [⟨"", ""⟩] ∨ Legible rows := by
  constructor
  · rintro ⟨text, rfl⟩
    by_cases h : Text.trim text.toList = []
    · exact .inl (parse_blank h)
    · exact .inr (legible_parse h)
  · rintro (rfl | h)
    · exact ⟨"", parse_blank (by decide)⟩
    · exact exists_parse_of_legible h

end Sheet
end InstructionSheet
