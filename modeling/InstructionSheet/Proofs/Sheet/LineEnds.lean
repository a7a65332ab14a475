/-
# Line ends of two characters

Lines are cut at line feeds alone. Where a text has CR LF instead, each line but the last one ends
in a CR (`Text.pieces_crlf`, `Sheet.lines_crlf`). In a line that has a mnemonic of full length the
CR belongs to the description, and is trimmed away; in a shorter one it belongs to the mnemonic. A
text without CR has no such mnemonic, so the two texts are read into the same sheet exactly when no
line but the last one is shorter than a mnemonic (`Sheet.parse_crlf_eq_iff`).

Key definitions: `Text.crlf`.
Key theorems: `Text.trim_crlf`, `Text.pieces_crlf`, `Sheet.parse_crlf_eq_iff`.
-/
import InstructionSheet.Proofs.Entry.Line
import InstructionSheet.Proofs.Sheet.History

namespace InstructionSheet

namespace Text

/-- A text with CR LF in place of every line feed. -/
def crlf (cs : List Char) : List Char := cs.flatMap fun c => if c = '\n' then ['\r', '\n'] else [c]

@[simp] theorem crlf_nil : crlf [] = [] := rfl

theorem crlf_lf (cs : List Char) : crlf ('\n' :: cs) = '\r' :: '\n' :: crlf cs := rfl

theorem crlf_cons {c : Char} (h : c ≠ '\n') (cs : List Char) : crlf (c :: cs) = c :: crlf cs := by
  rw [crlf, List.flatMap_cons, if_neg h]
  rfl

theorem crlf_append (cs ds : List Char) : crlf (cs ++ ds) = crlf cs ++ crlf ds :=
  List.flatMap_append

/-! ### Trimming -/

theorem Blanks.crlf {cs : List Char} (h : Blanks cs) : Blanks (crlf cs) := by
  intro c hc
  obtain ⟨d, hd, hcd⟩ := List.mem_flatMap.mp hc
  split at hcd
  · -- both characters of a line end are blank
    have hends : Blanks ['\r', '\n'] := by decide
    exact hends c hcd
  · rw [List.mem_singleton.mp hcd]
    exact h d hd

theorem Trimmed.crlf {cs : List Char} (h : Trimmed cs) : Trimmed (crlf cs) where
  first c hc := by
    cases cs with
    | nil => cases hc
    | cons d ds =>
      have hd := h.first d rfl
      rw [crlf_cons (ne_lf_of_not_blank hd)] at hc
      rw [← Option.some.inj hc]
      exact hd
  last c hc := by
    rcases List.eq_nil_or_concat' cs with rfl | ⟨ds, d, rfl⟩
    · cases hc
    · have hd := h.last d List.getLast?_concat
      rw [crlf_append, crlf_cons (ne_lf_of_not_blank hd), crlf_nil, List.getLast?_concat] at hc
      rw [← Option.some.inj hc]
      exact hd

/-- **Trimming and changing the line ends commute.** -/
theorem trim_crlf (cs : List Char) : trim (crlf cs) = crlf (trim cs) := by
  obtain ⟨before, after, hbefore, hafter, hcs⟩ := exists_padding cs
  calc trim (crlf cs)
      = trim (crlf before ++ crlf (trim cs) ++ crlf after) := by
        rw [← crlf_append, ← crlf_append, ← hcs]
    _ = crlf (trim cs) := trim_padded hbefore.crlf (trimmed_trim cs).crlf hafter.crlf

/-! ### Pieces -/

/-- **Every piece but the last gets a CR at its end.** -/
theorem pieces_crlf (cs : List Char) :
    ∃ ps p, pieces '\n' cs = ps ++ [p] ∧
      pieces '\n' (crlf cs) = ps.map (· ++ ['\r']) ++ [p] := by
  induction cs with
  | nil => exact ⟨[], [], rfl, rfl⟩
  | cons c cs ih =>
    obtain ⟨ps, p, hps, hcrlf⟩ := ih
    by_cases hc : c = '\n'
    · subst hc
      refine ⟨[] :: ps, p, by rw [pieces_sep, hps]; rfl, ?_⟩
      rw [crlf_lf, pieces_cons (by decide), pieces_sep, hcrlf]
      rfl
    · rw [crlf_cons hc, pieces_cons hc, pieces_cons hc, hps, hcrlf]
      cases ps with
      | nil => exact ⟨[], c :: p, rfl, rfl⟩
      | cons q ps => exact ⟨(c :: q) :: ps, p, rfl, rfl⟩

end Text

namespace Sheet

theorem lines_crlf (text : String) :
    ∃ ps p, lines text = ps ++ [p] ∧
      lines (String.ofList (Text.crlf text.toList)) = ps.map (· ++ ['\r']) ++ [p] := by
  rw [lines, lines, String.toList_ofList, Text.trim_crlf]
  exact Text.pieces_crlf (Text.trim text.toList)

theorem mem_mnemonics_parse {text m : String} :
    m ∈ (parse text).1.mnemonics ↔ ∃ line ∈ lines text, (Entry.ofLine line).mnemonic = m := by
  rw [parse_sheet, mnemonics_insertAll, List.mem_eraseDups, List.map_map, List.mem_map]
  rfl

theorem mem_text_of_mem_mnemonic {text m : String} {c : Char}
    (hm : m ∈ (parse text).1.mnemonics) (hc : c ∈ m.toList) : c ∈ text.toList := by
  obtain ⟨line, hline, rfl⟩ := mem_mnemonics_parse.mp hm
  rw [Entry.toList_mnemonic_ofLine] at hc
  exact Text.mem_of_mem_trim (Text.mem_of_mem_pieces hline (List.mem_of_mem_take hc))

/-- **Line ends of two characters make no difference to the sheet exactly when no line but the last
one is shorter than a mnemonic.** -/
theorem parse_crlf_eq_iff {text : String} (h : '\r' ∉ text.toList) :
    (parse (String.ofList (Text.crlf text.toList))).1 = (parse text).1 ↔
      ∀ line ∈ (Text.pieces '\n' (Text.trim text.toList)).dropLast, 3 ≤ line.length := by
  obtain ⟨ps, p, hlines, hcrlf⟩ := lines_crlf text
  have hinner : (Text.pieces '\n' (Text.trim text.toList)).dropLast = ps := by
    rw [show Text.pieces '\n' (Text.trim text.toList) = ps ++ [p] from hlines, List.dropLast_concat]
  rw [hinner]
  constructor
  · intro hsame line hline
    by_contra hshort
    -- the line's mnemonic ends in a CR, so it is no mnemonic of the text itself
    have hm : (Entry.ofLine (line ++ ['\r'])).mnemonic ∈ (parse text).1.mnemonics := by
      rw [← hsame, mem_mnemonics_parse, hcrlf]
      exact ⟨line ++ ['\r'], List.mem_append_left _ (List.mem_map_of_mem hline), rfl⟩
    refine h (mem_text_of_mem_mnemonic hm ?_)
    rw [Entry.toList_mnemonic_ofLine, List.take_of_length_le (by simp; omega)]
    simp
  · intro hlong
    have hentries : (ps.map (· ++ ['\r'])).map Entry.ofLine = ps.map Entry.ofLine := by
      rw [List.map_map]
      exact List.map_congr_left fun line hline =>
        Entry.ofLine_append_blanks (hlong line hline) (by decide)
    rw [parse_sheet, parse_sheet, hcrlf, hlines, List.map_append, List.map_append, hentries]

/-- A line that is a bare mnemonic and a short last line do not matter, and a short line before the
last one does, although the last one repeats it. -/
theorem parse_crlf_eq_iff_short_lines :
    '\r' ∉ "LDA load\nLDX\nRT\n".toList ∧ '\r' ∉ "LDA load\nRT\nRT".toList ∧
      (parse "LDA load\r\nLDX\r\nRT\r\n").1 = (parse "LDA load\nLDX\nRT\n").1 ∧
      (parse "LDA load\r\nRT\r\nRT").1 ≠ (parse "LDA load\nRT\nRT").1 := by
  have hlong : '\r' ∉ "LDA load\nLDX\nRT\n".toList := by decide
  have hshort : '\r' ∉ "LDA load\nRT\nRT".toList := by decide
  refine ⟨hlong, hshort, (parse_crlf_eq_iff hlong).mpr (by decide), fun hsame => ?_⟩
  exact absurd ((parse_crlf_eq_iff hshort).mp hsame) (by decide)

end Sheet
end InstructionSheet
