/-
# Blanks that do not matter

Blanks around a text are trimmed away with the text's own, and blanks around a description with the
description's own. In a line with a mnemonic of full length, blanks may therefore be put in right
behind the mnemonic and at the end: the entry is the same (`Entry.Widened.ofLine_eq`). This can be
done to any lines of a text at once. At the end of the last line such blanks come to stand at the
end of the text, where the whole text is trimmed, so the lines that are read there are not quite
those that were written (`Sheet.exists_lines_widened`); their entries still are. Entries and the
number of lines are all that reading a text depends on (`Sheet.parse_congr`), so neither the sheet
nor the events change (`Sheet.parse_padded`).

Key definitions: `Entry.Widened`.
Key theorems: `Entry.Widened.exists_core`, `Sheet.exists_lines_widened`, `Sheet.parse_padded`.
-/
import InstructionSheet.Proofs.Sheet.Legible

namespace InstructionSheet

theorem Text.Blanks.append {cs ds : List Char} (hcs : Blanks cs) (hds : Blanks ds) :
    Blanks (cs ++ ds) := by
  intro c hc
  rcases List.mem_append.mp hc with hc | hc
  · exact hcs c hc
  · exact hds c hc

theorem Text.blanks_nil : Blanks [] := fun _ hc => absurd hc List.not_mem_nil

namespace Entry

/-- The lines that a line can be widened to: the line as it is and, if it has three characters, all
those with blanks put in behind the third and at the end. None of the blanks is a line feed, which
would make two lines of it. -/
inductive Widened (line : List Char) : List Char → Prop
  | same : Widened line line
  | blanks (gap tail : List Char) (hlong : 3 ≤ line.length) (hgap : Text.Blanks gap)
    (htail : Text.Blanks tail) (hgapLine : '\n' ∉ gap) (htailLine : '\n' ∉ tail) :
    Widened line (line.take 3 ++ gap ++ line.drop 3 ++ tail)

namespace Widened

variable {line wide : List Char}

/-- **A widened line has the same entry.** -/
theorem ofLine_eq (h : Widened line wide) : ofLine wide = ofLine line := by
  cases h with
  | same => rfl
  | blanks gap tail hlong hgap htail _ _ =>
    have hthree : (line.take 3).length = 3 := List.length_take_of_le hlong
    have hassoc : line.take 3 ++ gap ++ line.drop 3 ++ tail =
        line.take 3 ++ (gap ++ (line.drop 3 ++ tail)) := by
      simp only [List.append_assoc]
    have hrest : Text.trim (gap ++ (line.drop 3 ++ tail)) = Text.trim (line.drop 3) := by
      rw [Text.trim_blanks_append hgap, Text.trim_append_blanks htail]
    rw [Entry.ofLine_eq, Entry.ofLine_eq, hassoc, List.take_left' hthree, List.drop_left' hthree,
      hrest]

theorem lf_not_mem (h : Widened line wide) (hline : '\n' ∉ line) : '\n' ∉ wide := by
  cases h with
  | same => exact hline
  | blanks gap tail _ _ _ hgap htail =>
    intro hmem
    rcases List.mem_append.mp hmem with hmem | hmem
    · rcases List.mem_append.mp hmem with hmem | hmem
      · rcases List.mem_append.mp hmem with hmem | hmem
        · exact hline (List.mem_of_mem_take hmem)
        · exact hgap hmem
      · exact hline (List.mem_of_mem_drop hmem)
    · exact htail hmem

theorem exists_cons {c : Char} {cs : List Char} (h : Widened (c :: cs) wide) :
    ∃ ds, wide = c :: ds := by
  cases h with
  | same => exact ⟨cs, rfl⟩
  | blanks gap tail _ _ _ _ _ => exact ⟨_, rfl⟩

theorem eq_nil (h : Widened [] wide) : wide = [] := by
  cases h with
  | same => rfl
  | blanks _ _ hlong _ _ _ _ => exact absurd hlong (by decide)

/-- **A widened line without the blanks at its end is one again**, if the line itself does not end
in a blank. -/
theorem exists_core {cs : List Char} {c : Char} (h : Widened (cs ++ [c]) wide) :
    ∃ ds after, Text.Blanks after ∧ Widened (cs ++ [c]) (ds ++ [c]) ∧
      wide = ds ++ [c] ++ after := by
  cases h with
  | same => exact ⟨cs, [], Text.blanks_nil, .same, (List.append_nil _).symm⟩
  | blanks gap tail hlong hgap htail hgapLine htailLine =>
    rcases Nat.lt_or_ge cs.length 3 with hshort | hlonger
    · -- the line is all mnemonic, so all that was put in stands at its end
      have hdrop : (cs ++ [c]).drop 3 = [] := List.drop_of_length_le (by simp; omega)
      have htake : (cs ++ [c]).take 3 = cs ++ [c] := List.take_of_length_le (by simp; omega)
      refine ⟨cs, gap ++ tail, hgap.append htail, .same, ?_⟩
      rw [hdrop, htake, List.append_nil, List.append_assoc]
    · have htake : (cs ++ [c]).take 3 = cs.take 3 := List.take_append_of_le_length hlonger
      have hdrop : (cs ++ [c]).drop 3 = cs.drop 3 ++ [c] := List.drop_append_of_le_length hlonger
      have hcore := @Widened.blanks (cs ++ [c]) gap [] hlong hgap Text.blanks_nil hgapLine
        List.not_mem_nil
      rw [List.append_nil, htake, hdrop, ← List.append_assoc] at hcore
      refine ⟨_, tail, htail, hcore, ?_⟩
      rw [htake, hdrop, ← List.append_assoc]

end Widened
end Entry

namespace Text

theorem intercalate_concat_append (sep : Char) (p after : List Char) (ps : List (List Char)) :
    [sep].intercalate (ps ++ [p ++ after]) = [sep].intercalate (ps ++ [p]) ++ after := by
  induction ps with
  | nil =>
    rw [List.nil_append, List.nil_append, List.intercalate_singleton, List.intercalate_singleton]
  | cons q qs ih =>
    obtain ⟨r, rs, hrs⟩ := List.exists_cons_of_ne_nil (List.concat_ne_nil p qs)
    obtain ⟨r', rs', hrs'⟩ := List.exists_cons_of_ne_nil (List.concat_ne_nil (p ++ after) qs)
    rw [List.cons_append, List.cons_append, hrs', List.intercalate_cons_cons, ← hrs', ih, hrs,
      List.intercalate_cons_cons, List.append_assoc, List.append_assoc, List.append_assoc]

end Text

namespace Sheet

open Entry (Widened)

/-! ### The lines of a widened text -/

theorem exists_concat_of_forall₂ {α β : Type} {R : α → β → Prop} {a : α} :
    ∀ {as : List α} {bs : List β}, List.Forall₂ R (as ++ [a]) bs →
      ∃ bs' b, bs = bs' ++ [b] ∧ List.Forall₂ R as bs' ∧ R a b
  | [], _, .cons h .nil => ⟨[], _, rfl, .nil, h⟩
  | _ :: _, b :: _, .cons h hs => by
    obtain ⟨bs', b', rfl, has, ha⟩ := exists_concat_of_forall₂ hs
    exact ⟨b :: bs', b', rfl, .cons h has, ha⟩

theorem map_ofLine_of_widened {lines wides : List (List Char)}
    (h : List.Forall₂ Widened lines wides) : wides.map Entry.ofLine = lines.map Entry.ofLine := by
  induction h with
  | nil => rfl
  | cons h _ ih => rw [List.map_cons, List.map_cons, h.ofLine_eq, ih]

theorem lf_not_mem_of_widened {lines wides : List (List Char)}
    (h : List.Forall₂ Widened lines wides) (hlines : ∀ line ∈ lines, '\n' ∉ line) :
    ∀ wide ∈ wides, '\n' ∉ wide := by
  induction h with
  | nil => exact fun _ hwide => absurd hwide List.not_mem_nil
  | cons h _ ih =>
    obtain ⟨hline, hlines⟩ := List.forall_mem_cons.mp hlines
    exact List.forall_mem_cons.mpr ⟨h.lf_not_mem hline, ih hlines⟩

theorem trimmed_intercalate_widened {c d : Char} {line ds : List Char}
    {lines wides : List (List Char)} (hc : Text.isBlank c = false) (hd : Text.isBlank d = false)
    (h : List.Forall₂ Widened ((c :: line) :: lines) (wides ++ [ds ++ [d]])) :
    Text.Trimmed (['\n'].intercalate (wides ++ [ds ++ [d]])) := by
  obtain ⟨wide, rest, hwide, -, hwides⟩ := List.forall₂_cons_left_iff.mp h
  obtain ⟨cs, rfl⟩ := hwide.exists_cons
  obtain ⟨front, hfront⟩ := Text.intercalate_cons_first '\n' c cs rest
  obtain ⟨back, hback⟩ := Text.intercalate_concat_last '\n' d ds wides
  rw [← hwides] at hfront
  exact Text.trimmed_of_ends hfront hc hback hd

theorem lines_ofList (cs : List Char) :
    lines (String.ofList cs) = Text.pieces '\n' (Text.trim cs) := by
  rw [lines, String.toList_ofList]

/-- **The lines of a text whose lines were widened are widened lines of the first text**, with
blanks around the text or without. They differ from those that were joined only at the end of the
last one. -/
theorem exists_lines_widened {text : String} {wides : List (List Char)}
    (h : List.Forall₂ Widened (lines text) wides) {before after : List Char}
    (hbefore : Text.Blanks before) (hafter : Text.Blanks after) :
    List.Forall₂ Widened (lines text)
      (lines (String.ofList (before ++ ['\n'].intercalate wides ++ after))) := by
  rw [lines_ofList]
  by_cases hblank : Text.trim text.toList = []
  · -- a blank text has one line, which has no wider form
    have hlines : lines text = [[]] := by rw [lines, hblank, Text.pieces_nil]
    rw [hlines] at h ⊢
    obtain ⟨wide, rest, hwide, hrest, rfl⟩ := List.forall₂_cons_left_iff.mp h
    rw [List.forall₂_nil_left_iff] at hrest
    have hnil : Text.Trimmed [] := Text.trimmed_trim []
    rw [hwide.eq_nil, hrest, List.intercalate_singleton, Text.trim_padded hbefore hnil hafter]
    exact .cons .same .nil
  · obtain ⟨c, p, ps, hc, hfirst⟩ := lines_eq_cons hblank
    obtain ⟨qs, q, d, hd, hlast⟩ := lines_eq_concat hblank
    rw [hlast] at h
    obtain ⟨wides, wide, rfl, hwides, hwide⟩ := exists_concat_of_forall₂ h
    obtain ⟨ds, blanks, hblanks, hcore, rfl⟩ := hwide.exists_core
    -- the blanks at the end of the last line join those behind the text
    have hcores : List.Forall₂ Widened (lines text) (wides ++ [ds ++ [d]]) := by
      rw [hlast]
      exact List.rel_append hwides (.cons hcore .nil)
    have htext : before ++ ['\n'].intercalate (wides ++ [ds ++ [d] ++ blanks]) ++ after =
        before ++ ['\n'].intercalate (wides ++ [ds ++ [d]]) ++ (blanks ++ after) := by
      rw [Text.intercalate_concat_append]
      simp only [List.append_assoc]
    have htrimmed : Text.Trimmed (['\n'].intercalate (wides ++ [ds ++ [d]])) := by
      rw [hfirst] at hcores
      exact trimmed_intercalate_widened hc hd hcores
    have hsep : ∀ core ∈ wides ++ [ds ++ [d]], '\n' ∉ core :=
      lf_not_mem_of_widened hcores fun _ => Text.not_mem_of_mem_pieces
    rw [htext, Text.trim_padded hbefore htrimmed (hblanks.append hafter),
      Text.pieces_intercalate hsep (List.concat_ne_nil _ _)]
    exact hcores

/-! ### Reading -/

/-- What is read depends on the entries of the lines alone. -/
theorem parse_congr {text text' : String}
    (h : (lines text).map Entry.ofLine = (lines text').map Entry.ofLine) :
    parse text = parse text' := by
  have hlength : (lines text).length = (lines text').length := by
    simpa using congrArg List.length h
  rw [parse, parse, h, hlength]

theorem lines_padded (text : String) {before after : String} (hbefore : Text.Blanks before.toList)
    (hafter : Text.Blanks after.toList) : lines (before ++ text ++ after) = lines text := by
  rw [lines, lines, String.toList_append, String.toList_append, Text.trim_append_blanks hafter,
    Text.trim_blanks_append hbefore]

/-- **Blanks that do not matter.** Whatever blanks are put before and behind a text, line feeds
among them, the same sheet is read and the same events are reported, warnings and counts alike. So
it is when, moreover, any of the lines that have three characters get blanks behind the third
character and at the end, as long as no line feed is among these. -/
theorem parse_padded (text : String) :
    (∀ before after : String, Text.Blanks before.toList → Text.Blanks after.toList →
      parse (before ++ text ++ after) = parse text) ∧
      ∀ wides : List (List Char),
        List.Forall₂ Entry.Widened (Text.pieces '\n' (Text.trim text.toList)) wides →
          ∀ before after : String, Text.Blanks before.toList → Text.Blanks after.toList →
            parse (before ++ String.ofList (['\n'].intercalate wides) ++ after) = parse text := by
  constructor
  · intro before after hbefore hafter
    apply parse_congr
    rw [lines_padded text hbefore hafter]
  · intro wides hwides before after hbefore hafter
    have hlines := exists_lines_widened hwides hbefore hafter
    have htext : String.ofList (before.toList ++ ['\n'].intercalate wides ++ after.toList) =
        before ++ String.ofList (['\n'].intercalate wides) ++ after := by
      rw [String.ofList_append, String.ofList_append, String.ofList_toList, String.ofList_toList]
    rw [htext] at hlines
    exact parse_congr (map_ofLine_of_widened hlines)

/-- The first line and the last are widened, the last one being a bare mnemonic, and so is one of
two lines of the same mnemonic between them; there are blanks around the text before and after. -/
theorem parse_padded_first_and_last :
    parse "\n LDA\t  load \nRT\nLDA\u3000 again\r\nSTA \u0085 \n" =
        parse " LDA load\nRT\nLDA again\nSTA" ∧
      parse "\n LDA load\nRT\nLDA again\nSTA\n " = parse "LDA load\nRT\nLDA again\nSTA" ∧
      (parse " LDA load\nRT\nLDA again\nSTA").1.rows =
        [⟨"LDA", "again"⟩, ⟨"RT", ""⟩, ⟨"STA", ""⟩] := by
  have hpieces : Text.pieces '\n' (Text.trim " LDA load\nRT\nLDA again\nSTA".toList) =
      ["LDA load".toList, "RT".toList, "LDA again".toList, "STA".toList] := by decide
  have hfirst : Entry.Widened "LDA load".toList _ := .blanks "\t ".toList [' '] (by decide)
    (by decide) (by decide) (by decide) (by decide)
  have hsecond : Entry.Widened "LDA again".toList _ := .blanks ['\u3000'] ['\r'] (by decide)
    (by decide) (by decide) (by decide) (by decide)
  have hlast : Entry.Widened "STA".toList _ := .blanks [' '] ['\u0085'] (by decide)
    (by decide) (by decide) (by decide) (by decide)
  have hshort : Entry.Widened "RT".toList _ := .same
  have hwides := List.Forall₂.cons hfirst (.cons hshort (.cons hsecond (.cons hlast .nil)))
  rw [← hpieces] at hwides
  have hpadded := (parse_padded _).2 _ hwides "\n " " \n" (by decide) (by decide)
  have haround :=
    (parse_padded "LDA load\nRT\nLDA again\nSTA").1 "\n " "\n " (by decide) (by decide)
  refine ⟨?_, ?_, (leaves_parse _).unique ⟨by decide, by decide⟩⟩
  · exact (congrArg parse (by decide)).trans hpadded
  · exact (congrArg parse (by decide)).trans haround

end Sheet
end InstructionSheet
