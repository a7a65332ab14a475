/-
# Trimmed texts and their pieces

`Trimmed cs` says that a text neither begins nor ends with a blank. Trimming gives such a text
(`trimmed_trim`), changes no other (`trim_eq_self`), and keeps the last character that is not blank
at the end (`getLast?_trim`). A text is what trimming leaves of it between blanks
(`exists_padding`), and of a trimmed text between blanks just these are taken away (`trim_padded`).

Cutting at a separator gives pieces without it (`not_mem_of_mem_pieces`), one more than there are
separators (`length_pieces`), and pieces without it that are joined by it come apart again as they
were (`pieces_intercalate`). A text that begins or ends with another character has it at the start
of the first piece and at the end of the last (`pieces_cons_of_ne`, `pieces_concat_of_ne`).

Key definitions: `Text.Trimmed`, `Text.Blanks`.
Key theorems: `Text.trimmed_trim`, `Text.trim_eq_self`, `Text.exists_padding`, `Text.trim_padded`,
`Text.pieces_intercalate`.
-/
import InstructionSheet.Text.Blank
import InstructionSheet.Text.Pieces
import Mathlib.Data.List.DropRight

namespace InstructionSheet
namespace Text

/-! ### Trimming -/

/-- A text that neither begins nor ends with a blank. -/
structure Trimmed (cs : List Char) : Prop where
  first : ∀ c ∈ cs.head?, isBlank c = false
  last : ∀ c ∈ cs.getLast?, isBlank c = false

theorem trimmed_of_ends {c d : Char} {cs ds es : List Char} (hfirst : cs = c :: ds)
    (hc : isBlank c = false) (hlast : cs = es ++ [d]) (hd : isBlank d = false) : Trimmed cs where
  first c' hc' := by
    rw [hfirst] at hc'
    obtain rfl : c = c' := Option.some.inj hc'
    exact hc
  last d' hd' := by
    rw [hlast, List.getLast?_concat] at hd'
    obtain rfl : d = d' := Option.some.inj hd'
    exact hd

theorem trimEnd_eq_rdropWhile (cs : List Char) : trimEnd cs = cs.rdropWhile isBlank := rfl

theorem trimEnd_isPrefix (cs : List Char) : trimEnd cs <+: cs := by
  rw [trimEnd_eq_rdropWhile]
  exact List.rdropWhile_prefix isBlank cs

theorem mem_of_mem_trim {c : Char} {cs : List Char} (h : c ∈ trim cs) : c ∈ cs :=
  (List.dropWhile_suffix isBlank).mem ((trimEnd_isPrefix (trimStart cs)).mem h)

/-- **Trimming leaves no blank at either end.** -/
theorem trimmed_trim (cs : List Char) : Trimmed (trim cs) where
  first c hc := by
    -- what is cut off at the end leaves the beginning as it is
    obtain ⟨ds, hds⟩ := List.head?_eq_some_iff.mp hc
    obtain ⟨rest, hrest⟩ := trimEnd_isPrefix (trimStart cs)
    have hstart : trimStart cs = c :: (ds ++ rest) := by
      rw [← hrest, ← List.cons_append, ← hds]
      rfl
    have hnot := List.head?_dropWhile_not isBlank cs
    rw [show cs.dropWhile isBlank = c :: (ds ++ rest) from hstart] at hnot
    exact hnot
  last c hc := by
    obtain ⟨ds, hds⟩ := List.getLast?_eq_some_iff.mp hc
    have hne : (trimStart cs).rdropWhile isBlank ≠ [] := by
      rw [← trimEnd_eq_rdropWhile, show trimEnd (trimStart cs) = ds ++ [c] from hds]
      simp
    have hnot := List.rdropWhile_last_not isBlank (trimStart cs) hne
    have hlast : ((trimStart cs).rdropWhile isBlank).getLast hne = c := by
      apply Option.some.inj
      rw [← List.getLast?_eq_some_getLast, ← hc]
      rfl
    rw [hlast] at hnot
    simpa using hnot

theorem trimStart_of_first {c : Char} (hc : isBlank c = false) (cs : List Char) :
    trimStart (c :: cs) = c :: cs := by
  rw [trimStart, List.dropWhile_cons_of_neg (by simp [hc])]

theorem trimEnd_of_last {c : Char} (hc : isBlank c = false) (cs : List Char) :
    trimEnd (cs ++ [c]) = cs ++ [c] := by
  rw [trimEnd_eq_rdropWhile, List.rdropWhile_concat_neg _ _ _ (by simp [hc])]

/-- **A text without blanks at its ends is not changed by trimming.** -/
theorem trim_eq_self {cs : List Char} (h : Trimmed cs) : trim cs = cs := by
  have hstart : trimStart cs = cs := by
    cases cs with
    | nil => rfl
    | cons c ds => exact trimStart_of_first (h.first c rfl) ds
  rw [trim, hstart]
  rcases List.eq_nil_or_concat' cs with rfl | ⟨ds, c, rfl⟩
  · rfl
  · exact trimEnd_of_last (h.last c (by simp)) ds

/-- What is cut off at the beginning ends before a character that is not blank. -/
theorem trimStart_concat {c : Char} (hc : isBlank c = false) (cs : List Char) :
    ∃ ds, trimStart (cs ++ [c]) = ds ++ [c] := by
  rw [trimStart, List.dropWhile_append]
  split
  · exact ⟨[], trimStart_of_first hc []⟩
  · exact ⟨_, rfl⟩

theorem getLast?_trim {c : Char} (hc : isBlank c = false) (cs : List Char) :
    (trim (cs ++ [c])).getLast? = some c := by
  obtain ⟨ds, hds⟩ := trimStart_concat hc cs
  rw [trim, hds, trimEnd_of_last hc]
  simp

theorem ne_lf_of_not_blank {c : Char} (hc : isBlank c = false) : c ≠ '\n' := by
  rintro rfl
  exact absurd hc (by decide)

/-! ### Padding -/

/-- A text of blanks alone. -/
def Blanks (cs : List Char) : Prop := ∀ c ∈ cs, isBlank c = true

instance (cs : List Char) : Decidable (Blanks cs) :=
  List.decidableBAll (fun c => isBlank c = true) cs

/-- **A text is what trimming leaves of it, between blanks.** -/
theorem exists_padding (cs : List Char) :
    ∃ before after, Blanks before ∧ Blanks after ∧ cs = before ++ trim cs ++ after := by
  refine ⟨cs.takeWhile isBlank, (trimStart cs).rtakeWhile isBlank,
    fun c hc => List.mem_takeWhile_imp hc, fun c hc => List.mem_rtakeWhile_imp hc, ?_⟩
  rw [List.append_assoc, trim, trimEnd_eq_rdropWhile, List.rdropWhile_append_rtakeWhile]
  exact List.takeWhile_append_dropWhile.symm

theorem trim_blanks_append {before : List Char} (hb : Blanks before) (cs : List Char) :
    trim (before ++ cs) = trim cs := by
  rw [trim, trimStart, List.dropWhile_append_of_pos hb]
  rfl

theorem trimEnd_append_blanks {after : List Char} (ha : Blanks after) (cs : List Char) :
    trimEnd (cs ++ after) = trimEnd cs := by
  have hreverse : ∀ c ∈ after.reverse, isBlank c = true := fun c hc => ha c (List.mem_reverse.mp hc)
  rw [trimEnd, List.reverse_append, trimStart, List.dropWhile_append_of_pos hreverse]
  rfl

theorem trim_append_blanks {after : List Char} (ha : Blanks after) (cs : List Char) :
    trim (cs ++ after) = trim cs := by
  rw [trim, trim, trimStart, List.dropWhile_append]
  split
  · -- with all of `cs` blank nothing is left of either text
    rename_i hall
    rw [show trimStart cs = [] from List.isEmpty_iff.mp hall, List.dropWhile_eq_nil_iff.mpr ha]
  · exact trimEnd_append_blanks ha _

/-- **Of a trimmed text between blanks trimming takes away these and no more.** -/
theorem trim_padded {before cs after : List Char} (hb : Blanks before) (hcs : Trimmed cs)
    (ha : Blanks after) : trim (before ++ cs ++ after) = cs := by
  rw [trim_append_blanks ha, trim_blanks_append hb, trim_eq_self hcs]

theorem trimStart_append {c : Char} (hc : isBlank c = false) (cs rest : List Char) :
    trimStart (cs ++ [c] ++ rest) = trimStart (cs ++ [c]) ++ rest := by
  obtain ⟨ds, hds⟩ := trimStart_concat hc cs
  rw [trimStart] at hds
  rw [trimStart, trimStart, List.dropWhile_append, hds, if_neg (by simp)]

theorem trimEnd_append {d : Char} (hd : isBlank d = false) (front ds : List Char) :
    trimEnd (front ++ d :: ds) = front ++ trimEnd (d :: ds) := by
  have hreverse : (front ++ d :: ds).reverse = ds.reverse ++ [d] ++ front.reverse := by simp
  rw [trimEnd, hreverse, trimStart_append hd, List.reverse_append, List.reverse_reverse,
    ← List.reverse_cons]
  rfl

/-- Trimming does not reach a seam between characters that are not blank. -/
theorem trim_seam {c d : Char} (hc : isBlank c = false) (hd : isBlank d = false) (sep : Char)
    (cs ds : List Char) :
    trim (cs ++ [c] ++ sep :: d :: ds) = trim (cs ++ [c]) ++ sep :: trim (d :: ds) := by
  have hleft : trim (cs ++ [c]) = trimStart (cs ++ [c]) := by
    obtain ⟨front, hfront⟩ := trimStart_concat hc cs
    rw [trim, hfront, trimEnd_of_last hc]
  have hright : trim (d :: ds) = trimEnd (d :: ds) := by
    rw [trim, trimStart_of_first hd]
  rw [hleft, hright, trim, trimStart_append hc]
  calc trimEnd (trimStart (cs ++ [c]) ++ sep :: d :: ds)
      = trimEnd (trimStart (cs ++ [c]) ++ [sep] ++ d :: ds) := by rw [List.append_cons]
    _ = trimStart (cs ++ [c]) ++ [sep] ++ trimEnd (d :: ds) := trimEnd_append hd _ ds
    _ = trimStart (cs ++ [c]) ++ sep :: trimEnd (d :: ds) := by rw [← List.append_cons]

/-! ### Pieces -/

theorem consFirst_eq_modifyHead (c : Char) {ps : List (List Char)} (h : ps ≠ []) :
    consFirst c ps = ps.modifyHead (List.cons c) := by
  cases ps with
  | nil => exact absurd rfl h
  | cons p ps => rfl

theorem pieces_eq_splitOn (sep : Char) (cs : List Char) : pieces sep cs = cs.splitOn sep := by
  induction cs with
  | nil => rfl
  | cons c cs ih =>
    rw [List.splitOn_cons_eq_if_modifyHead, ← ih]
    by_cases hc : c = sep
    · subst hc
      simp [pieces_sep]
    · have hne : pieces sep cs ≠ [] := by
        rw [ih]
        exact List.splitOn_ne_nil sep cs
      rw [pieces_cons hc, consFirst_eq_modifyHead c hne]
      simp [hc]

theorem pieces_ne_nil (sep : Char) (cs : List Char) : pieces sep cs ≠ [] := by
  rw [pieces_eq_splitOn]
  exact List.splitOn_ne_nil sep cs

theorem pieces_of_not_mem {sep : Char} {cs : List Char} (h : sep ∉ cs) : pieces sep cs = [cs] := by
  rw [pieces_eq_splitOn]
  exact List.splitOn_eq_singleton h

theorem pieces_append_sep (sep : Char) (cs ds : List Char) :
    pieces sep (cs ++ sep :: ds) = pieces sep cs ++ pieces sep ds := by
  rw [pieces_eq_splitOn, pieces_eq_splitOn, pieces_eq_splitOn]
  exact List.splitOn_append_cons_self cs ds

theorem intercalate_pieces (sep : Char) (cs : List Char) :
    [sep].intercalate (pieces sep cs) = cs := by
  rw [pieces_eq_splitOn]
  exact List.intercalate_splitOn sep

/-- Pieces that are joined come apart again. -/
theorem pieces_intercalate {sep : Char} {ps : List (List Char)} (hsep : ∀ p ∈ ps, sep ∉ p)
    (hne : ps ≠ []) : pieces sep ([sep].intercalate ps) = ps := by
  rw [pieces_eq_splitOn]
  exact List.splitOn_intercalate sep hsep hne

theorem pieces_cons_of_ne {sep c : Char} (h : c ≠ sep) (cs : List Char) :
    ∃ p ps, pieces sep cs = p :: ps ∧ pieces sep (c :: cs) = (c :: p) :: ps := by
  obtain ⟨p, ps, hps⟩ := List.exists_cons_of_ne_nil (pieces_ne_nil sep cs)
  refine ⟨p, ps, hps, ?_⟩
  rw [pieces_cons h, hps]
  rfl

theorem pieces_concat_of_ne {sep c : Char} (h : c ≠ sep) (cs : List Char) :
    ∃ ps p, pieces sep (cs ++ [c]) = ps ++ [p ++ [c]] := by
  induction cs with
  | nil => exact ⟨[], [], by rw [List.nil_append, pieces_cons h]; rfl⟩
  | cons d cs ih =>
    obtain ⟨ps, p, hps⟩ := ih
    by_cases hd : d = sep
    · subst hd
      exact ⟨[] :: ps, p, by rw [List.cons_append, pieces_sep, hps]; rfl⟩
    · rw [List.cons_append, pieces_cons hd, hps]
      cases ps with
      | nil => exact ⟨[], d :: p, rfl⟩
      | cons q ps => exact ⟨(d :: q) :: ps, p, rfl⟩

/-- There is one piece more than there are separators. -/
theorem length_pieces (sep : Char) (cs : List Char) :
    (pieces sep cs).length = cs.count sep + 1 := by
  induction cs with
  | nil => rfl
  | cons c cs ih =>
    by_cases hc : c = sep
    · subst hc
      rw [pieces_sep, List.length_cons, ih, List.count_cons_self]
    · obtain ⟨p, ps, hps, hcons⟩ := pieces_cons_of_ne hc cs
      rw [hcons, List.count_cons_of_ne hc, ← ih, hps]
      rfl

theorem intercalate_cons_first (sep c : Char) (p : List Char) (ps : List (List Char)) :
    ∃ ds, [sep].intercalate ((c :: p) :: ps) = c :: ds := by
  cases ps with
  | nil => exact ⟨p, List.intercalate_singleton⟩
  | cons q qs => exact ⟨_, List.intercalate_cons_cons⟩

theorem intercalate_concat_last (sep c : Char) (p : List Char) (ps : List (List Char)) :
    ∃ ds, [sep].intercalate (ps ++ [p ++ [c]]) = ds ++ [c] := by
  induction ps with
  | nil => exact ⟨p, List.intercalate_singleton⟩
  | cons q qs ih =>
    obtain ⟨ds, hds⟩ := ih
    refine ⟨q ++ [sep] ++ ds, ?_⟩
    obtain ⟨r, rs, hrs⟩ := List.exists_cons_of_ne_nil (List.concat_ne_nil (p ++ [c]) qs)
    rw [hrs] at hds
    rw [List.cons_append, hrs, List.intercalate_cons_cons, hds, ← List.append_assoc]

theorem mem_and_ne_of_mem_pieces {sep d : Char} : ∀ {cs p : List Char}, p ∈ pieces sep cs → d ∈ p →
    d ∈ cs ∧ d ≠ sep
  | [], p, hp, hd => by
    rw [pieces_nil, List.mem_singleton] at hp
    rw [hp] at hd
    cases hd
  | c :: cs, p, hp, hd => by
    have ih : ∀ p' ∈ pieces sep cs, d ∈ p' → d ∈ c :: cs ∧ d ≠ sep := fun p' hp' hd' =>
      (mem_and_ne_of_mem_pieces hp' hd').imp_left (List.mem_cons_of_mem c)
    by_cases hc : c = sep
    · subst hc
      rw [pieces_sep] at hp
      rcases List.mem_cons.mp hp with rfl | hp
      · cases hd
      · exact ih p hp hd
    · obtain ⟨q, qs, hqs, hcons⟩ := pieces_cons_of_ne hc cs
      rw [hcons] at hp
      rw [hqs] at ih
      rcases List.mem_cons.mp hp with rfl | hp
      · rcases List.mem_cons.mp hd with rfl | hd
        · exact ⟨List.mem_cons_self, hc⟩
        · exact ih q List.mem_cons_self hd
      · exact ih p (List.mem_cons_of_mem q hp) hd

theorem not_mem_of_mem_pieces {sep : Char} {cs p : List Char} (hp : p ∈ pieces sep cs) : sep ∉ p :=
  fun hsep => (mem_and_ne_of_mem_pieces hp hsep).2 rfl

theorem mem_of_mem_pieces {sep d : Char} {cs p : List Char} (hp : p ∈ pieces sep cs) (hd : d ∈ p) :
    d ∈ cs :=
  (mem_and_ne_of_mem_pieces hp hd).1

end Text
end InstructionSheet
