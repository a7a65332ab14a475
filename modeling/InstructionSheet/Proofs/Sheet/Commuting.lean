/-
# When insertions commute

A sheet is known by its mnemonics in order and by what a look-up gives for each
(`Sheet.Indexed.eq_iff_mnemonics_get?`): the rows are put together from these, and the map follows
the rows. Two insertions of different mnemonics leave the same look-ups in either order
(`Sheet.Indexed.get?_insert_comm`). The mnemonics are the same too unless both are new, and then
the last two rows stand the other way round (`Sheet.Indexed.insert_comm_iff`). Of two insertions of
one mnemonic only the second counts (`Sheet.Indexed.insert_insert_of_eq`).

Key theorems: `Sheet.Indexed.eq_iff_mnemonics_get?`, `Sheet.Indexed.insert_comm_iff`,
`Sheet.insertions_commute`.
-/
import InstructionSheet.Proofs.Sheet.Frame

namespace InstructionSheet
namespace Sheet
namespace Indexed

variable {s s' : Sheet}

/-! ### What a sheet is known by -/

theorem rows_eq_map (h : s.Indexed) :
    s.rows = s.mnemonics.map fun m => ⟨m, (s.get? m).getD ""⟩ := by
  have hrow : ∀ e ∈ s.rows, (⟨e.mnemonic, (s.get? e.mnemonic).getD ""⟩ : Entry) = e := by
    intro e he
    rw [h.get?_of_mem he]
    rfl
  rw [mnemonics, List.map_map]
  exact ((List.map_congr_left hrow).trans (List.map_id s.rows)).symm

/-- **Mnemonics and look-ups determine the sheet.** -/
theorem eq_iff_mnemonics_get? (h : s.Indexed) (h' : s'.Indexed) :
    s = s' ↔ s.mnemonics = s'.mnemonics ∧ ∀ m, s.get? m = s'.get? m := by
  constructor
  · rintro rfl
    exact ⟨rfl, fun _ => rfl⟩
  · rintro ⟨hmnemonics, hget⟩
    have hlookups : s.get? = s'.get? := funext hget
    rw [h.eq_iff h', h.rows_eq_map, h'.rows_eq_map, hmnemonics, hlookups]

/-! ### Two insertions -/

variable {e e' : Entry}

theorem mem_mnemonics_insert (h : s.Indexed) (e : Entry) (m : String) :
    m ∈ (s.insert e).sheet.mnemonics ↔ m = e.mnemonic ∨ m ∈ s.mnemonics := by
  rw [h.mnemonics_insert]
  split
  · rename_i he
    constructor
    · exact Or.inr
    · rintro (rfl | hm)
      · exact he
      · exact hm
  · rw [List.mem_append, List.mem_singleton, or_comm]

theorem replaced_insert_insert (h : s.Indexed) (hne : e.mnemonic ≠ e'.mnemonic) :
    ((s.insert e).sheet.insert e').replaced = (s.insert e').replaced := by
  rw [Bool.eq_iff_iff, (h.insert e).replaced_iff, h.replaced_iff, h.mem_mnemonics_insert]
  constructor
  · rintro (heq | hm)
    · exact absurd heq.symm hne
    · exact hm
  · exact Or.inr

theorem get?_insert_comm (h : s.Indexed) (hne : e.mnemonic ≠ e'.mnemonic) (m : String) :
    ((s.insert e).sheet.insert e').sheet.get? m = ((s.insert e').sheet.insert e).sheet.get? m := by
  rw [(h.insert e).get?_insert, (h.insert e').get?_insert, h.get?_insert, h.get?_insert]
  by_cases hm : e'.mnemonic = m
  · have hm' : e.mnemonic ≠ m := fun heq => hne (heq.trans hm.symm)
    rw [if_pos hm, if_neg hm', if_pos hm]
  · rw [if_neg hm, if_neg hm]

theorem rows_insert_insert_of_not_mem (h : s.Indexed) (hne : e.mnemonic ≠ e'.mnemonic)
    (hnew : e.mnemonic ∉ s.mnemonics) (hnew' : e'.mnemonic ∉ s.mnemonics) :
    ((s.insert e).sheet.insert e').sheet.rows = s.rows ++ [e, e'] := by
  have hstill : e'.mnemonic ∉ (s.insert e).sheet.mnemonics := by
    rw [h.mem_mnemonics_insert, not_or]
    exact ⟨hne.symm, hnew'⟩
  rw [(h.insert e).rows_insert_of_not_mem hstill, h.rows_insert_of_not_mem hnew, List.append_assoc]
  rfl

theorem mnemonics_insert_comm (h : s.Indexed) (hold : e.mnemonic ∈ s.mnemonics) :
    ((s.insert e).sheet.insert e').sheet.mnemonics =
      ((s.insert e').sheet.insert e).sheet.mnemonics := by
  have hkept : (s.insert e).sheet.mnemonics = s.mnemonics := by
    rw [h.mnemonics_insert, if_pos hold]
  have hstill : e.mnemonic ∈ (s.insert e').sheet.mnemonics := by
    rw [h.mem_mnemonics_insert]
    exact Or.inr hold
  rw [(h.insert e').mnemonics_insert, if_pos hstill, (h.insert e).mnemonics_insert, hkept,
    h.mnemonics_insert]

/-- **Insertions of two mnemonics commute exactly when the sheet has one of them.** -/
theorem insert_comm_iff (h : s.Indexed) (hne : e.mnemonic ≠ e'.mnemonic) :
    ((s.insert e).sheet.insert e').sheet = ((s.insert e').sheet.insert e).sheet ↔
      e.mnemonic ∈ s.mnemonics ∨ e'.mnemonic ∈ s.mnemonics := by
  have hfirst := (h.insert e).insert e'
  have hsecond := (h.insert e').insert e
  constructor
  · intro hsame
    by_contra hnone
    obtain ⟨hnew, hnew'⟩ := not_or.mp hnone
    -- the last two rows would have to be equal
    have hrows := congrArg rows hsame
    rw [h.rows_insert_insert_of_not_mem hne hnew hnew',
      h.rows_insert_insert_of_not_mem hne.symm hnew' hnew] at hrows
    have hlast : [e, e'] = [e', e] := List.append_cancel_left hrows
    injection hlast with heq
    exact hne (congrArg Entry.mnemonic heq)
  · intro hold
    rw [hfirst.eq_iff_mnemonics_get? hsecond]
    refine ⟨?_, h.get?_insert_comm hne⟩
    rcases hold with hold | hold
    · exact h.mnemonics_insert_comm hold
    · exact (h.mnemonics_insert_comm hold).symm

/-- **Of two insertions of one mnemonic the second alone counts.** -/
theorem insert_insert_of_eq (h : s.Indexed) (heq : e.mnemonic = e'.mnemonic) :
    ((s.insert e).sheet.insert e').sheet = (s.insert e').sheet := by
  have hthere : e'.mnemonic ∈ (s.insert e).sheet.mnemonics := by
    rw [h.mem_mnemonics_insert]
    exact Or.inl heq.symm
  rw [((h.insert e).insert e').eq_iff_mnemonics_get? (h.insert e')]
  constructor
  · rw [(h.insert e).mnemonics_insert, if_pos hthere, h.mnemonics_insert, h.mnemonics_insert, heq]
  · intro m
    rw [(h.insert e).get?_insert, h.get?_insert, h.get?_insert, heq]
    split <;> rfl

end Indexed

/-- **When insertions commute.** Two entries with different mnemonics can be put into a built sheet
in either order: each replaces a description in both cases or in neither, and all look-ups give the
same. The sheets are equal exactly when one of the two mnemonics was there before; when neither was,
their last two rows stand in the order of the insertions. Of two entries with the same mnemonic the
first might as well not have been inserted. -/
theorem insertions_commute :
    (∀ s : Sheet, s.Built → ∀ e e' : Entry, e.mnemonic ≠ e'.mnemonic →
      let oneThenOther := (s.insert e).sheet.insert e'
      let otherThenOne := (s.insert e').sheet.insert e
      (s.insert e).replaced = otherThenOne.replaced ∧
        oneThenOther.replaced = (s.insert e').replaced ∧
        (∀ m, oneThenOther.sheet.get? m = otherThenOne.sheet.get? m) ∧
        (oneThenOther.sheet = otherThenOne.sheet ↔
          e.mnemonic ∈ s.mnemonics ∨ e'.mnemonic ∈ s.mnemonics) ∧
        (e.mnemonic ∉ s.mnemonics → e'.mnemonic ∉ s.mnemonics →
          oneThenOther.sheet.rows = s.rows ++ [e, e'] ∧
            otherThenOne.sheet.rows = s.rows ++ [e', e])) ∧
      ∀ s : Sheet, s.Built → ∀ e e' : Entry, e.mnemonic = e'.mnemonic →
        ((s.insert e).sheet.insert e').sheet = (s.insert e').sheet := by
  constructor
  · intro s hs e e' hne
    have h := hs.indexed
    refine ⟨(h.replaced_insert_insert hne.symm).symm, h.replaced_insert_insert hne,
      h.get?_insert_comm hne, h.insert_comm_iff hne, fun hnew hnew' => ?_⟩
    exact ⟨h.rows_insert_insert_of_not_mem hne hnew hnew',
      h.rows_insert_insert_of_not_mem hne.symm hnew' hnew⟩
  · intro s hs e e' heq
    exact hs.indexed.insert_insert_of_eq heq

/-- Beside a mnemonic that has a row a new one can come before or after; two new ones cannot change
places; and a mnemonic inserted twice is as if inserted once. -/
theorem insertions_commute_beside_a_row :
    let s := (empty.insertAll [⟨"LDA", "one"⟩]).1
    s.Built ∧ s.mnemonics = ["LDA"] ∧
      ((s.insert ⟨"LDA", "two"⟩).sheet.insert ⟨"LDX", "x"⟩).sheet =
        ((s.insert ⟨"LDX", "x"⟩).sheet.insert ⟨"LDA", "two"⟩).sheet ∧
      ((s.insert ⟨"LDX", "x"⟩).sheet.insert ⟨"LDY", "y"⟩).sheet ≠
        ((s.insert ⟨"LDY", "y"⟩).sheet.insert ⟨"LDX", "x"⟩).sheet ∧
      ((s.insert ⟨"LDY", "y"⟩).sheet.insert ⟨"LDX", "x"⟩).sheet.rows =
        [⟨"LDA", "one"⟩, ⟨"LDY", "y"⟩, ⟨"LDX", "x"⟩] ∧
      ((s.insert ⟨"LDX", "x"⟩).sheet.insert ⟨"LDX", "z"⟩).sheet =
        (s.insert ⟨"LDX", "z"⟩).sheet := by
  intro s
  have hs : s.Built := ⟨_, rfl⟩
  have hrows : s.rows = [⟨"LDA", "one"⟩] := rows_insertAll_eq ⟨by decide, by decide⟩
  have hmnemonics : s.mnemonics = ["LDA"] := by
    rw [mnemonics, hrows]
    rfl
  obtain ⟨hdifferent, hsame⟩ := insertions_commute
  obtain ⟨-, -, -, hbeside, -⟩ := hdifferent s hs ⟨"LDA", "two"⟩ ⟨"LDX", "x"⟩ (by decide)
  obtain ⟨-, -, -, hnew, hlast⟩ := hdifferent s hs ⟨"LDX", "x"⟩ ⟨"LDY", "y"⟩ (by decide)
  rw [hmnemonics] at hbeside hnew hlast
  refine ⟨hs, hmnemonics, hbeside.mpr (by decide), fun heq => ?_, ?_, hsame s hs _ _ rfl⟩
  · exact absurd (hnew.mp heq) (by decide)
  · rw [(hlast (by decide) (by decide)).2, hrows]
    rfl

end Sheet
end InstructionSheet
