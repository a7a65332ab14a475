/-
# The sheets of a workspace

Whatever commands are carried out, in whatever order, both sheets of a workspace are built by
insertions from the empty sheet (`Workspace.bothBuilt_after`): a command leaves a sheet as it is,
exchanges the two, begins one anew or inserts into it, and none writes rows in another way. So the
map of every sheet that a workspace ever holds agrees with its rows, and all that follows from that
holds of it (`Workspace.sheets_agree`).

Key definitions: `Workspace.after`, `Workspace.sheets`, `Workspace.BothBuilt`.
Key theorems: `Workspace.bothBuilt_execute`, `Workspace.bothBuilt_after`, `Workspace.sheets_agree`.
-/
import InstructionSheet.Proofs.Sheet.Slots
import InstructionSheet.Workspace

namespace InstructionSheet
namespace Workspace

/-- The workspace after commands: the one in the last reply, if there was a command at all. -/
def after (w : Workspace) (commands : List Command) : Workspace :=
  ((w.executeAll commands).getLast?.map Reply.workspace).getD w

/-- The sheet to work on and the one set aside. -/
def sheets (w : Workspace) : List Sheet := [w.sheet, w.saved]

/-- Both sheets are built by insertions from the empty one. -/
structure BothBuilt (w : Workspace) : Prop where
  sheet : w.sheet.Built
  saved : w.saved.Built

theorem after_cons (w : Workspace) (c : Command) (cs : List Command) :
    w.after (c :: cs) = (w.execute c).workspace.after cs := by
  rw [after, after, executeAll, List.getLast?_cons]
  cases ((w.execute c).workspace.executeAll cs).getLast? <;> rfl

theorem bothBuilt_initial : initial.BothBuilt := ⟨Sheet.built_empty, Sheet.built_empty⟩

theorem built_mos6502 : Mos6502.sheet.1.Built := by
  rw [Mos6502.sheet]
  exact Sheet.built_parse Mos6502.text

theorem BothBuilt.withSheet {w : Workspace} (h : w.BothBuilt) {made : Sheet × List Log.Event}
    (hmade : made.1.Built) : (w.withSheet made).workspace.BothBuilt := ⟨hmade, h.saved⟩

theorem BothBuilt.insertEntry {w : Workspace} (h : w.BothBuilt) (e : Entry) :
    (w.insertEntry e).workspace.BothBuilt := ⟨h.sheet.insert e, h.saved⟩

/-- **A command keeps both sheets built.** -/
theorem bothBuilt_execute {w : Workspace} (h : w.BothBuilt) (c : Command) :
    (w.execute c).workspace.BothBuilt := by
  cases c with
  | clear => exact h.withSheet Sheet.built_empty
  | mos6502 => exact h.withSheet built_mos6502
  | parse text => exact h.withSheet (Sheet.built_parse text)
  | insert e => exact h.insertEntry e
  | insertLine line => exact h.insertEntry (Entry.ofLine line.toList)
  | save => exact ⟨h.sheet, h.sheet⟩
  | swap => exact ⟨h.saved, h.sheet⟩
  | _ => exact ⟨h.sheet, h.saved⟩

theorem bothBuilt_after {w : Workspace} (h : w.BothBuilt) (commands : List Command) :
    (w.after commands).BothBuilt := by
  induction commands generalizing w with
  | nil => exact h
  | cons c cs ih =>
    rw [after_cons]
    exact ih (bothBuilt_execute h c)

theorem indexed_of_mem_sheets {commands : List Command} {s : Sheet}
    (hs : s ∈ (initial.after commands).sheets) : s.Indexed := by
  have h := bothBuilt_after bothBuilt_initial commands
  rw [sheets, List.mem_cons, List.mem_singleton] at hs
  rcases hs with rfl | rfl
  · exact h.sheet.indexed
  · exact h.saved.indexed

/-- **The map and the rows agree in every sheet that a workspace ever holds.** A mnemonic has the
slot `i` exactly when there is a row `i` and that row carries it. Hence the mnemonics are distinct,
there are as many slots as rows, no access to a row misses, a look-up finds what a search through
the rows finds, and two such sheets, whatever their histories, are equal exactly when their rows
are. -/
theorem sheets_agree {commands commands' : List Command} {s s' : Sheet}
    (hs : s ∈ (initial.after commands).sheets) (hs' : s' ∈ (initial.after commands').sheets) :
    (∀ m i, s.slot? m = some i ↔ ∃ _ : i < s.entries.size, s.entries[i].mnemonic = m) ∧
      (s.rows.map Entry.mnemonic).Nodup ∧
      s.slotCount = s.size ∧
      (∀ m, s.getStrict m = some (s.get? m)) ∧
      (∀ e, s.insertStrict e = some (s.insert e)) ∧
      (∀ m, s.get? m = (s.rows.find? fun e => e.mnemonic = m).map Entry.description) ∧
      (∀ m, s.get? m = none ↔ ∀ e ∈ s.rows, e.mnemonic ≠ m) ∧
      (s = s' ↔ s.rows = s'.rows) := by
  have h := indexed_of_mem_sheets hs
  refine ⟨fun m i => ?_, h.nodup, h.slotCount_eq, h.getStrict_eq, h.insertStrict_eq, h.get?_eq_find?,
    h.get?_eq_none_iff, h.eq_iff (indexed_of_mem_sheets hs')⟩
  rw [h.slot_iff, Sheet.mnemonics, List.getElem?_map, Sheet.getElem?_rows, Option.map_eq_some_iff]
  constructor
  · rintro ⟨e, he, rfl⟩
    obtain ⟨hi, rfl⟩ := Array.getElem?_eq_some_iff.mp he
    exact ⟨hi, rfl⟩
  · rintro ⟨hi, rfl⟩
    exact ⟨_, Array.getElem?_eq_getElem hi, rfl⟩

/-- Two histories that end with the same rows: in one of them a description was replaced, and the
sheet was set aside. -/
theorem sheets_agree_after_replacement :
    let w := initial.after [.insert ⟨"LDA", "first"⟩, .insert ⟨"LDX", "load X"⟩,
      .insert ⟨"LDA", "second"⟩, .save, .clear]
    let w' := initial.after [.insert ⟨"LDA", "second"⟩, .insert ⟨"LDX", "load X"⟩]
    w.saved ∈ w.sheets ∧ w'.sheet ∈ w'.sheets ∧
      w.saved.rows = [⟨"LDA", "second"⟩, ⟨"LDX", "load X"⟩] ∧
      w.saved.slot? "LDX" = some 1 ∧ w.saved.slotCount = 2 ∧
      w.saved.get? "LDA" = some "second" ∧ w.saved.get? "LDY" = none ∧ w.saved = w'.sheet := by
  intro w w'
  have hs : w.saved ∈ w.sheets := by simp [sheets]
  have hs' : w'.sheet ∈ w'.sheets := by simp [sheets]
  have hentries : w.saved.entries = #[⟨"LDA", "second"⟩, ⟨"LDX", "load X"⟩] := by
    simp [w, after, executeAll, execute, insertEntry, withSheet, initial, Sheet.insert, Sheet.empty,
      Sheet.append, Sheet.describe, Std.ExtHashMap.getElem_insert]
  have hentries' : w'.sheet.entries = #[⟨"LDA", "second"⟩, ⟨"LDX", "load X"⟩] := by
    simp [w', after, executeAll, execute, insertEntry, initial, Sheet.insert, Sheet.empty,
      Sheet.append]
  obtain ⟨hslot, -, hsize, -, -, hget, hnone, heq⟩ := sheets_agree hs hs'
  rw [Sheet.size, hentries] at hsize
  rw [Sheet.rows, Sheet.rows, hentries, hentries'] at heq
  refine ⟨hs, hs', congrArg Array.toList hentries, ?_, hsize, ?_, ?_, heq.mpr rfl⟩
  · refine (hslot "LDX" 1).mpr ⟨by simp [hentries], by simp [hentries]⟩
  · rw [hget, Sheet.rows, hentries]
    rfl
  · rw [hnone, Sheet.rows, hentries]
    decide

end Workspace
end InstructionSheet
