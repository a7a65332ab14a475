/-
# The map beside the rows

A sheet finds its rows through a map from mnemonics to indices. `Indexed` says that the two agree:
a mnemonic has the slot `i` exactly when row `i` carries it, and the map has an entry for each row.
The empty sheet is indexed, and an insertion, which is one of two things (`Indexed.insert_cases`),
keeps a sheet so (`Indexed.insert`). Hence every sheet that insertions lead to from the empty one is
indexed (`Built.indexed`).

On an indexed sheet no two rows share a mnemonic (`Indexed.nodup`), a look-up is a search through
the rows (`Indexed.get?_eq_find?`), and the rows determine the map, so two sheets with the same rows
are equal (`Indexed.eq_iff`). A slot is always the index of a row: look-ups and insertions that fail
where there is no such row never do (`Indexed.getStrict_eq`, `Indexed.insertStrict_eq`).

Key definitions: `Sheet.mnemonics`, `Sheet.Indexed`, `Sheet.getStrict`, `Sheet.insertStrict`,
`Sheet.Built`.
Key theorems: `Sheet.Indexed.insert_cases`, `Sheet.Indexed.eq_iff`, `Sheet.Built.indexed`.
-/
import InstructionSheet.Sheet.Basic

namespace InstructionSheet
namespace Sheet

/-- The mnemonics of the rows, in order. -/
def mnemonics (s : Sheet) : List String := s.rows.map Entry.mnemonic

@[simp] theorem mnemonics_empty : empty.mnemonics = [] := rfl

@[simp] theorem mnemonics_append (s : Sheet) (e : Entry) :
    (s.append e).mnemonics = s.mnemonics ++ [e.mnemonic] := by
  simp [mnemonics]

@[simp] theorem mnemonics_describe (s : Sheet) (i : Nat) (d : String) :
    (s.describe i d).mnemonics = s.mnemonics := by
  rw [mnemonics, mnemonics, rows_describe]
  apply List.ext_getElem?
  intro j
  rw [List.getElem?_map, List.getElem?_map, List.getElem?_modify]
  cases s.rows[j]? with
  | none => rfl
  | some e => by_cases hij : i = j <;> simp [hij]

theorem getElem?_rows (s : Sheet) (i : Nat) : s.rows[i]? = s.entries[i]? := Array.getElem?_toList

theorem mem_mnemonics_of_row {s : Sheet} {i : Nat} {m d : String}
    (hrow : s.rows[i]? = some ⟨m, d⟩) : m ∈ s.mnemonics :=
  List.mem_map.mpr ⟨_, List.mem_of_getElem? hrow, rfl⟩

theorem length_mnemonics (s : Sheet) : s.mnemonics.length = s.size := by
  rw [mnemonics, List.length_map, length_rows]

theorem getElem?_concat_iff {ms : List String} {m m' : String} {i : Nat} :
    (ms ++ [m])[i]? = some m' ↔ ms[i]? = some m' ∨ i = ms.length ∧ m = m' := by
  rcases Nat.lt_trichotomy i ms.length with hlt | rfl | hgt
  · rw [List.getElem?_append_left hlt]
    simp [Nat.ne_of_lt hlt]
  · simp
  · rw [List.getElem?_eq_none (by simp; omega), List.getElem?_eq_none (by omega)]
    simp [Nat.ne_of_gt hgt]

theorem get?_eq_bind (s : Sheet) (m : String) :
    s.get? m = (s.slot? m).bind fun i => s.entries[i]?.map Entry.description := rfl

theorem slot?_empty (m : String) : empty.slot? m = none := by
  simp [slot?, empty]

theorem insert_of_slot_none {s : Sheet} {e : Entry} (h : s.slot? e.mnemonic = none) :
    s.insert e = ⟨s.append e, false, []⟩ := by
  rw [slot?] at h
  rw [insert, h]

theorem insert_of_slot {s : Sheet} {e : Entry} {i : Nat} {old : String}
    (h : s.slot? e.mnemonic = some i) (hrow : s.entries[i]? = some ⟨e.mnemonic, old⟩) :
    s.insert e =
      ⟨s.describe i e.description, true, [.replaced e.mnemonic old e.description]⟩ := by
  rw [slot?] at h
  rw [insert, h]
  simp [hrow]

theorem slot?_append (s : Sheet) (e : Entry) (m : String) :
    (s.append e).slot? m = if e.mnemonic = m then some s.mnemonics.length else s.slot? m := by
  rw [length_mnemonics]
  simp [slot?, append, Std.ExtHashMap.getElem?_insert, size]

@[simp] theorem slot?_describe (s : Sheet) (i : Nat) (d m : String) :
    (s.describe i d).slot? m = s.slot? m := rfl

theorem slotCount_append {s : Sheet} {e : Entry} (h : s.slot? e.mnemonic = none) :
    (s.append e).slotCount = s.slotCount + 1 := by
  have habsent : e.mnemonic ∉ s.slots := by
    rw [Std.ExtHashMap.mem_iff_isSome_getElem?, ← slot?, h]
    exact Bool.false_ne_true
  simp [slotCount, append, Std.ExtHashMap.size_insert, habsent]

/-- The map and the rows agree: a mnemonic's slot is the index of the row that carries it, and there
are as many slots as rows. -/
structure Indexed (s : Sheet) : Prop where
  slot_iff : ∀ (m : String) (i : Nat), s.slot? m = some i ↔ s.mnemonics[i]? = some m
  slotCount_eq : s.slotCount = s.size

/-- `get?` with an access to the row that fails (the outer `none`) where the slot of the mnemonic is
not the index of a row. -/
def getStrict (s : Sheet) (m : String) : Option (Option String) :=
  match s.slot? m with
  | none => some none
  | some i => s.entries[i]?.map fun e => some e.description

/-- `insert` with an access to the row that fails where the slot is not the index of a row. -/
def insertStrict (s : Sheet) (e : Entry) : Option Insertion :=
  match s.slot? e.mnemonic with
  | none => some ⟨s.append e, false, []⟩
  | some i => s.entries[i]?.map fun old =>
      ⟨s.describe i e.description, true, [.replaced e.mnemonic old.description e.description]⟩

namespace Indexed

variable {s s' : Sheet}

/-! ### What an insertion is -/

theorem slot_eq_none_iff (h : s.Indexed) (m : String) :
    s.slot? m = none ↔ m ∉ s.mnemonics := by
  constructor
  · intro hnone hm
    obtain ⟨i, hi⟩ := List.mem_iff_getElem?.mp hm
    have hsome := (h.slot_iff m i).mpr hi
    rw [hnone] at hsome
    cases hsome
  · intro hm
    cases hslot : s.slot? m with
    | none => rfl
    | some i => exact absurd (List.mem_of_getElem? ((h.slot_iff m i).mp hslot)) hm

theorem row_of_slot (h : s.Indexed) {m : String} {i : Nat} (hslot : s.slot? m = some i) :
    ∃ d, s.rows[i]? = some ⟨m, d⟩ := by
  have hm := (h.slot_iff m i).mp hslot
  rw [mnemonics, List.getElem?_map, Option.map_eq_some_iff] at hm
  obtain ⟨e, he, rfl⟩ := hm
  exact ⟨e.description, he⟩

/-- **An insertion is one of two things.** A new mnemonic gets a row at the end, and nothing is
reported; a mnemonic that has a row gets the new description there, and the old one is reported
with it. -/
theorem insert_cases (h : s.Indexed) (e : Entry) :
    (e.mnemonic ∉ s.mnemonics ∧ s.insert e = ⟨s.append e, false, []⟩) ∨
    ∃ i old, s.rows[i]? = some ⟨e.mnemonic, old⟩ ∧
      s.insert e =
        ⟨s.describe i e.description, true, [.replaced e.mnemonic old e.description]⟩ := by
  cases hslot : s.slot? e.mnemonic with
  | none =>
    left
    exact ⟨(h.slot_eq_none_iff _).mp hslot, insert_of_slot_none hslot⟩
  | some i =>
    right
    obtain ⟨old, hrow⟩ := h.row_of_slot hslot
    refine ⟨i, old, hrow, ?_⟩
    rw [getElem?_rows] at hrow
    exact insert_of_slot hslot hrow

/-- Whether an insertion replaces a description is whether the mnemonic has a row. -/
theorem replaced_iff (h : s.Indexed) (e : Entry) :
    (s.insert e).replaced = true ↔ e.mnemonic ∈ s.mnemonics := by
  rcases h.insert_cases e with ⟨hnew, hins⟩ | ⟨i, old, hrow, hins⟩
  · simp [hins, hnew]
  · simp [hins, mem_mnemonics_of_row hrow]

theorem mnemonics_insert (h : s.Indexed) (e : Entry) :
    (s.insert e).sheet.mnemonics =
      if e.mnemonic ∈ s.mnemonics then s.mnemonics else s.mnemonics ++ [e.mnemonic] := by
  rcases h.insert_cases e with ⟨hnew, hins⟩ | ⟨i, old, hrow, hins⟩
  · rw [hins, if_neg hnew, mnemonics_append]
  · rw [hins, if_pos (mem_mnemonics_of_row hrow), mnemonics_describe]

/-! ### The map follows the rows -/

theorem append (h : s.Indexed) {e : Entry} (hnew : e.mnemonic ∉ s.mnemonics) :
    (s.append e).Indexed := by
  constructor
  · intro m i
    rw [slot?_append, mnemonics_append, getElem?_concat_iff]
    by_cases hm : e.mnemonic = m
    · -- the new mnemonic stands behind all rows and nowhere else
      subst hm
      have hnot : s.mnemonics[i]? ≠ some e.mnemonic := fun hi => hnew (List.mem_of_getElem? hi)
      simp [hnot, eq_comm]
    · -- any other mnemonic stands where it stood
      simp [hm, h.slot_iff]
  · rw [slotCount_append ((h.slot_eq_none_iff _).mpr hnew), h.slotCount_eq]
    simp [Sheet.append, size]

theorem describe (h : s.Indexed) (i : Nat) (d : String) : (s.describe i d).Indexed := by
  constructor
  · intro m j
    rw [mnemonics_describe]
    exact h.slot_iff m j
  · rw [← length_mnemonics, mnemonics_describe, length_mnemonics]
    exact h.slotCount_eq

/-- **An insertion keeps the map and the rows in step.** -/
theorem insert (h : s.Indexed) (e : Entry) : (s.insert e).sheet.Indexed := by
  rcases h.insert_cases e with ⟨hnew, hins⟩ | ⟨i, old, -, hins⟩
  · rw [hins]
    exact h.append hnew
  · rw [hins]
    exact h.describe i e.description

theorem insertAll : ∀ {s : Sheet}, s.Indexed → ∀ es : List Entry, (s.insertAll es).1.Indexed
  | _, h, [] => h
  | _, h, e :: es => (h.insert e).insertAll es

/-! ### Rows and look-ups -/

theorem nodup (h : s.Indexed) : s.mnemonics.Nodup := by
  refine List.pairwise_iff_getElem.mpr fun i j hi hj hij heq => ?_
  have hi' := (h.slot_iff s.mnemonics[i] i).mpr (List.getElem?_eq_getElem hi)
  have hj' := (h.slot_iff s.mnemonics[i] j).mpr (heq ▸ List.getElem?_eq_getElem hj)
  rw [hi'] at hj'
  injection hj' with hij'
  omega

theorem get?_of_mem (h : s.Indexed) {e : Entry} (he : e ∈ s.rows) :
    s.get? e.mnemonic = some e.description := by
  obtain ⟨i, hi⟩ := List.mem_iff_getElem?.mp he
  have hslot : s.slot? e.mnemonic = some i := by
    rw [h.slot_iff, mnemonics, List.getElem?_map, hi]
    rfl
  rw [getElem?_rows] at hi
  simp [get?_eq_bind, hslot, hi]

theorem get?_of_not_mem (h : s.Indexed) {m : String} (hm : m ∉ s.mnemonics) :
    s.get? m = none := by
  rw [get?_eq_bind, (h.slot_eq_none_iff m).mpr hm]
  rfl

/-- **A look-up is a search through the rows.** -/
theorem get?_eq_find? (h : s.Indexed) (m : String) :
    s.get? m = (s.rows.find? fun e => e.mnemonic = m).map Entry.description := by
  cases hfind : s.rows.find? fun e => e.mnemonic = m with
  | none =>
    apply h.get?_of_not_mem
    intro hm
    obtain ⟨e, he, rfl⟩ := List.mem_map.mp hm
    simpa using List.find?_eq_none.mp hfind e he
  | some e =>
    have hm : e.mnemonic = m := by simpa using List.find?_some hfind
    rw [← hm]
    exact h.get?_of_mem (List.mem_of_find?_eq_some hfind)

theorem get?_eq_none_iff (h : s.Indexed) (m : String) :
    s.get? m = none ↔ ∀ e ∈ s.rows, e.mnemonic ≠ m := by
  rw [h.get?_eq_find?, Option.map_eq_none_iff, List.find?_eq_none]
  simp

theorem get?_append (h : s.Indexed) {e : Entry} (hnew : e.mnemonic ∉ s.mnemonics) (m : String) :
    (s.append e).get? m = if e.mnemonic = m then some e.description else s.get? m := by
  have happended := h.append hnew
  by_cases hm : e.mnemonic = m
  · rw [if_pos hm, ← hm]
    exact happended.get?_of_mem (by simp)
  · rw [if_neg hm, happended.get?_eq_find?, h.get?_eq_find?, rows_append, List.find?_append]
    simp [hm]

theorem get?_describe (h : s.Indexed) {i : Nat} {m d : String} (hrow : s.rows[i]? = some ⟨m, d⟩)
    (d' m' : String) :
    (s.describe i d').get? m' = if m = m' then some d' else s.get? m' := by
  by_cases hm : m = m'
  · have hnow : (s.describe i d').rows[i]? = some ⟨m, d'⟩ := by
      rw [rows_describe, List.getElem?_modify, hrow]
      simp
    rw [if_pos hm, ← hm]
    exact (h.describe i d').get?_of_mem (List.mem_of_getElem? hnow)
  · rw [if_neg hm]
    cases hslot : s.slot? m' with
    | none => simp [get?_eq_bind, hslot]
    | some j =>
      -- the slot of another mnemonic is the index of another row
      have hij : i ≠ j := by
        rintro rfl
        obtain ⟨d'', hrow'⟩ := h.row_of_slot hslot
        rw [hrow] at hrow'
        injection hrow' with hrow'
        exact hm (congrArg Entry.mnemonic hrow')
      have hother : (s.describe i d').entries[j]? = s.entries[j]? := by
        simp [Sheet.describe, Array.getElem?_modify, hij]
      rw [get?_eq_bind, get?_eq_bind, slot?_describe, hslot, Option.bind_some, Option.bind_some,
        hother]

/-- After an insertion its mnemonic has the new description, and every other one what it had. -/
theorem get?_insert (h : s.Indexed) (e : Entry) (m : String) :
    (s.insert e).sheet.get? m = if e.mnemonic = m then some e.description else s.get? m := by
  rcases h.insert_cases e with ⟨hnew, hins⟩ | ⟨i, old, hrow, hins⟩
  · rw [hins]
    exact h.get?_append hnew m
  · rw [hins]
    exact h.get?_describe hrow e.description m

/-- No look-up misses the row. -/
theorem getStrict_eq (h : s.Indexed) (m : String) : s.getStrict m = some (s.get? m) := by
  cases hslot : s.slot? m with
  | none => simp [getStrict, get?_eq_bind, hslot]
  | some i =>
    obtain ⟨d, hrow⟩ := h.row_of_slot hslot
    rw [getElem?_rows] at hrow
    simp [getStrict, get?_eq_bind, hslot, hrow]

/-- No insertion misses the row whose description it replaces. -/
theorem insertStrict_eq (h : s.Indexed) (e : Entry) : s.insertStrict e = some (s.insert e) := by
  cases hslot : s.slot? e.mnemonic with
  | none => simp [insertStrict, insert_of_slot_none hslot, hslot]
  | some i =>
    obtain ⟨d, hrow⟩ := h.row_of_slot hslot
    rw [getElem?_rows] at hrow
    simp [insertStrict, insert_of_slot hslot hrow, hslot, hrow]

/-- **The rows determine the sheet.** -/
theorem eq_iff (h : s.Indexed) (h' : s'.Indexed) : s = s' ↔ s.rows = s'.rows := by
  refine ⟨fun heq => heq ▸ rfl, fun hrows => ?_⟩
  have hentries : s.entries = s'.entries := Array.toList_inj.mp hrows
  have hmnemonics : s.mnemonics = s'.mnemonics := congrArg (List.map Entry.mnemonic) hrows
  have hslots : s.slots = s'.slots := by
    apply Std.ExtHashMap.ext_getElem?
    intro m
    apply Option.ext
    intro i
    exact (h.slot_iff m i).trans (hmnemonics ▸ (h'.slot_iff m i).symm)
  cases s
  cases s'
  exact (Sheet.mk.injEq ..).mpr ⟨hentries, hslots⟩

end Indexed

theorem indexed_empty : empty.Indexed := by
  constructor
  · intro m i
    rw [slot?_empty, mnemonics_empty]
    simp
  · simp [slotCount, empty, size]

/-! ### Sheets made by insertions -/

/-- A sheet is built when some entries, inserted in order, lead from the empty sheet to it. -/
def Built (s : Sheet) : Prop := ∃ es, s = (empty.insertAll es).1

theorem built_empty : empty.Built := ⟨[], rfl⟩

/-- A text is read by inserting the entries of its lines into the empty sheet. -/
theorem parse_sheet (text : String) :
    (parse text).1 = (empty.insertAll ((lines text).map Entry.ofLine)).1 := by
  rw [parse]

theorem built_parse (text : String) : (parse text).1.Built := ⟨_, parse_sheet text⟩

theorem insertAll_concat (s : Sheet) (es : List Entry) (e : Entry) :
    (s.insertAll (es ++ [e])).1 = ((s.insertAll es).1.insert e).sheet := by
  rw [insertAll_append]
  rfl

theorem Built.insert {s : Sheet} (h : s.Built) (e : Entry) : (s.insert e).sheet.Built := by
  obtain ⟨es, rfl⟩ := h
  exact ⟨es ++ [e], (insertAll_concat empty es e).symm⟩

/-- **A built sheet is indexed.** -/
theorem Built.indexed {s : Sheet} (h : s.Built) : s.Indexed := by
  obtain ⟨es, rfl⟩ := h
  exact indexed_empty.insertAll es

end Sheet
end InstructionSheet
