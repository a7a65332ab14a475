/-
# First position, last description

What a sheet holds after insertions is a matter of the whole history: a mnemonic stands where it
first occurred in it, with the description that it got last. `Leaves` states this rule of the
history alone, without sheets and without steps, and it determines the rows (`Leaves.unique`). The
rows that insertions into the empty sheet lead to obey it, and so do those of a text that is read
(`Sheet.first_position_last_description`).

Key definitions: `Sheet.latest?`, `Sheet.Leaves`.
Key theorems: `Sheet.leaves_insertAll`, `Sheet.Leaves.unique`,
`Sheet.first_position_last_description`.
-/
import InstructionSheet.Proofs.Sheet.Slots
import Mathlib.Data.List.Induction
import Mathlib.Data.List.Nodup

namespace InstructionSheet
namespace Sheet

/-- The description in the last entry of a history with the given mnemonic. -/
def latest? (history : List Entry) (m : String) : Option String :=
  (history.filter fun e => e.mnemonic = m).getLast?.map Entry.description

/-- The rows that a history leaves: its mnemonics, each once, in the order in which they first
occur, and beside each the description that it gets last. -/
structure Leaves (history rows : List Entry) : Prop where
  order : rows.map Entry.mnemonic = (history.map Entry.mnemonic).eraseDups
  latest : ∀ e ∈ rows, latest? history e.mnemonic = some e.description

/-! ### One entry more -/

theorem latest?_concat (history : List Entry) (e : Entry) (m : String) :
    latest? (history ++ [e]) m =
      if e.mnemonic = m then some e.description else latest? history m := by
  rw [latest?, List.filter_append]
  by_cases hm : e.mnemonic = m
  · simp [hm]
  · simp [latest?, hm]

theorem mem_of_latest? {history : List Entry} {m d : String} (h : latest? history m = some d) :
    ⟨m, d⟩ ∈ history := by
  rw [latest?, Option.map_eq_some_iff] at h
  obtain ⟨e, hlast, rfl⟩ := h
  have hmem := List.mem_filter.mp (List.mem_of_getLast? hlast)
  obtain ⟨he, hm⟩ := hmem
  rw [decide_eq_true_eq] at hm
  subst hm
  exact he

theorem eraseDups_concat (ms : List String) (m : String) :
    (ms ++ [m]).eraseDups = if m ∈ ms then ms.eraseDups else ms.eraseDups ++ [m] := by
  rw [List.eraseDups_append]
  by_cases hm : m ∈ ms
  · simp [List.removeAll, hm]
  · simp [List.removeAll, hm, List.eraseDups_cons]

/-! ### What insertions lead to -/

/-- The mnemonics come in the order in which they first occur. -/
theorem mnemonics_insertAll (history : List Entry) :
    (empty.insertAll history).1.mnemonics = (history.map Entry.mnemonic).eraseDups := by
  induction history using List.reverseRecOn with
  | nil => rfl
  | append_singleton es e ih =>
    have hindexed := indexed_empty.insertAll es
    rw [insertAll_concat, hindexed.mnemonics_insert, ih, List.map_append, List.map_singleton,
      eraseDups_concat]
    simp

/-- A look-up gives the description that came last, or else the one that was there before. -/
theorem Indexed.get?_insertAll {s : Sheet} (h : s.Indexed) (es : List Entry) (m : String) :
    (s.insertAll es).1.get? m = (latest? es m).or (s.get? m) := by
  induction es using List.reverseRecOn with
  | nil => rfl
  | append_singleton es e ih =>
    rw [insertAll_concat, (h.insertAll es).get?_insert, ih, latest?_concat]
    split <;> rfl

theorem get?_insertAll (history : List Entry) (m : String) :
    (empty.insertAll history).1.get? m = latest? history m := by
  have hempty : empty.get? m = none := indexed_empty.get?_of_not_mem List.not_mem_nil
  rw [indexed_empty.get?_insertAll, hempty, Option.or_none]

/-- **The rows that insertions lead to are those that their history leaves.** -/
theorem leaves_insertAll (history : List Entry) :
    Leaves history (empty.insertAll history).1.rows where
  order := mnemonics_insertAll history
  latest e he := by
    rw [← get?_insertAll]
    exact (indexed_empty.insertAll history).get?_of_mem he

theorem Leaves.unique {history rows rows' : List Entry} (h : Leaves history rows)
    (h' : Leaves history rows') : rows = rows' := by
  -- each row is its mnemonic with what the history says last of it
  have hrows : ∀ {rs : List Entry}, Leaves history rs →
      rs = (rs.map Entry.mnemonic).map fun m => ⟨m, (latest? history m).getD ""⟩ := by
    intro rs hrs
    rw [List.map_map]
    refine (List.map_id rs).symm.trans (List.map_congr_left fun e he => ?_)
    simp [hrs.latest e he]
  rw [hrows h, hrows h', h.order, h'.order]

/-! ### The rows and the entries of their history -/

theorem Leaves.mem_history {history rows : List Entry} (h : Leaves history rows) {e : Entry}
    (he : e ∈ rows) : e ∈ history :=
  mem_of_latest? (h.latest e he)

theorem Leaves.head {e : Entry} {history rows : List Entry} (h : Leaves (e :: history) rows) :
    ∃ d rest, rows = ⟨e.mnemonic, d⟩ :: rest := by
  have horder := h.order
  rw [List.map_cons, List.eraseDups_cons] at horder
  obtain ⟨e', rest, rfl, hm, -⟩ := List.map_eq_cons_iff.mp horder
  exact ⟨e'.description, rest, by rw [← hm]⟩

theorem Leaves.last_mem {e : Entry} {history rows : List Entry}
    (h : Leaves (history ++ [e]) rows) : e ∈ rows := by
  have hm : e.mnemonic ∈ rows.map Entry.mnemonic := by
    rw [h.order, List.mem_eraseDups]
    simp
  obtain ⟨e', he', hmnemonic⟩ := List.mem_map.mp hm
  have hlatest := h.latest e' he'
  rw [latest?_concat, if_pos hmnemonic.symm] at hlatest
  have hsame : e' = e := by
    cases e
    cases e'
    exact (Entry.mk.injEq ..).mpr ⟨hmnemonic, (Option.some.inj hlatest).symm⟩
  exact hsame ▸ he'

/-- An entry more that is a row already changes nothing. -/
theorem Leaves.concat_row {e : Entry} {history rows : List Entry} (h : Leaves history rows)
    (he : e ∈ rows) : Leaves (history ++ [e]) rows where
  order := by
    have hm : e.mnemonic ∈ history.map Entry.mnemonic :=
      List.mem_map.mpr ⟨e, h.mem_history he, rfl⟩
    rw [List.map_append, List.map_singleton, eraseDups_concat, if_pos hm, h.order]
  latest e' he' := by
    rw [latest?_concat]
    split
    · rename_i hm
      have hlatest := h.latest e he
      rw [hm, h.latest e' he'] at hlatest
      exact hlatest.symm
    · exact h.latest e' he'

theorem eraseDups_of_nodup : ∀ {ms : List String}, ms.Nodup → ms.eraseDups = ms
  | [], _ => rfl
  | m :: ms, h => by
    obtain ⟨hm, hms⟩ := List.nodup_cons.mp h
    have hfilter : ms.filter (fun m' => !m' == m) = ms := by
      apply List.filter_eq_self.mpr
      intro m' hm'
      have hne : m' ≠ m := by
        rintro rfl
        exact hm hm'
      simp [hne]
    rw [List.eraseDups_cons, hfilter, eraseDups_of_nodup hms]

theorem leaves_self {rows : List Entry} (h : (rows.map Entry.mnemonic).Nodup) :
    Leaves rows rows where
  order := (eraseDups_of_nodup h).symm
  latest e he := by
    have hmem : e ∈ rows.filter fun e' => e'.mnemonic = e.mnemonic := by
      simp [he]
    rw [latest?]
    cases hlast : (rows.filter fun e' => e'.mnemonic = e.mnemonic).getLast? with
    | none =>
      rw [List.getLast?_eq_none_iff.mp hlast] at hmem
      exact absurd hmem List.not_mem_nil
    | some e' =>
      have hrow := List.mem_filter.mp (List.mem_of_getLast? hlast)
      rw [decide_eq_true_eq] at hrow
      rw [List.inj_on_of_nodup_map h hrow.1 he hrow.2]
      rfl

/-! ### Insertions and reading obey the rule -/

theorem rows_insertAll_eq {history rows : List Entry} (h : Leaves history rows) :
    (empty.insertAll history).1.rows = rows :=
  (leaves_insertAll history).unique h

theorem leaves_parse (text : String) :
    Leaves ((lines text).map Entry.ofLine) (parse text).1.rows := by
  rw [parse_sheet]
  exact leaves_insertAll _

theorem replaced_insert_insertAll (before : List Entry) (e : Entry) :
    ((empty.insertAll before).1.insert e).replaced = true ↔
      e.mnemonic ∈ before.map Entry.mnemonic := by
  rw [(indexed_empty.insertAll before).replaced_iff, mnemonics_insertAll, List.mem_eraseDups]

/-- Two histories lead to the same sheet exactly when the rule gives the same for both. -/
theorem insertAll_eq_insertAll_iff (history history' : List Entry) :
    (empty.insertAll history).1 = (empty.insertAll history').1 ↔
      (history.map Entry.mnemonic).eraseDups = (history'.map Entry.mnemonic).eraseDups ∧
        ∀ m, latest? history m = latest? history' m := by
  constructor
  · intro heq
    constructor
    · rw [← mnemonics_insertAll, ← mnemonics_insertAll, heq]
    · intro m
      rw [← get?_insertAll, ← get?_insertAll, heq]
  · rintro ⟨horder, hlatest⟩
    have h := leaves_insertAll history
    have h' : Leaves history' (empty.insertAll history).1.rows :=
      ⟨h.order.trans horder, fun e he => by rw [← hlatest, h.latest e he]⟩
    rw [(indexed_empty.insertAll history).eq_iff (indexed_empty.insertAll history')]
    exact (rows_insertAll_eq h').symm

/-- **First position, last description.** The lines of a text, each cut into an entry, leave the
rows of the sheet that the text is read into, and it has as many rows as there are distinct
mnemonics. The same holds of any entries that are inserted into the empty sheet; each insertion
replaces a description exactly when its mnemonic has occurred before; and two histories lead to
equal sheets exactly when their mnemonics first occur in the same order and each has the same
description last. -/
theorem first_position_last_description :
    (∀ text : String,
      let history := (Text.pieces '\n' (Text.trim text.toList)).map Entry.ofLine
      Leaves history (parse text).1.rows ∧
        (parse text).1.size = (history.map Entry.mnemonic).eraseDups.length) ∧
      (∀ history : List Entry, Leaves history (empty.insertAll history).1.rows) ∧
      (∀ (before : List Entry) (e : Entry),
        ((empty.insertAll before).1.insert e).replaced = true ↔
          e.mnemonic ∈ before.map Entry.mnemonic) ∧
      ∀ history history' : List Entry,
        (empty.insertAll history).1 = (empty.insertAll history').1 ↔
          (history.map Entry.mnemonic).eraseDups = (history'.map Entry.mnemonic).eraseDups ∧
            ∀ m, latest? history m = latest? history' m := by
  refine ⟨fun text => ⟨leaves_parse text, ?_⟩, leaves_insertAll, replaced_insert_insertAll,
    insertAll_eq_insertAll_iff⟩
  rw [parse_sheet, ← length_mnemonics, mnemonics_insertAll, lines]

end Sheet
end InstructionSheet
