/-
# Rows by the names of their columns

What becomes of a data row is said here without going through its columns one by one: `EntryOf`
tells it from the column names and the fields of the row alone. A wrong number of fields comes
first, then the leftmost column that repeats the name of an earlier one, then a missing column;
otherwise the row is an entry, in whatever order its columns stand and whatever others there are.
The visit from left to right comes to the same (`entryOfRow_eq_iff`): as long as no name is repeated
it has the first value under each name (`collect_append`), and it stops at the first that is.

Key definitions: `RepeatsAt`, `Unrepeated`, `EntryOf`.
Key theorems: `Csv.collect_append`, `Csv.entryOfRow_eq_iff`, `Csv.entries_row_by_row`.
-/
import InstructionSheet.Csv.Record
import Mathlib.Data.List.Induction
import Mathlib.Data.Nat.Find

namespace InstructionSheet
namespace Csv

/-- The column at position `i` has the name of `c`, and so has an earlier one. -/
def RepeatsAt (names : List String) (i : Nat) (c : Column) : Prop :=
  names[i]? = some c.name ∧ ∃ j, j < i ∧ names[j]? = some c.name

/-- No column that an entry is read from is named twice. -/
def Unrepeated (names : List String) : Prop := ∀ i c, ¬ RepeatsAt names i c

/-- What a row is below the column names `names`: an entry, or an error. -/
inductive EntryOf (names row : List String) : Except RowError Entry → Prop
  | unequalLengths (h : names.length ≠ row.length) :
    EntryOf names row (.error (.unequalLengths names.length row.length))
  /-- `i` is the leftmost position at which a name is repeated. -/
  | repeated {i : Nat} {c : Column} (h : names.length = row.length) (hi : RepeatsAt names i c)
    (hfirst : ∀ k, k < i → ∀ c', ¬ RepeatsAt names k c') :
    EntryOf names row (.error (.duplicateColumn c))
  | noInstruction (h : names.length = row.length) (hu : Unrepeated names)
    (hmissing : Column.instruction.name ∉ names) :
    EntryOf names row (.error (.missingColumn .instruction))
  | noDescription (h : names.length = row.length) (hu : Unrepeated names)
    (hpresent : Column.instruction.name ∈ names) (hmissing : Column.description.name ∉ names) :
    EntryOf names row (.error (.missingColumn .description))
  | entry {i j : Nat} {mnemonic description : String} (h : names.length = row.length)
    (hu : Unrepeated names)
    (hi : names[i]? = some Column.instruction.name) (hmnemonic : row[i]? = some mnemonic)
    (hj : names[j]? = some Column.description.name) (hdescription : row[j]? = some description) :
    EntryOf names row (.ok ⟨mnemonic, description⟩)

/-! ### Names -/

theorem ofName?_name (c : Column) : Column.ofName? c.name = some c := by
  cases c with
  | instruction => decide
  | description => decide

theorem ofName?_eq_some_iff {name : String} {c : Column} :
    Column.ofName? name = some c ↔ name = c.name := by
  constructor
  · intro h
    unfold Column.ofName? at h
    split at h
    · cases h; assumption
    split at h
    · cases h; assumption
    · cases h
  · rintro rfl
    exact ofName?_name c

theorem repeatsAt_iff {names : List String} {i : Nat} {c : Column} :
    RepeatsAt names i c ↔ names[i]? = some c.name ∧ c.name ∈ names.take i := by
  refine and_congr_right fun _ => ?_
  rw [List.mem_iff_getElem?]
  constructor
  · rintro ⟨j, hj, hjc⟩
    exact ⟨j, by rw [List.getElem?_take_of_lt hj, hjc]⟩
  · rintro ⟨j, hjc⟩
    rw [List.getElem?_take] at hjc
    split at hjc
    · exact ⟨j, ‹_›, hjc⟩
    · cases hjc

theorem Unrepeated.of_concat {names : List String} {name : String}
    (h : Unrepeated (names ++ [name])) :
    Unrepeated names ∧ ∀ c : Column, name = c.name → c.name ∉ names := by
  have hleft : ∀ {i : Nat} {x : String}, names[i]? = some x → (names ++ [name])[i]? = some x := by
    intro i x hx
    rw [List.getElem?_append_left (List.getElem?_eq_some_iff.mp hx).1, hx]
  refine ⟨fun i c ⟨hi, j, hj, hjc⟩ => h i c ⟨hleft hi, j, hj, hleft hjc⟩, fun c hc hmem => ?_⟩
  exact h names.length c (repeatsAt_iff.mpr ⟨by simp [hc], by rwa [List.take_left]⟩)

/-- Names are unrepeated, or there is a leftmost repetition. -/
theorem unrepeated_or_first (names : List String) :
    Unrepeated names ∨
      ∃ i c, RepeatsAt names i c ∧ ∀ k, k < i → ∀ c', ¬ RepeatsAt names k c' := by
  classical
  by_cases h : ∃ i, ∃ c, RepeatsAt names i c
  · obtain ⟨c, hc⟩ := Nat.find_spec h
    exact .inr ⟨Nat.find h, c, hc, fun k hk c' hc' => Nat.find_min h hk ⟨c', hc'⟩⟩
  · exact .inl fun i c hc => h ⟨i, c, hc⟩

theorem unrepeated_take {names : List String} {i : Nat}
    (hfirst : ∀ k, k < i → ∀ c, ¬ RepeatsAt names k c) : Unrepeated (names.take i) := by
  rintro k c ⟨hk, j, hj, hjc⟩
  rw [List.getElem?_take] at hk hjc
  split at hk
  · rename_i hki
    rw [if_pos (Nat.lt_trans hj hki)] at hjc
    exact hfirst k hki c ⟨hk, j, hj, hjc⟩
  · cases hk

/-! ### Values by name -/

theorem lookup_eq_none_of_not_mem {columns : List (String × String)} {name : String}
    (h : name ∉ columns.map Prod.fst) : columns.lookup name = none := by
  rw [List.lookup_eq_none_iff]
  intro column hcolumn
  rw [bne_iff_ne]
  rintro rfl
  exact h (List.mem_map.mpr ⟨column, hcolumn, rfl⟩)

theorem exists_lookup_of_mem {columns : List (String × String)} {name : String}
    (h : name ∈ columns.map Prod.fst) : ∃ value, columns.lookup name = some value := by
  cases hl : columns.lookup name with
  | some value => exact ⟨value, rfl⟩
  | none =>
    obtain ⟨column, hcolumn, rfl⟩ := List.mem_map.mp h
    have := List.lookup_eq_none_iff.mp hl column hcolumn
    simp at this

theorem eq_take_append_of_getElem? {columns : List (String × String)} {i : Nat}
    {column : String × String} (hi : columns[i]? = some column) :
    columns = columns.take i ++ column :: columns.drop (i + 1) := by
  obtain ⟨hlt, hget⟩ := List.getElem?_eq_some_iff.mp hi
  rw [← hget, ← List.drop_eq_getElem_cons hlt, List.take_append_drop]

/-- Under an unrepeated name stands the value at its position. -/
theorem lookup_of_getElem? {columns : List (String × String)}
    (hu : Unrepeated (columns.map Prod.fst)) {i : Nat} {c : Column} {value : String}
    (hi : columns[i]? = some (c.name, value)) : columns.lookup c.name = some value := by
  have hnew : c.name ∉ (columns.take i).map Prod.fst := by
    intro hmem
    rw [List.map_take] at hmem
    exact hu i c (repeatsAt_iff.mpr ⟨by rw [List.getElem?_map, hi]; rfl, hmem⟩)
  rw [eq_take_append_of_getElem? hi, List.lookup_append, lookup_eq_none_of_not_mem hnew,
    List.lookup_cons_self]
  rfl

/-! ### The visit from left to right -/

/-- **Visiting columns of which none is repeated** finds under each name its first value. -/
theorem collect_append (before : List (String × String)) :
    Unrepeated (before.map Prod.fst) → ∀ rest,
    collect none none (before ++ rest) =
      collect (before.lookup Column.instruction.name) (before.lookup Column.description.name)
        rest := by
  induction before using List.reverseRecOn with
  | nil => intro _ rest; rfl
  | append_singleton before column ih =>
    intro h rest
    obtain ⟨name, value⟩ := column
    rw [List.map_append] at h
    obtain ⟨hu, hnew⟩ := h.of_concat
    rw [List.append_assoc, List.singleton_append, ih hu, List.lookup_append, List.lookup_append,
      List.lookup_singleton, List.lookup_singleton, collect]
    cases hc : Column.ofName? name with
    | none =>
      have hne : ∀ c : Column, c.name ≠ name := fun c heq => by
        rw [ofName?_eq_some_iff.mpr heq.symm] at hc
        cases hc
      simp [hne]
    | some c =>
      obtain rfl := ofName?_eq_some_iff.mp hc
      have hnone := lookup_eq_none_of_not_mem (hnew c rfl)
      cases c with
      | instruction =>
        simp [hnone, show Column.description.name ≠ Column.instruction.name by decide]
      | description =>
        simp [hnone, show Column.instruction.name ≠ Column.description.name by decide]

/-- The visit stops at the first name that is repeated. -/
theorem collect_of_repeated {before after : List (String × String)} {c : Column} {value : String}
    (hu : Unrepeated (before.map Prod.fst)) (hmem : c.name ∈ before.map Prod.fst) :
    collect none none (before ++ (c.name, value) :: after) = .error (.duplicateColumn c) := by
  obtain ⟨earlier, hlookup⟩ := exists_lookup_of_mem hmem
  rw [collect_append before hu, collect, ofName?_name]
  cases c with
  | instruction => simp [hlookup]
  | description => simp [hlookup]

theorem collect_of_unrepeated {columns : List (String × String)}
    (hu : Unrepeated (columns.map Prod.fst)) :
    collect none none columns = complete (columns.lookup Column.instruction.name)
      (columns.lookup Column.description.name) := by
  have h := collect_append columns hu []
  rwa [List.append_nil, collect] at h

/-! ### A row and its entry -/

section Row

variable {names row : List String} {x : Except RowError Entry}

theorem map_fst_zip (h : names.length = row.length) : (names.zip row).map Prod.fst = names :=
  List.map_fst_zip (Nat.le_of_eq h)

theorem exists_field (h : names.length = row.length) {i : Nat} {name : String}
    (hi : names[i]? = some name) : ∃ value, row[i]? = some value :=
  ⟨_, List.getElem?_eq_getElem (h ▸ (List.getElem?_eq_some_iff.mp hi).1)⟩

/-- What `EntryOf` says of a row is what the visit makes of it. -/
theorem EntryOf.eq (h : EntryOf names row x) : entryOfRow names row = x := by
  cases h with
  | unequalLengths h => rw [entryOfRow, if_neg h]
  | @repeated i c h hi hfirst =>
    obtain ⟨hic, hmem⟩ := repeatsAt_iff.mp hi
    obtain ⟨value, hvalue⟩ := exists_field h hic
    have hbefore : ((names.zip row).take i).map Prod.fst = names.take i := by
      rw [List.map_take, map_fst_zip h]
    have hcolumn : (names.zip row)[i]? = some (c.name, value) :=
      List.getElem?_zip_eq_some.mpr ⟨hic, hvalue⟩
    rw [entryOfRow, if_pos h, eq_take_append_of_getElem? hcolumn]
    exact collect_of_repeated (hbefore ▸ unrepeated_take hfirst) (hbefore ▸ hmem)
  | noInstruction h hu hmissing =>
    rw [← map_fst_zip h] at hu hmissing
    rw [entryOfRow, if_pos h, collect_of_unrepeated hu, lookup_eq_none_of_not_mem hmissing, complete]
  | noDescription h hu hpresent hmissing =>
    rw [← map_fst_zip h] at hu hpresent hmissing
    obtain ⟨mnemonic, hmnemonic⟩ := exists_lookup_of_mem hpresent
    rw [entryOfRow, if_pos h, collect_of_unrepeated hu, hmnemonic,
      lookup_eq_none_of_not_mem hmissing, complete]
  | entry h hu hi hmnemonic hj hdescription =>
    rw [← map_fst_zip h] at hu
    rw [entryOfRow, if_pos h, collect_of_unrepeated hu,
      lookup_of_getElem? hu (List.getElem?_zip_eq_some.mpr ⟨hi, hmnemonic⟩),
      lookup_of_getElem? hu (List.getElem?_zip_eq_some.mpr ⟨hj, hdescription⟩), complete]

theorem exists_entryOf (names row : List String) : ∃ x, EntryOf names row x := by
  by_cases h : names.length = row.length
  · rcases unrepeated_or_first names with hu | ⟨i, c, hi, hfirst⟩
    · by_cases hm : Column.instruction.name ∈ names
      · by_cases hd : Column.description.name ∈ names
        · obtain ⟨i, hi⟩ := List.mem_iff_getElem?.mp hm
          obtain ⟨j, hj⟩ := List.mem_iff_getElem?.mp hd
          obtain ⟨mnemonic, hmnemonic⟩ := exists_field h hi
          obtain ⟨description, hdescription⟩ := exists_field h hj
          exact ⟨_, .entry h hu hi hmnemonic hj hdescription⟩
        · exact ⟨_, .noDescription h hu hm hd⟩
      · exact ⟨_, .noInstruction h hu hm⟩
    · exact ⟨_, .repeated h hi hfirst⟩
  · exact ⟨_, .unequalLengths h⟩

/-- **The rule and the visit agree.** -/
theorem entryOfRow_eq_iff : entryOfRow names row = x ↔ EntryOf names row x := by
  constructor
  · rintro rfl
    obtain ⟨x, hx⟩ := exists_entryOf names row
    rwa [hx.eq]
  · exact EntryOf.eq

theorem existsUnique_entryOf (names row : List String) : ∃! x, EntryOf names row x :=
  ⟨entryOfRow names row, entryOfRow_eq_iff.mp rfl, fun _ hx => hx.eq.symm⟩

end Row

/-! ### All rows -/

theorem headers_decodeRows (rows : List (List String)) :
    (decodeRows rows).headers = rows.head?.getD [] := by
  cases rows with
  | nil => rfl
  | cons headers rows => rfl

theorem entries_decodeRows (rows : List (List String)) :
    (decodeRows rows).entries = rows.tail.map (entryOfRow (decodeRows rows).headers) := by
  cases rows with
  | nil => rfl
  | cons headers rows => rfl

/-- **Row by row.** The first row of a text names the columns, and each further row has one place
among the entries: its own. There stands what `EntryOf` says of the names and of that row, which is
one thing, whatever the other rows are. -/
theorem entries_row_by_row (text : String) :
    (decode text).headers = (readRows text.toList).head?.getD [] ∧
      (decode text).entries.length = (readRows text.toList).tail.length ∧
      (∀ (i : Nat) (x : Except RowError Entry), (decode text).entries[i]? = some x ↔
        ∃ row, (readRows text.toList).tail[i]? = some row ∧
          EntryOf (decode text).headers row x) ∧
      ∀ names row, ∃! x, EntryOf names row x := by
  refine ⟨headers_decodeRows _, ?_, fun i x => ?_, existsUnique_entryOf⟩
  · rw [decode, entries_decodeRows, List.length_map]
  · rw [decode, entries_decodeRows, List.getElem?_map, Option.map_eq_some_iff]
    exact exists_congr fun row => and_congr_right fun _ => entryOfRow_eq_iff

example : (decode "Description,x,Instruction\nadd,,ADC\nand\n,,\n").entries =
    [.ok ⟨"ADC", "add"⟩, .error (.unequalLengths 3 1), .ok ⟨"", ""⟩] := by decide

end Csv
end InstructionSheet
