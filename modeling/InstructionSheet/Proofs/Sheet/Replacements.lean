/-
# The account of replacements

Every replacement is reported with the description that goes and the one that comes. An insertion
that finds its mnemonic reports just that, and any other adds a row and reports nothing
(`Sheet.Indexed.insert_account`). So the entries inserted are as many as the events reported and
the rows added together (`Sheet.Indexed.length_events_insertAll`).

For one mnemonic the reports make a chain. It has certain descriptions in turn, the one in the sheet
and then those of the entries that bring it, and what is reported are the neighbours among them
(`Sheet.Indexed.changes_insertAll`): a description that goes is the one that came before.

Key definitions: `Log.changes`, `Sheet.insertions`, `Sheet.inTurn`.
Key theorems: `Sheet.Indexed.insert_account`, `Sheet.Indexed.changes_insertAll`,
`Sheet.log_accounts_for_replacements`.
-/
import InstructionSheet.Proofs.Sheet.History
import InstructionSheet.Proofs.Text.Lines

namespace InstructionSheet

/-- What a log tells of one mnemonic: for each of its replacements, in order, the description that
went and the one that came. -/
def Log.changes (m : String) (log : List Event) : List (String × String) :=
  log.filterMap fun
    | .replaced m' old new => if m' = m then some (old, new) else none
    | _ => none

theorem Log.changes_append (m : String) (log log' : List Event) :
    changes m (log ++ log') = changes m log ++ changes m log' := List.filterMap_append

namespace Sheet

/-- The insertions of entries, each into the sheet that those before it lead to. -/
def insertions (s : Sheet) (es : List Entry) : List Insertion :=
  es.mapIdx fun i e => (s.insertAll (es.take i)).1.insert e

theorem insertions_cons (s : Sheet) (e : Entry) (es : List Entry) :
    s.insertions (e :: es) = s.insert e :: (s.insert e).sheet.insertions es := by
  rw [insertions, List.mapIdx_cons]
  rfl

theorem events_insertAll (s : Sheet) (es : List Entry) :
    (s.insertAll es).2 = (s.insertions es).flatMap Insertion.events := by
  induction es generalizing s with
  | nil => rfl
  | cons e es ih => rw [insertAll, insertions_cons, List.flatMap_cons, ih]

/-- The descriptions that a mnemonic has in turn while entries are inserted: the one in the sheet,
if it is found there, and then one for each entry that brings it. -/
def inTurn (s : Sheet) (m : String) (es : List Entry) : List String :=
  (s.get? m).toList ++ (es.filter fun e => e.mnemonic = m).map Entry.description

/-- The first of them was there before, or else it came with the first entry that brings the
mnemonic. -/
theorem head?_inTurn (s : Sheet) (m : String) (es : List Entry) :
    (s.inTurn m es).head? =
      (s.get? m).or ((es.find? fun e => e.mnemonic = m).map Entry.description) := by
  rw [inTurn, List.head?_append, List.head?_map, List.head?_filter]
  cases s.get? m <;> rfl

namespace Indexed

variable {s : Sheet}

/-! ### One insertion -/

/-- **What an insertion reports.** A mnemonic that is not found gets a row, and nothing is reported.
One that is found keeps its row, and the description found is reported with the new one. -/
theorem insert_account (h : s.Indexed) (e : Entry) :
    (s.get? e.mnemonic = none ∧ (s.insert e).replaced = false ∧ (s.insert e).events = [] ∧
        (s.insert e).sheet.size = s.size + 1) ∨
      ∃ old, s.get? e.mnemonic = some old ∧ (s.insert e).replaced = true ∧
        (s.insert e).events = [.replaced e.mnemonic old e.description] ∧
        (s.insert e).sheet.size = s.size := by
  rcases h.insert_cases e with ⟨hnew, hins⟩ | ⟨i, old, hrow, hins⟩
  · left
    rw [hins]
    refine ⟨h.get?_of_not_mem hnew, rfl, rfl, ?_⟩
    rw [← length_rows, rows_append, List.length_append, length_rows]
    rfl
  · right
    rw [hins]
    refine ⟨old, h.get?_of_mem (List.mem_of_getElem? hrow), rfl, rfl, ?_⟩
    rw [← length_mnemonics, mnemonics_describe, length_mnemonics]

theorem changes_insert (h : s.Indexed) (e : Entry) (m : String) :
    Log.changes m (s.insert e).events =
      if e.mnemonic = m then (s.get? m).toList.map fun old => (old, e.description) else [] := by
  rcases h.insert_account e with ⟨hget, -, hevents, -⟩ | ⟨old, hget, -, hevents, -⟩
  · by_cases hm : e.mnemonic = m
    · subst hm
      rw [if_pos rfl, hevents, hget]
      rfl
    · rw [if_neg hm, hevents]
      rfl
  · by_cases hm : e.mnemonic = m
    · subst hm
      simp [hevents, hget, Log.changes]
    · simp [hevents, hm, Log.changes]

/-- After an insertion its mnemonic goes on with the new description, any other with what it had. -/
theorem inTurn_cons (h : s.Indexed) (m : String) (e : Entry) (es : List Entry) :
    s.inTurn m (e :: es) =
      (if e.mnemonic = m then (s.get? m).toList else []) ++ (s.insert e).sheet.inTurn m es := by
  by_cases hm : e.mnemonic = m
  · simp [inTurn, h.get?_insert, hm]
  · simp [inTurn, h.get?_insert, hm]

theorem length_events_insert (h : s.Indexed) (e : Entry) :
    (s.insert e).events.length + (s.insert e).sheet.size = s.size + 1 := by
  rcases h.insert_account e with ⟨-, -, hevents, hsize⟩ | ⟨old, -, -, hevents, hsize⟩
  · rw [hevents, hsize, List.length_nil, Nat.zero_add]
  · rw [hevents, hsize, List.length_singleton, Nat.add_comm]

/-! ### A run of insertions -/

/-- **What is reported of a mnemonic are the neighbours among the descriptions it has in turn.** -/
theorem changes_insertAll (h : s.Indexed) (m : String) (es : List Entry) :
    Log.changes m (s.insertAll es).2 = (s.inTurn m es).zip (s.inTurn m es).tail := by
  induction es generalizing s with
  | nil =>
    rw [inTurn, List.filter_nil, List.map_nil, List.append_nil]
    cases s.get? m <;> rfl
  | cons e es ih =>
    rw [Sheet.insertAll, Log.changes_append, h.changes_insert, ih (h.insert e), h.inTurn_cons]
    by_cases hm : e.mnemonic = m
    · rw [if_pos hm, if_pos hm]
      obtain ⟨later, hlater⟩ : ∃ later, (s.insert e).sheet.inTurn m es = e.description :: later := by
        rw [inTurn, h.get?_insert, if_pos hm]
        exact ⟨_, rfl⟩
      rw [hlater]
      cases s.get? m <;> rfl
    · rw [if_neg hm, if_neg hm]
      rfl

theorem get?_insertAll_inTurn (h : s.Indexed) (m : String) (es : List Entry) :
    (s.insertAll es).1.get? m = (s.inTurn m es).getLast? := by
  rw [h.get?_insertAll, inTurn, List.getLast?_append, List.getLast?_map, latest?]
  cases s.get? m <;> rfl

/-- **Each entry is reported or adds a row.** -/
theorem length_events_insertAll (h : s.Indexed) (es : List Entry) :
    (s.insertAll es).2.length + (s.insertAll es).1.size = s.size + es.length := by
  induction es generalizing s with
  | nil => exact Nat.zero_add _
  | cons e es ih =>
    have hlog : (s.insertAll (e :: es)).2.length =
        (s.insert e).events.length + ((s.insert e).sheet.insertAll es).2.length := by
      rw [Sheet.insertAll, List.length_append]
    calc (s.insertAll (e :: es)).2.length + (s.insertAll (e :: es)).1.size
        = (s.insert e).events.length + (((s.insert e).sheet.insertAll es).2.length +
            ((s.insert e).sheet.insertAll es).1.size) := by rw [hlog, Nat.add_assoc]; rfl
      _ = (s.insert e).events.length + (s.insert e).sheet.size + es.length := by
          rw [ih (h.insert e), Nat.add_assoc]
      _ = s.size + (e :: es).length := by
          rw [h.length_events_insert, List.length_cons, Nat.add_assoc, Nat.add_comm 1]

end Indexed

/-! ### Neighbours make a chain -/

theorem isChain_neighbours : ∀ ds : List String,
    (ds.zip ds.tail).IsChain fun change next => change.2 = next.1
  | [] => .nil
  | [_] => .nil
  | [_, _] => .singleton _
  | _ :: d :: d' :: ds => .cons_cons rfl (isChain_neighbours (d :: d' :: ds))

theorem head?_of_neighbours {ds : List String} {change : String × String}
    (h : change ∈ (ds.zip ds.tail).head?) : ds.head? = some change.1 := by
  match ds with
  | [] => cases h
  | [_] => cases h
  | d :: d' :: ds =>
    obtain rfl : (d, d') = change := Option.some.inj h
    rfl

theorem getLast?_of_neighbours : ∀ {ds : List String} {change : String × String},
    change ∈ (ds.zip ds.tail).getLast? → ds.getLast? = some change.2
  | [], _, h => by cases h
  | [_], _, h => by cases h
  | [d, d'], change, h => by
    obtain rfl : (d, d') = change := Option.some.inj h
    rfl
  | d :: d' :: d'' :: ds, _, h => by
    rw [List.getLast?_cons_cons]
    exact @getLast?_of_neighbours (d' :: d'' :: ds) _ h

/-! ### Levels -/

theorem level_of_mem_insert {s : Sheet} {e : Entry} {event : Log.Event}
    (h : event ∈ (s.insert e).events) : event.level = .warn := by
  unfold insert at h
  split at h
  · rw [List.mem_singleton.mp h]
    rfl
  · cases h

theorem level_of_mem_insertAll {s : Sheet} {es : List Entry} {event : Log.Event}
    (h : event ∈ (s.insertAll es).2) : event.level = .warn := by
  induction es generalizing s with
  | nil => cases h
  | cons e es ih =>
    rw [insertAll] at h
    rcases List.mem_append.mp h with h | h
    · exact level_of_mem_insert h
    · exact ih h

theorem levels_insertAll (s : Sheet) (es : List Entry) :
    (s.insertAll es).2.map Log.Event.level = List.replicate (s.insertAll es).2.length .warn := by
  rw [List.eq_replicate_iff]
  refine ⟨List.length_map _, fun level hlevel => ?_⟩
  obtain ⟨event, hevent, rfl⟩ := List.mem_map.mp hlevel
  exact level_of_mem_insertAll hevent

theorem level_of_mem_parse {text : String} {event : Log.Event} (h : event ∈ (parse text).2) :
    event.level ≠ .info := by
  rw [parse] at h
  rcases List.mem_append.mp h with h | h
  · rw [level_of_mem_insertAll h]
    decide
  · rw [List.mem_singleton.mp h]
    simp [Log.Event.level]

/-! ### Insertions and reading -/

/-- The events of reading a text are those of inserting its lines, and one more at the end. -/
theorem events_parse (text : String) :
    (parse text).2 = (empty.insertAll ((lines text).map Entry.ofLine)).2 ++
      [.parsed (lines text).length (parse text).1.size] := by
  rw [parse]

/-- **The log accounts for every replacement.** Entries inserted into a built sheet are reported one
after the other. The one in place `i` meets the sheet that those before it lead to: either its
mnemonic is not found there, no description is replaced and nothing is reported, or one is found and
replaced, and one warning is given, with the description found and the new one. For each mnemonic the
first description that goes is the one it had to begin with, each later one is the one that came
before it, and the one that comes last is found afterwards.

Reading a text gives the warnings of its lines and then one event for the whole, with the number of
lines and of rows; there are as many warnings as lines more than rows. -/
theorem log_accounts_for_replacements :
    (∀ s : Sheet, s.Built → ∀ es : List Entry,
      (s.insertAll es).2 = (s.insertions es).flatMap Insertion.events ∧
        (∀ (i : Nat) (e : Entry), es[i]? = some e →
          let before := (s.insertAll (es.take i)).1
          (s.insertions es)[i]? = some (before.insert e) ∧
            (before.get? e.mnemonic = none ∧ (before.insert e).replaced = false ∧
                (before.insert e).events = [] ∨
              ∃ old, before.get? e.mnemonic = some old ∧ (before.insert e).replaced = true ∧
                (before.insert e).events = [.replaced e.mnemonic old e.description])) ∧
        (∀ event ∈ (s.insertAll es).2, event.level = .warn) ∧
        ∀ m : String,
          let changes := Log.changes m (s.insertAll es).2
          (∀ change ∈ changes.head?,
              (s.get? m).or ((es.find? fun e => e.mnemonic = m).map Entry.description) =
                some change.1) ∧
            (changes.IsChain fun change next => change.2 = next.1) ∧
            ∀ change ∈ changes.getLast?, (s.insertAll es).1.get? m = some change.2) ∧
      ∀ text : String,
        let warnings := (empty.insertAll ((lines text).map Entry.ofLine)).2
        let lineCount := 1 + (Text.trim text.toList).count '\n'
        (parse text).2 = warnings ++ [.parsed lineCount (parse text).1.size] ∧
          (parse text).2.map Log.Event.level = List.replicate warnings.length .warn ++ [.debug] ∧
          warnings.length + (parse text).1.size = lineCount := by
  refine ⟨fun s hs es => ?_, fun text => ?_⟩
  · have h := hs.indexed
    refine ⟨events_insertAll s es, fun i e hi => ⟨?_, ?_⟩, fun _ => level_of_mem_insertAll,
      fun m => ?_⟩
    · rw [insertions, List.getElem?_mapIdx, hi]
      rfl
    · rcases (h.insertAll (es.take i)).insert_account e with
        ⟨hget, hreplaced, hevents, -⟩ | ⟨old, hget, hreplaced, hevents, -⟩
      · exact .inl ⟨hget, hreplaced, hevents⟩
      · exact .inr ⟨old, hget, hreplaced, hevents⟩
    · rw [h.changes_insertAll, ← head?_inTurn, h.get?_insertAll_inTurn]
      exact ⟨fun _ => head?_of_neighbours, isChain_neighbours _, fun _ => getLast?_of_neighbours⟩
  · have hlines : (lines text).length = 1 + (Text.trim text.toList).count '\n' := by
      rw [lines, Text.length_pieces, Nat.add_comm]
    have hlength := indexed_empty.length_events_insertAll ((lines text).map Entry.ofLine)
    rw [← parse_sheet, List.length_map, hlines] at hlength
    refine ⟨?_, ?_, hlength.trans (Nat.zero_add _)⟩
    · rw [events_parse, hlines]
    · rw [events_parse, List.map_append, levels_insertAll]
      rfl

/-- A mnemonic that the sheet has is replaced twice, the second time by the same description, and
one that comes only with the entries is replaced between. -/
theorem log_accounts_for_replacements_interleaved :
    let s := (empty.insertAll [⟨"LDA", "one"⟩]).1
    let es : List Entry := [⟨"LDX", "x"⟩, ⟨"LDA", "two"⟩, ⟨"LDX", "y"⟩, ⟨"LDA", "two"⟩]
    s.Built ∧
      (s.insertAll es).2 = [.replaced "LDA" "one" "two", .replaced "LDX" "x" "y",
        .replaced "LDA" "two" "two"] ∧
      (∃ inserted, (s.insertions es)[3]? = some inserted ∧ inserted.replaced = true ∧
        inserted.events = [.replaced "LDA" "two" "two"]) ∧
      (s.get? "LDA").or (some "two") = some "one" ∧
      (s.insertAll es).1.get? "LDA" = some "two" := by
  intro s es
  have hs : s.Built := ⟨_, rfl⟩
  have hlog : (s.insertAll es).2 = [.replaced "LDA" "one" "two", .replaced "LDX" "x" "y",
      .replaced "LDA" "two" "two"] := by
    simp [s, es, insertAll, insert, empty, append, describe, Std.ExtHashMap.getElem_insert]
  have hchanges : Log.changes "LDA" (s.insertAll es).2 = [("one", "two"), ("two", "two")] := by
    rw [hlog]
    decide
  have hfound : (s.insertAll (es.take 3)).1.get? "LDA" = some "two" := by
    rw [hs.indexed.get?_insertAll, show latest? (es.take 3) "LDA" = some "two" by decide]
    rfl
  obtain ⟨-, hplaces, -, hchains⟩ := log_accounts_for_replacements.1 s hs es
  obtain ⟨hplace, hreport⟩ := hplaces 3 ⟨"LDA", "two"⟩ rfl
  obtain ⟨hfirst, -, hlast⟩ := hchains "LDA"
  rw [hchanges] at hfirst hlast
  refine ⟨hs, hlog, ⟨_, hplace, ?_⟩, hfirst ("one", "two") rfl, hlast ("two", "two") rfl⟩
  rcases hreport with ⟨hnone, -, -⟩ | ⟨old, hget, hreplaced, hevents⟩
  · rw [hfound] at hnone
    cases hnone
  · rw [hfound] at hget
    obtain rfl : "two" = old := Option.some.inj hget
    exact ⟨hreplaced, hevents⟩

end Sheet
end InstructionSheet
