/-
# Reading a text that breaks off

A CSV text may have been written in part only. Wherever it breaks off, the rows whose row end is
still there read as they were written, and of the row it breaks off in the reader sees nothing, or
its first field or a part of that and no second, or its mnemonic and a beginning of its description
(`Scan.tornRow_of_prefix`). A cut between the two quotes of a doubled quote is no exception: the
first of them then closes the field. So a sheet's torn text gives the sheet's first rows and at most
one more entry, and that one is an error or agrees with the row that was torn (`Sheet.decode_torn`).

Key definitions: `Csv.TornRow`, `Csv.closedRows`.
Key theorems: `Scan.tornRow_of_prefix`, `Sheet.decode_torn`.
-/
import InstructionSheet.Proofs.Csv.RoundTrip

namespace InstructionSheet
namespace Csv

/-- What can be read of the row of `e` when its text breaks off. -/
inductive TornRow (e : Entry) : List (List String) → Prop
  | nothing : TornRow e []
  | firstField (x : String) : TornRow e [[x]]
  | bothFields {d : List Char} (h : d <+: e.description.toList) :
    TornRow e [[e.mnemonic, String.ofList d]]

/-- The number of rows whose row end lies within the first `n` characters of their CSV text. -/
def closedRows (rows : List Entry) (n : Nat) : Nat :=
  (List.range rows.length).countP fun k => decide ((encode (rows.take (k + 1))).length ≤ n)

/-! ### Where a text can break off -/

theorem cut_append {α : Type} {p a b : List α} (h : p <+: a ++ b) :
    p <+: a ∨ ∃ q, p = a ++ q ∧ q <+: b := by
  rcases Nat.le_total p.length a.length with hl | hl
  · exact .inl (List.prefix_of_prefix_length_le h (List.prefix_append a b) hl)
  · obtain ⟨q, rfl⟩ := List.prefix_of_prefix_length_le (List.prefix_append a b) h hl
    exact .inr ⟨q, rfl, (List.prefix_append_right_inj a).1 h⟩

theorem cut_flatMap {α β : Type} (f : α → List β) : ∀ (es : List α) (p : List β),
    p <+: es.flatMap f → p = es.flatMap f ∨
      ∃ before e after q, es = before ++ e :: after ∧ q <+: f e ∧ q ≠ f e ∧
        p = before.flatMap f ++ q
  | [], p, h => .inl (List.prefix_nil.mp h)
  | e :: es, p, h => by
    rcases cut_append h with h | ⟨q, rfl, hq⟩
    · by_cases hne : p = f e
      · rcases cut_flatMap f es [] List.nil_prefix with h' | ⟨b, e', a, q, hes, hq, hne', h'⟩
        · exact .inl (by rw [hne, List.flatMap_cons, ← h', List.append_nil])
        · refine .inr ⟨e :: b, e', a, q, by rw [hes]; rfl, hq, hne', ?_⟩
          rw [List.flatMap_cons, List.append_assoc, ← h', List.append_nil, hne]
      · exact .inr ⟨[], e, es, p, rfl, h, hne, rfl⟩
    · rcases cut_flatMap f es q hq with h' | ⟨b, e', a, r, hes, hr, hne, h'⟩
      · exact .inl (by rw [h', List.flatMap_cons])
      · refine .inr ⟨e :: b, e', a, r, by rw [hes]; rfl, hr, hne, ?_⟩
        rw [h', List.flatMap_cons, List.append_assoc]

/-! ### Reading a torn field and a torn row -/

namespace Scan

theorem rows_torn_quoted : ∀ (f acc q : List Char) (row : List String),
    q <+: doubleQuotes f ++ ['"'] →
    ∃ d, d <+: f ∧
      rows ⟨.quoted, acc, row⟩ q = [(String.ofList (acc.reverse ++ d) :: row).reverse]
  | f, acc, [], row, _ => ⟨[], List.nil_prefix, by simp [rows, finish, wholeRow]⟩
  | [], acc, c :: q, row, h => by
    obtain ⟨rfl, hq⟩ := List.cons_prefix_cons.mp h
    obtain rfl := List.prefix_nil.mp hq
    refine ⟨[], List.nil_prefix, ?_⟩
    rw [rows_cons_of_step (step_quote acc row)]
    simp [rows, finish, wholeRow]
  | x :: f, acc, c :: q, row, h => by
    by_cases hx : x = '"'
    · subst hx
      rw [doubleQuotes, if_pos rfl, List.cons_append, List.cons_append] at h
      obtain ⟨rfl, htail⟩ := List.cons_prefix_cons.mp h
      rw [rows_cons_of_step (step_quote acc row)]
      rcases List.prefix_cons_iff.mp htail with rfl | ⟨q', rfl, hq⟩
      · -- of the pair only the first quote is left, which looks like a closing one
        exact ⟨[], List.nil_prefix, by simp [rows, finish, wholeRow]⟩
      · obtain ⟨d, hd, hrows⟩ := rows_torn_quoted f ('"' :: acc) q' row hq
        refine ⟨'"' :: d, List.cons_prefix_cons.mpr ⟨rfl, hd⟩, ?_⟩
        rw [rows_cons_of_step (step_second_quote acc row), hrows]
        simp
    · rw [doubleQuotes, if_neg hx, List.cons_append] at h
      obtain ⟨rfl, htail⟩ := List.cons_prefix_cons.mp h
      obtain ⟨d, hd, hrows⟩ := rows_torn_quoted f (c :: acc) q row htail
      refine ⟨c :: d, List.cons_prefix_cons.mpr ⟨rfl, hd⟩, ?_⟩
      rw [rows_cons_of_step (step_quoted hx acc row), hrows]
      simp

/-- Torn anywhere, a written field gives one of its beginnings, and its row ends with it; only
before a row a field of which nothing is left gives no row. -/
theorem rows_torn_field (m : Mode) (hm : m.opensField = true) {f p : List Char}
    (hp : p <+: encodeField f) (row : List String) :
    (m = .rowStart ∧ p = []) ∨
      ∃ d, d <+: f ∧ rows ⟨m, [], row⟩ p = [(String.ofList d :: row).reverse] := by
  unfold encodeField at hp
  cases hn : needsQuotes f with
  | false =>
    rw [hn, if_neg Bool.false_ne_true] at hp
    -- a beginning of a field that needs no quotes needs none either
    have hn' : needsQuotes p = false := by
      obtain ⟨q, rfl⟩ := hp
      unfold needsQuotes at hn ⊢
      rw [List.any_append, Bool.or_eq_false_iff] at hn
      exact hn.1
    obtain ⟨m', -, h0, hread⟩ := reads_bare hn' m row hm
    have hrows := hread []
    rw [List.append_nil] at hrows
    by_cases hm' : m' = .rowStart
    · exact .inl (h0 hm')
    · refine .inr ⟨p, hp, ?_⟩
      have hfin : finish ⟨m', p.reverse, row⟩ = some (wholeRow ⟨m', p.reverse, row⟩) := by
        cases m' with
        | rowStart => exact absurd rfl hm'
        | _ => rfl
      rw [hrows, rows, hfin]
      simp [wholeRow]
  | true =>
    rw [hn, if_pos rfl] at hp
    rcases List.prefix_cons_iff.mp hp with rfl | ⟨q, rfl, hq⟩
    · cases m with
      | rowStart => exact .inl ⟨rfl, rfl⟩
      | fieldStart => exact .inr ⟨[], List.nil_prefix, by simp [rows, finish, wholeRow]⟩
      | _ => simp [Mode.opensField] at hm
    · obtain ⟨d, hd, hrows⟩ := rows_torn_quoted f [] q row hq
      exact .inr ⟨d, hd, by rw [rows_openQuote hm, hrows]; simp⟩

/-- **A torn row.** The text of a row, broken off before its end, gives nothing, a field alone, or
the mnemonic and a beginning of the description. -/
theorem tornRow_of_prefix (e : Entry) {p : List Char} (hp : p <+: encodeRow e)
    (hne : p ≠ encodeRow e) : TornRow e (start.rows p) := by
  unfold encodeRow at hp hne
  rcases cut_append hp with hp | ⟨q, rfl, hq⟩
  · -- inside the mnemonic
    rcases rows_torn_field .rowStart rfl hp [] with ⟨-, rfl⟩ | ⟨d, -, hrows⟩
    · exact .nothing
    · rw [start, hrows]
      exact .firstField _
  rcases List.prefix_cons_iff.mp hq with rfl | ⟨r, rfl, hr⟩
  · -- between the mnemonic and the comma
    rcases rows_torn_field .rowStart rfl (List.prefix_refl _) [] with
      ⟨-, hnil⟩ | ⟨d, -, hrows⟩
    · rw [List.append_nil, hnil]
      exact .nothing
    · rw [List.append_nil, start, hrows]
      exact .firstField _
  rw [start, reads_comma (reads_encodeField _) rfl, String.ofList_toList]
  rcases cut_append hr with hr | ⟨ends, rfl, hends⟩
  · -- inside the description
    rcases rows_torn_field .fieldStart rfl hr [e.mnemonic] with ⟨h, -⟩ | ⟨d, hd, hrows⟩
    · exact absurd h (by decide)
    · rw [hrows]
      exact .bothFields hd
  rcases List.prefix_cons_iff.mp hends with rfl | ⟨lf, rfl, hlf⟩
  · -- after the description
    rw [List.append_nil]
    rcases rows_torn_field .fieldStart rfl (List.prefix_refl _) [e.mnemonic] with
      ⟨h, -⟩ | ⟨d, hd, hrows⟩
    · exact absurd h (by decide)
    · rw [hrows]
      exact .bothFields hd
  rcases List.prefix_cons_iff.mp hlf with rfl | ⟨behind, rfl, hno⟩
  · -- between CR and LF
    rw [reads_rowEnd (reads_encodeField _) (by decide)]
    exact .bothFields (List.prefix_refl _)
  · -- nothing is missing
    rw [List.prefix_nil.mp hno] at hne
    exact absurd rfl hne

end Scan

/-! ### The rows that are closed -/

theorem length_encode_take_le (rows : List Entry) {i j : Nat} (h : i ≤ j) :
    (encode (rows.take i)).length ≤ (encode (rows.take j)).length := by
  obtain ⟨more, hmore⟩ := List.take_prefix_take_left (l := rows) h
  rw [← hmore, encode_append, List.length_append]
  exact Nat.le_add_right _ _

theorem countP_range_lt {j n : Nat} (h : j ≤ n) :
    (List.range n).countP (fun k => decide (k < j)) = j := by
  obtain ⟨m, rfl⟩ := Nat.exists_eq_add_of_le h
  rw [List.range_add, List.countP_append, List.countP_map,
    List.countP_eq_length.mpr fun k hk => by simpa using List.mem_range.mp hk,
    List.countP_eq_zero.mpr fun k _ => by simp]
  simp

/-- If the text of the first `j` rows is within `n` characters and that of one more is not, then `j`
rows are closed. -/
theorem closedRows_eq {rows : List Entry} {n j : Nat} (hj : j ≤ rows.length)
    (hin : 0 < j → (encode (rows.take j)).length ≤ n)
    (hout : j < rows.length → n < (encode (rows.take (j + 1))).length) :
    closedRows rows n = j := by
  refine Eq.trans ?_ (countP_range_lt hj)
  refine List.countP_congr fun k hk => ?_
  have hk := List.mem_range.mp hk
  simp only [decide_eq_true_eq]
  constructor
  · intro hle
    rcases Nat.lt_or_ge k j with hkj | hkj
    · exact hkj
    · have h1 := hout (by omega)
      have h2 := length_encode_take_le rows (show j + 1 ≤ k + 1 by omega)
      omega
  · intro hkj
    have h1 := hin (by omega)
    have h2 := length_encode_take_le rows (show k + 1 ≤ j by omega)
    omega

/-! ### Decoding a torn text -/

theorem entries_of_tornRow {e : Entry} {rows : List (List String)} (h : TornRow e rows) :
    (decodeRows rows).entries = [] := by
  cases h <;> rfl

theorem tornRow_entries {e : Entry} {rows : List (List String)} (h : TornRow e rows) :
    (rows.map (entryOfRow (fieldsOf header))).length ≤ 1 ∧
      ∀ x ∈ rows.map (entryOfRow (fieldsOf header)), x = .error (.unequalLengths 2 1) ∨
        ∃ d, d <+: e.description.toList ∧ x = .ok ⟨e.mnemonic, String.ofList d⟩ := by
  cases h with
  | nothing => exact ⟨Nat.zero_le _, fun x hx => absurd hx List.not_mem_nil⟩
  | firstField f =>
    refine ⟨Nat.le_refl _, fun x hx => .inl ?_⟩
    rw [List.map_singleton, List.mem_singleton] at hx
    rw [hx]
    simp [entryOfRow, fieldsOf]
  | @bothFields d hd =>
    refine ⟨Nat.le_refl _, fun x hx => .inr ⟨d, hd, ?_⟩⟩
    rw [List.map_singleton, List.mem_singleton] at hx
    rw [hx]
    exact entryOfRow_fieldsOf ⟨e.mnemonic, String.ofList d⟩

/-- The first `n` characters of a CSV text are all of it, or end inside the row of an entry `e`. -/
theorem take_encode_cases (rows : List Entry) (n : Nat) :
    ((encode rows).length ≤ n ∧ (encode rows).take n = encode rows) ∨
    ∃ before e after q, header :: rows = before ++ e :: after ∧
      (encode rows).take n = before.flatMap encodeRow ++ q ∧ q <+: encodeRow e ∧ q ≠ encodeRow e ∧
      (before.flatMap encodeRow).length ≤ n ∧ n < ((before ++ [e]).flatMap encodeRow).length := by
  have hlen : ((encode rows).take n).length = min n (encode rows).length := List.length_take
  rcases cut_flatMap encodeRow (header :: rows) _ (List.take_prefix n (encode rows)) with
    hall | ⟨before, e, after, q, hes, hq, hne, hcut⟩
  · left
    have hall' : (encode rows).take n = encode rows := hall
    rw [hall'] at hlen
    exact ⟨by omega, hall'⟩
  · right
    have hshort : q.length < (encodeRow e).length :=
      Nat.lt_of_not_le fun h => hne (hq.eq_of_length_le h)
    have htotal : (encode rows).length = (before.flatMap encodeRow).length +
        ((encodeRow e).length + (after.flatMap encodeRow).length) := by
      rw [encode, hes, List.flatMap_append, List.flatMap_cons, List.length_append,
        List.length_append]
    have hcutlen := congrArg List.length hcut
    rw [hlen, List.length_append] at hcutlen
    refine ⟨before, e, after, q, hes, hcut, hq, hne, by omega, ?_⟩
    rw [List.flatMap_append, List.length_append, List.flatMap_singleton]
    omega

/-- **Decoding the first `n` characters of a CSV text**: the closed rows, and at most one entry
more, which is an error or agrees with the next row as far as that was written. -/
theorem entries_take_encode (rows : List Entry) (n : Nat) :
    ∃ further, (decode (String.ofList ((encode rows).take n))).entries =
        (rows.take (closedRows rows n)).map .ok ++ further ∧
      further.length ≤ 1 ∧
      ∀ x ∈ further, ∃ e, rows[closedRows rows n]? = some e ∧
        (x = .error (.unequalLengths 2 1) ∨
          ∃ d, d <+: e.description.toList ∧ x = .ok ⟨e.mnemonic, String.ofList d⟩) := by
  rw [decode, String.toList_ofList, readRows, dropMark_of_prefix (List.take_prefix n _)]
  rcases take_encode_cases rows n with
    ⟨hn, hall⟩ | ⟨before, e, after, q, hes, hcut, hq, hne, hin, hout⟩
  · -- the text is whole
    have hj : closedRows rows n = rows.length :=
      closedRows_eq (Nat.le_refl _) (fun _ => by rwa [List.take_length])
        (fun h => absurd h (Nat.lt_irrefl _))
    refine ⟨[], ?_, Nat.zero_le _, fun x hx => absurd hx List.not_mem_nil⟩
    rw [hall, rows_encode, decodeRows, map_entryOfRow_fieldsOf, hj, List.take_length, List.append_nil]
  have htorn := Scan.tornRow_of_prefix e hq hne
  cases before with
  | nil =>
    -- the header is torn
    obtain ⟨rfl, rfl⟩ : header = e ∧ rows = after := by simpa using hes
    have hj : closedRows rows n = 0 := by
      refine closedRows_eq (Nat.zero_le _) (fun h => absurd h (Nat.lt_irrefl _)) fun _ => ?_
      exact Nat.lt_of_lt_of_le hout (length_encode_take_le rows (Nat.zero_le 1))
    refine ⟨[], ?_, Nat.zero_le _, fun x hx => absurd hx List.not_mem_nil⟩
    rw [hcut, List.flatMap_nil, List.nil_append, entries_of_tornRow htorn, hj]
    rfl
  | cons e' before =>
    -- a row below the header is torn
    obtain ⟨rfl, rfl⟩ : header = e' ∧ rows = before ++ e :: after := by simpa using hes
    have hj : closedRows (before ++ e :: after) n = before.length := by
      refine closedRows_eq (by simp) (fun _ => ?_) fun _ => ?_
      · rwa [List.take_left]
      · rw [List.take_length_add_append]
        exact hout
    refine ⟨(Scan.start.rows q).map (entryOfRow (fieldsOf header)), ?_, (tornRow_entries htorn).1,
      fun x hx => ⟨e, ?_, (tornRow_entries htorn).2 x hx⟩⟩
    · rw [hcut, Scan.rows_flatMap_encodeRow, List.map_cons, List.cons_append, decodeRows,
        List.map_append, map_entryOfRow_fieldsOf, hj, List.take_left]
    · rw [hj]
      simp

theorem headers_take_encode (rows : List Entry) (n : Nat) (h : (encodeRow header).length ≤ n) :
    (decode (String.ofList ((encode rows).take n))).headers = fieldsOf header := by
  have hp : (encode rows).take n <+: encode rows := List.take_prefix n _
  have hsplit : encode rows = encodeRow header ++ rows.flatMap encodeRow := rfl
  rw [decode, String.toList_ofList, readRows, dropMark_of_prefix hp, hsplit, List.take_append,
    List.take_of_length_le h, Scan.rows_encodeRow]
  rfl

end Csv
namespace Sheet

theorem toList_csv (s : Sheet) : s.csv.toList = Csv.encode s.rows := String.toList_ofList

theorem received_torn (s : Sheet) (n : Nat) {chunk : Option Nat} (hc : chunk ≠ some 0)
    (flushFails : Bool) :
    (s.writeTo (Sink.trial chunk (some (String.ofList (s.csv.toList.take n)).utf8ByteSize)
      flushFails)).1.received = (String.ofList (s.csv.toList.take n)).toByteArray := by
  have hsplit : s.csvBytes =
      Text.utf8 (s.csv.toList.take n) ++ Text.utf8 (s.csv.toList.drop n) := by
    rw [← Text.utf8_append, List.take_append_drop, toList_csv]; rfl
  rw [received_writeTo_trial s hc, toByteArray_csv, extract_toByteArray, ← length_csvBytes,
    Text.utf8ByteSize_ofList, ← Text.length_utf8, Text.toByteArray_ofList_eq, Sink.allowed, hsplit,
    List.length_append, Nat.min_eq_left (Nat.le_add_right _ _), List.take_left]

/-- **A torn write is detectable up to the last row.** Let the CSV text of a sheet break off after
any number of characters, as it does for a sink whose limit ends there, and let `j` rows have their
row end before that. Decoding gives these `j` rows as they are, in order, and at most one entry
more; if there is one, it is an error for want of a second field, or it has the mnemonic of the next
row and a beginning of its description. The column names are right as soon as the header's row is
whole. -/
theorem decode_torn (s : Sheet) (n : Nat) (chunk : Option Nat) (flushFails : Bool)
    (hc : chunk ≠ some 0) :
    (s.writeTo (Sink.trial chunk (some (String.ofList (s.csv.toList.take n)).utf8ByteSize)
        flushFails)).1.received = (String.ofList (s.csv.toList.take n)).toByteArray ∧
      (∃ further, (Csv.decode (String.ofList (s.csv.toList.take n))).entries =
          (s.rows.take (Csv.closedRows s.rows n)).map .ok ++ further ∧
        further.length ≤ 1 ∧
        ∀ x ∈ further, ∃ e, s.rows[Csv.closedRows s.rows n]? = some e ∧
          (x = .error (.unequalLengths 2 1) ∨
            ∃ d, d <+: e.description.toList ∧ x = .ok ⟨e.mnemonic, String.ofList d⟩)) ∧
      ((Csv.encodeRow Csv.header).length ≤ n →
        (Csv.decode (String.ofList (s.csv.toList.take n))).headers =
          ["Instruction", "Description"]) := by
  refine ⟨received_torn s n hc flushFails, ?_, fun h => ?_⟩
  · rw [toList_csv]
    exact Csv.entries_take_encode s.rows n
  · rw [toList_csv]
    exact Csv.headers_take_encode s.rows n h

/-- Between the two quotes of a doubled quote, where the first of them closes the field. -/
theorem decode_torn_between_quotes :
    (some 1 : Option Nat) ≠ some 0 ∧
      String.ofList ((Sheet.empty.append ⟨"A", "x\"y"⟩).csv.toList.take 30) =
        "Instruction,Description\r\nA,\"x\"" ∧
      (∃ further, (Csv.decode "Instruction,Description\r\nA,\"x\"").entries = [] ++ further ∧
        further.length ≤ 1 ∧
        ∀ x ∈ further, x = .error (.unequalLengths 2 1) ∨
          ∃ d, d <+: ['x', '"', 'y'] ∧ x = .ok ⟨"A", String.ofList d⟩) ∧
      (Csv.decode "Instruction,Description\r\nA,\"x\"").headers =
        ["Instruction", "Description"] := by
  have hrows : (Sheet.empty.append ⟨"A", "x\"y"⟩).rows = [⟨"A", "x\"y"⟩] := by simp
  have htext : String.ofList ((Sheet.empty.append ⟨"A", "x\"y"⟩).csv.toList.take 30) =
      "Instruction,Description\r\nA,\"x\"" := by
    rw [toList_csv, hrows]
    decide
  have hj : Csv.closedRows [⟨"A", "x\"y"⟩] 30 = 0 := by decide
  obtain ⟨-, ⟨further, hentries, hone, hx⟩, hheaders⟩ :=
    decode_torn (Sheet.empty.append ⟨"A", "x\"y"⟩) 30 (some 1) true (by decide)
  rw [htext] at hentries hheaders
  rw [hrows, hj] at hentries hx
  refine ⟨by decide, htext, ⟨further, hentries, hone, fun x hmem => ?_⟩, hheaders (by decide)⟩
  obtain ⟨e, he, hcase⟩ := hx x hmem
  obtain rfl : ⟨"A", "x\"y"⟩ = e := by simpa using he
  exact hcase

end Sheet
end InstructionSheet
