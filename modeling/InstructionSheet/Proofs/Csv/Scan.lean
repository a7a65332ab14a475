/-
# What the reader makes of a field

A field can be written in several ways, and the reader does not tell them apart: `Reads text f` says
that `text`, wherever a field may begin, takes the reader through the field `f` and leaves it
outside quotes. A field without a delicate character reads itself (`reads_bare`), any field between
quotes with its quotes doubled reads itself too (`reads_quoted`), so what the writer makes of a
field reads that field (`reads_encodeField`). A comma or a row end behind such a text ends the
field, whichever way it was written.

Key definitions: `Scan.Reads`, `Csv.fieldsOf`.
Key theorems: `Scan.reads_encodeField`, `Scan.rows_encodeRow`.
-/
import InstructionSheet.Csv.Encode
import InstructionSheet.Csv.Reader

namespace InstructionSheet
namespace Csv

/-- The two fields of an entry's row. -/
def fieldsOf (e : Entry) : List String := [e.mnemonic, e.description]

/-- The modes in which the next character is the first of a field. -/
def Mode.opensField : Mode → Bool
  | .rowStart => true
  | .fieldStart => true
  | _ => false

namespace Scan

/-- Read from the first place of a field, `text` is the field `f`: the reader comes to stand outside
quotes with `f` taken in, and still before the row only if there was nothing to read. -/
def Reads (text f : List Char) : Prop :=
  ∀ (m : Mode) (row : List String), m.opensField = true →
    ∃ m', m' ≠ .quoted ∧ (m' = .rowStart → m = .rowStart ∧ text = []) ∧
      ∀ rest, rows ⟨m, [], row⟩ (text ++ rest) = rows ⟨m', f.reverse, row⟩ rest

/-! ### One character -/

theorem rows_cons_of_step {s s' : Scan} {c : Char} (h : s.step c = (s', none)) (cs : List Char) :
    s.rows (c :: cs) = s'.rows cs := by
  rw [rows, h]

theorem rows_comma {s : Scan} (h : s.mode ≠ .quoted) (cs : List Char) :
    s.rows (',' :: cs) = s.endField.rows cs := by
  apply rows_cons_of_step
  cases hm : s.mode with
  | quoted => exact absurd hm h
  | _ => simp [step, hm, first, plain, isRowEnd]

/-- A row end ends the row in every mode but between quotes and before a row. -/
theorem rows_rowEnd {s : Scan} {c : Char} (h : s.mode ≠ .quoted) (h0 : s.mode ≠ .rowStart)
    (hc : isRowEnd c = true) (cs : List Char) :
    s.rows (c :: cs) = s.wholeRow :: start.rows cs := by
  have hne : c ≠ ',' ∧ c ≠ '"' := by
    constructor <;> rintro rfl <;> simp [isRowEnd] at hc
  have hs : s.step c = (start, some s.wholeRow) := by
    cases hm : s.mode with
    | quoted => exact absurd hm h
    | rowStart => exact absurd hm h0
    | _ => simp [step, hm, first, plain, hne, hc]
  rw [rows, hs]

theorem rows_start_rowEnd {c : Char} (hc : isRowEnd c = true) (cs : List Char) :
    start.rows (c :: cs) = start.rows cs :=
  rows_cons_of_step (by simp [step, start, hc]) cs

/-! ### Between quotes -/

/-- A quote there may close the field, or be the first of two. -/
theorem step_quote (acc : List Char) (row : List String) :
    step ⟨.quoted, acc, row⟩ '"' = (⟨.quoteSeen, acc, row⟩, none) := by
  simp [step]

/-- The second of two quotes is a quote of the field. -/
theorem step_second_quote (acc : List Char) (row : List String) :
    step ⟨.quoteSeen, acc, row⟩ '"' = (⟨.quoted, '"' :: acc, row⟩, none) := by
  simp [step, copy]

theorem step_quoted {c : Char} (hc : c ≠ '"') (acc : List Char) (row : List String) :
    step ⟨.quoted, acc, row⟩ c = (⟨.quoted, c :: acc, row⟩, none) := by
  simp [step, hc, copy]

/-! ### The text of a field -/

theorem not_delicate {c : Char} (h : isDelicate c = false) :
    c ≠ ',' ∧ c ≠ '"' ∧ isRowEnd c = false := by
  simp only [isDelicate, Bool.or_eq_false_iff, beq_eq_false_iff_ne] at h
  obtain ⟨⟨⟨h1, h2⟩, h3⟩, h4⟩ := h
  exact ⟨h1, h2, by simp [isRowEnd, h3, h4]⟩

theorem rows_bare : ∀ (cs acc : List Char) (row : List String) (rest : List Char),
    needsQuotes cs = false →
    rows ⟨.bare, acc, row⟩ (cs ++ rest) = rows ⟨.bare, cs.reverse ++ acc, row⟩ rest
  | [], _, _, _, _ => rfl
  | c :: cs, acc, row, rest, h => by
    simp only [needsQuotes, List.any_cons, Bool.or_eq_false_iff] at h
    obtain ⟨h1, -, h3⟩ := not_delicate h.1
    have hs : step ⟨.bare, acc, row⟩ c = (⟨.bare, c :: acc, row⟩, none) := by
      simp [step, plain, h1, h3, copy]
    rw [List.cons_append, rows_cons_of_step hs, rows_bare cs _ _ _ h.2]
    simp

theorem rows_quoted : ∀ (cs acc : List Char) (row : List String) (rest : List Char),
    rows ⟨.quoted, acc, row⟩ (doubleQuotes cs ++ rest) = rows ⟨.quoted, cs.reverse ++ acc, row⟩ rest
  | [], _, _, _ => rfl
  | c :: cs, acc, row, rest => by
    by_cases hc : c = '"'
    · subst hc
      rw [doubleQuotes, if_pos rfl, List.cons_append, List.cons_append,
        rows_cons_of_step (step_quote acc row), rows_cons_of_step (step_second_quote acc row),
        rows_quoted cs]
      simp
    · rw [doubleQuotes, if_neg hc, List.cons_append, rows_cons_of_step (step_quoted hc acc row),
        rows_quoted cs]
      simp

theorem rows_openQuote {m : Mode} (hm : m.opensField = true) (row : List String) (cs : List Char) :
    rows ⟨m, [], row⟩ ('"' :: cs) = rows ⟨.quoted, [], row⟩ cs := by
  apply rows_cons_of_step
  cases m with
  | rowStart => simp [step, first, isRowEnd]
  | fieldStart => simp [step, first]
  | _ => simp [Mode.opensField] at hm

theorem reads_bare {f : List Char} (h : needsQuotes f = false) : Reads f f := by
  intro m row hm
  cases f with
  | nil =>
    have hq : m ≠ .quoted := by rintro rfl; simp [Mode.opensField] at hm
    exact ⟨m, hq, fun h0 => ⟨h0, rfl⟩, fun _ => rfl⟩
  | cons c cs =>
    have hd : isDelicate c = false ∧ needsQuotes cs = false := by
      simpa [needsQuotes] using h
    obtain ⟨h1, h2, h3⟩ := not_delicate hd.1
    have hs : step ⟨m, [], row⟩ c = (⟨.bare, [c], row⟩, none) := by
      cases m with
      | rowStart => simp [step, first, plain, h1, h2, h3, copy]
      | fieldStart => simp [step, first, plain, h1, h2, h3, copy]
      | _ => simp [Mode.opensField] at hm
    refine ⟨.bare, by decide, fun h0 => absurd h0 (by decide), fun rest => ?_⟩
    rw [List.cons_append, rows_cons_of_step hs, rows_bare cs _ _ _ hd.2]
    simp

theorem reads_quoted (f : List Char) : Reads ('"' :: (doubleQuotes f ++ ['"'])) f := by
  intro m row hm
  refine ⟨.quoteSeen, by decide, fun h0 => absurd h0 (by decide), fun rest => ?_⟩
  rw [List.cons_append, rows_openQuote hm, List.append_assoc, rows_quoted, List.append_nil,
    List.singleton_append, rows_cons_of_step (step_quote f.reverse row)]

/-- **What the writer makes of a field reads that field.** -/
theorem reads_encodeField (f : List Char) : Reads (encodeField f) f := by
  unfold encodeField
  cases h : needsQuotes f with
  | true => simpa using reads_quoted f
  | false => simpa using reads_bare h

/-! ### A field with what ends it, and a row -/

theorem reads_comma {text f : List Char} (h : Reads text f) {m : Mode} (hm : m.opensField = true)
    (row : List String) (rest : List Char) :
    rows ⟨m, [], row⟩ (text ++ ',' :: rest) =
      rows ⟨.fieldStart, [], String.ofList f :: row⟩ rest := by
  obtain ⟨m', hq, -, h⟩ := h m row hm
  rw [h, rows_comma hq]
  simp [endField]

/-- The last field of a row that is not blank, with the character that ends the row. -/
theorem reads_rowEnd {text f : List Char} (h : Reads text f) {c : Char} (hc : isRowEnd c = true)
    (row : List String) (rest : List Char) :
    rows ⟨.fieldStart, [], row⟩ (text ++ c :: rest) =
      (String.ofList f :: row).reverse :: start.rows rest := by
  obtain ⟨m', hq, h0, h⟩ := h .fieldStart row rfl
  rw [h, rows_rowEnd hq (fun hm => by simpa using (h0 hm).1) hc]
  simp [wholeRow]

/-- **A written row reads as its fields**, and the reader stands before the next row. -/
theorem rows_encodeRow (e : Entry) (rest : List Char) :
    start.rows (encodeRow e ++ rest) = fieldsOf e :: start.rows rest := by
  have ha : encodeRow e ++ rest = encodeField e.mnemonic.toList ++
      ',' :: (encodeField e.description.toList ++ '\r' :: '\n' :: rest) := by
    simp [encodeRow]
  rw [ha]
  refine (reads_comma (reads_encodeField _) rfl [] _).trans ?_
  rw [reads_rowEnd (reads_encodeField _) (by decide), rows_start_rowEnd (by decide)]
  simp [fieldsOf]

theorem rows_flatMap_encodeRow (es : List Entry) (rest : List Char) :
    start.rows (es.flatMap encodeRow ++ rest) = es.map fieldsOf ++ start.rows rest := by
  induction es with
  | nil => rfl
  | cons e es ih => rw [List.flatMap_cons, List.append_assoc, rows_encodeRow, ih]; rfl

end Scan
end Csv
end InstructionSheet
