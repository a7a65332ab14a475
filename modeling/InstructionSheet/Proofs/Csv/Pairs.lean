/-
# Where pairs of bytes begin

Two kinds of neighbouring bytes in a CSV text belong together: the two quotes that a field's quote
is written as, and the CR LF that ends a row. `pairs` finds the byte offsets at which they begin
from the entries and the lengths of what is written for them. CR LF inside a field is no pair, and
neither are quotes that open or close a field. The same offsets come from the atoms of two bytes
(`pairs_eq_pairsOf`), so a stretch of whole atoms never ends inside a pair (`pairsOf_apart`).

Key definitions: `Csv.pairs`, `Csv.pairsOf`.
Key theorems: `Csv.pairs_eq_pairsOf`, `Csv.pairsOf_apart`.
-/
import InstructionSheet.Proofs.Csv.Spelling

namespace InstructionSheet
namespace Csv

open Text

/-- The offsets of the doubled quotes in the text of a field that stands between quotes and begins
at offset `p`. -/
def quotePairs (p : Nat) : List Char → List Nat
  | [] => []
  | c :: cs => if c = '"' then p :: quotePairs (p + 2) cs else quotePairs (p + c.utf8Size) cs

/-- The offsets of the doubled quotes of a field that is written from offset `p` on. -/
def fieldPairs (p : Nat) (f : List Char) : List Nat :=
  if needsQuotes f then quotePairs (p + 1) f else []

/-- The offsets of the pairs of a row that is written from offset `p` on, its end the last. -/
def rowPairs (p : Nat) (e : Entry) : List Nat :=
  let second := p + utf8Length (encodeField e.mnemonic.toList) + 1
  fieldPairs p e.mnemonic.toList ++ (fieldPairs second e.description.toList ++
    [second + utf8Length (encodeField e.description.toList)])

/-- The offsets of the pairs of rows that are written from offset `p` on. -/
def pairs (p : Nat) : List Entry → List Nat
  | [] => []
  | e :: es => rowPairs p e ++ pairs (p + utf8Length (encodeRow e)) es

example : pairs 0 [header, ⟨"A", "\"\r\n"⟩, ⟨"", ""⟩] = [23, 28, 33, 36] := by decide

/-! ### The same offsets from the atoms -/

/-- The offsets of the atoms of two bytes when atoms are written from offset `p` on. -/
def pairsOf (p : Nat) : List Atom → List Nat
  | [] => []
  | a :: as => (if a.size = 2 then [p] else []) ++ pairsOf (p + a.size) as

theorem Atom.size_pos (a : Atom) : 0 < a.size := by
  cases a <;> simp [Atom.size]

theorem Atom.size_le_two (a : Atom) : a.size ≤ 2 := by
  cases a <;> simp [Atom.size]

theorem length_bytesOf_cons (a : Atom) (as : List Atom) :
    (bytesOf (a :: as)).length = a.size + (bytesOf as).length := by
  rw [bytesOf_cons, List.length_append, Atom.length_bytes]

theorem pairsOf_append : ∀ (as bs : List Atom) (p : Nat),
    pairsOf p (as ++ bs) = pairsOf p as ++ pairsOf (p + (bytesOf as).length) bs
  | [], bs, p => rfl
  | a :: as, bs, p => by
    rw [List.cons_append, pairsOf, pairsOf, pairsOf_append as bs, List.append_assoc,
      length_bytesOf_cons, Nat.add_assoc]

/-- A pair is the first atom or lies behind it. -/
theorem mem_pairsOf_cons {a : Atom} {as : List Atom} {p q : Nat} :
    q ∈ pairsOf p (a :: as) ↔ (a.size = 2 ∧ q = p) ∨ q ∈ pairsOf (p + a.size) as := by
  rw [pairsOf, List.mem_append]
  by_cases ha : a.size = 2
  · simp [ha]
  · simp [ha]

/-- Pairs lie within what is written. -/
theorem pairsOf_bounds : ∀ (as : List Atom) (p q : Nat), q ∈ pairsOf p as →
    p ≤ q ∧ q + 2 ≤ p + (bytesOf as).length
  | [], _, _, h => absurd h List.not_mem_nil
  | a :: as, p, q, h => by
    rw [length_bytesOf_cons]
    rcases mem_pairsOf_cons.mp h with ⟨ha, rfl⟩ | h
    · omega
    · have ih := pairsOf_bounds as _ q h
      omega

/-- A stretch of whole atoms does not end inside a pair. -/
theorem pairsOf_apart (as bs : List Atom) (p q : Nat) (h : q ∈ pairsOf p (as ++ bs)) :
    p + (bytesOf as).length ≠ q + 1 := by
  rw [pairsOf_append, List.mem_append] at h
  rcases h with h | h
  · have := (pairsOf_bounds as p q h).2
    omega
  · have := (pairsOf_bounds bs _ q h).1
    omega

theorem pairsOf_map_byte : ∀ (bs : List UInt8) (p : Nat), pairsOf p (bs.map .byte) = []
  | [], _ => rfl
  | b :: bs, p => by
    rw [List.map_cons, pairsOf, pairsOf_map_byte bs]
    rfl

theorem pairsOf_flatMap_bareAtoms : ∀ (cs : List Char) (p : Nat),
    pairsOf p (cs.flatMap bareAtoms) = []
  | [], _ => rfl
  | c :: cs, p => by
    rw [List.flatMap_cons, pairsOf_append, pairsOf_flatMap_bareAtoms cs, bareAtoms,
      pairsOf_map_byte]
    rfl

theorem pairsOf_flatMap_quotedAtoms : ∀ (cs : List Char) (p : Nat),
    pairsOf p (cs.flatMap quotedAtoms) = quotePairs p cs
  | [], _ => rfl
  | c :: cs, p => by
    rw [List.flatMap_cons, pairsOf_append, pairsOf_flatMap_quotedAtoms cs, quotePairs]
    by_cases hc : c = '"'
    · subst hc
      rfl
    · rw [quotedAtoms, if_neg hc, if_neg hc, bytes_bareAtoms, String.length_utf8EncodeChar,
        bareAtoms, pairsOf_map_byte]
      rfl

theorem pairsOf_fieldAtoms (f : List Char) (p : Nat) :
    pairsOf p (fieldAtoms f) = fieldPairs p f := by
  unfold fieldAtoms fieldPairs
  split
  · rw [pairsOf, pairsOf_append, pairsOf_flatMap_quotedAtoms]
    simp [pairsOf, Atom.quote, Atom.size]
  · exact pairsOf_flatMap_bareAtoms f p

theorem length_bytes_fieldAtoms (f : List Char) :
    (bytesOf (fieldAtoms f)).length = utf8Length (encodeField f) := by
  rw [bytes_fieldAtoms, length_utf8]

theorem pairsOf_rowAtoms (e : Entry) (p : Nat) : pairsOf p (rowAtoms e) = rowPairs p e := by
  unfold rowAtoms rowPairs
  rw [pairsOf_append, pairsOf, pairsOf_append, pairsOf_fieldAtoms, pairsOf_fieldAtoms,
    length_bytes_fieldAtoms, length_bytes_fieldAtoms]
  rfl

/-- **The pairs of a text are its atoms of two bytes.** -/
theorem pairs_eq_pairsOf : ∀ (es : List Entry) (p : Nat),
    pairs p es = pairsOf p (es.flatMap rowAtoms)
  | [], _ => rfl
  | e :: es, p => by
    rw [pairs, List.flatMap_cons, pairsOf_append, pairsOf_rowAtoms, bytes_rowAtoms, length_utf8,
      pairs_eq_pairsOf es]

end Csv

/-- The byte offsets in a sheet's CSV text at which a doubled quote or a row end begins. -/
def Sheet.pairs (s : Sheet) : List Nat := Csv.pairs 0 (Csv.header :: s.rows)

end InstructionSheet
