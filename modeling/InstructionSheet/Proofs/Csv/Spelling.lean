/-
# Atoms spell the encoded text

Output goes to the buffer atom by atom, and the atoms of a sheet are made without its text. Their
bytes, one after another, are nevertheless the bytes of the encoded text: field by field
(`bytes_fieldAtoms`), row by row (`bytes_rowAtoms`) and for a whole sheet (`bytes_atoms`).

Key theorems: `Csv.bytes_atoms`.
-/
import InstructionSheet.Csv.Atom
import InstructionSheet.Proofs.Text.Utf8

namespace InstructionSheet
namespace Csv

open Text

/-- The bytes that atoms stand for, in order. -/
def bytesOf (as : List Atom) : List UInt8 := as.flatMap Atom.bytes

@[simp] theorem bytesOf_nil : bytesOf [] = [] := rfl

@[simp] theorem bytesOf_cons (a : Atom) (as : List Atom) :
    bytesOf (a :: as) = a.bytes ++ bytesOf as := List.flatMap_cons

@[simp] theorem bytesOf_append (as bs : List Atom) :
    bytesOf (as ++ bs) = bytesOf as ++ bytesOf bs := List.flatMap_append

theorem bytesOf_map_byte : ∀ bs : List UInt8, bytesOf (bs.map .byte) = bs
  | [] => rfl
  | b :: bs => by rw [List.map_cons, bytesOf_cons, bytesOf_map_byte bs]; rfl

theorem bytes_bareAtoms (c : Char) : bytesOf (bareAtoms c) = String.utf8EncodeChar c :=
  bytesOf_map_byte _

theorem bytes_flatMap_bareAtoms (cs : List Char) : bytesOf (cs.flatMap bareAtoms) = utf8 cs := by
  induction cs with
  | nil => rfl
  | cons c cs ih => rw [List.flatMap_cons, bytesOf_append, bytes_bareAtoms, ih, utf8_cons]

theorem bytes_flatMap_quotedAtoms (cs : List Char) :
    bytesOf (cs.flatMap quotedAtoms) = utf8 (doubleQuotes cs) := by
  induction cs with
  | nil => rfl
  | cons c cs ih =>
    rw [List.flatMap_cons, bytesOf_append, ih]
    by_cases hc : c = '"'
    · subst hc
      rw [doubleQuotes, if_pos rfl, utf8_cons, utf8_cons]
      rfl
    · rw [quotedAtoms, if_neg hc, bytes_bareAtoms, doubleQuotes, if_neg hc, utf8_cons]

theorem bytes_fieldAtoms (f : List Char) : bytesOf (fieldAtoms f) = utf8 (encodeField f) := by
  unfold fieldAtoms encodeField
  split
  · rw [bytesOf_cons, bytesOf_append, bytes_flatMap_quotedAtoms, utf8_cons, utf8_append]
    rfl
  · exact bytes_flatMap_bareAtoms f

theorem bytes_rowAtoms (e : Entry) : bytesOf (rowAtoms e) = utf8 (encodeRow e) := by
  unfold rowAtoms encodeRow
  rw [bytesOf_append, bytesOf_cons, bytesOf_append, bytes_fieldAtoms, bytes_fieldAtoms, utf8_append,
    utf8_cons, utf8_append]
  rfl

theorem bytes_flatMap_rowAtoms (es : List Entry) :
    bytesOf (es.flatMap rowAtoms) = utf8 (es.flatMap encodeRow) := by
  induction es with
  | nil => rfl
  | cons e es ih =>
    rw [List.flatMap_cons, bytesOf_append, bytes_rowAtoms, ih, List.flatMap_cons, utf8_append]

/-- **The atoms of a sheet spell its CSV text.** -/
theorem bytes_atoms (rows : List Entry) : bytesOf (atoms rows) = utf8 (encode rows) :=
  bytes_flatMap_rowAtoms (header :: rows)

theorem length_le_encodeField (f : List Char) : f.length ≤ (encodeField f).length := by
  have hdouble : ∀ cs : List Char, cs.length ≤ (doubleQuotes cs).length := by
    intro cs
    induction cs with
    | nil => exact Nat.le_refl _
    | cons c cs ih =>
      unfold doubleQuotes
      split
      · simp only [List.length_cons]
        omega
      · simp only [List.length_cons]
        omega
  have hf := hdouble f
  unfold encodeField
  split
  · simp only [List.length_cons, List.length_append]
    omega
  · exact Nat.le_refl _

end Csv

/-- The bytes of a sheet's CSV text. -/
def Sheet.csvBytes (s : Sheet) : List UInt8 := Text.utf8 (Csv.encode s.rows)

namespace Sheet

theorem toByteArray_csv (s : Sheet) : s.csv.toByteArray = s.csvBytes.toByteArray :=
  Text.toByteArray_ofList_eq _

theorem length_csvBytes (s : Sheet) : s.csvBytes.length = s.csv.utf8ByteSize := by
  rw [csvBytes, Text.length_utf8, csv, Text.utf8ByteSize_ofList]

/-- A CSV text has at least as many bytes as one of its descriptions has characters. -/
theorem length_description_le (s : Sheet) {e : Entry} (he : e ∈ s.rows) :
    e.description.toList.length ≤ s.csv.utf8ByteSize := by
  obtain ⟨before, after, hrows⟩ := List.append_of_mem he
  have hfield := Csv.length_le_encodeField e.description.toList
  have hrow : (Csv.encodeField e.description.toList).length ≤ (Csv.encodeRow e).length := by
    unfold Csv.encodeRow
    simp only [List.length_append, List.length_cons]
    omega
  have htext := Text.length_le_utf8Length (Csv.encode s.rows)
  rw [csv, Text.utf8ByteSize_ofList]
  refine Nat.le_trans ?_ htext
  rw [Csv.encode, hrows, List.flatMap_cons, List.flatMap_append, List.flatMap_cons]
  simp only [List.length_append]
  omega

end Sheet
end InstructionSheet
