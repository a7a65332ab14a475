/-
# The bytes of a text

`utf8 cs` is the list of bytes that the characters `cs` take in UTF-8. It is what a string of these
characters stores (`toByteArray_ofList_eq`), and `utf8Length` counts it (`length_utf8`), so offsets
into a text and offsets into its bytes can be compared. Where some characters of a text end is a
place to cut it (`splitAtByte?_append`).

Key definitions: `Text.utf8`.
-/
import InstructionSheet.Text.Bytes

namespace InstructionSheet
namespace Text

/-- The bytes of characters in UTF-8. -/
def utf8 (cs : List Char) : List UInt8 := cs.flatMap String.utf8EncodeChar

@[simp] theorem utf8_nil : utf8 [] = [] := rfl

@[simp] theorem utf8_cons (c : Char) (cs : List Char) :
    utf8 (c :: cs) = String.utf8EncodeChar c ++ utf8 cs := List.flatMap_cons

@[simp] theorem utf8_append (cs ds : List Char) : utf8 (cs ++ ds) = utf8 cs ++ utf8 ds :=
  List.flatMap_append

theorem length_utf8 (cs : List Char) : (utf8 cs).length = utf8Length cs := by
  induction cs with
  | nil => rfl
  | cons c cs ih => rw [utf8_cons, List.length_append, String.length_utf8EncodeChar, ih]; rfl

/-- Each character takes at least one byte. -/
theorem length_le_utf8Length : ∀ cs : List Char, cs.length ≤ utf8Length cs
  | [] => Nat.le_refl _
  | c :: cs => by
    have hc := c.utf8Size_pos
    have ih := length_le_utf8Length cs
    rw [List.length_cons, utf8Length]
    omega

theorem utf8Length_append (cs ds : List Char) :
    utf8Length (cs ++ ds) = utf8Length cs + utf8Length ds := by
  rw [← length_utf8, utf8_append, List.length_append, length_utf8, length_utf8]

/-- The bytes of its first characters are a place to cut a text. -/
theorem splitAtByte?_append (cs ds : List Char) :
    splitAtByte? (utf8Length cs) (cs ++ ds) = some (cs, ds) := by
  induction cs with
  | nil => cases ds <;> rfl
  | cons c cs ih =>
    have hsize := c.utf8Size_pos
    obtain ⟨n, hn⟩ : ∃ n, c.utf8Size + utf8Length cs = n + 1 :=
      Nat.exists_eq_succ_of_ne_zero (by omega)
    have hfits : c.utf8Size ≤ n + 1 := by omega
    have hrest : n + 1 - c.utf8Size = utf8Length cs := by omega
    rw [utf8Length, hn, List.cons_append, splitAtByte?, if_pos hfits, hrest, ih]
    rfl

/-- The first characters of a text, cut out by their bytes. -/
theorem slice?_zero_append (cs ds : List Char) :
    slice? 0 (utf8Length cs) (cs ++ ds) = some cs := by
  have hstart : splitAtByte? 0 (cs ++ ds) = some ([], cs ++ ds) := splitAtByte?_append [] (cs ++ ds)
  rw [slice?, hstart, Option.bind_some, Nat.sub_zero, splitAtByte?_append]
  rfl

theorem toByteArray_ofList_eq (cs : List Char) :
    (String.ofList cs).toByteArray = (utf8 cs).toByteArray := by
  rw [String.toByteArray_ofList]; rfl

theorem utf8ByteSize_ofList (cs : List Char) : (String.ofList cs).utf8ByteSize = utf8Length cs := by
  rw [← String.size_toByteArray, toByteArray_ofList_eq, List.size_toByteArray, length_utf8]

end Text
end InstructionSheet
