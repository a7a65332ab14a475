/-
# The entry of a line

The mnemonic of a line is cut off at a byte offset. That offset is the end of the line's first three
characters, or of the whole line if it has fewer (`Text.offset?_getD`), so the cut never falls
inside a character: the mnemonic is the first three characters and the description the trimmed rest
(`Entry.ofLine_eq`). A line can be taken apart in one way only, given how long the first part is and
that the second one is trimmed (`Entry.ofLine_eq_of_parts`, `Entry.parts_of_line`). So a mnemonic
and a description that look like the parts of a line are the parts of the line that they make
together (`Entry.ofLine_joined`).

Key definitions: `Entry.joined`.
Key theorems: `Entry.cut_eq`, `Entry.ofLine_eq`, `Entry.ofLine_eq_of_parts`, `Entry.parts_of_line`,
`Entry.ofLine_joined`.
-/
import InstructionSheet.Entry
import InstructionSheet.Proofs.Text.Lines
import InstructionSheet.Proofs.Text.Utf8

namespace InstructionSheet
namespace Text

/-- The offset of the `n`-th character, or of the end of a text that has no such character, is where
the first `n` characters end. -/
theorem offset?_getD : ∀ (n : Nat) (cs : List Char),
    (offset? n cs).getD (utf8Length cs) = utf8Length (cs.take n)
  | n, [] => by cases n <;> rfl
  | 0, c :: cs => rfl
  | n + 1, c :: cs => by
    rw [offset?, utf8Length, List.take_succ_cons, utf8Length, ← offset?_getD n cs]
    cases offset? n cs <;> rfl

end Text
namespace Entry

theorem cutOffset_eq (line : List Char) : cutOffset line = Text.utf8Length (line.take 3) :=
  Text.offset?_getD 3 line

theorem splitAtByte?_cutOffset (line : List Char) :
    Text.splitAtByte? (cutOffset line) line = some (line.take 3, line.drop 3) := by
  have hcut := Text.splitAtByte?_append (line.take 3) (line.drop 3)
  rwa [List.take_append_drop, ← cutOffset_eq] at hcut

/-- **A line is cut after its third character.** -/
theorem cut_eq (line : List Char) : cut line = (line.take 3, line.drop 3) := by
  rw [cut, splitAtByte?_cutOffset]
  rfl

theorem ofLine_eq (line : List Char) :
    ofLine line = ⟨String.ofList (line.take 3), String.ofList (Text.trim (line.drop 3))⟩ := by
  rw [ofLine, cut_eq]

theorem toList_mnemonic_ofLine (line : List Char) :
    (ofLine line).mnemonic.toList = line.take 3 := by
  rw [ofLine_eq, String.toList_ofList]

theorem toList_description_ofLine (line : List Char) :
    (ofLine line).description.toList = Text.trim (line.drop 3) := by
  rw [ofLine_eq, String.toList_ofList]

/-- **A line comes apart in one way**, given how many characters the first part has and that the
second one, which blanks may surround, is trimmed. -/
theorem ofLine_eq_of_parts {line m w d w' : List Char} (hline : line = m ++ (w ++ d ++ w'))
    (hlength : m.length = min 3 line.length) (hw : Text.Blanks w) (hd : Text.Trimmed d)
    (hw' : Text.Blanks w') : ofLine line = ⟨String.ofList m, String.ofList d⟩ := by
  have hcut : line.take 3 ++ line.drop 3 = m ++ (w ++ d ++ w') :=
    (List.take_append_drop 3 line).trans hline
  obtain ⟨htake, hdrop⟩ := List.append_inj hcut (by rw [List.length_take, hlength])
  rw [ofLine_eq, htake, hdrop, Text.trim_padded hw hd hw']

theorem exists_parts (line : List Char) :
    ∃ w w', Text.Blanks w ∧ Text.Blanks w' ∧
      line = (ofLine line).mnemonic.toList ++ (w ++ (ofLine line).description.toList ++ w') := by
  obtain ⟨w, w', hw, hw', hrest⟩ := Text.exists_padding (line.drop 3)
  refine ⟨w, w', hw, hw', ?_⟩
  rw [toList_mnemonic_ofLine, toList_description_ofLine, ← hrest, List.take_append_drop]

theorem length_mnemonic_ofLine (line : String) :
    (ofLine line.toList).mnemonic.length = min 3 line.length := by
  rw [← String.length_toList, toList_mnemonic_ofLine, List.length_take, String.length_toList]

theorem ofLine_append_blanks {line blanks : List Char} (hlong : 3 ≤ line.length)
    (hblanks : Text.Blanks blanks) : ofLine (line ++ blanks) = ofLine line := by
  rw [ofLine_eq, ofLine_eq, List.take_append_of_le_length hlong,
    List.drop_append_of_le_length hlong, Text.trim_append_blanks hblanks]

/-- The mnemonic with the description right behind it. -/
def joined (e : Entry) : List Char := e.mnemonic.toList ++ e.description.toList

/-- The end of a line is the end of its entry's two parts, unless it is blank. -/
theorem getLast?_joined_ofLine {c : Char} (hc : Text.isBlank c = false) (cs : List Char) :
    (ofLine (cs ++ [c])).joined.getLast? = some c := by
  rw [joined, toList_mnemonic_ofLine, toList_description_ofLine, List.getLast?_append]
  rcases List.eq_nil_or_concat' ((cs ++ [c]).drop 3) with hnil | ⟨ds, d, hds⟩
  · -- the line is all mnemonic
    have hlen : (cs ++ [c]).length ≤ 3 := List.drop_eq_nil_iff.mp hnil
    rw [hnil, List.take_of_length_le hlen]
    simp [Text.trim, Text.trimEnd, Text.trimStart]
  · have hlast : d = c := by
      have hsuffix : (cs ++ [c]).drop 3 <:+ cs ++ [c] := List.drop_suffix 3 _
      rw [hds] at hsuffix
      obtain ⟨front, hfront⟩ := hsuffix
      rw [← List.append_assoc] at hfront
      exact List.singleton_inj.mp (List.append_inj' hfront rfl).2
    rw [hds, hlast, Text.getLast?_trim hc]
    rfl

/-- **Two parts make a line and come apart again** if the first has three characters, or fewer and
no second part, and the second is trimmed. -/
theorem ofLine_joined {e : Entry} (hlong : e.mnemonic.length ≤ 3)
    (hshort : e.mnemonic.length < 3 → e.description = "")
    (htrimmed : Text.Trimmed e.description.toList) : ofLine e.joined = e := by
  have hlen : e.mnemonic.toList.length = e.mnemonic.length := String.length_toList
  have hlength : e.mnemonic.toList.length = min 3 e.joined.length := by
    rw [joined, List.length_append]
    rcases Nat.lt_or_eq_of_le hlong with hlt | heq
    · rw [hshort hlt, String.toList_empty, List.length_nil]
      omega
    · omega
  have hparts : e.joined = e.mnemonic.toList ++ ([] ++ e.description.toList ++ []) := by
    rw [joined, List.nil_append, List.append_nil]
  rw [ofLine_eq_of_parts hparts hlength (List.forall_mem_nil _) htrimmed (List.forall_mem_nil _),
    String.ofList_toList, String.ofList_toList]

/-- **The parts of a line are sound and unique.** The offset at which a line is cut is the number of
bytes of its mnemonic; it does not lie behind the end nor inside a character, so the cut is made.
The mnemonic has three characters, or all of them if the line has fewer. And mnemonic and
description are the only two texts that stand in the line one after the other, with nothing but
blanks between and behind them, such that the first has that many characters and the second neither
begins nor ends with a blank. -/
theorem parts_of_line (line : String) :
    let e := ofLine line.toList
    let offset := cutOffset line.toList
    offset = e.mnemonic.utf8ByteSize ∧ offset ≤ line.utf8ByteSize ∧
      String.Pos.Raw.IsValid line ⟨offset⟩ ∧
      (∃ rest, Text.splitAtByte? offset line.toList = some (e.mnemonic.toList, rest)) ∧
      e.mnemonic.length = min 3 line.length ∧
      ∀ m d : String,
        (∃ w w' : String, Text.Blanks w.toList ∧ Text.Blanks w'.toList ∧
          line = m ++ w ++ d ++ w' ∧ m.length = min 3 line.length ∧ Text.Trimmed d.toList) ↔
        m = e.mnemonic ∧ d = e.description := by
  intro e offset
  have hoffset : offset = e.mnemonic.utf8ByteSize := by
    rw [← String.ofList_toList (s := e.mnemonic), toList_mnemonic_ofLine, Text.utf8ByteSize_ofList]
    exact cutOffset_eq line.toList
  have hvalid : String.Pos.Raw.IsValid line ⟨offset⟩ := by
    refine String.Pos.Raw.isValid_iff_exists_append.mpr
      ⟨e.mnemonic, String.ofList (line.toList.drop 3), ?_, by rw [hoffset]; rfl⟩
    rw [← String.toList_inj, String.toList_append, toList_mnemonic_ofLine, String.toList_ofList,
      List.take_append_drop]
  refine ⟨hoffset, hvalid.le_rawEndPos, hvalid, ⟨line.toList.drop 3, ?_⟩,
    length_mnemonic_ofLine line, fun m d => ⟨?_, ?_⟩⟩
  · rw [toList_mnemonic_ofLine]
    exact splitAtByte?_cutOffset line.toList
  · rintro ⟨w, w', hw, hw', hline, hlength, hd⟩
    have hchars : line.toList = m.toList ++ (w.toList ++ d.toList ++ w'.toList) := by
      rw [hline]
      simp only [String.toList_append, List.append_assoc]
    have hparts := ofLine_eq_of_parts hchars
      (by rw [String.length_toList, String.length_toList, hlength]) hw hd hw'
    rw [String.ofList_toList, String.ofList_toList] at hparts
    exact ⟨(congrArg mnemonic hparts).symm, (congrArg description hparts).symm⟩
  · rintro ⟨rfl, rfl⟩
    obtain ⟨w, w', hw, hw', hparts⟩ := exists_parts line.toList
    refine ⟨String.ofList w, String.ofList w', ?_, ?_, ?_, length_mnemonic_ofLine line, ?_⟩
    · rwa [String.toList_ofList]
    · rwa [String.toList_ofList]
    · rw [← String.toList_inj]
      simpa only [String.toList_append, String.toList_ofList, List.append_assoc] using hparts
    · rw [toList_description_ofLine]
      exact Text.trimmed_trim _

end Entry
end InstructionSheet
