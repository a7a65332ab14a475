/-
# Settings made of plain directives

A plain directive is a level for all events or `target=level` for those of some targets. The level
is written as its word, in letters of any case, or as its number; a level for all events has the
empty target. Such directives with commas between them make a setting, and reading it gives them
back, each as the directive that it writes (`Log.Plain.ofPart?_text`,
`Log.Plain.ofSetting_setting`).

What makes a word or a target readable is that none of its characters means anything else: a word
has ASCII letters and digits alone, a target neither comma nor equals sign nor bracket, and what a
target begins with is no blank (`Log.Directive.isBlank_of_canBegin`), so nothing is trimmed.

Key definitions: `Log.Names`, `Log.Plain`, `Log.Plain.setting`.
Key theorems: `Log.Names.thresholdOf?_eq`, `Log.Plain.ofPart?_text`, `Log.Plain.ofSetting_setting`.
-/
import InstructionSheet.Proofs.Log.Deciding
import InstructionSheet.Proofs.Text.Characters
import InstructionSheet.Proofs.Text.Lines
import InstructionSheet.Proofs.Text.Utf8

namespace InstructionSheet

namespace Log

/-! ### Levels in text -/

/-- The word for a threshold, in small letters. -/
def thresholdWord : Option Level → List Char
  | none => "off".toList
  | some least => least.name.toList.map Char.toLower

/-- A text names a threshold if it is its word, in letters of any case, or its number. -/
def Names (word : List Char) (threshold : Option Level) : Prop :=
  word.map Char.toLower = thresholdWord threshold ∨ word = [Nat.digitChar (verbosity threshold)]

instance (word : List Char) (threshold : Option Level) : Decidable (Names word threshold) :=
  inferInstanceAs (Decidable (_ ∨ _))

theorem all_isLower_thresholdWord (threshold : Option Level) :
    (thresholdWord threshold).all Char.isLower = true := by
  cases threshold with
  | none => decide
  | some least => cases least <;> decide

theorem Directive.number?_of_isAlpha {word : List Char} (hne : word ≠ [])
    (h : ∀ c ∈ word, c.isAlpha = true) : number? word = none := by
  obtain ⟨c, cs, rfl⟩ := List.exists_cons_of_ne_nil hne
  have hc := h c List.mem_cons_self
  have hplus : c ≠ '+' := by
    rintro rfl
    exact absurd hc (by decide)
  have hdigit : c.isDigit = false := by
    unfold Char.isAlpha Char.isUpper Char.isLower at hc
    unfold Char.isDigit
    simp [UInt32.le_iff_toNat_le] at hc ⊢
    omega
  simp [number?, hplus, hdigit]

namespace Names

variable {word : List Char} {threshold : Option Level}

theorem isAlpha_of_isLower_toLower {c : Char} (h : c.toLower.isLower = true) :
    c.isAlpha = true := by
  unfold Char.isAlpha
  cases hupper : c.isUpper with
  | true => exact Bool.true_or _
  | false =>
    have hsame : c.toLower = c := by
      unfold Char.toLower
      rw [dif_neg (of_decide_eq_false hupper)]
    rw [← hsame, h, Bool.or_true]

theorem isAlpha_of_eq (h : word.map Char.toLower = thresholdWord threshold) :
    ∀ c ∈ word, c.isAlpha = true := by
  intro c hc
  apply isAlpha_of_isLower_toLower
  apply List.all_eq_true.mp (all_isLower_thresholdWord threshold)
  rw [← h]
  exact List.mem_map_of_mem hc

/-- What names a threshold is written in ASCII letters and digits. -/
theorem isAlphanum (h : Names word threshold) : ∀ c ∈ word, c.isAlphanum = true := by
  rcases h with h | rfl
  · intro c hc
    rw [Char.isAlphanum, isAlpha_of_eq h c hc]
    rfl
  · rw [← List.all_eq_true]
    cases threshold with
    | none => decide
    | some least => cases least <;> decide

theorem ne_nil (h : Names word threshold) : word ≠ [] := by
  rintro rfl
  rcases h with h | h
  · cases threshold with
    | none => cases h
    | some least => cases least <;> cases h
  · cases h

/-- **What names a threshold is read as this threshold.** -/
theorem thresholdOf?_eq (h : Names word threshold) :
    Directive.thresholdOf? word = some threshold := by
  have hne := h.ne_nil
  rcases h with h | rfl
  · rw [Directive.thresholdOf?, Directive.number?_of_isAlpha hne (isAlpha_of_eq h), h]
    cases threshold with
    | none => decide
    | some least => cases least <;> decide
  · cases threshold with
    | none => decide
    | some least => cases least <;> decide

end Names

/-! ### Plain directives -/

/-- The characters that part a setting into its directives and these into their pieces. -/
def isMark (c : Char) : Bool := c == ',' || c == '=' || c == '['

theorem Directive.isBlank_of_canBegin {c : Char} (h : canBegin c = true) :
    Text.isBlank c = false := by
  simp only [canBegin, Bool.or_eq_true, beq_iff_eq] at h
  rcases h with ((h | rfl) | rfl) | rfl
  · exact Text.isBlank_of_isAlphanumeric h
  · decide
  · decide
  · decide

theorem Directive.canBegin_of_isAlphanum {c : Char} (h : c.isAlphanum = true) :
    canBegin c = true := by
  rw [canBegin, Text.isAlphanumeric_of_isAlphanum h]
  rfl

theorem isMark_of_isAlphanum {c : Char} (h : c.isAlphanum = true) : isMark c = false := by
  by_contra hmark
  rw [Bool.not_eq_false, isMark, Bool.or_eq_true, Bool.or_eq_true, beq_iff_eq, beq_iff_eq,
    beq_iff_eq] at hmark
  rcases hmark with (rfl | rfl) | rfl
  · exact absurd h (by decide)
  · exact absurd h (by decide)
  · exact absurd h (by decide)

/-- A directive of the two plain forms, as it is written: for the events of all targets that begin
with `target`, and so for all events if that is empty. -/
structure Plain where
  target : List Char
  threshold : Option Level
  /-- The text that the threshold is written as. -/
  word : List Char
  named : Names word threshold
  /-- A target has no mark in it, so it ends where the equals sign comes. -/
  unmarked : target.any isMark = false
  begins : target.head?.all Directive.canBegin = true

namespace Plain

/-- The directive that is written. -/
def directive (p : Plain) : Directive := .forTarget p.target p.threshold

/-- The text of a directive: its level, behind the target and an equals sign if it has a target. -/
def text (p : Plain) : List Char :=
  if p.target = [] then p.word else p.target ++ '=' :: p.word

/-- The setting that consists of directives, with commas between them. -/
def setting (ps : List Plain) : String := String.ofList ([','].intercalate (ps.map text))

/-! ### Reading a directive -/

theorem text_of_nil {p : Plain} (h : p.target = []) : p.text = p.word := if_pos h

theorem text_of_ne_nil {p : Plain} (h : p.target ≠ []) : p.text = p.target ++ '=' :: p.word :=
  if_neg h

theorem isMark_of_mem_target (p : Plain) {c : Char} (hc : c ∈ p.target) : isMark c = false :=
  Bool.eq_false_iff.mpr (List.any_eq_false.mp p.unmarked c hc)

theorem isBlank_of_mem_word (p : Plain) {c : Char} (hc : c ∈ p.word) : Text.isBlank c = false :=
  Text.isBlank_of_isAlphanum (p.named.isAlphanum c hc)

/-- Neither end of a directive is blank. -/
theorem trimmed_text (p : Plain) : Text.Trimmed p.text := by
  by_cases htarget : p.target = []
  · rw [text_of_nil htarget]
    constructor
    · exact fun c hc => p.isBlank_of_mem_word (List.mem_of_mem_head? hc)
    · exact fun c hc => p.isBlank_of_mem_word (List.mem_of_mem_getLast? hc)
  · rw [text_of_ne_nil htarget]
    constructor
    · intro c hc
      rw [List.head?_append_of_ne_nil _ htarget] at hc
      exact Directive.isBlank_of_canBegin ((Option.all_eq_true _ _).mp p.begins c hc)
    · intro c hc
      have hword : (p.target ++ '=' :: p.word).getLast? = p.word.getLast? := by
        rw [List.append_cons, List.getLast?_append_of_ne_nil _ p.named.ne_nil]
      rw [hword] at hc
      exact p.isBlank_of_mem_word (List.mem_of_mem_getLast? hc)

/-- A directive is one part of a setting. -/
theorem comma_not_mem_text (p : Plain) : ',' ∉ p.text := by
  have htarget : ',' ∉ p.target := by
    intro hc
    exact absurd (p.isMark_of_mem_target hc) (by decide)
  have hword : ',' ∉ p.word := by
    intro hc
    exact absurd (p.named.isAlphanum ',' hc) (by decide)
  by_cases h : p.target = []
  · rw [text_of_nil h]
    exact hword
  · rw [text_of_ne_nil h, List.mem_append, List.mem_cons, not_or, not_or]
    exact ⟨htarget, by decide, hword⟩

theorem text_ne_nil (p : Plain) : p.text ≠ [] := by
  by_cases h : p.target = []
  · rw [text_of_nil h]
    exact p.named.ne_nil
  · rw [text_of_ne_nil h]
    exact List.append_ne_nil_of_left_ne_nil h _

/-- What comes before the equals sign, or all of a text that has none. -/
theorem takeWhile_unmarked {name rest : List Char} (hname : ∀ c ∈ name, isMark c = false)
    (hrest : ∀ c ∈ rest.head?, c = '=') :
    (name ++ rest).takeWhile (fun c => c ≠ '=' && c ≠ '[') = name := by
  have hnone : rest.takeWhile (fun c => c ≠ '=' && c ≠ '[') = [] := by
    cases rest with
    | nil => rfl
    | cons c cs =>
      obtain rfl : c = '=' := hrest c rfl
      rfl
  have hall : ∀ c ∈ name, (c ≠ '=' && c ≠ '[') = true := by
    intro c hc
    have hmark := hname c hc
    simp [isMark] at hmark
    simp [hmark]
  rw [List.takeWhile_append_of_pos hall, hnone, List.append_nil]

theorem ofPart?_of_nil {p : Plain} (h : p.target = []) :
    Directive.ofPart? p.text = some p.directive := by
  have htrim : Text.trim p.word = p.word := by
    rw [← text_of_nil h]
    exact Text.trim_eq_self p.trimmed_text
  have hname : p.word.takeWhile (fun c => c ≠ '=' && c ≠ '[') = p.word := by
    have htake := @takeWhile_unmarked p.word [] (fun c hc => isMark_of_isAlphanum
      (p.named.isAlphanum c hc)) (fun c hc => by cases hc)
    rwa [List.append_nil] at htake
  obtain ⟨c, cs, hword⟩ := List.exists_cons_of_ne_nil p.named.ne_nil
  have hc : Directive.canBegin c = true := by
    apply Directive.canBegin_of_isAlphanum
    apply p.named.isAlphanum
    rw [hword]
    exact List.mem_cons_self
  have hthreshold := p.named.thresholdOf?_eq
  rw [text_of_nil h, directive, h]
  unfold Directive.ofPart?
  simp only [htrim, hname, List.drop_length]
  rw [hword] at hthreshold ⊢
  simp [hc, hthreshold, Directive.forLevel, Directive.forTarget]

theorem ofPart?_of_ne_nil {p : Plain} (h : p.target ≠ []) :
    Directive.ofPart? p.text = some p.directive := by
  have htrim : Text.trim (p.target ++ '=' :: p.word) = p.target ++ '=' :: p.word := by
    rw [← text_of_ne_nil h]
    exact Text.trim_eq_self p.trimmed_text
  have hname : (p.target ++ '=' :: p.word).takeWhile (fun c => c ≠ '=' && c ≠ '[') = p.target :=
    takeWhile_unmarked (fun c hc => p.isMark_of_mem_target hc)
      fun c hc => (Option.some.inj hc).symm
  have hending : Directive.ending? (p.target ++ '=' :: p.word) ('=' :: p.word)
      (Text.utf8Length p.target) = some p.threshold := by
    have hsize : Text.utf8Length ['='] = 1 := by decide
    have hcut := Text.splitAtByte?_append (p.target ++ ['=']) p.word
    rw [Text.utf8Length_append, hsize, List.append_assoc, List.singleton_append] at hcut
    have hword : p.word.isEmpty = false := List.isEmpty_eq_false_iff.mpr p.named.ne_nil
    rw [Directive.ending?, hcut, Option.bind_some, hword]
    exact p.named.thresholdOf?_eq
  have htarget : p.target.isEmpty = false := List.isEmpty_eq_false_iff.mpr h
  rw [text_of_ne_nil h]
  unfold Directive.ofPart?
  simp only [htrim, hname, p.begins, List.drop_left]
  simp [htarget, hending, Text.slice?_zero_append, directive]

/-- **A plain directive is read as what it writes.** -/
theorem ofPart?_text (p : Plain) : Directive.ofPart? p.text = some p.directive := by
  by_cases h : p.target = []
  · exact ofPart?_of_nil h
  · exact ofPart?_of_ne_nil h

theorem mapM_ofPart?_text (ps : List Plain) :
    (ps.map text).mapM Directive.ofPart? = some (ps.map directive) := by
  induction ps with
  | nil => rfl
  | cons p ps ih =>
    rw [List.map_cons, List.mapM_cons, p.ofPart?_text, ih]
    rfl

/-- **A setting of plain directives is read as these.** -/
theorem ofSetting_setting {ps : List Plain} (hne : ps ≠ []) :
    Filter.ofSetting (some (setting ps)) = ⟨ps.map directive⟩ := by
  have hpieces : Text.pieces ',' (setting ps).toList = ps.map text := by
    rw [setting, String.toList_ofList]
    apply Text.pieces_intercalate
    · intro part hpart
      obtain ⟨p, -, rfl⟩ := List.mem_map.mp hpart
      exact p.comma_not_mem_text
    · simpa using hne
  have hparts : (ps.map text).filter (fun part => !part.isEmpty) = ps.map text := by
    rw [List.filter_eq_self]
    intro part hpart
    obtain ⟨p, -, rfl⟩ := List.mem_map.mp hpart
    rw [List.isEmpty_eq_false_iff.mpr p.text_ne_nil]
    rfl
  have htext : Filter.ofText? (setting ps).toList = some ⟨ps.map directive⟩ := by
    unfold Filter.ofText?
    rw [hpieces, hparts, mapM_ofPart?_text]
    obtain ⟨p, ps, rfl⟩ := List.exists_cons_of_ne_nil hne
    rfl
  rw [Filter.ofSetting, Option.bind_some, htext]
  rfl

end Plain
end Log
end InstructionSheet
