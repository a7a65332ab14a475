/-
# Opening a path, now and later

There are six reasons why a path opens no place (`Files.Refuses`), and they come with five faults
(`Files.mem_openingFaults`). A name that is missing can be made later. Every other reason lasts
while the tree grows: a text that is no path never becomes one, a way that has been walked stays
open, a file on the way stays a file, and a folder where a file is needed stays a folder
(`Files.settles_of_error`).

A path that opens a place may be refused later, when a folder has been made there. Once something
that is no folder stands at the place (`Files.Taken`) the path opens it for good
(`Files.settles_of_taken`).

Key definitions: `Files.Refuses`, `Files.Taken`, `Files.Settles`, `Files.openingFaults`.
Key theorems: `Files.place_eq_error_iff`, `Files.mem_openingFaults`, `Files.Grows.refuses`,
`Files.settles_of_error`, `Files.settles_of_taken`.
-/
import InstructionSheet.Proofs.Files.Growth

namespace InstructionSheet
namespace Files

variable {t t' : Files} {l : Location} {text : String} {f : Fault}

/-! ### Why a path is refused -/

theorem bind_eq_error_iff {ε α β : Type} {x : Except ε α} {g : α → Except ε β} {e : ε} :
    x >>= g = .error e ↔ x = .error e ∨ ∃ a, x = .ok a ∧ g a = .error e := by
  cases x with
  | error e' => simp [bind, Except.bind]
  | ok a => simp [bind, Except.bind]

/-- Something stands at the place, and it is no folder. -/
def Taken (t : Files) (l : Location) : Prop := ∃ node, t.node? l = some node ∧ node ≠ .folder

theorem Taken.not_folder (h : t.Taken l) : t.node? l ≠ some .folder := by
  obtain ⟨node, hnode, hne⟩ := h
  rw [hnode]
  exact fun heq => hne (Option.some.inj heq)

/-- A step cannot be taken when its name is too long, or nothing has the name, or something that
is no folder has it. -/
theorem enter_into_eq_error_iff {name : String} :
    t.enter l (.into name) = .error f ↔
      under l name = .error f ∨ ∃ next, under l name = .ok next ∧
        ((t.node? next = none ∧ f = .notFound) ∨ (t.Taken next ∧ f = .notADirectory)) := by
  rw [enter, bind_eq_error_iff]
  refine or_congr_right (exists_congr fun next => and_congr_right fun _ => ?_)
  cases hnode : t.node? next with
  | none => simp [Taken, hnode, eq_comm]
  | some node =>
    cases node with
    | folder => simp [Taken, hnode]
    | file content => simp [Taken, hnode, eq_comm]
    | device d => simp [Taken, hnode, eq_comm]

theorem target_eq_error_iff {p : Path} :
    t.target p = .error f ↔ t.walk (t.origin p) p.steps.dropLast = .error f := by
  rw [target, bind_eq_error_iff, or_iff_left]
  rintro ⟨folder, -, hend⟩
  split at hend
  · cases hend
  · cases hend

/-- The reasons why a path opens no place, each with its fault. -/
inductive Refuses (t : Files) (text : String) : Fault → Prop
  /-- The text is no path. -/
  | text {f : Fault} : Path.ofText text = .error f → Refuses t text f
  /-- The folders before the last step cannot be reached. -/
  | way {p : Path} {f : Fault} : Path.ofText text = .ok p → t.target p = .error f →
      Refuses t text f
  /-- The path ends at no name. -/
  | nameless {p : Path} : Path.ofText text = .ok p → t.target p = .ok none →
      Refuses t text .isADirectory
  /-- A slash ends the path. -/
  | slash {p : Path} {end? : Location × String} : Path.ofText text = .ok p →
      t.target p = .ok (some end?) → p.slash = true → Refuses t text .isADirectory
  /-- The name at the end is too long. -/
  | name {p : Path} {folder : Location} {name : String} {f : Fault} : Path.ofText text = .ok p →
      t.target p = .ok (some (folder, name)) → p.slash = false → under folder name = .error f →
      Refuses t text f
  /-- A folder stands at the place. -/
  | folder {p : Path} {folder : Location} {name : String} {l : Location} :
      Path.ofText text = .ok p → t.target p = .ok (some (folder, name)) → p.slash = false →
      under folder name = .ok l → t.node? l = some .folder → Refuses t text .isADirectory

/-- **A path opens no place exactly for one of these reasons.** -/
theorem place_eq_error_iff : t.place text = .error f ↔ t.Refuses text f := by
  constructor
  · intro h
    rw [place] at h
    rcases bind_eq_error_iff.mp h with hp | ⟨p, hp, h⟩
    · exact .text hp
    rcases bind_eq_error_iff.mp h with htarget | ⟨_ | ⟨folder, name⟩, htarget, h⟩
    · exact .way hp htarget
    · cases h
      exact .nameless hp htarget
    cases hslash : p.slash with
    | true =>
      simp only [hslash, ↓reduceIte, Except.error.injEq] at h
      exact h ▸ .slash hp htarget hslash
    | false =>
      simp only [hslash, Bool.false_eq_true, ↓reduceIte] at h
      rcases bind_eq_error_iff.mp h with hunder | ⟨l, hunder, h⟩
      · exact .name hp htarget hslash hunder
      split at h
      · rename_i hfolder
        cases h
        exact .folder hp htarget hslash hunder hfolder
      · cases h
  · intro h
    rw [place, bind_eq_error_iff]
    cases h with
    | text hp => exact .inl hp
    | way hp htarget => exact .inr ⟨_, hp, bind_eq_error_iff.mpr (.inl htarget)⟩
    | nameless hp htarget => exact .inr ⟨_, hp, bind_eq_error_iff.mpr (.inr ⟨_, htarget, rfl⟩)⟩
    | slash hp htarget hslash =>
      exact .inr ⟨_, hp, bind_eq_error_iff.mpr (.inr ⟨_, htarget, by simp [hslash]⟩)⟩
    | name hp htarget hslash hunder =>
      refine .inr ⟨_, hp, bind_eq_error_iff.mpr (.inr ⟨_, htarget, ?_⟩)⟩
      simp only [hslash, Bool.false_eq_true, ↓reduceIte]
      exact bind_eq_error_iff.mpr (.inl hunder)
    | folder hp htarget hslash hunder hfolder =>
      refine .inr ⟨_, hp, bind_eq_error_iff.mpr (.inr ⟨_, htarget, ?_⟩)⟩
      simp only [hslash, Bool.false_eq_true, ↓reduceIte]
      exact bind_eq_error_iff.mpr (.inr ⟨_, hunder, by rw [hfolder]⟩)

/-! ### The faults of an opening -/

/-- The faults with which a path can be refused. -/
def openingFaults : List Fault :=
  [.notFound, .isADirectory, .notADirectory, .nameTooLong, .nulInName]

/-- The words tell apart the faults of opening. -/
theorem eq_of_text_eq : ∀ f ∈ openingFaults, ∀ f' ∈ openingFaults,
    f'.text = f.text → f' = f := by decide

theorem mem_openingFaults_of_ofText (h : Path.ofText text = .error f) : f ∈ openingFaults := by
  unfold Path.ofText at h
  split at h
  · cases h
    decide
  split at h
  · cases h
    decide
  split at h
  · cases h
    decide
  · cases h

theorem mem_openingFaults_of_under {name : String} (h : under l name = .error f) :
    f ∈ openingFaults := by
  unfold under at h
  split at h
  · cases h
    decide
  · cases h

theorem mem_openingFaults_of_enter {step : Step} (h : t.enter l step = .error f) :
    f ∈ openingFaults := by
  cases step with
  | stay => cases h
  | up => cases h
  | into name =>
    rcases enter_into_eq_error_iff.mp h with hunder | ⟨_, -, ⟨-, rfl⟩ | ⟨-, rfl⟩⟩
    · exact mem_openingFaults_of_under hunder
    · decide
    · decide

theorem mem_openingFaults_of_walk : ∀ {steps : List Step} {l : Location},
    t.walk l steps = .error f → f ∈ openingFaults
  | [], _, h => by cases h
  | step :: steps, l, h => by
    rw [walk, List.foldlM_cons] at h
    rcases bind_eq_error_iff.mp h with henter | ⟨next, -, hrest⟩
    · exact mem_openingFaults_of_enter henter
    · exact mem_openingFaults_of_walk hrest

/-- **A path is refused with one of five faults.** -/
theorem mem_openingFaults (h : t.place text = .error f) : f ∈ openingFaults := by
  cases place_eq_error_iff.mp h with
  | text hp => exact mem_openingFaults_of_ofText hp
  | way hp htarget => exact mem_openingFaults_of_walk (target_eq_error_iff.mp htarget)
  | nameless => decide
  | slash => decide
  | name _ _ _ hunder => exact mem_openingFaults_of_under hunder
  | folder => decide

/-! ### What lasts -/

namespace Grows

theorem taken (h : Grows t t') (htaken : t.Taken l) : t'.Taken l := by
  obtain ⟨node, hnode, hne⟩ := htaken
  cases node with
  | folder => exact absurd rfl hne
  | file content =>
    obtain ⟨content', hnode'⟩ := h.file hnode
    exact ⟨_, hnode', Node.noConfusion⟩
  | device d => exact ⟨_, h.device.mpr hnode, Node.noConfusion⟩

theorem enter_error (h : Grows t t') {step : Step} (henter : t.enter l step = .error f)
    (hf : f ≠ .notFound) : t'.enter l step = .error f := by
  cases step with
  | stay => exact henter
  | up => exact henter
  | into name =>
    rw [enter_into_eq_error_iff] at henter ⊢
    rcases henter with hunder | ⟨next, hunder, ⟨-, hmissing⟩ | ⟨htaken, hfault⟩⟩
    · exact .inl hunder
    · exact absurd hmissing hf
    · exact .inr ⟨next, hunder, .inr ⟨h.taken htaken, hfault⟩⟩

/-- **A walk that ended for another reason than a missing name** ends again, for the same reason. -/
theorem walk_error (h : Grows t t') (hf : f ≠ .notFound) : ∀ {steps : List Step} {l : Location},
    t.walk l steps = .error f → t'.walk l steps = .error f
  | [], _, hwalk => by cases hwalk
  | step :: steps, l, hwalk => by
    rw [Files.walk, List.foldlM_cons] at hwalk ⊢
    rcases bind_eq_error_iff.mp hwalk with henter | ⟨next, henter, hrest⟩
    · exact bind_eq_error_iff.mpr (.inl (h.enter_error henter hf))
    · exact bind_eq_error_iff.mpr (.inr ⟨next, h.enter henter, h.walk_error hf hrest⟩)

theorem target_error (h : Grows t t') {p : Path} (htarget : t.target p = .error f)
    (hf : f ≠ .notFound) : t'.target p = .error f := by
  have horigin : t'.origin p = t.origin p := by rw [origin, origin, h.home]
  rw [target_eq_error_iff] at htarget ⊢
  rw [horigin]
  exact h.walk_error hf htarget

/-- **A reason to refuse a path lasts**, unless it is a missing name. -/
theorem refuses (h : Grows t t') (hrefuses : t.Refuses text f) (hf : f ≠ .notFound) :
    t'.Refuses text f := by
  cases hrefuses with
  | text hp => exact .text hp
  | way hp htarget => exact .way hp (h.target_error htarget hf)
  | nameless hp htarget => exact .nameless hp (h.target htarget)
  | slash hp htarget hslash => exact .slash hp (h.target htarget) hslash
  | name hp htarget hslash hunder => exact .name hp (h.target htarget) hslash hunder
  | folder hp htarget hslash hunder hfolder =>
    exact .folder hp (h.target htarget) hslash hunder (h.folder hfolder)

end Grows

/-- However the tree grows, the path has this outcome. -/
def Settles (t : Files) (text : String) (outcome : Except Fault Location) : Prop :=
  ∀ t', t.Grows t' → t'.place text = outcome

namespace Settles

variable {outcome : Except Fault Location}

theorem place_eq (h : t.Settles text outcome) : t.place text = outcome := h t (.refl t)

theorem of_grows (h : t.Settles text outcome) (hgrows : t.Grows t') : t'.Settles text outcome :=
  fun t'' hgrows' => h t'' (hgrows.trans hgrows')

end Settles

theorem settles_of_error (h : t.place text = .error f) (hf : f ≠ .notFound) :
    t.Settles text (.error f) := fun _ hgrows =>
  place_eq_error_iff.mpr (hgrows.refuses (place_eq_error_iff.mp h) hf)

/-- Something that is no folder stands at an opened place: the path opens it for good. -/
theorem settles_of_taken (h : t.place text = .ok l) (htaken : t.Taken l) :
    t.Settles text (.ok l) := fun _ hgrows => hgrows.place h (hgrows.taken htaken).not_folder

/-! ### A missing name can be made -/

theorem makeFolders_of_missing {p : Path} {folder : Location} {name : String}
    (hnonempty : text ≠ "") (hroot : Path.isRoot text = false) (hp : Path.ofText text = .ok p)
    (htarget : t.target p = .ok (some (folder, name))) (hunder : under folder name = .ok l)
    (hmissing : t.node? l = none) :
    (t.makeFolders text).2 = .ok () ∧
      ∀ l', (t.makeFolders text).1.node? l' = if l = l' then some .folder else t.node? l' := by
  have hmake : t.makeFolder p = .ok { t with nodes := t.nodes.insert l .folder } :=
    bind_eq_ok_iff.mpr ⟨_, htarget, bind_eq_ok_iff.mpr ⟨l, hunder, by simp [hmissing]; rfl⟩⟩
  rw [makeFolders, if_neg (by simp [hnonempty, hroot]), hp]
  simp only [hmake, ensureFolder, true_and]
  intro l'
  simp [node?, Std.ExtHashMap.getElem?_insert]

end Files
end InstructionSheet
