/-
# How a tree of files grows

No operation removes anything from a tree: a folder stays a folder, a file stays a file, perhaps
with other content, a device stays what it is and none is added, and the working folder is the same
(`Files.Grows`). So a path that could be walked can be walked again to the same place, and one that
was opened opens the same place again unless a folder has come to stand there
(`Files.Grows.place`). What was stored at an opened place is read back through its path
(`Files.read_store`).

Key definitions: `Files.Grows`.
Key theorems: `Files.place_eq_ok_iff`, `Files.Grows.walk`, `Files.read_store`,
`Files.grows_makeFolders`, `Files.grows_write`.
-/
import InstructionSheet.Files.Tree

namespace InstructionSheet
namespace Files

variable {t t' t'' : Files} {l l' : Location}

/-! ### What opening and walking need -/

theorem bind_eq_ok_iff {ε α β : Type} {x : Except ε α} {f : α → Except ε β} {b : β} :
    x >>= f = .ok b ↔ ∃ a, x = .ok a ∧ f a = .ok b := by
  cases x with
  | error e => simp [bind, Except.bind]
  | ok a => simp [bind, Except.bind]

theorem enter_into_eq_ok_iff {name : String} :
    t.enter l (.into name) = .ok l' ↔ under l name = .ok l' ∧ t.node? l' = some .folder := by
  rw [enter, bind_eq_ok_iff]
  constructor
  · rintro ⟨next, hnext, h⟩
    split at h
    · cases h
    · rename_i hfolder
      cases h
      exact ⟨hnext, hfolder⟩
    · cases h
  · rintro ⟨hnext, hfolder⟩
    exact ⟨l', hnext, by simp [hfolder]⟩

/-- A path opens a place exactly when its text is a path without a slash at its end, the folders
before its last name are reached, and no folder stands at that name. -/
theorem place_eq_ok_iff {text : String} :
    t.place text = .ok l ↔ ∃ p folder name, Path.ofText text = .ok p ∧
      t.target p = .ok (some (folder, name)) ∧ p.slash = false ∧ under folder name = .ok l ∧
      t.node? l ≠ some .folder := by
  rw [place, bind_eq_ok_iff]
  constructor
  · rintro ⟨p, hp, h⟩
    obtain ⟨_ | ⟨folder, name⟩, htarget, h⟩ := bind_eq_ok_iff.mp h
    · cases h
    cases hslash : p.slash with
    | true => simp [hslash] at h
    | false =>
      simp only [hslash, Bool.false_eq_true, ↓reduceIte] at h
      obtain ⟨l₀, hunder, h⟩ := bind_eq_ok_iff.mp h
      split at h
      · cases h
      · rename_i hfree
        cases h
        exact ⟨p, folder, name, hp, htarget, hslash, hunder, hfree⟩
  · rintro ⟨p, folder, name, hp, htarget, hslash, hunder, hfree⟩
    refine ⟨p, hp, bind_eq_ok_iff.mpr ⟨_, htarget, ?_⟩⟩
    simp only [hslash, Bool.false_eq_true, ↓reduceIte]
    refine bind_eq_ok_iff.mpr ⟨l, hunder, ?_⟩
    split
    · rename_i hfolder
      exact absurd hfolder hfree
    · rfl

theorem not_folder_of_place {text : String} (h : t.place text = .ok l) :
    t.node? l ≠ some .folder := by
  obtain ⟨_, _, _, _, _, _, _, hfree⟩ := place_eq_ok_iff.mp h
  exact hfree

/-! ### Growth -/

/-- Nothing is gone from `t` in `t'`, and what stood at a place is still of its kind. -/
structure Grows (t t' : Files) : Prop where
  home : t'.home = t.home
  folder : ∀ {l}, t.node? l = some .folder → t'.node? l = some .folder
  file : ∀ {l content}, t.node? l = some (.file content) →
    ∃ content', t'.node? l = some (.file content')
  device : ∀ {l d}, t'.node? l = some (.device d) ↔ t.node? l = some (.device d)

namespace Grows

theorem refl (t : Files) : Grows t t := ⟨rfl, id, fun h => ⟨_, h⟩, Iff.rfl⟩

theorem trans (h : Grows t t') (h' : Grows t' t'') : Grows t t'' where
  home := h'.home.trans h.home
  folder hl := h'.folder (h.folder hl)
  file hl := by
    obtain ⟨_, hl'⟩ := h.file hl
    exact h'.file hl'
  device := h'.device.trans h.device

theorem enter (h : Grows t t') {step : Step} (henter : t.enter l step = .ok l') :
    t'.enter l step = .ok l' := by
  cases step with
  | stay => exact henter
  | up => exact henter
  | into name =>
    obtain ⟨hunder, hfolder⟩ := enter_into_eq_ok_iff.mp henter
    exact enter_into_eq_ok_iff.mpr ⟨hunder, h.folder hfolder⟩

/-- **A walk that was possible stays possible** and leads to the same folder. -/
theorem walk (h : Grows t t') : ∀ {steps : List Step} {l : Location},
    t.walk l steps = .ok l' → t'.walk l steps = .ok l'
  | [], _, hwalk => hwalk
  | step :: steps, l, hwalk => by
    rw [Files.walk, List.foldlM_cons] at hwalk ⊢
    obtain ⟨next, henter, hrest⟩ := bind_eq_ok_iff.mp hwalk
    exact bind_eq_ok_iff.mpr ⟨next, h.enter henter, h.walk hrest⟩

theorem target (h : Grows t t') {p : Path} {end? : Option (Location × String)}
    (htarget : t.target p = .ok end?) : t'.target p = .ok end? := by
  have horigin : t'.origin p = t.origin p := by rw [origin, origin, h.home]
  obtain ⟨folder, hwalk, hend⟩ := bind_eq_ok_iff.mp htarget
  rw [Files.target, horigin]
  exact bind_eq_ok_iff.mpr ⟨folder, h.walk hwalk, hend⟩

/-- A path that opened a place opens it again, unless a folder stands there by now. -/
theorem place (h : Grows t t') {text : String} (hplace : t.place text = .ok l)
    (hfree : t'.node? l ≠ some .folder) : t'.place text = .ok l := by
  obtain ⟨p, folder, name, hp, htarget, hslash, hunder, -⟩ := place_eq_ok_iff.mp hplace
  exact place_eq_ok_iff.mpr ⟨p, folder, name, hp, h.target htarget, hslash, hunder, hfree⟩

end Grows

/-! ### The two changes of a tree -/

theorem grows_of_new_folder (hhome : t'.home = t.home) (hnew : t.node? l = none)
    (hnodes : ∀ l', t'.node? l' = if l = l' then some .folder else t.node? l') : Grows t t' where
  home := hhome
  folder {l'} hl := by
    rw [hnodes]
    split
    · rfl
    · exact hl
  file {l' content} hl := by
    have hne : l ≠ l' := by rintro rfl; simp [hnew] at hl
    exact ⟨content, by rw [hnodes, if_neg hne, hl]⟩
  device {l' d} := by
    rw [hnodes]
    split
    · rename_i heq
      rw [← heq, hnew]
      simp
    · rfl

@[simp] theorem home_store (t : Files) (l : Location) (content : ByteArray) :
    (t.store l content).home = t.home := by
  unfold store
  split
  · rfl
  · rfl

theorem store_device {d : Device} (h : t.node? l = some (.device d)) (content : ByteArray) :
    t.store l content = t := by
  simp [store, h]

theorem node?_store_self (h : ∀ d, t.node? l ≠ some (.device d)) (content : ByteArray) :
    (t.store l content).node? l = some (.file content) := by
  unfold store
  split
  · rename_i d hd
    exact absurd hd (h d)
  · simp [node?]

theorem grows_store (h : t.node? l ≠ some .folder) (content : ByteArray) :
    Grows t (t.store l content) := by
  by_cases hdev : ∃ d, t.node? l = some (.device d)
  · obtain ⟨d, hd⟩ := hdev
    rw [store_device hd]
    exact .refl t
  have hself := node?_store_self (fun d hd => hdev ⟨d, hd⟩) content
  refine ⟨home_store t l content, fun {l'} hl => ?_, fun {l' old} hl => ?_, fun {l' d} => ?_⟩
  · have hne : l ≠ l' := by rintro rfl; exact h hl
    rw [node?_store_of_ne hne, hl]
  · by_cases hne : l = l'
    · exact ⟨content, hne ▸ hself⟩
    · exact ⟨old, by rw [node?_store_of_ne hne, hl]⟩
  · by_cases hne : l = l'
    · subst hne
      rw [hself]
      simp only [Option.some.injEq, reduceCtorEq, false_iff]
      exact fun hd => hdev ⟨d, hd⟩
    · rw [node?_store_of_ne hne]

/-- **Stored bytes are read back.** After a path was opened at a place that is no device and bytes
were stored there, the path opens that place again, and reading it gives these bytes. -/
theorem read_store {text : String} (hplace : t.place text = .ok l)
    (hdev : ∀ d, t.node? l ≠ some (.device d)) (content : ByteArray) :
    (t.store l content).place text = .ok l ∧ (t.store l content).read text = .ok content := by
  have hgrows := grows_store (not_folder_of_place hplace) content
  have hself := node?_store_self hdev content
  refine ⟨hgrows.place hplace (by simp [hself]), ?_⟩
  obtain ⟨p, folder, name, hp, htarget, hslash, hunder, -⟩ := place_eq_ok_iff.mp hplace
  rw [read]
  refine bind_eq_ok_iff.mpr ⟨p, hp, bind_eq_ok_iff.mpr ⟨_, hgrows.target htarget, ?_⟩⟩
  refine bind_eq_ok_iff.mpr ⟨l, hunder, ?_⟩
  simp [hself, hslash, pure, Except.pure]

/-! ### Every operation makes a tree grow -/

/-- A path that was written to opens the same place again. -/
theorem place_write {text : String} (hplace : t.place text = .ok l) (content : ByteArray) :
    (t.write text content).1.place text = .ok l := by
  have hstore : ∀ bytes, (t.store l bytes).place text = .ok l := by
    intro bytes
    by_cases hdev : ∃ d, t.node? l = some (.device d)
    · obtain ⟨d, hd⟩ := hdev
      rwa [store_device hd]
    · exact (read_store hplace (fun d hd => hdev ⟨d, hd⟩) bytes).1
  simp only [write, hplace]
  split
  · exact hstore _
  · exact hstore _

theorem grows_write (t : Files) (text : String) (content : ByteArray) :
    Grows t (t.write text content).1 := by
  unfold write
  split
  · exact .refl t
  · rename_i l hplace
    have hfree := not_folder_of_place hplace
    split
    · exact grows_store hfree _
    · exact grows_store hfree _

theorem grows_makeFolder {p : Path} (h : t.makeFolder p = .ok t') : Grows t t' := by
  obtain ⟨_ | ⟨folder, name⟩, -, h⟩ := bind_eq_ok_iff.mp h
  · cases h
  obtain ⟨l, -, h⟩ := bind_eq_ok_iff.mp h
  split at h
  · cases h
  · rename_i hnew
    cases h
    exact grows_of_new_folder rfl (by simpa using hnew) fun l' => by
      simp [node?, Std.ExtHashMap.getElem?_insert]

theorem grows_ensureFolder (t : Files) (p : Path) : Grows t (t.ensureFolder p).1 := by
  unfold ensureFolder
  split
  · rename_i hmake
    exact grows_makeFolder hmake
  · exact .refl t

theorem grows_enterNew {step : Step} (h : t.enterNew l step = .ok (t', l')) : Grows t t' := by
  cases step with
  | stay => cases h; exact .refl t
  | up => cases h; exact .refl t
  | into name =>
    obtain ⟨next, -, h⟩ := bind_eq_ok_iff.mp h
    split at h
    · rename_i hnew
      cases h
      exact grows_of_new_folder rfl hnew fun l' => by
        simp [node?, Std.ExtHashMap.getElem?_insert]
    · cases h
      exact .refl t
    · cases h

theorem grows_clearWay (t : Files) (l : Location) (steps : List Step) :
    Grows t (t.clearWay l steps).1 := by
  induction steps generalizing t l with
  | nil => exact .refl t
  | cons step steps ih =>
    rw [clearWay]
    split
    · rename_i hstep
      exact (grows_enterNew hstep).trans (ih _ _)
    · exact .refl t

/-- **Making folders makes a tree grow**, also when one of them cannot be made and those before it
stay. -/
theorem grows_makeFolders (t : Files) (text : String) : Grows t (t.makeFolders text).1 := by
  unfold makeFolders
  split
  · exact .refl t
  split
  · exact .refl t
  rename_i p hp
  split
  · have hway := grows_clearWay t (t.origin p) p.way
    split
    · rename_i t' hcleared
      rw [hcleared] at hway
      exact hway.trans (grows_ensureFolder t' p)
    · rename_i t' f hcleared
      rw [hcleared] at hway
      exact hway
  · exact grows_ensureFolder t p

end Files
end InstructionSheet
