/-
# The files of a workspace

Whatever commands are carried out, the files of a workspace only grow (`Workspace.grows_after`). So
in every workspace that is ever reached the working folder is the one it began with and the two
devices stand at their own places and nowhere else (`Workspace.node?_device_iff`), which settles
where the paths of the devices and the standard path lead.

Key definitions: `Device.location`.
Key theorems: `Workspace.grows_execute`, `Workspace.grows_after`, `Workspace.node?_device_iff`,
`Workspace.place_standardOutput`.
-/
import InstructionSheet.Proofs.Output.Export
import InstructionSheet.Proofs.Workspace.Sheets

namespace InstructionSheet

/-- The place of a device. -/
def Device.location : Device → Location
  | .null => ["dev", "null"]
  | .full => ["dev", "full"]

namespace Workspace

/-! ### Growth -/

theorem grows_withSheet (w : Workspace) (made : Sheet × List Log.Event) :
    w.files.Grows (w.withSheet made).workspace.files := .refl _

/-- **A command lets the files grow.** -/
theorem grows_execute (w : Workspace) (c : Command) :
    w.files.Grows (w.execute c).workspace.files := by
  cases c with
  | runStandard => exact Sheet.grows_exportTo _ _ _
  | runMos6502 output => exact Sheet.grows_exportTo _ _ _
  | runSheet output => exact Sheet.grows_exportTo _ _ _
  | exportSheet output => exact Sheet.grows_exportTo _ _ _
  | commandLine setting => exact Sheet.grows_exportTo _ _ _
  | makeFolders path => exact Files.grows_makeFolders _ _
  | write path content => exact Files.grows_write _ _ _
  | mos6502 => exact grows_withSheet w Mos6502.sheet
  | _ => exact .refl _

theorem grows_after (w : Workspace) (commands : List Command) :
    w.files.Grows (w.after commands).files := by
  induction commands generalizing w with
  | nil => exact .refl _
  | cons c cs ih =>
    rw [after_cons]
    exact (grows_execute w c).trans (ih _)

/-! ### What stands in every tree -/

theorem node?_initial (l : Location) :
    Files.initial.node? l =
      if ["tmp", ""] = l then some .folder
      else if ["tmp"] = l then some .folder
      else if ["dev", "full"] = l then some (.device .full)
      else if ["dev", "null"] = l then some (.device .null)
      else if ["dev"] = l then some .folder
      else if [] = l then some .folder
      else none := by
  simp [Files.initial, Files.node?, Std.ExtHashMap.ofList_cons, Std.ExtHashMap.insertMany_cons,
    Std.ExtHashMap.getElem?_insert]

theorem node?_initial_device_iff (l : Location) (d : Device) :
    Files.initial.node? l = some (.device d) ↔ l = d.location := by
  rw [node?_initial]
  cases d with
  | null => grind [Device.location]
  | full => grind [Device.location]

/-- **The devices stand at their places and nowhere else.** -/
theorem node?_device_iff (commands : List Command) (l : Location) (d : Device) :
    (initial.after commands).files.node? l = some (.device d) ↔ l = d.location :=
  (grows_after initial commands).device.trans (node?_initial_device_iff l d)

theorem home_after (commands : List Command) :
    (initial.after commands).files.home = ["tmp", ""] :=
  (grows_after initial commands).home

/-! ### Where two paths lead -/

theorem place_null (commands : List Command) :
    (initial.after commands).files.place "/dev/null" = .ok Device.null.location := by
  have hdev := (node?_device_iff commands Device.null.location .null).mpr rfl
  have hfolder : (initial.after commands).files.node? ["dev"] = some .folder :=
    (grows_after initial commands).folder (by rw [initial, node?_initial]; rfl)
  have hwalk : (initial.after commands).files.walk [] [.into "dev"] = .ok ["dev"] :=
    Files.bind_eq_ok_iff.mpr ⟨["dev"], Files.enter_into_eq_ok_iff.mpr ⟨rfl, hfolder⟩, rfl⟩
  refine Files.place_eq_ok_iff.mpr
    ⟨⟨true, [.into "dev", .into "null"], false⟩, ["dev"], "null", rfl, ?_, rfl, rfl, ?_⟩
  · exact Files.bind_eq_ok_iff.mpr ⟨["dev"], hwalk, rfl⟩
  · simp [hdev]

/-- The standard path opens its name in the working folder, unless a folder has that name. -/
theorem place_standardOutput (t : Files) :
    t.place Job.standardOutput =
      match t.node? (t.home ++ [Job.standardOutput]) with
      | some .folder => .error .isADirectory
      | _ => .ok (t.home ++ [Job.standardOutput]) := rfl

end Workspace
end InstructionSheet
