/-
# Exports are all or nothing

Four commands of a workspace export a sheet. They differ in the sheet, in the path, in the events of
making the job and in how the result is told, and do the same work (`Command.exporting?`,
`Workspace.execute_of_exporting`). That work either fails, and then the workspace is as it was and
no export is reported, or it succeeds, and then one export is reported and the file at the path, or
nothing at all when the path leads to `/dev/null`, has changed (`Workspace.export_all_or_nothing`).

Key definitions: `Exporting`, `Command.exporting?`.
Key theorems: `Workspace.execute_of_exporting`, `Workspace.export_all_or_nothing`.
-/
import InstructionSheet.Proofs.Sheet.Replacements
import InstructionSheet.Proofs.Workspace.Trees

namespace InstructionSheet

/-! ### The commands that export -/

/-- What an exporting command does: the job it runs, the events of making the job, and how it tells
the result. -/
structure Exporting where
  job : Job
  events : List Log.Event
  answer : Except ExportError Nat → Answer

/-- What a command exports, if it is one of those that do. -/
def Command.exporting? (w : Workspace) : Command → Option Exporting
  | .runStandard => some ⟨Job.standard.1, Job.standard.2, .runCount⟩
  | .runMos6502 output => some ⟨(Job.mos6502 output).1, (Job.mos6502 output).2, .runCount⟩
  | .runSheet output => some ⟨⟨output, w.sheet⟩, [], .jobRun ⟨output, w.sheet⟩⟩
  | .exportSheet output =>
    some ⟨⟨output, w.sheet⟩, [], fun result => .exported (result.map fun _ => ())⟩
  | _ => none

namespace Workspace

variable {w : Workspace} {c : Command} {x : Exporting}

theorem execute_of_exporting (h : c.exporting? w = some x) :
    w.execute c = ⟨{ w with files := (x.job.run w.files).files },
      x.answer (x.job.run w.files).result, x.events ++ (x.job.run w.files).events⟩ := by
  cases c with
  | runStandard => cases h; rfl
  | runMos6502 output => cases h; rfl
  | runSheet output => cases h; rfl
  | exportSheet output =>
    cases h
    simp only [execute, onFiles, Job.run, List.nil_append]
    cases (w.sheet.exportTo w.files output).result with
    | error e => rfl
    | ok _ => rfl
  | _ => cases h

theorem level_of_mem_exporting (h : c.exporting? w = some x) {event : Log.Event}
    (he : event ∈ x.events) : event.level ≠ .info := by
  cases c with
  | runStandard => cases h; exact Sheet.level_of_mem_parse he
  | runMos6502 output => cases h; exact Sheet.level_of_mem_parse he
  | runSheet output => cases h; cases he
  | exportSheet output => cases h; cases he
  | _ => cases h

/-- **An export is all or nothing.** Take any workspace that commands lead to and a command that
exports. The events of making its job are no reports of an export. Either the command fails, which
is so when the path opens no place or leads to the device without room; then the workspace is as it
was, and nothing but those events is reported. Or it succeeds; then one more event is reported, the
report of the export with the path and the number of rows, both sheets are as they were, and either
the path leads where `/dev/null` does and the files are as they were, or the path leads to the plain
file that now holds the sheet's CSV text, all else is as it was, and what the path reads as decodes
to the sheet's rows, as many as the command counts. -/
theorem export_all_or_nothing {commands : List Command}
    (h : c.exporting? (initial.after commands) = some x) :
    let w := initial.after commands
    let output := x.job.output
    let sheet := x.job.sheet
    (∀ event ∈ x.events, event.level ≠ .info) ∧
      ((∃ e, w.execute c = ⟨w, x.answer (.error e), x.events⟩ ∧
          ((∃ f, w.files.place output = .error f ∧ e = .create output f) ∨
            (w.files.place output = .ok Device.full.location ∧
              e = if 0 < sheet.lastMark then .row .noSpace else .finish .noSpace))) ∨
        ∃ l files, w.files.place output = .ok l ∧
          w.execute c = ⟨{ w with files := files }, x.answer (.ok sheet.size),
            x.events ++ [.exported output sheet.size]⟩ ∧
          (Log.Event.exported output sheet.size).level = .info ∧
          ((w.files.place output = w.files.place "/dev/null" ∧ files = w.files) ∨
            (files.place output = .ok l ∧
              w.files.WrittenAt files l sheet.csv.toByteArray ∧
              files.read output = .ok sheet.csv.toByteArray ∧
              ∃ decoded, files.decodeAt output = some decoded ∧
                decoded.headers = ["Instruction", "Description"] ∧
                decoded.entries = sheet.rows.map .ok ∧
                sheet.size = decoded.entries.length))) := by
  intro w output sheet
  refine ⟨fun event he => level_of_mem_exporting h he, ?_⟩
  have hrun := execute_of_exporting h
  simp only [Job.run] at hrun
  rcases sheet.exportTo_cases w.files output with
    ⟨f, hplace, hexport⟩ | ⟨l, hplace, hfull, hexport⟩ | ⟨l, hplace, hnull, hexport⟩ |
    ⟨l, hplace, hdev, hexport⟩
  · -- the path opens no place
    rw [hexport, List.append_nil] at hrun
    exact .inl ⟨_, hrun, .inl ⟨f, hplace, rfl⟩⟩
  · -- the device without room
    rw [hexport, List.append_nil] at hrun
    refine .inl ⟨_, hrun, .inr ⟨?_, rfl⟩⟩
    rw [hplace, (node?_device_iff commands l .full).mp hfull]
  · -- the device that keeps nothing
    rw [hexport] at hrun
    refine .inr ⟨l, w.files, hplace, hrun, rfl, .inl ⟨?_, rfl⟩⟩
    rw [hplace, place_null, (node?_device_iff commands l .null).mp hnull]
  · -- a plain file
    rw [hexport] at hrun
    obtain ⟨hread, hdecoded⟩ := sheet.decodeAt_store hplace hdev
    refine .inr ⟨l, _, hplace, hrun, rfl, .inr ⟨(Files.read_store hplace hdev _).1,
      Files.writtenAt_store hdev _, hread, _, hdecoded, rfl, rfl, ?_⟩⟩
    rw [List.length_map, Sheet.length_rows]

/-- An export over a file that holds a longer text. -/
theorem export_over_longer_file :
    let w := initial.after [.insert ⟨"LDA", "a, b"⟩,
      .write "instructions.csv" "a text that is longer than the CSV text of the sheet by far"]
    let reply := w.execute (.runSheet "instructions.csv")
    Command.exporting? w (.runSheet "instructions.csv") =
        some ⟨⟨"instructions.csv", w.sheet⟩, [], .jobRun ⟨"instructions.csv", w.sheet⟩⟩ ∧
      w.sheet.rows = [⟨"LDA", "a, b"⟩] ∧
      reply.answer = .jobRun ⟨"instructions.csv", w.sheet⟩ (.ok 1) ∧
      reply.events = [.exported "instructions.csv" 1] ∧
      ∃ decoded, reply.workspace.files.decodeAt "instructions.csv" = some decoded ∧
        decoded.entries = [.ok ⟨"LDA", "a, b"⟩] := by
  intro w reply
  have hx : Command.exporting? w (.runSheet "instructions.csv") =
      some ⟨⟨"instructions.csv", w.sheet⟩, [], .jobRun ⟨"instructions.csv", w.sheet⟩⟩ := rfl
  have hrows : w.sheet.rows = [⟨"LDA", "a, b"⟩] := by
    have hsheet : w.sheet = (Sheet.empty.insert ⟨"LDA", "a, b"⟩).sheet := rfl
    rw [hsheet, Sheet.insert_of_slot_none (Sheet.slot?_empty _), Sheet.rows_append, Sheet.rows_empty]
    rfl
  have hsize : w.sheet.size = 1 := by rw [← Sheet.length_rows, hrows]; rfl
  have hopens : w.files.place "instructions.csv" = .ok ["tmp", "", "instructions.csv"] := by
    have hnew : Files.initial.node? ["tmp", "", "instructions.csv"] = none := by
      rw [node?_initial]; rfl
    have hplace : Files.initial.place "instructions.csv" = .ok ["tmp", "", "instructions.csv"] := by
      have h := place_standardOutput Files.initial
      rwa [show Files.initial.home ++ [Job.standardOutput] = ["tmp", "", "instructions.csv"] from rfl,
        hnew] at h
    exact Files.place_write hplace _
  obtain ⟨-, ⟨e, -, ⟨f, hplace, -⟩ | ⟨hplace, -⟩⟩ | ⟨l, files, -, hreply, -, hchanged⟩⟩ :=
    export_all_or_nothing (c := .runSheet "instructions.csv") hx
  · rw [hopens] at hplace
    cases hplace
  · exact absurd (hopens.symm.trans hplace) (by simp [Device.location])
  rw [hsize] at hreply
  refine ⟨hx, hrows, congrArg Reply.answer hreply, congrArg Reply.events hreply, ?_⟩
  have hfiles : reply.workspace.files = files := congrArg (fun r => r.workspace.files) hreply
  rcases hchanged with ⟨hnull, -⟩ | ⟨-, -, -, decoded, hdecoded, -, hentries, -⟩
  · exact absurd (hopens.symm.trans (hnull.trans (place_null _))) (by simp [Device.location])
  · rw [hrows] at hentries
    exact ⟨decoded, hfiles ▸ hdecoded, hentries⟩

end Workspace
end InstructionSheet
