/-
# The command and the library agree

The command runs the standard job as the library does and puts what came of it into its status and
its streams (`CommandLine.report_cases`). In any workspace that commands lead to, the job fails
exactly when a folder has the standard path's name (`Workspace.run_standardOutput`). So both change
the files in the same way, one tells a count exactly when the other ends with status 0, and neither
looks at the sheets of the workspace or at the log setting
(`Workspace.commandLine_agrees_with_runStandard`).

Key theorems: `CommandLine.report_cases`, `Workspace.run_standardOutput`,
`Workspace.commandLine_agrees_with_runStandard`.
-/
import InstructionSheet.Proofs.Workspace.Trees

namespace InstructionSheet

namespace CommandLine

theorem failureLines_standardOutput {e : ExportError} (hcauses : e.causes = [e.fault.text]) :
    failureLines Job.standardOutput e =
      ["Error: writing instructions.csv", "", "Caused by:", "    0: " ++ e.message,
        "    1: " ++ e.fault.text] := by
  have hfirst : "    " ++ toString 0 ++ ": " = "    0: " := by decide
  have hsecond : "    " ++ toString 1 ++ ": " = "    1: " := by decide
  rw [failureLines, show "Error: writing " ++ Job.standardOutput = "Error: writing instructions.csv"
    by decide, ExportError.chain, hcauses]
  simp only [causeLines, List.mapIdx_cons, List.mapIdx_nil, Nat.zero_add, hfirst, hsecond,
    List.cons_append, List.nil_append]

/-- **The status tells the result**: 0 for a count, 1 for an error, which is then told in the last
lines of the error stream. -/
theorem report_cases (filter : Log.Filter) (output : String) (events : List Log.Event)
    (result : Except ExportError Nat) :
    (report filter output events result).stdout = "" ∧
      ((∃ rows, result = .ok rows ∧ (report filter output events result).status = 0) ∨
        ∃ e, result = .error e ∧ (report filter output events result).status = 1 ∧
          ∃ log, (report filter output events result).stderr = log ++ failureLines output e) := by
  cases result with
  | ok rows => exact ⟨rfl, .inl ⟨rows, rfl, rfl⟩⟩
  | error e => exact ⟨rfl, .inr ⟨e, rfl, rfl, _, rfl⟩⟩

theorem status_report (filter filter' : Log.Filter) (output : String)
    (events events' : List Log.Event) (result : Except ExportError Nat) :
    (report filter output events result).status = (report filter' output events' result).status := by
  cases result with
  | ok _ => rfl
  | error _ => rfl

end CommandLine

namespace Workspace

/-! ### The standard path -/

/-- **An export to the standard path, in a workspace that commands lead to**, fails and leaves the
files as they are if a folder has the path's name; otherwise the path then reads as the CSV text of
the sheet. -/
theorem run_standardOutput (commands : List Command) (s : Sheet) :
    let t := (initial.after commands).files
    let outcome := (⟨Job.standardOutput, s⟩ : Job).run t
    (t.node? ["tmp", "", "instructions.csv"] = some .folder ∧ outcome.files = t ∧
        outcome.result = .error (.create Job.standardOutput .isADirectory)) ∨
      (t.node? ["tmp", "", "instructions.csv"] ≠ some .folder ∧
        outcome.result = .ok s.size ∧
        outcome.files.read Job.standardOutput = .ok s.csv.toByteArray) := by
  intro t outcome
  have hl : t.home ++ [Job.standardOutput] = ["tmp", "", "instructions.csv"] := by
    rw [home_after]
    rfl
  have hplace := place_standardOutput t
  rw [hl] at hplace
  have hdev : ∀ d, t.node? ["tmp", "", "instructions.csv"] ≠ some (.device d) := by
    intro d hd
    have hd := (node?_device_iff commands _ d).mp hd
    cases d with
    | null => simp [Device.location] at hd
    | full => simp [Device.location] at hd
  by_cases hfolder : t.node? ["tmp", "", "instructions.csv"] = some .folder
  · left
    rw [hfolder] at hplace
    have hrun : outcome = ⟨t, .error (.create Job.standardOutput .isADirectory), []⟩ := by
      simp only [outcome, Job.run, s.exportTo_of_error hplace, Except.map]
    rw [hrun]
    exact ⟨hfolder, rfl, rfl⟩
  · right
    have hplace : t.place Job.standardOutput = .ok ["tmp", "", "instructions.csv"] := by
      rw [hplace]
      split
      · rename_i h
        exact absurd h hfolder
      · rfl
    simp only [outcome, Job.run, s.exportTo_of_unbounded hplace (hdev .full)]
    exact ⟨hfolder, rfl, (s.decodeAt_store hplace hdev).1⟩

/-- The same for the standard job. Only files and result are told, which is what the reading of the
instruction set has no part in. -/
theorem runMos6502_standardOutput (commands : List Command) :
    let t := (initial.after commands).files
    let outcome := Job.runMos6502 Job.standardOutput t
    (t.node? ["tmp", "", "instructions.csv"] = some .folder ∧ outcome.files = t ∧
        outcome.result = .error (.create Job.standardOutput .isADirectory)) ∨
      (t.node? ["tmp", "", "instructions.csv"] ≠ some .folder ∧
        outcome.result = .ok Mos6502.sheet.1.size ∧
        outcome.files.read Job.standardOutput = .ok Mos6502.sheet.1.csv.toByteArray) :=
  run_standardOutput commands Mos6502.sheet.1

/-! ### The two ways to run the standard job -/

theorem execute_runStandard (w : Workspace) :
    w.execute .runStandard =
      w.onFiles (Job.runMos6502 Job.standardOutput w.files) .runCount := rfl

theorem execute_commandLine (w : Workspace) (setting : Option String) :
    w.execute (.commandLine setting) =
      ⟨{ w with files := (Job.runMos6502 Job.standardOutput w.files).files },
        .report (CommandLine.report (Log.Filter.ofSetting setting) Job.standardOutput
          (Job.runMos6502 Job.standardOutput w.files).events
          (Job.runMos6502 Job.standardOutput w.files).result), []⟩ := rfl

/-- **The command and the library agree.** In any workspace that commands lead to, and with any log
setting, the command leaves the files as a run of the standard job by the library does, and its
output stream is empty. Either the library gives a count, the command's status is 0, and after both
the standard path reads as the CSV text of the instruction set; or the library gives an error, the
status is 1, and the error stream ends with the error and its cause. Which it is depends on whether
a folder has the standard path's name. The files and the status are the same with any other sheets
and with any other log setting. -/
theorem commandLine_agrees_with_runStandard (commands : List Command) (setting : Option String) :
    let w := initial.after commands
    let library := w.execute .runStandard
    let command := w.execute (.commandLine setting)
    ∃ result report, library.answer = .runCount result ∧ command.answer = .report report ∧
      command.workspace.files = library.workspace.files ∧ report.stdout = "" ∧
      ((∃ rows, result = .ok rows ∧ report.status = 0 ∧
          w.files.node? ["tmp", "", "instructions.csv"] ≠ some .folder ∧
          library.workspace.files.read "instructions.csv" =
            .ok Mos6502.sheet.1.csv.toByteArray) ∨
        ∃ e, result = .error e ∧ report.status = 1 ∧
          w.files.node? ["tmp", "", "instructions.csv"] = some .folder ∧
          ∃ log, report.stderr = log ++ ["Error: writing instructions.csv", "", "Caused by:",
            "    0: " ++ e.message, "    1: " ++ e.fault.text]) ∧
      ∀ (sheet saved : Sheet) (setting' : Option String),
        let other := (⟨sheet, saved, w.files⟩ : Workspace).execute (.commandLine setting')
        other.workspace.files = command.workspace.files ∧
          ∃ report', other.answer = .report report' ∧ report'.status = report.status := by
  intro w library command
  have hjob := runMos6502_standardOutput commands
  dsimp only [w, library, command, execute_runStandard, execute_commandLine, onFiles] at hjob ⊢
  -- from here on only the outcome of the job counts, not how it comes about
  generalize Job.runMos6502 Job.standardOutput (initial.after commands).files = outcome at hjob ⊢
  obtain ⟨hstdout, hstatus⟩ := CommandLine.report_cases (Log.Filter.ofSetting setting)
    Job.standardOutput outcome.events outcome.result
  refine ⟨outcome.result, _, rfl, rfl, rfl, hstdout, ?_, fun sheet saved setting' => ⟨rfl, _, rfl,
    CommandLine.status_report _ _ _ _ _ _⟩⟩
  rcases hjob with ⟨hfolder, -, hresult⟩ | ⟨hfree, hresult, hread⟩
  · right
    rcases hstatus with ⟨rows, hok, -⟩ | ⟨e, herror, hone, log, hstderr⟩
    · rw [hresult] at hok
      cases hok
    · have hopening := Except.error.inj (herror.symm.trans hresult)
      rw [CommandLine.failureLines_standardOutput (by rw [hopening]; rfl)] at hstderr
      exact ⟨e, herror, hone, hfolder, log, hstderr⟩
  · left
    rcases hstatus with ⟨rows, hok, hzero⟩ | ⟨e, herror, -⟩
    · exact ⟨rows, hok, hzero, hfree, hread⟩
    · rw [hresult] at herror
      cases herror

end Workspace
end InstructionSheet
