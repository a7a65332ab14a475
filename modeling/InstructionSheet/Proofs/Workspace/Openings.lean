/-
# The openings of a path in the course of commands

Five commands export to a path, the run of the command line among them, and the answer of each tells
whether the path was opened and, if not, why (`Answer.opening?`). What it tells is what the files of
the workspace say of the path (`Workspace.opening_execute`). After an opening that did not fail,
something that is no folder stands at the place (`Sheet.exportTo_of_place`); and what made an
opening fail lasts, unless it was a missing name. So an export settles how its path is opened from
then on, with this one exception (`Workspace.settles_execute`, `Workspace.openings_settle`).

Key definitions: `openingOf`, `Answer.opening?`, `Command.output?`, `Workspace.openings`.
Key theorems: `CommandLine.opening_report`, `Workspace.opening_execute`,
`Workspace.settles_execute`, `Workspace.openings_settle`.
-/
import InstructionSheet.Proofs.Files.Opening
import InstructionSheet.Proofs.Workspace.Agreement

namespace InstructionSheet

/-! ### What is told of an opening -/

/-- What the result of an export tells of the opening of its file. -/
def openingOf {α : Type} : Except ExportError α → Except Fault Unit
  | .error (.create _ f) => .error f
  | _ => .ok ()

theorem openingOf_of_ne_create {α : Type} {result : Except ExportError α}
    (h : ∀ path f, result ≠ .error (.create path f)) : openingOf result = .ok () := by
  cases result with
  | error e =>
    cases e with
    | create path f => exact absurd rfl (h path f)
    | row f => rfl
    | finish f => rfl
  | ok a => rfl

theorem openingOf_map {α β : Type} (g : α → β) (result : Except ExportError α) :
    openingOf (result.map g) = openingOf result := by
  cases result with
  | error e => cases e <;> rfl
  | ok a => rfl

/-- What the report on a run of the command tells of the opening: with status 0 it did not fail, and
otherwise the last lines of the error stream name the fault, if it was one of opening. -/
def Report.opening (r : Report) : Except Fault Unit :=
  if r.status = 0 then .ok ()
  else
    match Files.openingFaults.find? fun f =>
      CommandLine.failureLines Job.standardOutput (.create Job.standardOutput f) <:+ r.stderr with
    | some f => .error f
    | none => .ok ()

/-- What an answer tells of an opening, if it is the answer to an export. -/
def Answer.opening? : Answer → Option (Except Fault Unit)
  | .runCount result => some (openingOf result)
  | .jobRun _ result => some (openingOf result)
  | .exported result => some (openingOf result)
  | .report r => some r.opening
  | _ => none

/-- The path that a command exports to, if it is one of those that do. -/
def Command.output? : Command → Option String
  | .runStandard => some Job.standardOutput
  | .runMos6502 output => some output
  | .runSheet output => some output
  | .exportSheet output => some output
  | .commandLine _ => some Job.standardOutput
  | _ => none

/-! ### The report tells of the opening -/

namespace CommandLine

/-- Of two failures with a single cause, one is told in the last lines only if it has the message
and the words of the other. -/
theorem words_eq_of_suffix {log : List String} {e e' : ExportError}
    (hcauses : e.causes = [e.fault.text]) (hcauses' : e'.causes = [e'.fault.text])
    (h : failureLines Job.standardOutput e' <:+ log ++ failureLines Job.standardOutput e) :
    e'.message = e.message ∧ e'.fault.text = e.fault.text := by
  rw [failureLines_standardOutput hcauses, failureLines_standardOutput hcauses'] at h
  -- both are the last five lines of the same stream
  have hsame := (List.suffix_of_suffix_length_le h (List.suffix_append log _)
    (Nat.le_refl 5)).eq_of_length rfl
  simpa using hsame

theorem not_suffix_row {log : List String} {e : ExportError} {f : Fault}
    (hcauses : e.causes = [e.fault.text]) :
    ¬ failureLines Job.standardOutput e <:+ log ++ failureLines Job.standardOutput (.row f) := by
  intro h
  have hlength : (failureLines Job.standardOutput e).length = 5 := by
    rw [failureLines_standardOutput hcauses]
    rfl
  have hlength' : (failureLines Job.standardOutput (.row f)).length = 6 := rfl
  obtain ⟨front, hfront⟩ :=
    List.suffix_of_suffix_length_le h (List.suffix_append log _) (by omega)
  -- the lines of the row are one more, and behind the first of them stands an empty one
  obtain ⟨line, rfl⟩ : ∃ line, front = [line] := by
    rw [← List.length_eq_one_iff]
    have := congrArg List.length hfront
    rw [List.length_append] at this
    omega
  have hempty : "Error: writing " ++ Job.standardOutput = "" :=
    (List.cons.inj (List.cons.inj hfront).2).1
  exact absurd hempty (by decide)

/-- **Last lines that tell of a failure to open** are those of a failure to open. -/
theorem create_of_suffix {log : List String} {e : ExportError} {f' : Fault}
    (h : failureLines Job.standardOutput (.create Job.standardOutput f') <:+
      log ++ failureLines Job.standardOutput e) :
    ∃ path f, e = .create path f ∧ f'.text = f.text := by
  cases e with
  | create path f => exact ⟨path, f, rfl, (words_eq_of_suffix rfl rfl h).2⟩
  | row f => exact absurd h (not_suffix_row rfl)
  | finish f =>
    obtain ⟨hmessage, htext⟩ := words_eq_of_suffix rfl rfl h
    change "cannot open " ++ Job.standardOutput ++ " for writing: " ++ f'.text =
      "I/O error: " ++ f.text at hmessage
    rw [show f'.text = f.text from htext, String.append_left_inj] at hmessage
    exact absurd hmessage (by decide)

/-- **The report tells how the opening went**, given that the result is one of an export to the
standard path. -/
theorem opening_report (filter : Log.Filter) (events : List Log.Event)
    {result : Except ExportError Nat} (hcreate : ∀ path f, result = .error (.create path f) →
      path = Job.standardOutput ∧ f ∈ Files.openingFaults) :
    (report filter Job.standardOutput events result).opening = openingOf result := by
  cases result with
  | ok rows => rfl
  | error e =>
    have hopening : (report filter Job.standardOutput events (.error e)).opening =
        match Files.openingFaults.find? fun f =>
          failureLines Job.standardOutput (.create Job.standardOutput f) <:+
            logLines filter events ++ failureLines Job.standardOutput e with
        | some f => .error f
        | none => .ok () := rfl
    rw [hopening]
    split
    · -- the lines of `f'` are found, so `f'` is the fault that the report was made from
      rename_i f' hfound
      have hsuffix := List.find?_some hfound
      rw [decide_eq_true_iff] at hsuffix
      obtain ⟨path, f, rfl, htext⟩ := create_of_suffix hsuffix
      obtain ⟨-, hf⟩ := hcreate path f rfl
      rw [Files.eq_of_text_eq f hf f' (List.mem_of_find?_eq_some hfound) htext]
      rfl
    · -- no fault of opening is named, so it was none
      rename_i hnone
      cases e with
      | create path f =>
        obtain ⟨rfl, hf⟩ := hcreate path f rfl
        exact absurd (decide_eq_true (List.suffix_append _ _)) (List.find?_eq_none.mp hnone f hf)
      | row f => rfl
      | finish f => rfl

end CommandLine

/-! ### One export -/

namespace Sheet

variable (s : Sheet) {t : Files} {path : String}

theorem exportTo_of_place {l : Location} (hplace : t.place path = .ok l) :
    (s.exportTo t path).files.Taken l ∧
      ∀ path' f, (s.exportTo t path).result ≠ .error (.create path' f) := by
  rcases s.exportTo_cases t path with
    ⟨f, hrefused, -⟩ | ⟨l', hl', hdev, hexport⟩ | ⟨l', hl', hdev, hexport⟩ |
    ⟨l', hl', hdev, hexport⟩
  · rw [hplace] at hrefused
    cases hrefused
  · obtain rfl : l = l' := Except.ok.inj (hplace.symm.trans hl')
    rw [hexport]
    refine ⟨⟨_, hdev, Node.noConfusion⟩, fun path' f h => ?_⟩
    split at h
    · cases h
    · cases h
  · obtain rfl : l = l' := Except.ok.inj (hplace.symm.trans hl')
    rw [hexport]
    exact ⟨⟨_, hdev, Node.noConfusion⟩, fun _ _ => nofun⟩
  · obtain rfl : l = l' := Except.ok.inj (hplace.symm.trans hl')
    rw [hexport]
    exact ⟨⟨_, Files.node?_store_self hdev _, Node.noConfusion⟩, fun _ _ => nofun⟩

theorem openingOf_exportTo :
    openingOf (s.exportTo t path).result = (t.place path).map fun _ => () := by
  cases hplace : t.place path with
  | error f =>
    rw [s.exportTo_of_error hplace]
    rfl
  | ok l => exact openingOf_of_ne_create (s.exportTo_of_place hplace).2

theorem create_of_exportTo {path' : String} {f : Fault}
    (h : (s.exportTo t path).result = .error (.create path' f)) :
    path' = path ∧ f ∈ Files.openingFaults := by
  cases hplace : t.place path with
  | error f' =>
    rw [s.exportTo_of_error hplace] at h
    cases h
    exact ⟨rfl, Files.mem_openingFaults hplace⟩
  | ok l => exact absurd h ((s.exportTo_of_place hplace).2 path' f)

/-- **An export settles how its path is opened**, unless a name was missing. -/
theorem settles_exportTo (hfound : t.place path ≠ .error .notFound) :
    (s.exportTo t path).files.Settles path (t.place path) := by
  have hgrows := s.grows_exportTo t path
  cases hplace : t.place path with
  | error f =>
    have hf : f ≠ .notFound := by
      rintro rfl
      exact hfound hplace
    exact (Files.settles_of_error hplace hf).of_grows hgrows
  | ok l =>
    have htaken := (s.exportTo_of_place hplace).1
    exact Files.settles_of_taken (hgrows.place hplace htaken.not_folder) htaken

end Sheet

namespace Job

variable {j : Job} {t : Files}

theorem openingOf_run : openingOf (j.run t).result = (t.place j.output).map fun _ => () :=
  (openingOf_map _ _).trans j.sheet.openingOf_exportTo

theorem create_of_run {path : String} {f : Fault} (h : (j.run t).result = .error (.create path f)) :
    path = j.output ∧ f ∈ Files.openingFaults := by
  cases hresult : (j.sheet.exportTo t j.output).result with
  | error e =>
    simp only [run, hresult, Except.map, Except.error.injEq] at h
    rw [h] at hresult
    exact j.sheet.create_of_exportTo hresult
  | ok done =>
    simp only [run, hresult, Except.map] at h
    cases h

theorem result_runMos6502 (output : String) :
    (runMos6502 output t).result = (run ⟨output, Mos6502.sheet.1⟩ t).result := rfl

theorem openingOf_runMos6502 (output : String) :
    openingOf (runMos6502 output t).result = (t.place output).map fun _ => () := by
  rw [result_runMos6502]
  exact openingOf_run

theorem create_of_runMos6502 {output path : String} {f : Fault}
    (h : (runMos6502 output t).result = .error (.create path f)) :
    path = output ∧ f ∈ Files.openingFaults := by
  rw [result_runMos6502] at h
  exact create_of_run h

end Job

/-! ### One command -/

namespace Workspace

variable {w : Workspace} {c : Command} {path : String}

/-- **The answer to an export tells how its path was opened.** -/
theorem opening_execute (h : c.output? = some path) :
    (w.execute c).answer.opening? = some ((w.files.place path).map fun _ => ()) := by
  cases c with
  | runStandard =>
    cases h
    rw [execute_runStandard]
    exact congrArg some (Job.openingOf_runMos6502 Job.standardOutput)
  | runMos6502 output =>
    cases h
    exact congrArg some (Job.openingOf_runMos6502 path)
  | runSheet output =>
    cases h
    exact congrArg some (Job.openingOf_run (j := ⟨path, w.sheet⟩))
  | exportSheet output =>
    cases h
    exact congrArg some w.sheet.openingOf_exportTo
  | commandLine setting =>
    cases h
    rw [execute_commandLine]
    exact congrArg some ((CommandLine.opening_report _ _ fun _ _ => Job.create_of_runMos6502).trans
      (Job.openingOf_runMos6502 Job.standardOutput))
  | _ => cases h

/-- **An export settles how its path is opened by every later command**, unless a name was
missing. -/
theorem settles_execute (h : c.output? = some path)
    (hfound : w.files.place path ≠ .error .notFound) :
    (w.execute c).workspace.files.Settles path (w.files.place path) := by
  cases c with
  | runStandard => cases h; exact Sheet.settles_exportTo _ hfound
  | runMos6502 output => cases h; exact Sheet.settles_exportTo _ hfound
  | runSheet output => cases h; exact Sheet.settles_exportTo _ hfound
  | exportSheet output => cases h; exact Sheet.settles_exportTo _ hfound
  | commandLine setting => cases h; exact Sheet.settles_exportTo _ hfound
  | _ => cases h

/-! ### All commands -/

/-- How the openings of a path went in the course of commands, in their order, as the answers to
those that export to it tell. -/
def openings (w : Workspace) (path : String) (commands : List Command) :
    List (Except Fault Unit) :=
  ((commands.zip (w.executeAll commands)).filter fun told => told.1.output? = some path).filterMap
    fun told => told.2.answer.opening?

theorem openings_cons_of_output (h : c.output? = some path) (cs : List Command) :
    w.openings path (c :: cs) =
      ((w.files.place path).map fun _ => ()) :: (w.execute c).workspace.openings path cs := by
  simp only [openings, executeAll, List.zip_cons_cons]
  rw [List.filter_cons_of_pos (by simp [h]),
    List.filterMap_cons_some (f := fun told : Command × Reply => told.2.answer.opening?)
      (opening_execute h)]

theorem openings_cons_of_no_output (h : c.output? ≠ some path) (cs : List Command) :
    w.openings path (c :: cs) = (w.execute c).workspace.openings path cs := by
  simp only [openings, executeAll, List.zip_cons_cons]
  rw [List.filter_cons_of_neg (by simp [h])]

theorem length_openings (w : Workspace) (path : String) (commands : List Command) :
    (w.openings path commands).length = commands.countP fun c => c.output? = some path := by
  induction commands generalizing w with
  | nil => rfl
  | cons c cs ih =>
    by_cases h : c.output? = some path
    · rw [openings_cons_of_output h, List.length_cons, ih, List.countP_cons_of_pos (by simp [h])]
    · rw [openings_cons_of_no_output h, ih, List.countP_cons_of_neg (by simp [h])]

theorem openings_of_settles {outcome : Except Fault Location}
    (h : w.files.Settles path outcome) (commands : List Command) :
    ∀ o ∈ w.openings path commands, o = outcome.map fun _ => () := by
  induction commands generalizing w with
  | nil => exact List.forall_mem_nil _
  | cons c cs ih =>
    have hrest := ih (h.of_grows (grows_execute w c))
    by_cases hc : c.output? = some path
    · rw [openings_cons_of_output hc, h.place_eq]
      exact List.forall_mem_cons.mpr ⟨rfl, hrest⟩
    · rw [openings_cons_of_no_output hc]
      exact hrest

/-- **An outcome is that of every later opening**, unless it was a missing name. -/
theorem pairwise_openings (w : Workspace) (path : String) (commands : List Command) :
    (w.openings path commands).Pairwise fun earlier later =>
      earlier ≠ .error .notFound → later = earlier := by
  induction commands generalizing w with
  | nil => exact .nil
  | cons c cs ih =>
    by_cases hc : c.output? = some path
    · rw [openings_cons_of_output hc]
      refine List.pairwise_cons.mpr ⟨fun later hlater hfound => ?_, ih _⟩
      have hplace : w.files.place path ≠ .error .notFound := by
        intro hmissing
        exact hfound (by rw [hmissing]; rfl)
      exact openings_of_settles (settles_execute hc hplace) cs later hlater
    · rw [openings_cons_of_no_output hc]
      exact ih _

theorem mem_openingFaults_of_openings {f : Fault} (commands : List Command)
    (h : .error f ∈ w.openings path commands) : f ∈ Files.openingFaults := by
  induction commands generalizing w with
  | nil => cases h
  | cons c cs ih =>
    by_cases hc : c.output? = some path
    · rw [openings_cons_of_output hc] at h
      rcases List.mem_cons.mp h with hfault | hrest
      · cases hplace : w.files.place path with
        | error f' =>
          rw [hplace] at hfault
          cases hfault
          exact Files.mem_openingFaults hplace
        | ok l =>
          rw [hplace] at hfault
          cases hfault
      · exact ih hrest
    · rw [openings_cons_of_no_output hc] at h
      exact ih h

/-! ### A session in which a missing name is made -/

theorem place_before_folder : initial.files.place "a/b" = .error .notFound := by
  have hmissing : Files.initial.node? ["tmp", "", "a"] = none := by rw [node?_initial]; rfl
  have hwalk : Files.initial.walk Files.initial.home [.into "a"] = .error .notFound :=
    Files.bind_eq_error_iff.mpr (.inl (Files.enter_into_eq_error_iff.mpr
      (.inr ⟨["tmp", "", "a"], rfl, .inl ⟨hmissing, rfl⟩⟩)))
  exact Files.place_eq_error_iff.mpr (.way (p := ⟨false, [.into "a", .into "b"], false⟩) rfl
    (Files.target_eq_error_iff.mpr hwalk))

theorem place_after_folder :
    (initial.files.makeFolders "a").1.place "a/b" = .ok ["tmp", "", "a", "b"] := by
  have hmissing : Files.initial.node? ["tmp", "", "a"] = none := by rw [node?_initial]; rfl
  have hmissing' : Files.initial.node? ["tmp", "", "a", "b"] = none := by rw [node?_initial]; rfl
  have hname : "a" ≠ "" := by decide
  have hnodes := (Files.makeFolders_of_missing (t := initial.files) (l := ["tmp", "", "a"])
    (p := ⟨false, [.into "a"], false⟩) hname rfl rfl rfl rfl hmissing).2
  have hhome : (initial.files.makeFolders "a").1.home = ["tmp", ""] :=
    (Files.grows_makeFolders initial.files "a").home
  -- from here on only what stands in the tree counts, not how it is made
  generalize (initial.files.makeFolders "a").1 = made at hnodes hhome ⊢
  have hwalk : made.walk made.home [.into "a"] = .ok ["tmp", "", "a"] := by
    rw [hhome]
    exact Files.bind_eq_ok_iff.mpr ⟨_, Files.enter_into_eq_ok_iff.mpr ⟨rfl, by simp [hnodes]⟩, rfl⟩
  have hfree : made.node? ["tmp", "", "a", "b"] ≠ some .folder := by
    rw [hnodes, if_neg (by decide), initial, hmissing']
    simp
  exact Files.place_eq_ok_iff.mpr ⟨⟨false, [.into "a", .into "b"], false⟩, ["tmp", "", "a"], "b",
    rfl, Files.bind_eq_ok_iff.mpr ⟨_, hwalk, rfl⟩, rfl, rfl, hfree⟩

/-- A name is missing at first and is then made. -/
theorem openings_of_made_folder (commands : List Command) :
    initial.openings "a/b"
        (.exportSheet "a/b" :: .makeFolders "a" :: .exportSheet "a/b" :: commands) =
      .error .notFound :: .ok () :: (initial.after
        [.exportSheet "a/b", .makeFolders "a", .exportSheet "a/b"]).openings "a/b" commands := by
  have hfailed : (initial.execute (.exportSheet "a/b")).workspace = initial := by
    have hexport := initial.sheet.exportTo_of_error place_before_folder
    simp only [execute, onFiles, hexport]
  have hopened : (initial.execute (.makeFolders "a")).workspace.files.place "a/b" =
      .ok ["tmp", "", "a", "b"] := place_after_folder
  rw [openings_cons_of_output rfl, place_before_folder, hfailed,
    openings_cons_of_no_output (by decide), openings_cons_of_output rfl, hopened, after_cons,
    hfailed]
  rfl

/-- **How a path is opened lasts, unless a name was missing.** Take any workspace, any path and any
commands. Every command that exports to the path, in whichever of the five ways, has an outcome: the
path was opened, or it was refused with one of five faults. Each outcome but a missing name is that
of every later export to the path as well, whatever commands stand between them and whether or not
they fail. A missing name can give way to another outcome. -/
theorem openings_settle :
    (∀ (w : Workspace) (path : String) (commands : List Command),
      (w.openings path commands).length = (commands.countP fun c => c.output? = some path) ∧
        (∀ outcome ∈ w.openings path commands, outcome = .ok () ∨ outcome = .error .notFound ∨
          outcome = .error .isADirectory ∨ outcome = .error .notADirectory ∨
          outcome = .error .nameTooLong ∨ outcome = .error .nulInName) ∧
        (w.openings path commands).Pairwise fun earlier later =>
          earlier ≠ .error .notFound → later = earlier) ∧
      ∃ path commands, initial.openings path commands = [.error .notFound, .ok ()] := by
  refine ⟨fun w path commands => ⟨length_openings w path commands, fun outcome houtcome => ?_,
    pairwise_openings w path commands⟩, "a/b", _, openings_of_made_folder []⟩
  cases outcome with
  | ok done => exact .inl rfl
  | error f =>
    have hf := mem_openingFaults_of_openings commands houtcome
    simpa [Files.openingFaults] using hf

/-- A folder cannot take the place of a file that was opened in the folder made for it. -/
theorem openings_settle_in_made_folder :
    initial.openings "a/b" [.exportSheet "a/b", .makeFolders "a", .exportSheet "a/b",
      .makeFolders "a/b", .commandLine none, .runMos6502 "a/b"] =
        [.error .notFound, .ok (), .ok ()] := by
  obtain ⟨hlength, -, hpairwise⟩ := openings_settle.1 initial "a/b" [.exportSheet "a/b",
    .makeFolders "a", .exportSheet "a/b", .makeFolders "a/b", .commandLine none, .runMos6502 "a/b"]
  rw [openings_of_made_folder] at hlength hpairwise ⊢
  obtain ⟨last, hlast⟩ := List.length_eq_one_iff.mp (Nat.succ.inj (Nat.succ.inj hlength))
  rw [hlast] at hpairwise ⊢
  -- the file was opened before the last export, so it is opened then as well
  have hlater := (List.pairwise_cons.mp (List.pairwise_cons.mp hpairwise).2).1 last
    (List.mem_singleton_self last)
  rw [hlater nofun]

end Workspace

end InstructionSheet
