/-
# Which log lines a setting shows

With a setting of plain directives whose targets are distinct, an event is shown if its level is at
or above that of the directive with the longest target that begins the event's own
(`Log.Plain.shows_setting_iff`). Said so, it is plain that the order of the directives is of no
account, that a directive with a higher level hides nothing that was shown before
(`Log.Plain.Shown.raise`), and that one more directive bears on no event but those of targets that
begin with its own (`Log.Plain.shown_add_iff`).

The command writes the lines of the events that are shown, in the order of the events, and then what
it has to say of a job that failed (`CommandLine.stderr_run`). What the job does is no matter of the
setting, so for its lines the same holds as for single events
(`CommandLine.log_lines_by_longest_target`).

Key definitions: `Log.Plain.Shown`, `CommandLine.emitted`, `CommandLine.complaint`.
Key theorems: `Log.Plain.shows_setting_iff`, `CommandLine.stderr_run`,
`CommandLine.log_lines_by_longest_target`.
-/
import InstructionSheet.CommandLine
import InstructionSheet.Proofs.Log.Setting

namespace InstructionSheet
namespace Log
namespace Plain

/-- What directives show of an event: the one with the longest target among those that begin the
event's target has a level that the event's level is not below. -/
def Shown (ps : List Plain) (e : Event) : Prop :=
  ∃ p ∈ ps, (p.target <+: e.target.toList ∧
    ∀ q ∈ ps, q.target <+: e.target.toList → q.target.length ≤ p.target.length) ∧
    e.level.rank ≤ verbosity p.threshold

instance (ps : List Plain) (e : Event) : Decidable (Shown ps e) :=
  inferInstanceAs (Decidable (∃ p ∈ ps, _))

variable {ps ps' : List Plain} {p p' : Plain} {e : Event}

theorem fits_directive_iff (p : Plain) (e : Event) :
    p.directive.fits e = true ↔ p.target <+: e.target.toList :=
  (Directive.forTargets_forTarget p.target p.threshold).fits_iff e

/-- **The longest target decides.** -/
theorem shows_setting_iff (hne : ps ≠ []) (hdistinct : (ps.map Plain.target).Nodup) (e : Event) :
    (Filter.ofSetting (some (setting ps))).shows e = true ↔ Shown ps e := by
  have htargets : ∀ d ∈ ps.map directive, d.ForTargets := by
    intro d hd
    obtain ⟨p, -, rfl⟩ := List.mem_map.mp hd
    exact Directive.forTargets_forTarget p.target p.threshold
  have hdistinct' : ((ps.map directive).map Directive.target).Nodup := by
    rw [List.map_map]
    exact hdistinct
  rw [ofSetting_setting hne, Filter.shows_iff htargets hdistinct']
  constructor
  · rintro ⟨d, hd, hrank⟩
    obtain ⟨p, hp, rfl⟩ := List.mem_map.mp hd.mem
    refine ⟨p, hp, ⟨(p.fits_directive_iff e).mp hd.fits, fun q hq hbegins => ?_⟩, hrank⟩
    exact hd.longest q.directive (List.mem_map_of_mem hq) ((q.fits_directive_iff e).mpr hbegins)
  · rintro ⟨p, hp, ⟨hbegins, hlongest⟩, hrank⟩
    refine ⟨p.directive, ⟨List.mem_map_of_mem hp, (p.fits_directive_iff e).mpr hbegins,
      fun d hd hfits => ?_⟩, hrank⟩
    obtain ⟨q, hq, rfl⟩ := List.mem_map.mp hd
    exact hlongest q hq ((q.fits_directive_iff e).mp hfits)

/-! ### Two settings -/

theorem shown_congr (h : ∀ p, p ∈ ps ↔ p ∈ ps') (e : Event) : Shown ps e ↔ Shown ps' e := by
  simp only [Shown, h]

theorem mem_of_mem_of_ne {before after : List Plain} {q : Plain} (hq : q ∈ before ++ p :: after)
    (hne : q ≠ p) (p' : Plain) : q ∈ before ++ p' :: after := by
  rw [List.mem_append, List.mem_cons] at hq ⊢
  rcases hq with hq | heq | hq
  · exact Or.inl hq
  · exact absurd heq hne
  · exact Or.inr (Or.inr hq)

/-- **A higher level in the place of a lower one hides nothing.** -/
theorem Shown.raise {before after : List Plain} (htarget : p'.target = p.target)
    (hlevel : verbosity p.threshold ≤ verbosity p'.threshold)
    (h : Shown (before ++ p :: after) e) : Shown (before ++ p' :: after) e := by
  obtain ⟨q, hq, ⟨hbegins, hlongest⟩, hrank⟩ := h
  have hstill : ∀ r ∈ before ++ p' :: after, r.target <+: e.target.toList →
      r.target.length ≤ q.target.length := by
    intro r hr hr'
    by_cases hnew : r = p'
    · rw [hnew, htarget] at hr' ⊢
      exact hlongest p (by simp) hr'
    · exact hlongest r (mem_of_mem_of_ne hr hnew p) hr'
  by_cases hold : q = p
  · -- the directive that decided is the one that was raised
    subst hold
    rw [← htarget] at hbegins hstill
    exact ⟨p', by simp, ⟨hbegins, hstill⟩, hrank.trans hlevel⟩
  · exact ⟨q, mem_of_mem_of_ne hq hold p', ⟨hbegins, hstill⟩, hrank⟩

/-- **One more directive bears on no event that it does not fit.** -/
theorem shown_add_iff (h : ¬ p.target <+: e.target.toList) :
    Shown (p :: ps) e ↔ Shown ps e := by
  constructor
  · rintro ⟨q, hq, ⟨hbegins, hlongest⟩, hrank⟩
    rcases List.mem_cons.mp hq with rfl | hq
    · exact absurd hbegins h
    · exact ⟨q, hq, ⟨hbegins, fun r hr => hlongest r (List.mem_cons_of_mem p hr)⟩, hrank⟩
  · rintro ⟨q, hq, ⟨hbegins, hlongest⟩, hrank⟩
    refine ⟨q, List.mem_cons_of_mem p hq, ⟨hbegins, fun r hr hr' => ?_⟩, hrank⟩
    rcases List.mem_cons.mp hr with rfl | hr
    · exact absurd hr' h
    · exact hlongest r hr hr'

theorem nodup_target_of_perm (hperm : ps'.Perm ps) (hdistinct : (ps.map Plain.target).Nodup) :
    (ps'.map Plain.target).Nodup :=
  (hperm.map Plain.target).nodup_iff.mpr hdistinct

theorem ne_nil_of_perm (hperm : ps'.Perm ps) (hne : ps ≠ []) : ps' ≠ [] := by
  rintro rfl
  exact hne hperm.nil_eq.symm

/-- **The order of the directives is of no account.** -/
theorem shows_setting_perm (hne : ps ≠ []) (hdistinct : (ps.map Plain.target).Nodup)
    (hperm : ps'.Perm ps) :
    (Filter.ofSetting (some (setting ps'))).shows =
      (Filter.ofSetting (some (setting ps))).shows := by
  funext e
  rw [Bool.eq_iff_iff, shows_setting_iff hne hdistinct,
    shows_setting_iff (ne_nil_of_perm hperm hne) (nodup_target_of_perm hperm hdistinct)]
  exact shown_congr (fun _ => hperm.mem_iff) e

theorem shows_setting_raise {before after : List Plain}
    (hdistinct : ((before ++ p :: after).map Plain.target).Nodup) (htarget : p'.target = p.target)
    (hlevel : verbosity p.threshold ≤ verbosity p'.threshold)
    (h : (Filter.ofSetting (some (setting (before ++ p :: after)))).shows e = true) :
    (Filter.ofSetting (some (setting (before ++ p' :: after)))).shows e = true := by
  have hdistinct' : ((before ++ p' :: after).map Plain.target).Nodup := by
    rw [List.map_append, List.map_cons] at hdistinct ⊢
    rwa [htarget]
  rw [shows_setting_iff (by simp) hdistinct']
  rw [shows_setting_iff (by simp) hdistinct] at h
  exact h.raise htarget hlevel

theorem shows_setting_add (hne : ps ≠ []) (hdistinct : (ps.map Plain.target).Nodup)
    (hnew : p.target ∉ ps.map Plain.target) (hperm : ps'.Perm (p :: ps))
    (h : ¬ p.target <+: e.target.toList) :
    (Filter.ofSetting (some (setting ps'))).shows e =
      (Filter.ofSetting (some (setting ps))).shows e := by
  have hdistinct' : ((p :: ps).map Plain.target).Nodup := by
    rw [List.map_cons, List.nodup_cons]
    exact ⟨hnew, hdistinct⟩
  have hne' : p :: ps ≠ [] := List.cons_ne_nil p ps
  rw [shows_setting_perm hne' hdistinct' hperm, Bool.eq_iff_iff, shows_setting_iff hne' hdistinct',
    shows_setting_iff hne hdistinct]
  exact shown_add_iff h

end Plain
end Log

namespace CommandLine

open Log (Plain)

/-! ### The error stream -/

/-- The events of a run of the command in their order: those of the job and, unless it failed, one
more at the end. -/
def emitted (outcome : Outcome Nat) : List Log.Event :=
  outcome.events ++
    match outcome.result with
    | .ok rows => [.done rows]
    | .error _ => []

/-- What the command says behind the log lines: nothing unless the job failed. -/
def complaint (result : Except ExportError Nat) : List String :=
  match result with
  | .ok _ => []
  | .error e => failureLines Job.standardOutput e

/-- **The error stream** holds the lines of the events that the setting shows and then the
complaint. -/
theorem stderr_run (t : Files) (setting : Option String) :
    (run t setting).2.stderr =
      logLines (Log.Filter.ofSetting setting) (emitted (Job.runMos6502 Job.standardOutput t)) ++
        complaint (Job.runMos6502 Job.standardOutput t).result := by
  rw [run]
  generalize Job.runMos6502 Job.standardOutput t = outcome
  cases hresult : outcome.result with
  | ok rows => simp [report, emitted, complaint, hresult]
  | error e => simp [report, emitted, complaint, hresult]

theorem run_congr {setting setting' : Option String}
    (h : (Log.Filter.ofSetting setting).shows = (Log.Filter.ofSetting setting').shows) (t : Files) :
    run t setting = run t setting' := by
  have hlines : logLines (Log.Filter.ofSetting setting) =
      logLines (Log.Filter.ofSetting setting') := by
    funext events
    rw [logLines, logLines, h]
  simp only [run, report, hlines]

theorem stderr_sublist {setting setting' : Option String}
    (h : ∀ e, (Log.Filter.ofSetting setting).shows e = true →
      (Log.Filter.ofSetting setting').shows e = true) (t : Files) :
    (run t setting).2.stderr.Sublist (run t setting').2.stderr := by
  rw [stderr_run, stderr_run]
  apply List.Sublist.append_right
  exact (List.monotone_filter_right _ h).map Log.Event.line

/-! ### Plain settings -/

/-- **The log lines of the command** under a setting of plain directives with distinct targets are
those of the events that the directive with the longest target shows. They do not hang on the order
of the directives; with a directive raised none of them goes; and a directive for another target
has no say over events whose target does not begin with it. -/
theorem log_lines_by_longest_target (ps : List Plain) (hne : ps ≠ [])
    (hdistinct : (ps.map Plain.target).Nodup) :
    (∀ t : Files,
      (run t (some (Plain.setting ps))).2.stderr =
        ((emitted (Job.runMos6502 Job.standardOutput t)).filter fun e =>
          Plain.Shown ps e).map Log.Event.line ++
        complaint (Job.runMos6502 Job.standardOutput t).result) ∧
    (∀ ps' : List Plain, ps'.Perm ps → ∀ t : Files,
      run t (some (Plain.setting ps')) = run t (some (Plain.setting ps))) ∧
    (∀ (before after : List Plain) (p p' : Plain), ps = before ++ p :: after →
      p'.target = p.target → Log.verbosity p.threshold ≤ Log.verbosity p'.threshold →
      ∀ t : Files, (run t (some (Plain.setting ps))).2.stderr.Sublist
        (run t (some (Plain.setting (before ++ p' :: after)))).2.stderr) ∧
    (∀ (p : Plain) (ps' : List Plain), p.target ∉ ps.map Plain.target → ps'.Perm (p :: ps) →
      ∀ e : Log.Event, ¬ p.target <+: e.target.toList →
        (Log.Filter.ofSetting (some (Plain.setting ps'))).shows e =
          (Log.Filter.ofSetting (some (Plain.setting ps))).shows e) := by
  refine ⟨fun t => ?_, fun ps' hperm t => ?_, ?_, ?_⟩
  · have hshows : (Log.Filter.ofSetting (some (Plain.setting ps))).shows =
        fun e => decide (Plain.Shown ps e) := by
      funext e
      rw [Bool.eq_iff_iff, Plain.shows_setting_iff hne hdistinct, decide_eq_true_eq]
    rw [stderr_run, logLines, hshows]
  · exact run_congr (Plain.shows_setting_perm hne hdistinct hperm) t
  · rintro before after p p' rfl htarget hlevel t
    exact stderr_sublist (fun e => Plain.shows_setting_raise hdistinct htarget hlevel) t
  · intro p ps' hnew hperm e hbegins
    exact Plain.shows_setting_add hne hdistinct hnew hperm hbegins

/-- Three targets, each of which begins with the one before it: of the events of a run only the
table's own is shown, since the level for all is too low for the end and the library's for the
export. -/
theorem log_lines_of_nested_targets :
    ∃ all library table csv : Plain,
      Plain.setting [all, library, table] = "Info,mnemonic_table=WARN,mnemonic_table::table=4" ∧
      (Plain.Shown [all, library, table] (.parsed 56 56) ∧
        ¬ Plain.Shown [all, library, table] (.exported "instructions.csv" 56) ∧
        ¬ Plain.Shown [all, library, table] (.done 56)) ∧
      (∀ t : Files,
        (run t (some "Info,mnemonic_table=WARN,mnemonic_table::table=4")).2.stderr =
          ((emitted (Job.runMos6502 Job.standardOutput t)).filter fun e =>
            Plain.Shown [all, library, table] e).map Log.Event.line ++
          complaint (Job.runMos6502 Job.standardOutput t).result) ∧
      (∀ t : Files,
        run t (some "mnemonic_table::table=4,Info,mnemonic_table=WARN") =
          run t (some "Info,mnemonic_table=WARN,mnemonic_table::table=4")) ∧
      (∀ t : Files,
        (run t (some "Info,mnemonic_table=WARN,mnemonic_table::table=4")).2.stderr.Sublist
          (run t (some "DEBUG,mnemonic_table=WARN,mnemonic_table::table=4")).2.stderr) ∧
      Plain.setting [csv, all, library, table] =
        "mnemonic_csv=off,Info,mnemonic_table=WARN,mnemonic_table::table=4" ∧
      (Log.Filter.ofSetting (some (Plain.setting [csv, all, library, table]))).shows
          (.parsed 56 56) =
        (Log.Filter.ofSetting (some (Plain.setting [all, library, table]))).shows
          (.parsed 56 56) := by
  let all : Plain := ⟨[], some .info, "Info".toList, by decide, by decide, by decide⟩
  let library : Plain := ⟨"mnemonic_table".toList, some .warn, "WARN".toList, by decide, by decide,
    by decide +kernel⟩
  let table : Plain := ⟨"mnemonic_table::table".toList, some .debug, "4".toList, by decide,
    by decide, by decide +kernel⟩
  let csv : Plain := ⟨"mnemonic_csv".toList, none, "off".toList, by decide, by decide,
    by decide +kernel⟩
  let everything : Plain := ⟨[], some .debug, "DEBUG".toList, by decide, by decide, by decide⟩
  have hne : [all, library, table] ≠ [] := List.cons_ne_nil _ _
  have hdistinct : ([all, library, table].map Plain.target).Nodup := by decide
  obtain ⟨hlines, hperm, hraise, hadd⟩ :=
    log_lines_by_longest_target [all, library, table] hne hdistinct
  refine ⟨all, library, table, csv, by decide, ⟨by decide, by decide, by decide⟩, hlines, ?_, ?_,
    by decide, ?_⟩
  · exact hperm [table, all, library] (List.perm_append_comm : ([table] ++ [all, library]).Perm _)
  · exact hraise [] [library, table] all everything rfl rfl (by decide)
  · exact hadd csv [csv, all, library, table] (by decide) (List.Perm.refl _) _ (by decide)

end CommandLine
end InstructionSheet
