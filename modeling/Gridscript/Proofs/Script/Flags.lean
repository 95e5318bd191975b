/-
  Reporting and saving as observers.

  Of the settings, executing reads where grids are kept, and whether values are reported only
  when it has a value to report. So sessions that differ in their settings but keep grids in the
  same folder go through the same statements to the same variables (`execute_withSettings`), and
  save the same grids. Whether they save does not decide whether they fail, because a run whose
  statements have succeeded does not fail in saving. The two flags then only choose which parts of
  the report and of the tree are kept (`runSource_eq_full`).

  This covers data folders in the working folder. One that lies outside of it has no files here:
  its grids are neither loaded nor saved.
-/
import Gridscript.Proofs.Script.FailedRun

namespace Gridscript

/-- The settings with both flags set. -/
def Settings.full (t : Settings) : Settings :=
  { t with savePersistent := true, echoExpressions := true }

namespace Script

namespace Session

variable {folder : Folder} {s : Session} {t : Settings}

/-- The session with other settings. -/
def withSettings (s : Session) (t : Settings) : Session := { s with settings := t }

/-- What the settings let through of the values that statements report. -/
def heard (t : Settings) (echoed : List Echo) : List Echo :=
  if t.echoExpressions then echoed else []

theorem gridPath_eq (hdir : t.dataDir = s.settings.dataDir) (name : String) :
    t.gridPath name = s.settings.gridPath name := by
  unfold Settings.gridPath
  rw [hdir]

/-! ## Executing -/

/-- A statement does the same under other settings, up to whether its value is reported. -/
theorem step_withSettings (folder : Folder) (hdir : t.dataDir = s.settings.dataDir)
    (hecho : s.settings.echoExpressions = true) (stmt : Statement) :
    step folder (s.withSettings t) stmt =
      ⟨(step folder s stmt).state.withSettings t, (step folder s stmt).log,
        (step folder s stmt).result.map fun shown =>
          if t.echoExpressions then shown else none⟩ := by
  obtain ⟨line, action⟩ := stmt
  cases action with
  | persistent name =>
      have hpath : (s.withSettings t).settings.gridPath name = s.settings.gridPath name :=
        gridPath_eq hdir name
      cases h : (folder.loadGrid .i64 (s.settings.gridPath name)).result with
      | error f =>
          rw [step_persistent_of_error h, step_persistent_of_error (by rw [hpath, h]), hpath]
          rfl
      | ok grid =>
          rw [step_persistent_of_ok h, step_persistent_of_ok (by rw [hpath, h]), hpath]
          simp only [Except.map, ite_self]
          rfl
  | assign name e =>
      have hscope : (s.withSettings t).scope = s.scope := rfl
      cases h : e.eval s.scope with
      | error cause =>
          rw [step_assign_of_error h, step_assign_of_error (by rw [hscope, h])]
          rfl
      | ok v =>
          rw [step_assign_of_ok h, step_assign_of_ok (by rw [hscope, h])]
          simp only [Except.map, ite_self]
          rfl
  | display e =>
      have hscope : (s.withSettings t).scope = s.scope := rfl
      cases h : e.eval s.scope with
      | error cause =>
          rw [step_display_of_error h, step_display_of_error (by rw [hscope, h])]
          rfl
      | ok v =>
          rw [step_display_of_ok h, step_display_of_ok (by rw [hscope, h]), hecho]
          rfl

/-- So does a program. -/
theorem execute_withSettings (hdir : t.dataDir = s.settings.dataDir)
    (hecho : s.settings.echoExpressions = true) (program : Program) :
    execute folder (s.withSettings t) program =
      ⟨(execute folder s program).state.withSettings t, (execute folder s program).log,
        (execute folder s program).result.map (heard t)⟩ := by
  induction program generalizing s with
  | nil =>
      have hnil : heard t [] = [] := ite_self _
      simp only [execute, Except.map, hnil]
  | cons stmt rest ih =>
      have hstep := step_withSettings folder hdir hecho stmt
      obtain ⟨fault, h⟩ | ⟨s', shown, h⟩ := step_outcome folder s stmt
      · rw [h] at hstep
        rw [execute_cons_error h, execute_cons_error (by rw [hstep]; rfl), hstep]
        rfl
      · have hsettings := settings_of_step h
        have hheard : ∀ echoed : List Echo,
            ((if t.echoExpressions then shown else none).toList.map fun v => ⟨stmt.line, v⟩) ++
              heard t echoed =
            heard t ((shown.toList.map fun v => ⟨stmt.line, v⟩) ++ echoed) := by
          intro echoed
          unfold heard
          split <;> rfl
        rw [h.result_eq, h.state_eq] at hstep
        have hother : Succeeds folder (s.withSettings t) stmt (s'.withSettings t)
            (if t.echoExpressions then shown else none) :=
          ⟨by rw [hstep]; rfl, by rw [hstep]⟩
        rw [execute_cons_ok h, execute_cons_ok hother, hstep,
          ih (by rw [hsettings]; exact hdir) (by rw [hsettings]; exact hecho)]
        cases (execute folder s' rest).result with
        | error fault => rfl
        | ok echoed => simp only [Except.map, hheard]

/-! ## Saving -/

theorem saveNames_withSettings (hdir : t.dataDir = s.settings.dataDir) (tree : Folder)
    (names : List (String × Nat)) :
    (s.withSettings t).saveNames tree names = s.saveNames tree names := by
  induction names generalizing tree with
  | nil => rfl
  | cons entry rest ih =>
      obtain ⟨name, line⟩ := entry
      have hpath : (s.withSettings t).settings.gridPath name = s.settings.gridPath name :=
        gridPath_eq hdir name
      have hscope : (s.withSettings t).scope = s.scope := rfl
      rw [saveNames.eq_def (s.withSettings t) tree, saveNames.eq_def s tree]
      simp only [hpath, hscope, ih]

theorem save_withSettings (hdir : t.dataDir = s.settings.dataDir) (tree : Folder) :
    (s.withSettings t).save tree = s.save tree :=
  saveNames_withSettings hdir tree s.persistent

/-! ## Runs -/

/-- A run of a program that fails, under any settings. -/
theorem run_withSettings_of_error (hdir : t.dataDir = s.settings.dataDir)
    (hecho : s.settings.echoExpressions = true) {program : Program} {fault : Fault}
    (h : (execute folder s program).result = .error fault) :
    ((s.withSettings t).run folder program).result = .error fault ∧
      ((s.withSettings t).run folder program).state.2 = folder := by
  have hexecute : (execute folder (s.withSettings t) program).result = .error fault := by
    rw [execute_withSettings hdir hecho, h]
    rfl
  rw [run_of_error hexecute]
  exact ⟨rfl, rfl⟩

/-- A run of a program that succeeds, under any settings: one flag decides whether the values
    are in the report, the other whether the grids are in the files. -/
theorem run_withSettings_of_ok (hdir : t.dataDir = s.settings.dataDir)
    (hecho : s.settings.echoExpressions = true) {program : Program} {echoed : List Echo}
    {paths : List String} (h : (execute folder s program).result = .ok echoed)
    (hsave : ((execute folder s program).state.save folder).result = .ok paths) :
    ((s.withSettings t).run folder program).result =
        .ok ⟨heard t echoed, if t.savePersistent then paths else []⟩ ∧
      ((s.withSettings t).run folder program).state.2 =
        if t.savePersistent then ((execute folder s program).state.save folder).state
        else folder := by
  have hexecute : (execute folder (s.withSettings t) program).result = .ok (heard t echoed) := by
    rw [execute_withSettings hdir hecho, h]
    rfl
  have hstate : (execute folder (s.withSettings t) program).state.save folder =
      (execute folder s program).state.save folder := by
    rw [execute_withSettings hdir hecho]
    exact save_withSettings (by rw [settings_execute, hdir]) folder
  have hflag : (s.withSettings t).settings.savePersistent = t.savePersistent := rfl
  rw [run_of_ok hexecute, hstate, hsave, hflag]
  cases t.savePersistent with
  | false => exact ⟨rfl, rfl⟩
  | true => exact ⟨rfl, rfl⟩

end Session

open Session

/-- What the flags keep of a report. -/
def Report.kept (t : Settings) (report : Report) : Report :=
  ⟨heard t report.echoed, if t.savePersistent then report.saved else []⟩

/-- A run is that under the settings with both flags set, of whose report and files the flags
    choose what is kept. -/
theorem runSource_eq_full (t : Settings) (folder : Folder) (source : List Char) :
    (runSource t folder source).result =
        (runSource t.full folder source).result.map (Report.kept t) ∧
      (runSource t folder source).state =
        if t.savePersistent then (runSource t.full folder source).state else folder := by
  cases hparse : parse source with
  | error fault =>
      rw [runSource_of_parse_error hparse, runSource_of_parse_error hparse]
      exact ⟨rfl, (ite_self _).symm⟩
  | ok program =>
      rw [runSource_of_parse hparse, runSource_of_parse hparse]
      show ((((start t.full).withSettings t).run folder program).result = _ ∧
        (((start t.full).withSettings t).run folder program).state.2 = _)
      cases hexecute : (execute folder (start t.full) program).result with
      | error fault =>
          obtain ⟨hresult, hstate⟩ := run_withSettings_of_error (t := t) rfl rfl hexecute
          rw [hresult, hstate, run_of_error hexecute]
          exact ⟨rfl, (ite_self _).symm⟩
      | ok echoed =>
          -- Saving succeeds, so a run that does not save misses no failure.
          obtain ⟨paths, hpaths⟩ := save_ok (backed_execute program (backed_start folder t.full))
          obtain ⟨hresult, hstate⟩ := run_withSettings_of_ok (t := t) rfl rfl hexecute hpaths
          have hflag : (start t.full).settings.savePersistent = true := rfl
          rw [hresult, hstate, run_of_ok hexecute, if_pos hflag, hpaths]
          exact ⟨rfl, rfl⟩

/-- The flags are observers. Without reporting, a run succeeds or fails as it does with it, saves
    the same grids and leaves the same files, and reports no values. Without saving, it succeeds or
    fails as it does with it and reports the same values, and it names no saved file and leaves all
    files as they were. -/
theorem runSource_flags (settings : Settings) (folder : Folder) (source : List Char) :
    ((runSource { settings with echoExpressions := false } folder source).result =
        (runSource { settings with echoExpressions := true } folder source).result.map
          (fun report => { report with echoed := [] }) ∧
      (runSource { settings with echoExpressions := false } folder source).state =
        (runSource { settings with echoExpressions := true } folder source).state) ∧
    ((runSource { settings with savePersistent := false } folder source).result =
        (runSource { settings with savePersistent := true } folder source).result.map
          (fun report => { report with saved := [] }) ∧
      (runSource { settings with savePersistent := false } folder source).state = folder) := by
  have hquiet := runSource_eq_full { settings with echoExpressions := false } folder source
  have hloud := runSource_eq_full { settings with echoExpressions := true } folder source
  have hdry := runSource_eq_full { settings with savePersistent := false } folder source
  have hkeep := runSource_eq_full { settings with savePersistent := true } folder source
  rw [hquiet.1, hquiet.2, hloud.1, hloud.2, hdry.1, hdry.2, hkeep.1]
  refine ⟨⟨?_, rfl⟩, ?_, rfl⟩
  · show (runSource settings.full folder source).result.map _ =
      ((runSource settings.full folder source).result.map _).map _
    cases (runSource settings.full folder source).result <;> rfl
  · show (runSource settings.full folder source).result.map _ =
      ((runSource settings.full folder source).result.map _).map _
    cases (runSource settings.full folder source).result <;> rfl

end Script

end Gridscript
