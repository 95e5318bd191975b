/-
  Runs that fail.

  Only saving changes files, and it writes them one after the other. That a failed run still
  leaves all files as they were rests on saving not failing at all: every persistent name was
  loaded from a file at the path that it is saved to (`Backed`), executing writes nothing, and
  a file that can be read can be written again, also after others have been written.

  This covers data folders in the working folder. One that lies outside of it has no files here:
  its grids are neither loaded nor saved.
-/
import Gridscript.Proofs.Folder.Rewrite
import Gridscript.Proofs.Script.Execution

namespace Gridscript.Script.Session

variable {folder : Folder} {s : Session}

/-- Each persistent name has a file that can be read at its path. -/
def Backed (folder : Folder) (s : Session) : Prop :=
  ∀ entry ∈ s.persistent, ∃ bytes, folder.read (s.settings.gridPath entry.1) = .ok bytes

theorem backed_start (folder : Folder) (settings : Settings) :
    Backed folder (start settings) := by
  intro entry hentry
  cases hentry

/-- A grid is loaded from a file that can be read. -/
theorem exists_read_of_loadGrid {τ : IntType} {path : String} {grid : Grid (Element τ)}
    (h : (folder.loadGrid τ path).result = .ok grid) : ∃ bytes, folder.read path = .ok bytes := by
  simp only [Folder.loadGrid, Traced.result_bind] at h
  obtain ⟨bytes, hread, -⟩ := (Outcome.bind_eq_ok_iff _ _ _).1 h
  rw [Traced.result_lift, Folder.readGridFile, Outcome.mapError_eq_ok_iff] at hread
  exact ⟨bytes, hread⟩

theorem backed_of_step {stmt : Statement} {s' : Session} {shown : Option Value}
    (h : Succeeds folder s stmt s' shown) (hs : Backed folder s) : Backed folder s' := by
  rcases step_cases h with ⟨name, grid, -, hload, rfl, -⟩ | ⟨_, _, _, -, -, rfl, -⟩ |
    ⟨_, _, -, -, rfl, -⟩
  · intro entry hentry
    simp only [declare] at hentry ⊢
    split at hentry
    · exact hs entry hentry
    · rcases List.mem_append.1 hentry with hentry | hentry
      · exact hs entry hentry
      · rw [List.mem_singleton.1 hentry]
        exact exists_read_of_loadGrid hload
  · exact hs
  · exact hs

theorem backed_execute (program : Program) (hs : Backed folder s) :
    Backed folder (execute folder s program).state :=
  execute_invariant (fun _ _ _ _ h hs => backed_of_step h hs) program hs

/-! ## Saving -/

theorem saveGrid_of_read {τ : IntType} {f g : Folder} {path : String} {bytes : List UInt8}
    (h : f.read path = .ok bytes) (hfg : Folder.SameLayout f g) (grid : Grid (Element τ)) :
    ∃ g', (g.saveGrid path grid).result = .ok g' ∧ Folder.SameLayout f g' := by
  obtain ⟨g', hwrite, hlayout⟩ := Folder.write_of_read h hfg (Utf8.encode (Csv.text grid))
  refine ⟨g', ?_, hlayout⟩
  simp only [Folder.saveGrid, Traced.result_bind, Traced.result_lift, hwrite]
  rfl

/-- Names with files are saved to any tree that has the same layout still. -/
theorem saveNames_ok {tree : Folder} {names : List (String × Nat)}
    (hnames : ∀ entry ∈ names, ∃ bytes, folder.read (s.settings.gridPath entry.1) = .ok bytes)
    (htree : Folder.SameLayout folder tree) :
    ∃ paths, (s.saveNames tree names).result = .ok paths := by
  induction names generalizing tree with
  | nil => exact ⟨[], rfl⟩
  | cons entry rest ih =>
      obtain ⟨name, line⟩ := entry
      have hrest := fun e he => hnames e (List.mem_cons_of_mem _ he)
      obtain ⟨bytes, hread⟩ := hnames (name, line) List.mem_cons_self
      unfold saveNames
      split
      · rename_i grid hgrid
        obtain ⟨tree', hsave, htree'⟩ := saveGrid_of_read hread htree grid
        obtain ⟨paths, hpaths⟩ := ih hrest htree'
        simp only [hsave, hpaths]
        exact ⟨_, rfl⟩
      · exact ih hrest htree
      · exact ih hrest htree

theorem save_ok (hs : Backed folder s) : ∃ paths, (s.save folder).result = .ok paths :=
  saveNames_ok hs (Folder.SameLayout.refl folder)

/-- From a session whose persistent names have files, a run fails exactly if its program does. -/
theorem run_eq_error_iff (hs : Backed folder s) (program : Program) (fault : Fault) :
    (s.run folder program).result = .error fault ↔
      (execute folder s program).result = .error fault := by
  cases he : (execute folder s program).result with
  | error f =>
      rw [run_of_error he]
      exact ⟨fun h => (by cases h; rfl), fun h => (by cases h; rfl)⟩
  | ok echoed =>
      obtain ⟨paths, hpaths⟩ := save_ok (backed_execute program hs)
      rw [run_of_ok he, hpaths]
      refine ⟨fun h => ?_, fun h => (by cases h)⟩
      split at h <;> cases h

end Gridscript.Script.Session

namespace Gridscript.Script

open Session

/-- A run succeeds exactly if its program does. -/
theorem exists_report_iff {source : List Char} {program : Program}
    (hparse : parse source = .ok program) (settings : Settings) (folder : Folder) :
    (∃ report, (runSource settings folder source).result = .ok report) ↔
      ∃ t, Reaches folder (start settings) program t := by
  rw [runSource_of_parse hparse]
  cases hexecute : (execute folder (start settings) program).result with
  | error fault =>
      rw [run_of_error hexecute]
      refine iff_of_false nofun ?_
      rintro ⟨_, ⟨_, hok⟩, -⟩
      rw [hexecute] at hok
      cases hok
  | ok echoed =>
      refine iff_of_true ?_ ⟨_, ⟨echoed, hexecute⟩, rfl⟩
      obtain ⟨paths, hpaths⟩ := save_ok (backed_execute program (backed_start folder settings))
      rw [run_of_ok hexecute, hpaths]
      split <;> exact ⟨_, rfl⟩

/-- A run that fails leaves all files as they were. It fails with a fault of the source or with
    that of a statement and with no other: where all statements have succeeded, so does saving. -/
theorem runSource_failure (settings : Settings) (folder : Folder) (source : List Char) :
    (∀ fault, (runSource settings folder source).result = .error fault →
      (runSource settings folder source).state = folder) ∧
    (∀ program echoed, (execute folder (start settings) program).result = .ok echoed →
      ∃ paths, ((execute folder (start settings) program).state.save folder).result = .ok paths) ∧
    (∀ fault, (runSource settings folder source).result = .error fault ↔
      parse source = .error fault ∨
        ∃ program, parse source = .ok program ∧
          FailsAt folder (start settings) program fault) := by
  have hstart := backed_start folder settings
  have hsave : ∀ program echoed, (execute folder (start settings) program).result = .ok echoed →
      ∃ paths, ((execute folder (start settings) program).state.save folder).result =
        .ok paths :=
    fun program _ _ => save_ok (backed_execute program hstart)
  cases hparse : parse source with
  | error f =>
      rw [runSource_of_parse_error hparse]
      refine ⟨fun _ _ => rfl, hsave, fun fault => ?_⟩
      constructor
      · intro h
        cases h
        exact .inl rfl
      · intro h'
        obtain h | ⟨program, h, -⟩ := h'
        · cases h
          rfl
        · cases h
  | ok program =>
      rw [runSource_of_parse hparse]
      refine ⟨fun fault h => ?_, hsave, fun fault => ?_⟩
      · rw [run_of_error ((run_eq_error_iff hstart program fault).1 h)]
      · rw [run_eq_error_iff hstart, execute_eq_error_iff]
        constructor
        · intro h
          exact .inr ⟨program, rfl, h⟩
        · intro heq
          obtain h | ⟨program', h, hfails⟩ := heq
          · cases h
          · cases h
            exact hfails

end Gridscript.Script
