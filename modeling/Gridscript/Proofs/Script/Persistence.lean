/-
  What a run leaves in the files.

  The persistent names of a session are those that its program declares, in the order of their
  first declarations. Saving writes the matrices among their values, each to a file of its own:
  the paths of different names lead to different places (`Folder.eq_of_resolve_gridPath`), so no
  file is written twice. Every other place keeps what it had, and a persistent statement loads
  from each file the matrix that was written (`runSource_saved`).

  This covers data folders in the working folder. One that lies outside of it has no files here:
  its grids are neither loaded nor saved.
-/
import Mathlib.Data.List.Nodup
import Gridscript.Proofs.Folder.GridPath
import Gridscript.Proofs.Script.FailedRun
import Gridscript.Proofs.Script.LineByLine
import Gridscript.Proofs.Script.Values

namespace Gridscript.Script

/-! ## Names in order of declaration -/

theorem nodup_eraseDups (names : List String) : names.eraseDups.Nodup := by
  cases names with
  | nil => exact List.nodup_nil
  | cons x xs =>
      rw [List.eraseDups_cons, List.nodup_cons]
      exact ⟨by simp [List.mem_eraseDups], nodup_eraseDups _⟩
termination_by names.length
decreasing_by
  exact Nat.lt_succ_of_le (List.length_filter_le _ _)

theorem eraseDups_concat (names : List String) (x : String) :
    (names ++ [x]).eraseDups =
      if x ∈ names.eraseDups then names.eraseDups else names.eraseDups ++ [x] := by
  rw [List.eraseDups_append]
  by_cases hx : x ∈ names
  · rw [if_pos (List.mem_eraseDups.2 hx)]
    simp [List.removeAll, hx]
  · rw [if_neg (mt List.mem_eraseDups.1 hx)]
    simp [List.removeAll, hx, List.eraseDups_cons]

namespace Session

variable {folder : Folder} {s : Session}

/-- The persistent names. -/
def names (s : Session) : List String := s.persistent.map Prod.fst

theorem persistent_declare (s : Session) (name : String) (line : Nat) (grid : Grid Scalar) :
    (s.declare name line grid).persistent =
      if name ∈ s.names then s.persistent else s.persistent ++ [(name, line)] := by
  have hany : (s.persistent.any (·.1 = name)) = true ↔ name ∈ s.names := by
    simp [names, List.any_eq_true]
  by_cases hname : name ∈ s.names
  · rw [if_pos hname]
    exact if_pos (hany.2 hname)
  · rw [if_neg hname]
    exact if_neg (mt hany.1 hname)

theorem names_declare (s : Session) (name : String) (line : Nat) (grid : Grid Scalar) :
    (s.declare name line grid).names =
      if name ∈ s.names then s.names else s.names ++ [name] := by
  rw [names, persistent_declare]
  split
  · rfl
  · exact List.map_append

theorem names_step {stmt : Statement} {s' : Session} {shown : Option Value} {before : List String}
    (h : Succeeds folder s stmt s' shown) (hs : s.names = before.eraseDups) :
    s'.names = (before ++ stmt.declared?.toList).eraseDups := by
  unfold Statement.declared?
  rcases step_cases h with ⟨name, grid, haction, -, rfl, -⟩ | ⟨_, _, _, haction, -, rfl, -⟩ |
    ⟨_, _, haction, -, rfl, -⟩
  · rw [names_declare, hs, haction]
    exact (eraseDups_concat before name).symm
  · rw [haction, Option.toList_none, List.append_nil]
    exact hs
  · rw [haction, Option.toList_none, List.append_nil]
    exact hs

theorem names_execute {program : Program} {echoed : List Echo} {before : List String}
    (h : (execute folder s program).result = .ok echoed) (hs : s.names = before.eraseDups) :
    (execute folder s program).state.names = (before ++ declared program).eraseDups := by
  induction program generalizing s echoed before with
  | nil =>
      rw [declared, List.filterMap_nil, List.append_nil]
      exact hs
  | cons stmt rest ih =>
      obtain ⟨fault, hstep⟩ | ⟨s', shown, hstep⟩ := step_outcome folder s stmt
      · rw [execute_cons_error hstep] at h
        cases h
      · rw [execute_cons_ok hstep] at h ⊢
        obtain ⟨later, hlater, -⟩ := (Outcome.map_eq_ok_iff _ _ _).1 h
        rw [ih hlater (names_step hstep hs), List.append_assoc]
        congr 2
        cases hd : stmt.declared? <;> simp [declared, hd]

end Session

/-! ## Saving -/

/-- The matrix that a variable holds. -/
def Scope.matrix? (scope : Scope) (name : String) : Option (Grid Scalar) :=
  match scope.find? name with
  | some (.matrix grid) => some grid
  | _ => none

theorem Scope.matrix?_eq_some_iff {scope : Scope} {name : String} {grid : Grid Scalar} :
    scope.matrix? name = some grid ↔ scope.find? name = some (.matrix grid) := by
  unfold matrix?
  split
  · rename_i g h
    rw [h]
    simp
  · rename_i h
    exact ⟨fun hg => (by cases hg), fun hg => absurd hg (h grid)⟩

namespace Session

variable {folder tree : Folder} {s : Session}

theorem saveNames_cons_none {name : String} (h : s.scope.matrix? name = none) (tree : Folder)
    (line : Nat) (rest : List (String × Nat)) :
    (s.saveNames tree ((name, line) :: rest)).state = (s.saveNames tree rest).state ∧
      (s.saveNames tree ((name, line) :: rest)).result = (s.saveNames tree rest).result := by
  rw [saveNames.eq_def s tree ((name, line) :: rest)]
  dsimp only
  split
  · rename_i g hg
    rw [Scope.matrix?_eq_some_iff.2 hg] at h
    cases h
  · exact ⟨rfl, rfl⟩
  · exact ⟨rfl, rfl⟩

theorem saveNames_cons_some {name : String} {grid : Grid Scalar} {tree' : Folder}
    (h : s.scope.matrix? name = some grid)
    (hwrite : tree.write (s.settings.gridPath name) (Utf8.encode (Csv.text grid)) = .ok tree')
    (line : Nat) (rest : List (String × Nat)) :
    (s.saveNames tree ((name, line) :: rest)).state = (s.saveNames tree' rest).state ∧
      (s.saveNames tree ((name, line) :: rest)).result =
        (s.saveNames tree' rest).result.map (s.settings.gridPath name :: ·) := by
  have hsave : (tree.saveGrid (s.settings.gridPath name) grid).result = .ok tree' := by
    rw [Folder.result_saveGrid, hwrite]
    rfl
  rw [saveNames.eq_def s tree ((name, line) :: rest)]
  simp only [Scope.matrix?_eq_some_iff.1 h, hsave, and_self]

theorem saveNames_cons_error {name : String} {grid : Grid Scalar} {issue : FileFault}
    (h : s.scope.matrix? name = some grid)
    (hwrite : tree.write (s.settings.gridPath name) (Utf8.encode (Csv.text grid)) = .error issue)
    (line : Nat) (rest : List (String × Nat)) :
    (s.saveNames tree ((name, line) :: rest)).state = tree ∧
      (s.saveNames tree ((name, line) :: rest)).result =
        .error ⟨line, .grid (.file (s.settings.gridPath name) issue)⟩ := by
  have hsave : (tree.saveGrid (s.settings.gridPath name) grid).result =
      .error (.file (s.settings.gridPath name) issue) := by
    rw [Folder.result_saveGrid, hwrite]
    rfl
  rw [saveNames.eq_def s tree ((name, line) :: rest)]
  simp only [Scope.matrix?_eq_some_iff.1 h, hsave, and_self]

/-- The matrices of names have been written to a tree, and nothing else has changed. -/
structure Written (folder : Folder) (s : Session) (names : List String) (tree tree' : Folder) :
    Prop where
  layout : Folder.SameLayout folder tree'
  read : ∀ x ∈ names, ∀ grid, s.scope.matrix? x = some grid →
    tree'.read (s.settings.gridPath x) = .ok (Utf8.encode (Csv.text grid))
  frame : ∀ place, (∀ x ∈ names, (s.scope.matrix? x).isSome = true →
    folder.resolve (s.settings.gridPath x) ≠ .ok (.inside place)) →
    tree'.find? place = tree.find? place

variable {name : String} {names : List String} {tree' : Folder}

theorem Written.cons_none (hname : s.scope.matrix? name = none)
    (h : Written folder s names tree tree') : Written folder s (name :: names) tree tree' where
  layout := h.layout
  read := by
    intro x hx grid hgrid
    rcases List.mem_cons.1 hx with rfl | hx
    · rw [hname] at hgrid
      cases hgrid
    · exact h.read x hx grid hgrid
  frame := fun place hplace => h.frame place fun x hx => hplace x (List.mem_cons_of_mem _ hx)

/-- What is written first stays if the other names lead elsewhere. -/
theorem Written.cons_some {grid : Grid Scalar} {place : Place}
    (hname : s.scope.matrix? name = some grid)
    (hresolve : folder.resolve (s.settings.gridPath name) = .ok (.inside place))
    (hne : place ≠ [])
    (hother : ∀ x ∈ names, folder.resolve (s.settings.gridPath x) ≠ .ok (.inside place))
    (h : Written folder s names (tree.put place (.file (Utf8.encode (Csv.text grid)))) tree') :
    Written folder s (name :: names) tree tree' where
  layout := h.layout
  read := by
    intro x hx grid' hgrid
    rcases List.mem_cons.1 hx with rfl | hx
    · rw [hname] at hgrid
      cases hgrid
      have hfile := h.frame place fun y hy _ => hother y hy
      rw [Folder.find?_put_self tree hne] at hfile
      unfold Folder.read
      rw [← h.layout.resolve_eq, hresolve]
      simp only [hfile]
    · exact h.read x hx grid' hgrid
  frame := by
    intro other hplace
    have hhead := hplace name List.mem_cons_self (by rw [hname]; rfl)
    have hother' : other ≠ place := by
      rintro rfl
      exact hhead hresolve
    rw [h.frame other fun x hx => hplace x (List.mem_cons_of_mem _ hx),
      Folder.find?_put_of_ne tree hother']

/-- Names with files, each of its own, are saved: the paths are those of the matrices among their
    values. -/
theorem saveNames_written {entries : List (String × Nat)}
    (hslash : ∀ entry ∈ entries, '/' ∉ entry.1.toList)
    (hread : ∀ entry ∈ entries,
      ∃ bytes, folder.read (s.settings.gridPath entry.1) = .ok bytes)
    (hnodup : (entries.map Prod.fst).Nodup) (htree : Folder.SameLayout folder tree) :
    (s.saveNames tree entries).result =
        .ok (((entries.map Prod.fst).filter fun x => (s.scope.matrix? x).isSome).map
          s.settings.gridPath) ∧
      Written folder s (entries.map Prod.fst) tree (s.saveNames tree entries).state := by
  induction entries generalizing tree with
  | nil =>
      refine ⟨rfl, htree, fun x hx => (by cases hx), fun _ _ => rfl⟩
  | cons entry rest ih =>
      obtain ⟨name, line⟩ := entry
      obtain ⟨hname, hrest⟩ := List.nodup_cons.1 hnodup
      have hslash' := fun e he => hslash e (List.mem_cons_of_mem _ he)
      have hread' := fun e he => hread e (List.mem_cons_of_mem _ he)
      cases hmatrix : s.scope.matrix? name with
      | none =>
          obtain ⟨hstate, hresult⟩ := saveNames_cons_none hmatrix tree line rest
          obtain ⟨hpaths, hwritten⟩ := ih hslash' hread' hrest htree
          rw [hstate, hresult, hpaths]
          refine ⟨?_, hwritten.cons_none hmatrix⟩
          simp [hmatrix]
      | some grid =>
          obtain ⟨bytes, hbytes⟩ := hread (name, line) List.mem_cons_self
          obtain ⟨place, hresolve, ⟨old, hold⟩, hwrite⟩ := Folder.put_of_read hbytes htree
          have hother : ∀ x ∈ rest.map Prod.fst,
              folder.resolve (s.settings.gridPath x) ≠ .ok (.inside place) := by
            intro x hx hresolve'
            obtain ⟨e, he, rfl⟩ := List.mem_map.1 hx
            have heq := Folder.eq_of_resolve_gridPath (hslash' e he)
              (hslash (name, line) List.mem_cons_self) hresolve' hresolve
            exact hname (heq ▸ hx)
          obtain ⟨hstate, hresult⟩ := saveNames_cons_some hmatrix (hwrite _) line rest
          obtain ⟨hpaths, hwritten⟩ :=
            ih hslash' hread' hrest (htree.trans (Folder.sameLayout_put hold _))
          rw [hstate, hresult, hpaths]
          refine ⟨?_, hwritten.cons_some hmatrix hresolve (Folder.ne_nil_of_file hold) hother⟩
          simp only [List.map_cons, List.filter_cons, hmatrix, Option.isSome_some, if_true]
          rfl

/-- A persistent statement loads the grid in the file of its name. -/
theorem execute_persistent {grid : Grid Scalar}
    (h : (tree.loadGrid .i64 (s.settings.gridPath name)).result = .ok grid) (line : Nat) :
    (execute tree s [⟨line, .persistent name⟩]).result = .ok [] ∧
      (execute tree s [⟨line, .persistent name⟩]).state.scope.find? name =
        some (.matrix grid) := by
  rw [execute_cons_ok (succeeds_persistent h line)]
  exact ⟨rfl, Scope.find?_bind_self _ _ _⟩

end Session

/-! ## Runs -/

open Session

/-- A run that succeeds and saves: the program and what saving did. -/
theorem save_of_runSource {settings : Settings} {folder : Folder} {source : List Char}
    {report : Report} (hsave : settings.savePersistent = true)
    (h : (runSource settings folder source).result = .ok report) :
    ∃ program, parse source = .ok program ∧
      (execute folder (start settings) program).result = .ok report.echoed ∧
      ((execute folder (start settings) program).state.save folder).result = .ok report.saved ∧
      (runSource settings folder source).state =
        ((execute folder (start settings) program).state.save folder).state := by
  cases hparse : parse source with
  | error fault =>
      rw [runSource_of_parse_error hparse] at h
      cases h
  | ok program =>
      rw [runSource_of_parse hparse] at h ⊢
      cases hexecute : (execute folder (start settings) program).result with
      | error fault =>
          rw [run_of_error hexecute] at h
          cases h
      | ok echoed =>
          have hsettings : (start settings).settings.savePersistent = true := hsave
          rw [run_of_ok hexecute, if_pos hsettings] at h ⊢
          obtain ⟨paths, hpaths, rfl⟩ := (Outcome.map_eq_ok_iff _ _ _).1 h
          exact ⟨program, rfl, hexecute, hpaths, rfl⟩

/-- The names declared persistent that hold a matrix, in the order of their first
    declarations. -/
def savedNames (program : Program) (scope : Scope) : List String :=
  (declared program).eraseDups.filter fun x => (scope.matrix? x).isSome

theorem mem_savedNames {program : Program} {scope : Scope} {x : String} :
    x ∈ savedNames program scope ↔
      x ∈ declared program ∧ ∃ grid, scope.matrix? x = some grid := by
  rw [savedNames, List.mem_filter, List.mem_eraseDups, Option.isSome_iff_exists]

/-- Saving after a program of a source. -/
theorem save_of_execute {settings : Settings} {folder : Folder} {source : List Char}
    {program : Program} {echoed : List Echo} {final : Session} (hparse : parse source = .ok program)
    (h : (execute folder (start settings) program).result = .ok echoed)
    (hfinal : (execute folder (start settings) program).state = final) :
    (final.save folder).result =
        .ok ((savedNames program final.scope).map settings.gridPath) ∧
      Written folder final (declared program).eraseDups folder (final.save folder).state := by
  have hnames : final.persistent.map Prod.fst = (declared program).eraseDups := by
    have hexecute : (execute folder (start settings) program).state.names =
        ([] ++ declared program).eraseDups := names_execute h rfl
    rwa [hfinal] at hexecute
  have hsettings : final.settings = settings := by
    rw [← hfinal]
    exact settings_execute program
  have hslash : ∀ entry ∈ final.persistent, '/' ∉ entry.1.toList := by
    intro entry hentry
    have hmem := List.mem_map_of_mem (f := Prod.fst) hentry
    rw [hnames, List.mem_eraseDups] at hmem
    exact (isWord_of_declared hparse hmem).not_slash
  have hbacked : Backed folder final := by
    rw [← hfinal]
    exact backed_execute program (backed_start folder settings)
  have hnodup : (final.persistent.map Prod.fst).Nodup := by
    rw [hnames]
    exact nodup_eraseDups _
  have hwritten := saveNames_written hslash hbacked hnodup (Folder.SameLayout.refl folder)
  rwa [hnames, hsettings] at hwritten

/-- The tree after a run: saved at the paths are the matrices of declared names, each in a file of
    its own that a persistent statement loads it from again, and all other places have what they
    had before. -/
structure Saved (settings : Settings) (folder tree : Folder) (program : Program) (scope : Scope)
    (paths : List String) : Prop where
  paths_eq : paths = (savedNames program scope).map settings.gridPath
  nodup : paths.Nodup
  file : ∀ x ∈ declared program, ∀ grid, scope.find? x = some (.matrix grid) →
    tree.read (settings.gridPath x) = .ok (Utf8.encode (Csv.text grid))
  load : ∀ x ∈ declared program, ∀ grid, scope.find? x = some (.matrix grid) →
    ∀ (fresh : Settings) (line : Nat), fresh.dataDir = settings.dataDir →
      (execute tree (start fresh) [⟨line, .persistent x⟩]).result = .ok [] ∧
        (execute tree (start fresh) [⟨line, .persistent x⟩]).state.scope.find? x =
          some (.matrix grid)
  frame : ∀ place, (∀ path ∈ paths, folder.resolve path ≠ .ok (.inside place)) →
    tree.find? place = folder.find? place

theorem saved_of_execute {settings : Settings} {folder : Folder} {source : List Char}
    {program : Program} {echoed : List Echo} {final : Session} (hparse : parse source = .ok program)
    (h : (execute folder (start settings) program).result = .ok echoed)
    (hfinal : (execute folder (start settings) program).state = final) :
    Saved settings folder (final.save folder).state program final.scope
      ((savedNames program final.scope).map settings.gridPath) := by
  obtain ⟨-, hwritten⟩ := save_of_execute hparse h hfinal
  have hwell : final.scope.WellFormed := by
    rw [← hfinal]
    exact wellFormed_execute program Scope.wellFormed_empty
  have hsettings : final.settings = settings := by
    rw [← hfinal]
    exact settings_execute program
  have hslash : ∀ x ∈ savedNames program final.scope, '/' ∉ x.toList :=
    fun x hx => (isWord_of_declared hparse (mem_savedNames.1 hx).1).not_slash
  have hfile : ∀ x ∈ declared program, ∀ grid, final.scope.find? x = some (.matrix grid) →
      (final.save folder).state.read (settings.gridPath x) =
        .ok (Utf8.encode (Csv.text grid)) := by
    intro x hx grid hgrid
    rw [← hsettings]
    exact hwritten.read x (List.mem_eraseDups.2 hx) grid (Scope.matrix?_eq_some_iff.2 hgrid)
  refine ⟨rfl, ?_, hfile, fun x hx grid hgrid fresh line hdir => ?_, fun place hplace => ?_⟩
  · refine List.Nodup.map_on (fun a ha b hb => ?_) ((nodup_eraseDups _).filter _)
    exact settings.gridPath_injective (hslash a ha) (hslash b hb)
  · have hpath : (start fresh).settings.gridPath x = settings.gridPath x := by
      show Path.join fresh.dataDir _ = _
      rw [hdir]
      rfl
    have hload := Folder.loadGrid_of_read_text (hwell x _ hgrid) (hfile x hx grid hgrid)
    rw [← hpath] at hload
    exact execute_persistent hload line
  · refine hwritten.frame place fun x hx hgrid => ?_
    rw [hsettings]
    exact hplace _ (List.mem_map_of_mem (List.mem_filter.2 ⟨hx, hgrid⟩))

/-- What a declared name holds at the end of the program is in its file after the run. -/
theorem read_of_reaches {settings : Settings} {folder : Folder} {source : List Char}
    {program : Program} {final : Session} {x : String} {grid : Grid Scalar}
    (hsave : settings.savePersistent = true) (hparse : parse source = .ok program)
    (h : Reaches folder (start settings) program final) (hx : x ∈ declared program)
    (hgrid : final.scope.find? x = some (.matrix grid)) :
    (runSource settings folder source).state.read (settings.gridPath x) =
      .ok (Utf8.encode (Csv.text grid)) := by
  obtain ⟨⟨echoed, hexecute⟩, hfinal⟩ := h
  have hflag : (start settings).settings.savePersistent = true := hsave
  rw [runSource_of_parse hparse, run_of_ok hexecute, if_pos hflag, hfinal]
  exact (saved_of_execute hparse hexecute hfinal).file x hx grid hgrid

/-- A run that succeeds has saved exactly the declared names that hold a matrix at its end, each
    once and in the order of first declaration, and has changed nothing else. -/
theorem runSource_saved {settings : Settings} {folder : Folder} {source : List Char}
    {report : Report} (hsave : settings.savePersistent = true)
    (h : (runSource settings folder source).result = .ok report) :
    ∃ program, parse source = .ok program ∧
      (execute folder (start settings) program).result = .ok report.echoed ∧
      Saved settings folder (runSource settings folder source).state program
        (execute folder (start settings) program).state.scope report.saved := by
  obtain ⟨program, hparse, hexecute, hpaths, htree⟩ := save_of_runSource hsave h
  obtain ⟨hresult, -⟩ := save_of_execute hparse hexecute rfl
  refine ⟨program, hparse, hexecute, ?_⟩
  rw [htree, Except.ok.inj (hpaths.symm.trans hresult)]
  exact saved_of_execute hparse hexecute rfl

/-! ### A run that binds its persistent names anew -/

/-- One row of two cells. -/
def pair : Grid Scalar := ⟨1, 2, #[Element.wrap .i64 1, Element.wrap .i64 (-2)]⟩

def single : Grid Scalar := ⟨1, 1, #[Element.wrap .i64 5]⟩

/-- Two grids in a folder, and another file beside the folder. -/
def gridsInFolder : Folder :=
  ⟨[(["data"], .folder), (["data", "A.csv"], .file (Utf8.encode (Csv.text pair))),
    (["data", "B.csv"], .file (Utf8.encode (Csv.text single))), (["A.csv"], .file [])]⟩

def inData : Settings := { dataDir := "data" }

/-- `A` is declared twice and then bound to the grid of `B`, and `B` ends as a number. -/
def rebinding : List Char :=
  "persistent A\npersistent B\npersistent A\nA = B\nB = 1".toList

def rebindingProgram : Program :=
  [⟨1, .persistent "A"⟩, ⟨2, .persistent "B"⟩, ⟨3, .persistent "A"⟩, ⟨4, .assign "A" (.var "B")⟩,
    ⟨5, .assign "B" (.int (Element.wrap .i64 1))⟩]

theorem isGap_blank : IsGap [' '] := isGap_nil.cons (by decide) (by decide)

theorem not_runsInto_newline (t : Token) : ¬ Token.newline.RunsInto t := by
  rintro (⟨h, -⟩ | ⟨h, -⟩) <;> cases h

theorem parse_declaration {name : String} (hname : (Token.ident name).Spelled name.toList) :
    parse ("persistent".toList ++ ' ' :: name.toList) = .ok [⟨1, .persistent name⟩] := by
  have hlayout : Layout .newline [.persistent, .ident name]
      ("persistent".toList ++ ' ' :: (name.toList ++ [])) :=
    .token isGap_nil .persistent (fun hruns => absurd hruns (not_runsInto_newline _))
      (.token isGap_blank hname (fun _ => List.cons_ne_nil _ _) (.finish isGap_nil (.inl rfl)))
  rw [List.append_nil] at hlayout
  exact parse_eq_ok_iff.2 ⟨_, hlayout, .next .persistent (.inr rfl) .nil⟩

/-- A name is assigned what stands behind the sign alone. -/
theorem parse_assignment {name : String} {t : Token} {text : List Char} {e : Expr}
    (hname : (Token.ident name).Spelled name.toList) (ht : t.Spelled text)
    (he : Reads .signed 0 [⟨1, t⟩] e []) :
    parse (name.toList ++ ' ' :: '=' :: ' ' :: text) = .ok [⟨1, .assign name e⟩] := by
  have hlayout : Layout .newline [.ident name, .assign, t]
      (name.toList ++ ' ' :: '=' :: ' ' :: (text ++ [])) :=
    .token isGap_nil hname (fun hruns => absurd hruns (not_runsInto_newline _))
      (.token isGap_blank (.char rfl) (fun _ => List.cons_ne_nil _ _)
        (.token isGap_blank ht (fun _ => List.cons_ne_nil _ _) (.finish isGap_nil (.inl rfl))))
  rw [List.append_nil] at hlayout
  have hread : Reads (.chain .sum) 0 [⟨1, t⟩] e [] :=
    .chain (.factor (.chain (.atom he) (.chainEnd rfl))) (.chainEnd rfl)
  exact parse_eq_ok_iff.2 ⟨_, hlayout, .next (.assign hread) (.inr rfl) .nil⟩

theorem parse_rebinding : parse rebinding = .ok rebindingProgram := by
  have hA : (Token.ident "A").Spelled "A".toList :=
    .ident ⟨'A', [], rfl, by decide +kernel, nofun⟩ (by decide) (by decide)
  have hB : (Token.ident "B").Spelled "B".toList :=
    .ident ⟨'B', [], rfl, by decide +kernel, nofun⟩ (by decide) (by decide)
  have hone : (Token.int (Element.wrap .i64 1)).Spelled ['1'] :=
    Token.spelled_int ⟨by decide, List.forall_mem_singleton.2 (by decide)⟩ (by decide +kernel)
  have hgrid := parse_assignment hA hB
    (.bare (by decide) (by decide) (.indexed .var (.indexEnd (by decide))))
  have hnumber := parse_assignment hB hone
    (.bare (by decide) (by decide) (.indexed .int (.indexEnd (by decide))))
  have hassign := parse_newline_iff.2 ⟨_, _, hgrid, hnumber, rfl⟩
  have hthree := parse_newline_iff.2 ⟨_, _, parse_declaration hA, hassign, rfl⟩
  have htwo := parse_newline_iff.2 ⟨_, _, parse_declaration hB, hthree, rfl⟩
  have hall := parse_newline_iff.2 ⟨_, _, parse_declaration hA, htwo, rfl⟩
  exact hall

/-- The session that the declarations lead to. -/
def loaded : Session :=
  (((start inData).declare "A" 1 pair).declare "B" 2 single).declare "A" 3 pair

/-- The session that the program leads to. -/
def rebound : Session :=
  (loaded.bind "A" (.matrix single)).bind "B" (.scalar (Element.wrap .i64 1))

theorem execute_rebinding :
    (execute gridsInFolder (start inData) rebindingProgram).result = .ok [] ∧
      (execute gridsInFolder (start inData) rebindingProgram).state = rebound := by
  have hpair : pair.WellFormed := ⟨by decide, by decide, rfl⟩
  have hsingle : single.WellFormed := ⟨by decide, by decide, rfl⟩
  have hfirst : Succeeds gridsInFolder (start inData) ⟨1, .persistent "A"⟩
      ((start inData).declare "A" 1 pair) none :=
    succeeds_persistent (Folder.loadGrid_of_read_text hpair (by decide +kernel)) 1
  have hsecond : Succeeds gridsInFolder ((start inData).declare "A" 1 pair) ⟨2, .persistent "B"⟩
      (((start inData).declare "A" 1 pair).declare "B" 2 single) none :=
    succeeds_persistent (Folder.loadGrid_of_read_text hsingle (by decide +kernel)) 2
  have hthird : Succeeds gridsInFolder (((start inData).declare "A" 1 pair).declare "B" 2 single)
      ⟨3, .persistent "A"⟩ loaded none :=
    succeeds_persistent (Folder.loadGrid_of_read_text hpair (by decide +kernel)) 3
  have hfourth : Succeeds gridsInFolder loaded ⟨4, .assign "A" (.var "B")⟩
      (loaded.bind "A" (.matrix single)) none := succeeds_assign rfl gridsInFolder 4 "A"
  have hfifth : Succeeds gridsInFolder (loaded.bind "A" (.matrix single))
      ⟨5, .assign "B" (.int (Element.wrap .i64 1))⟩ rebound none :=
    succeeds_assign rfl gridsInFolder 5 "B"
  rw [rebindingProgram, execute_cons_ok hfirst, execute_cons_ok hsecond, execute_cons_ok hthird,
    execute_cons_ok hfourth, execute_cons_ok hfifth]
  exact ⟨rfl, rfl⟩

/-- Only `A` is saved, once and as the grid that `B` had, and the file of `B` stays. -/
theorem runSource_saved_rebinding :
    (runSource inData gridsInFolder rebinding).result = .ok ⟨[], ["data/A.csv"]⟩ ∧
      (runSource inData gridsInFolder rebinding).state.read "data/A.csv" =
        .ok (Utf8.encode (Csv.text single)) ∧
      (runSource inData gridsInFolder rebinding).state.find? ["data", "B.csv"] =
        gridsInFolder.find? ["data", "B.csv"] := by
  obtain ⟨hexecute, hstate⟩ := execute_rebinding
  have hrun : (runSource inData gridsInFolder rebinding).result =
      .ok ⟨[], ["data/A.csv"]⟩ := by
    have hsave : (start inData).settings.savePersistent = true := rfl
    have hpaths : (savedNames rebindingProgram rebound.scope).map inData.gridPath =
        ["data/A.csv"] := by decide +kernel
    rw [runSource_of_parse parse_rebinding, run_of_ok hexecute, if_pos hsave, hstate,
      (save_of_execute parse_rebinding hexecute hstate).1, hpaths]
    rfl
  obtain ⟨program, hparse, -, hsaved⟩ := runSource_saved rfl hrun
  cases parse_rebinding.symm.trans hparse
  rw [hstate] at hsaved
  have hpath : inData.gridPath "A" = "data/A.csv" := by decide +kernel
  refine ⟨hrun, ?_, hsaved.frame ["data", "B.csv"] (List.forall_mem_singleton.2 ?_)⟩
  · rw [← hpath]
    exact hsaved.file "A" (by decide +kernel) single rfl
  · decide +kernel

end Gridscript.Script
