/-
  What sessions know of their persistent names.

  Whatever is done with a session, and however the files change meanwhile, its persistent names
  are those that a statement has declared with success, with the line of the first one that did,
  and all of them have values. `history` collects the declarations beside the session; each
  statement keeps the two in step (`Books.step`), so programs do, whether they fail or not, and
  so does everything else that sessions are used for (`Desk.books_afterAll`).

  Saving that fails has written the matrices of the names before, one after the other, and
  nothing else (`saveNames_error`). This is about the working folder: a data folder outside of it
  has no files here, so what saving leaves there is not told.
-/
import Gridscript.Proofs.Folder.Writing
import Gridscript.Proofs.Script.Persistence

namespace Gridscript.Script

/-! ## Declarations that succeed -/

/-- The name that a statement declares persistent, with its line. -/
def Statement.declaration? (stmt : Statement) : Option (String × Nat) :=
  stmt.declared?.map fun name => (name, stmt.line)

namespace Session

variable {folder : Folder} {s s' : Session} {history : List (String × Nat)}

/-- The declarations of the statements that are executed with success: of all of them, or of
    those before the first that fails. -/
def declarations (folder : Folder) (s : Session) : Program → List (String × Nat)
  | [] => []
  | stmt :: rest =>
      match (step folder s stmt).result with
      | .error _ => []
      | .ok _ =>
          stmt.declaration?.toList ++ declarations folder (step folder s stmt).state rest

theorem declarations_cons_error {stmt : Statement} {fault : Fault}
    (h : (step folder s stmt).result = .error fault) (rest : Program) :
    declarations folder s (stmt :: rest) = [] := by
  simp only [declarations, h]

theorem declarations_cons_ok {stmt : Statement} {shown : Option Value}
    (h : Succeeds folder s stmt s' shown) (rest : Program) :
    declarations folder s (stmt :: rest) =
      stmt.declaration?.toList ++ declarations folder s' rest := by
  simp only [declarations, h.result_eq, h.state_eq]

/-! ## The invariant -/

/-- The persistent names are those of the declarations so far, each once and in the order of the
    first declarations. Each is kept with the line of the first one, and has a value. -/
structure Books (s : Session) (history : List (String × Nat)) : Prop where
  names : s.names = (history.map Prod.fst).eraseDups
  first : ∀ entry ∈ s.persistent, history.lookup entry.1 = some entry.2
  bound : ∀ entry ∈ s.persistent, ∃ v, s.scope.find? entry.1 = some v

theorem books_start (settings : Settings) : Books (start settings) [] :=
  ⟨rfl, nofun, nofun⟩

theorem exists_find?_bind {scope : Scope} {x : String} (h : ∃ v, scope.find? x = some v)
    (name : String) (value : Value) : ∃ v, (scope.bind name value).find? x = some v := by
  by_cases hx : x = name
  · rw [hx]
    exact ⟨value, Scope.find?_bind_self _ _ _⟩
  · rw [Scope.find?_bind_of_ne _ hx]
    exact h

theorem Books.bind (h : Books s history) (name : String) (value : Value) :
    Books (s.bind name value) history :=
  ⟨h.names, h.first, fun entry hentry => exists_find?_bind (h.bound entry hentry) name value⟩

theorem Books.lookup_eq_none (h : Books s history) {name : String} (hname : name ∉ s.names) :
    history.lookup name = none := by
  rw [h.names, List.mem_eraseDups] at hname
  refine List.lookup_eq_none_iff.2 fun entry hentry => ?_
  rw [bne_iff_ne]
  rintro rfl
  exact hname (List.mem_map_of_mem hentry)

theorem mem_persistent_declare {name : String} {line : Nat} {grid : Grid Scalar}
    {entry : String × Nat} (h : entry ∈ (s.declare name line grid).persistent) :
    entry ∈ s.persistent ∨ name ∉ s.names ∧ entry = (name, line) := by
  rw [persistent_declare] at h
  by_cases hname : name ∈ s.names
  · rw [if_pos hname] at h
    exact .inl h
  · rw [if_neg hname, List.mem_append, List.mem_singleton] at h
    exact h.imp_right fun heq => ⟨hname, heq⟩

theorem Books.declare (h : Books s history) (name : String) (line : Nat) (grid : Grid Scalar) :
    Books (s.declare name line grid) (history ++ [(name, line)]) where
  names := by
    rw [names_declare, h.names, List.map_append]
    exact (eraseDups_concat _ name).symm
  first := by
    intro entry hentry
    rw [List.lookup_append]
    obtain hentry | ⟨hname, rfl⟩ := mem_persistent_declare hentry
    · rw [h.first entry hentry]
      rfl
    · rw [h.lookup_eq_none hname]
      exact List.lookup_cons_self
  bound := by
    intro entry hentry
    obtain hentry | ⟨-, rfl⟩ := mem_persistent_declare hentry
    · exact exists_find?_bind (h.bound entry hentry) name (.matrix grid)
    · exact ⟨.matrix grid, Scope.find?_bind_self _ _ _⟩

/-- A statement that succeeds keeps the books. -/
theorem Books.step {stmt : Statement} {shown : Option Value} (hs : Books s history)
    (h : Succeeds folder s stmt s' shown) :
    Books s' (history ++ stmt.declaration?.toList) := by
  unfold Statement.declaration? Statement.declared?
  obtain ⟨name, grid, haction, -, rfl, -⟩ | ⟨name, e, v, haction, -, rfl, -⟩ |
    ⟨e, v, haction, -, rfl, -⟩ := step_cases h
  · rw [haction]
    exact hs.declare name stmt.line grid
  · rw [haction, Option.map_none, Option.toList_none, List.append_nil]
    exact hs.bind name v
  · rw [haction, Option.map_none, Option.toList_none, List.append_nil]
    exact hs

/-- A program keeps the books, whether it succeeds or not. -/
theorem Books.execute (hs : Books s history) (program : Program) :
    Books (execute folder s program).state (history ++ declarations folder s program) := by
  induction program generalizing s history with
  | nil =>
      rw [declarations, List.append_nil]
      exact hs
  | cons stmt rest ih =>
      obtain ⟨fault, h⟩ | ⟨s', shown, h⟩ := step_outcome folder s stmt
      · rw [execute_cons_error h, declarations_cons_error h, List.append_nil]
        exact hs
      · rw [execute_cons_ok h, declarations_cons_ok h, ← List.append_assoc]
        exact ih (hs.step h)

end Session

/-! ## Sessions in use -/

/-- What is done with a session, or happens to the files beside it. -/
inductive Deed where
  | bind (name : String) (value : Value)
  | execute (program : Program)
  | run (program : Program)
  | save
  | files (folder : Folder)

/-- A session and the files that it works on. -/
structure Desk where
  session : Session
  folder : Folder

namespace Desk

def start (settings : Settings) (folder : Folder) : Desk := ⟨Session.start settings, folder⟩

/-- The desk after something has been done, whether that succeeded or not. -/
def after (d : Desk) : Deed → Desk
  | .bind name value => { d with session := d.session.bind name value }
  | .execute program => { d with session := (d.session.execute d.folder program).state }
  | .run program =>
      ⟨(d.session.run d.folder program).state.1, (d.session.run d.folder program).state.2⟩
  | .save => { d with folder := (d.session.save d.folder).state }
  | .files folder => { d with folder := folder }

/-- The declarations that succeed in something that is done. -/
def declarations (d : Desk) : Deed → List (String × Nat)
  | .execute program | .run program => d.session.declarations d.folder program
  | .bind _ _ | .save | .files _ => []

def afterAll (d : Desk) (deeds : List Deed) : Desk := deeds.foldl after d

/-- All declarations that succeed, in order. -/
def history (d : Desk) : List Deed → List (String × Nat)
  | [] => []
  | deed :: rest => d.declarations deed ++ (d.after deed).history rest

open Session

variable {d : Desk} {past : List (String × Nat)}

theorem books_after (h : Books d.session past) (deed : Deed) :
    Books (d.after deed).session (past ++ d.declarations deed) := by
  cases deed with
  | bind name value =>
      rw [declarations, List.append_nil]
      exact h.bind name value
  | execute program => exact h.execute program
  | run program =>
      rw [after, run_session]
      exact h.execute program
  | save =>
      rw [declarations, List.append_nil]
      exact h
  | files folder =>
      rw [declarations, List.append_nil]
      exact h

theorem books_afterAll (h : Books d.session past) (deeds : List Deed) :
    Books (d.afterAll deeds).session (past ++ d.history deeds) := by
  induction deeds generalizing d past with
  | nil =>
      rw [history, List.append_nil]
      exact h
  | cons deed rest ih =>
      rw [history, ← List.append_assoc]
      exact ih (books_after h deed)

end Desk

/-! ## Saving that fails -/

namespace Session

variable {s : Session} {tree : Folder} {before after : List (String × Nat)}

/-- The files that the matrices of persistent names are written to. -/
def files (s : Session) (entries : List (String × Nat)) : List (String × List UInt8) :=
  entries.filterMap fun entry => (s.scope.matrix? entry.1).map fun grid =>
    (s.settings.gridPath entry.1, Utf8.encode (Csv.text grid))

/-- Saving fails at a name whose matrix cannot be written. By then the matrices of the names
    before it have been written, in order. -/
theorem saveNames_error {entries : List (String × Nat)} {fault : Fault}
    (h : (s.saveNames tree entries).result = .error fault) :
    ∃ before name line after grid issue, entries = before ++ (name, line) :: after ∧
      Folder.Writes tree (s.files before) (s.saveNames tree entries).state ∧
      s.scope.matrix? name = some grid ∧
      (s.saveNames tree entries).state.write (s.settings.gridPath name)
        (Utf8.encode (Csv.text grid)) = .error issue ∧
      fault = ⟨line, .grid (.file (s.settings.gridPath name) issue)⟩ := by
  induction entries generalizing tree with
  | nil => cases h
  | cons entry rest ih =>
      obtain ⟨name, line⟩ := entry
      cases hmatrix : s.scope.matrix? name with
      | none =>
          obtain ⟨hstate, hresult⟩ := saveNames_cons_none hmatrix tree line rest
          rw [hresult] at h
          obtain ⟨before, last, l, after, grid, issue, rfl, hwritten, hfailed⟩ := ih h
          rw [hstate]
          refine ⟨(name, line) :: before, last, l, after, grid, issue, rfl, ?_, hfailed⟩
          rw [files, List.filterMap_cons_none (by rw [hmatrix]; rfl)]
          exact hwritten
      | some grid =>
          cases hwrite : tree.write (s.settings.gridPath name) (Utf8.encode (Csv.text grid)) with
          | error issue =>
              obtain ⟨hstate, hresult⟩ := saveNames_cons_error hmatrix hwrite line rest
              rw [hresult] at h
              rw [hstate]
              exact ⟨[], name, line, rest, grid, issue, rfl, .nil, hmatrix, hwrite,
                (Except.error.inj h).symm⟩
          | ok tree' =>
              obtain ⟨hstate, hresult⟩ := saveNames_cons_some hmatrix hwrite line rest
              rw [hresult, Outcome.map_eq_error_iff] at h
              obtain ⟨before, last, l, after, grid', issue, rfl, hwritten, hfailed⟩ := ih h
              obtain ⟨place, htarget, rfl⟩ := Folder.write_eq_ok_iff.1 hwrite
              rw [hstate]
              refine ⟨(name, line) :: before, last, l, after, grid', issue, rfl, ?_, hfailed⟩
              rw [files, List.filterMap_cons_some (by rw [hmatrix]; rfl)]
              exact .cons htarget hwritten

/-- Saving to `folder` has stopped at a name and left `tree`: exactly the matrices of the names
    before it have been written, so every other place has what it had. With names that have no
    slash, as those of sources, no file is written twice, and each holds its matrix. -/
structure StopsAt (s : Session) (folder tree : Folder) (before : List (String × Nat))
    (name : String) (line : Nat) (fault : Fault) : Prop where
  failed : ∃ grid issue, s.scope.find? name = some (.matrix grid) ∧
    tree.write (s.settings.gridPath name) (Utf8.encode (Csv.text grid)) = .error issue ∧
    fault = ⟨line, .grid (.file (s.settings.gridPath name) issue)⟩
  written : Folder.Writes folder (s.files before) tree
  frame : ∀ place, (∀ entry ∈ before, ∀ grid, s.scope.find? entry.1 = some (.matrix grid) →
    folder.target (s.settings.gridPath entry.1) ≠ .ok place) →
    tree.find? place = folder.find? place
  read : (∀ entry ∈ before, '/' ∉ entry.1.toList) →
    ∀ entry ∈ before, ∀ grid, s.scope.find? entry.1 = some (.matrix grid) →
      tree.read (s.settings.gridPath entry.1) = .ok (Utf8.encode (Csv.text grid))

theorem mem_files {entries : List (String × Nat)} {file : String × List UInt8}
    (h : file ∈ s.files entries) :
    ∃ entry ∈ entries, ∃ grid, s.scope.find? entry.1 = some (.matrix grid) ∧
      file.1 = s.settings.gridPath entry.1 := by
  obtain ⟨entry, hentry, hfile⟩ := List.mem_filterMap.1 h
  obtain ⟨grid, hgrid, rfl⟩ := Option.map_eq_some_iff.1 hfile
  exact ⟨entry, hentry, grid, Scope.matrix?_eq_some_iff.1 hgrid, rfl⟩

/-- The file of a name holds its matrix if no other name leads there. -/
theorem read_of_writes {folder tree : Folder} {entries : List (String × Nat)}
    (h : Folder.Writes folder (s.files entries) tree) (hnodup : (entries.map Prod.fst).Nodup)
    (hslash : ∀ entry ∈ entries, '/' ∉ entry.1.toList) {entry : String × Nat}
    (hentry : entry ∈ entries) {grid : Grid Scalar}
    (hgrid : s.scope.find? entry.1 = some (.matrix grid)) :
    tree.read (s.settings.gridPath entry.1) = .ok (Utf8.encode (Csv.text grid)) := by
  obtain ⟨before, after, rfl⟩ := List.append_of_mem hentry
  have hmatrix := Scope.matrix?_eq_some_iff.2 hgrid
  rw [files, List.filterMap_append, List.filterMap_cons_some (by rw [hmatrix]; rfl)] at h
  refine h.read_eq fun place hplace file hfile hto => ?_
  obtain ⟨other, hother, -, -, hpath⟩ := mem_files hfile
  rw [hpath] at hto
  have hsame := Folder.eq_of_resolve_gridPath
    (hslash other (List.mem_append_right _ (List.mem_cons_of_mem _ hother)))
    (hslash entry hentry) (Folder.resolve_of_target hto) (Folder.resolve_of_target hplace)
  rw [List.map_append, List.map_cons] at hnodup
  have hout := (List.nodup_cons.1 (List.nodup_append.1 hnodup).2.1).1
  exact hout (hsame ▸ List.mem_map_of_mem hother)

theorem stopsAt_of_save {folder : Folder} {fault : Fault} (hnodup : s.names.Nodup)
    (h : (s.save folder).result = .error fault) :
    ∃ before name line after, s.persistent = before ++ (name, line) :: after ∧
      StopsAt s folder (s.save folder).state before name line fault := by
  obtain ⟨before, name, line, after, grid, issue, hentries, hwritten, hmatrix, hfailed, hfault⟩ :=
    saveNames_error h
  have hbefore : (before.map Prod.fst).Nodup := by
    rw [names, hentries, List.map_append] at hnodup
    exact (List.nodup_append.1 hnodup).1
  refine ⟨before, name, line, after, hentries, ?_, hwritten, ?_, ?_⟩
  · exact ⟨grid, issue, Scope.matrix?_eq_some_iff.1 hmatrix, hfailed, hfault⟩
  · intro place hplace
    refine hwritten.find?_of_ne fun file hfile => ?_
    obtain ⟨entry, hentry, grid, hgrid, hpath⟩ := mem_files hfile
    rw [hpath]
    exact hplace entry hentry grid hgrid
  · exact fun hslash entry hentry grid hgrid =>
      read_of_writes hwritten hbefore hslash hentry hgrid

example :
    let s : Session := ⟨{ dataDir := "" },
      (Scope.empty.bind "A" (.matrix pair)).bind "B" (.matrix pair), [("A", 1), ("B", 2)]⟩
    (s.save ⟨[(["B.csv"], .folder)]⟩).state =
        ⟨[(["B.csv"], .folder), (["A.csv"], .file (Utf8.encode (Csv.text pair)))]⟩ ∧
      (s.save ⟨[(["B.csv"], .folder)]⟩).result =
        .error ⟨2, .grid (.file "B.csv" .isDirectory)⟩ := by
  decide +kernel

end Session

open Session

/-- However a session has been used, and whatever has happened to the files meanwhile, its
    persistent names are those that have been declared with success, each once and in the order
    in which they first were, with the line of that first declaration, and all of them have
    values. Saving that fails at a name has written exactly the matrices of the names before. -/
theorem books_of_deeds (settings : Settings) (folder : Folder) (deeds : List Deed) :
    let s := ((Desk.start settings folder).afterAll deeds).session
    Books s ((Desk.start settings folder).history deeds) ∧ s.names.Nodup ∧
      ∀ tree fault, (s.save tree).result = .error fault →
        ∃ before name line after, s.persistent = before ++ (name, line) :: after ∧
          StopsAt s tree (s.save tree).state before name line fault := by
  intro s
  have hbooks : Books s ([] ++ (Desk.start settings folder).history deeds) :=
    Desk.books_afterAll (books_start settings) deeds
  have hnodup : s.names.Nodup := by
    rw [hbooks.names]
    exact nodup_eraseDups _
  exact ⟨hbooks, hnodup, fun tree fault h => stopsAt_of_save hnodup h⟩

end Gridscript.Script
