/-
  Sessions: running programs over a scope that lasts.

  Executing statements reads files and never writes one; saving writes the persistent grids. A
  statement works on the session in place, and a fault ends it where it stands: what has been
  changed by then stays changed. The statements after one that fails are not executed.
-/
import Gridscript.Folder.Store
import Gridscript.Script.Eval
import Gridscript.Script.Program
import Gridscript.Settings.Basic

namespace Gridscript.Script

/-- Settings, variables, and the persistent names with the lines that declared them first. -/
structure Session where
  settings : Settings
  scope : Scope
  persistent : List (String × Nat)
deriving DecidableEq

/-- A reported value and the line of its statement. -/
structure Echo where
  line : Nat
  value : Value
deriving DecidableEq

/-- What a run reports: values in order, and the paths of the files it wrote. -/
structure Report where
  echoed : List Echo
  saved : List String
deriving DecidableEq

namespace Session

def start (settings : Settings) : Session := ⟨settings, Scope.empty, []⟩

def bind (s : Session) (name : String) (value : Value) : Session :=
  { s with scope := s.scope.bind name value }

/-- The session after a persistent grid has been loaded. -/
def declare (s : Session) (name : String) (line : Nat) (grid : Grid Scalar) : Session :=
  { s with
    scope := s.scope.bind name (.matrix grid)
    persistent :=
      if s.persistent.any (·.1 = name) then s.persistent else s.persistent ++ [(name, line)] }

/-- A state that was reached, the records made on the way, and the outcome. -/
structure Progress (σ α : Type) where
  state : σ
  log : List Log.Entry
  result : Except Fault α

/-- Work on a session in place. -/
def Work (α : Type) : Type := Session → Progress Session α

namespace Work

variable {α β : Type}

def done (a : α) : Work α := fun s => ⟨s, [], .ok a⟩

/-- Go on from the session that was reached, unless there was a fault on the way. -/
def andThen (x : Work α) (f : α → Work β) : Work β := fun s =>
  let first := x s
  match first.result with
  | .error fault => ⟨first.state, first.log, .error fault⟩
  | .ok a =>
      let later := f a first.state
      ⟨later.state, first.log ++ later.log, later.result⟩

instance : Monad Work where
  pure := done
  bind := andThen

/-- The session as it is. -/
def session : Work Session := fun s => ⟨s, [], .ok s⟩

/-- Change the session. -/
def change (f : Session → Session) : Work Unit := fun s => ⟨f s, [], .ok ()⟩

/-- A computation that does not touch the session. -/
def traced (x : Traced Fault α) : Work α := fun s => ⟨s, x.log, x.result⟩

end Work

/-- What a statement does to a session, and the value it reports. -/
def act (folder : Folder) (stmt : Statement) : Work (Option Value) :=
  match stmt.action with
  | .persistent name => do
      let s ← Work.session
      let grid ← Work.traced ((folder.loadGrid .i64 (s.settings.gridPath name)).mapFault
        fun f => (⟨stmt.line, .grid f⟩ : Fault))
      Work.traced (.note .debug .session
        s!"line {stmt.line}: persistent {name} loaded as {grid.shape.text}")
      Work.change (·.declare name stmt.line grid)
      return none
  | .assign name e => do
      let s ← Work.session
      let v ← Work.traced (.lift ((e.eval s.scope).mapError fun c => (⟨stmt.line, c⟩ : Fault)))
      Work.traced (.note .debug .session s!"line {stmt.line}: {name} = <{v.kind.text}>")
      Work.change (·.bind name v)
      return none
  | .display e => do
      let s ← Work.session
      let v ← Work.traced (.lift ((e.eval s.scope).mapError fun c => (⟨stmt.line, c⟩ : Fault)))
      return if s.settings.echoExpressions then some v else none

/-- Execute one statement: the session it leaves, whether it succeeds or not, and the value it
    reports. -/
def step (folder : Folder) (s : Session) (stmt : Statement) : Progress Session (Option Value) :=
  act folder stmt s

/-- Execute statements in order, up to the first that fails. -/
def execute (folder : Folder) (s : Session) : Program → Progress Session (List Echo)
  | [] => ⟨s, [], .ok []⟩
  | stmt :: rest =>
      let first := step folder s stmt
      match first.result with
      | .error f => ⟨first.state, first.log, .error f⟩
      | .ok shown =>
          let later := execute folder first.state rest
          let echo := shown.toList.map fun v => (⟨stmt.line, v⟩ : Echo)
          ⟨later.state, first.log ++ later.log, later.result.map (echo ++ ·)⟩

/-- Write the grids among the values of persistent names, up to the first that fails, and give
    the paths written. -/
def saveNames (s : Session) (folder : Folder) :
    List (String × Nat) → Progress Folder (List String)
  | [] => ⟨folder, [], .ok []⟩
  | (name, line) :: rest =>
      match s.scope.find? name with
      | some (.matrix grid) =>
          let path := s.settings.gridPath name
          let first := folder.saveGrid path grid
          match first.result with
          | .error f => ⟨folder, first.log, .error ⟨line, .grid f⟩⟩
          | .ok folder' =>
              let later := saveNames s folder' rest
              ⟨later.state, first.log ++ later.log, later.result.map (path :: ·)⟩
      | some other =>
          let warning : Log.Entry := ⟨.warn, .session,
            s!"Persistent variable '{name}' holds a {other.kind.text}, not a matrix; skipping save"⟩
          let later := saveNames s folder rest
          ⟨later.state, warning :: later.log, later.result⟩
      | none => saveNames s folder rest

/-- Write the persistent grids. -/
def save (s : Session) (folder : Folder) : Progress Folder (List String) :=
  s.saveNames folder s.persistent

/-- Execute a program and, if the settings say so, write the persistent grids. -/
def run (s : Session) (folder : Folder) (program : Program) :
    Progress (Session × Folder) Report :=
  let executed := execute folder s program
  match executed.result with
  | .error f => ⟨(executed.state, folder), executed.log, .error f⟩
  | .ok echoed =>
      if s.settings.savePersistent then
        let saved := executed.state.save folder
        ⟨(executed.state, saved.state), executed.log ++ saved.log,
          saved.result.map fun paths => ⟨echoed, paths⟩⟩
      else ⟨(executed.state, folder), executed.log, .ok ⟨echoed, []⟩⟩

end Session

/-- Run a source in a session of its own: the tree it leaves, and its outcome. -/
def runSource (settings : Settings) (folder : Folder) (source : List Char) :
    Session.Progress Folder Report :=
  match parse source with
  | .error f => ⟨folder, [], .error f⟩
  | .ok program =>
      let ran := (Session.start settings).run folder program
      ⟨ran.state.2, ran.log, ran.result⟩

end Gridscript.Script
