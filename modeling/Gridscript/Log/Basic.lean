/-
  Log records, and computations that keep them.

  A record has a level, the part of the program it comes from, and a message. A `Traced` value is
  the outcome of a computation together with the records it made, in order; a failing step ends
  the computation and keeps the records made before it.
-/

namespace Gridscript.Log

inductive Level where
  | error
  | warn
  | info
  | debug
deriving DecidableEq

namespace Level

def text : Level → String
  | error => "ERROR"
  | warn => "WARN"
  | info => "INFO"
  | debug => "DEBUG"

/-- Higher ranks are more detailed. -/
def rank : Level → Nat
  | error => 1
  | warn => 2
  | info => 3
  | debug => 4

end Level

/-- The parts of the program that make records. -/
inductive Origin where
  | program
  | gridCommand
  | runCommand
  | codec
  | session
deriving DecidableEq

/-- The name that a part has in log lines and log filters. -/
def Origin.target : Origin → String
  | program => "csvscript"
  | gridCommand => "csvscript_cli::commands::matrix"
  | runCommand => "csvscript_cli::commands::run"
  | codec => "csvscript_runtime::io::csv_matrix"
  | session => "csvscript_runtime::script::interpreter"

structure Entry where
  level : Level
  origin : Origin
  message : String
deriving DecidableEq

namespace Entry

/-- The record as one line of a log file. -/
def text (e : Entry) : String := s!"{e.level.text} {e.origin.target}: {e.message}"

/-- The record as the program prints it, with levels of one width and the further lines of the
    message indented. -/
def line (e : Entry) : String :=
  let blanks := String.ofList (List.replicate (5 - e.level.text.length) ' ')
  let message := "\n    ".intercalate ((e.message.toList.splitOn '\n').map String.ofList)
  s!"[{e.level.text}{blanks} {e.origin.target}] {message}"

end Entry

end Gridscript.Log

namespace Gridscript

/-- An outcome and the records made on the way to it. -/
structure Traced (ε α : Type) where
  log : List Log.Entry
  result : Except ε α

namespace Traced

variable {ε ε' α β : Type}

/-- A value without records. -/
def done (a : α) : Traced ε α := ⟨[], .ok a⟩

/-- An outcome without records. -/
def lift (r : Except ε α) : Traced ε α := ⟨[], r⟩

/-- One record. -/
def note (level : Log.Level) (origin : Log.Origin) (message : String) : Traced ε Unit :=
  ⟨[⟨level, origin, message⟩], .ok ()⟩

/-- Go on with the value of a computation that succeeded. -/
def andThen (x : Traced ε α) (f : α → Traced ε β) : Traced ε β :=
  match x.result with
  | .error e => ⟨x.log, .error e⟩
  | .ok a => ⟨x.log ++ (f a).log, (f a).result⟩

instance : Monad (Traced ε) where
  pure := done
  bind := andThen

/-- The same computation with its fault seen through `f`. -/
def mapFault (f : ε → ε') (x : Traced ε α) : Traced ε' α := ⟨x.log, x.result.mapError f⟩

@[simp] theorem result_pure (a : α) : (pure a : Traced ε α).result = .ok a := rfl

@[simp] theorem result_lift (r : Except ε α) : (lift r).result = r := rfl

@[simp] theorem result_note (level : Log.Level) (origin : Log.Origin) (message : String) :
    (note level origin message : Traced ε Unit).result = .ok () := rfl

@[simp] theorem result_mapFault (f : ε → ε') (x : Traced ε α) :
    (x.mapFault f).result = x.result.mapError f := rfl

/-- Records do not change what a computation comes to. -/
theorem result_bind (x : Traced ε α) (f : α → Traced ε β) :
    (x >>= f).result = x.result >>= fun a => (f a).result := by
  show (andThen x f).result = x.result >>= fun a => (f a).result
  unfold andThen
  cases x.result <;> rfl

end Traced

end Gridscript
