/-
  Settings as JSON text.

  Written: an object with the three members, on one line or on a line each. Read: an object whose
  members of these names have values of their types and occur at most once, or an array that
  gives the values in order. What is not given keeps its standard value; other members are
  ignored.
-/
import Gridscript.Folder.Store
import Gridscript.Json.Value
import Gridscript.Settings.Basic

namespace Gridscript

namespace Settings

/-! ## Writing -/

def boolText (b : Bool) : List Char := if b then "true".toList else "false".toList

/-- The members with their written values. -/
def members (s : Settings) : List (List Char × List Char) :=
  [("data_dir".toList, Json.quote s.dataDir.toList),
   ("save_persistent".toList, boolText s.savePersistent),
   ("echo_expressions".toList, boolText s.echoExpressions)]

/-- The settings on one line. -/
def compact (s : Settings) : List Char :=
  ['\x7b'] ++ [','].intercalate (s.members.map fun m => Json.quote m.1 ++ [':'] ++ m.2) ++ ['\x7d']

/-- The settings with a line for each member. -/
def pretty (s : Settings) : List Char :=
  ['\x7b', '\n'] ++
    [',', '\n'].intercalate
      (s.members.map fun m => [' ', ' '] ++ Json.quote m.1 ++ [':', ' '] ++ m.2) ++
    ['\n', '\x7d']

/-! ## Reading -/

/-- The values that have been given so far. -/
structure Draft where
  dataDir : Option String
  savePersistent : Option Bool
  echoExpressions : Option Bool

namespace Draft

def empty : Draft := ⟨none, none, none⟩

/-- Take a member into account. A known name may not come twice. -/
def member? (d : Draft) (name : String) (value : Json) : Option Draft :=
  if name = "data_dir" then
    if d.dataDir.isSome then none
    else value.string?.map fun s => { d with dataDir := some s }
  else if name = "save_persistent" then
    if d.savePersistent.isSome then none
    else value.bool?.map fun b => { d with savePersistent := some b }
  else if name = "echo_expressions" then
    if d.echoExpressions.isSome then none
    else value.bool?.map fun b => { d with echoExpressions := some b }
  else some d

def members? (d : Draft) : List (List Json.Piece × Json) → Option Draft
  | [] => some d
  | (name, value) :: rest =>
      match Json.decode? name with
      | none => none
      | some name =>
          match d.member? (String.ofList name) value with
          | none => none
          | some d => members? d rest

/-- What was given, and the standard values for the rest. -/
def settings (d : Draft) : Settings where
  dataDir := d.dataDir.getD "."
  savePersistent := d.savePersistent.getD true
  echoExpressions := d.echoExpressions.getD true

end Draft

/-- The settings whose values an array gives in order. -/
def ofItems? : List Json → Option Settings
  | [] => some {}
  | [dir] => do
      return { dataDir := ← dir.string? }
  | [dir, save] => do
      return { dataDir := ← dir.string?, savePersistent := ← save.bool? }
  | [dir, save, echo] => do
      return {
        dataDir := ← dir.string?, savePersistent := ← save.bool?, echoExpressions := ← echo.bool? }
  | _ => none

/-- The settings that a JSON value stands for. -/
def ofJson? : Json → Option Settings
  | .object ms => (Draft.empty.members? ms).map Draft.settings
  | .array items => ofItems? items
  | _ => none

/-- The settings that a text stands for. -/
def read? (text : List Char) : Option Settings := (Json.read? text).bind ofJson?

/-! ## Files -/

/-- Why settings could not be taken from a file. -/
inductive Fault where
  | unreadable (path : String) (fault : FileFault)
  | malformed (path : String)
deriving DecidableEq

def Fault.message : Fault → String
  | unreadable path _ => s!"Failed to read config: {path}"
  | malformed path => s!"Failed to parse config: {path}"

/-- The fault, then what lies under it. -/
def Fault.causes (f : Fault) : List String :=
  match f with
  | unreadable _ fault => [f.message, fault.message]
  | malformed _ => [f.message]

/-- The settings in a file. -/
def load (folder : Folder) (path : String) : Except Fault Settings :=
  match folder.readText path with
  | .error e => .error (.unreadable path e)
  | .ok text =>
      match read? text with
      | some s => .ok s
      | none => .error (.malformed path)

end Settings

end Gridscript
