/-
  Arguments of a command: positional values and options, read against a layout.

  An option may stand before, between or after the positional values, in its long form with the
  value after a blank or `=`, or in its short form, where several flags may share a dash and the
  value may follow directly, after `=` or after a blank. After `--` every argument is positional.
  Nothing may be given twice.
-/
import Gridscript.Script.Token

namespace Gridscript.CommandLine

/-- What an argument can stand for. -/
inductive ValueType where
  | path
  | scalar
  | count
deriving DecidableEq

inductive Value where
  | path (text : String)
  | scalar (n : Scalar)
  | count (n : Nat)
deriving DecidableEq

namespace ValueType

/-- The value of a type that a text stands for. A path has at least one character. -/
def read? : ValueType → List Char → Option Value
  | path, text => if text = [] then none else some (.path (String.ofList text))
  | scalar, text => (Element.ofText? .i64 text).map .scalar
  | count, text => (Element.ofText? .u64 text).map fun n => .count n.val.toNat

/-- A text that starts with a dash can be a value of the type. -/
def takesNegative : ValueType → Bool
  | scalar => true
  | _ => false

end ValueType

/-- An option: its names, and the type of its value, if it is no flag. -/
structure Opt where
  long : String
  short : Option Char
  type : Option ValueType
deriving DecidableEq

/-- A positional argument. -/
structure Slot where
  type : ValueType
  required : Bool
deriving DecidableEq

/-- What a command takes. -/
structure Layout where
  slots : List Slot
  options : List Opt
deriving DecidableEq

/-- Why the reading of arguments stopped. -/
inductive Stop where
  | help
  | usage
deriving DecidableEq

/-- What has been read: positional values in order, options with their values, the option whose
    value comes next, and whether all that comes is positional. -/
structure Reading where
  values : List Value
  given : List (String × Option Value)
  pending : Option (String × ValueType)
  literal : Bool
deriving DecidableEq

namespace Reading

def start : Reading := ⟨[], [], none, false⟩

/-- Take an option that was not given before. -/
def give (r : Reading) (name : String) (value : Option Value) : Except Stop Reading :=
  if r.given.any (·.1 = name) then .error .usage
  else .ok { r with given := r.given ++ [(name, value)], pending := none }

/-- Take the text of an option's value. -/
def giveText (r : Reading) (name : String) (type : ValueType) (text : List Char) :
    Except Stop Reading :=
  match type.read? text with
  | some v => r.give name (some v)
  | none => .error .usage

/-- Take a text as the next positional value. -/
def place (layout : Layout) (r : Reading) (text : List Char) : Except Stop Reading :=
  match layout.slots[r.values.length]? with
  | none => .error .usage
  | some slot =>
      match slot.type.read? text with
      | some v => .ok { r with values := r.values ++ [v] }
      | none => .error .usage

/-- Take a text as the value of the pending option, or as a positional value. -/
def take (layout : Layout) (r : Reading) (text : List Char) : Except Stop Reading :=
  match r.pending with
  | some (name, type) => r.giveText name type text
  | none => r.place layout text

/-- Start an option: its value comes next, if it has one. -/
def startOption (r : Reading) (opt : Opt) : Except Stop Reading :=
  match opt.type with
  | none => r.give opt.long none
  | some type =>
      if r.given.any (·.1 = opt.long) then .error .usage
      else .ok { r with pending := some (opt.long, type) }

/-- Read an argument that starts with two dashes, which are left out here. -/
def long (layout : Layout) (r : Reading) (text : List Char) : Except Stop Reading :=
  let name := String.ofList (text.takeWhile (· != '='))
  let value := text.dropWhile (· != '=')
  match layout.options.find? (·.long = name), value with
  | some opt, [] => r.startOption opt
  | some opt, _ :: text =>
      match opt.type with
      | none => .error .usage
      | some type => r.giveText name type text
  | none, [] => .error (if name = "help" then .help else .usage)
  | none, _ => .error .usage

/-- Read an argument that starts with one dash, which is left out here. -/
def short (layout : Layout) (r : Reading) : List Char → Except Stop Reading
  | [] => .ok r
  | c :: rest =>
      match layout.options.find? (·.short = some c) with
      | none => .error (if c = 'h' then .help else .usage)
      | some opt =>
          match opt.type, rest with
          | none, _ => do
              let r ← r.give opt.long none
              short layout r rest
          | some _, [] => r.startOption opt
          | some type, '=' :: text => r.giveText opt.long type text
          | some type, text => r.giveText opt.long type text

end Reading

/-- The mark before an exponent. -/
def isExponentMark (c : Char) : Bool := c == 'e' || c == 'E'

/-- The text after a dash looks like a number: digits, at most one point after the first of them
    and at most one exponent mark after the first and before the last. -/
def looksNumeric (text : List Char) : Bool :=
  let mantissa := text.takeWhile (!isExponentMark ·)
  let exponent := text.dropWhile (!isExponentMark ·)
  let whole := mantissa.takeWhile (· != '.')
  let fraction := mantissa.dropWhile (· != '.')
  whole.all Char.isDigit && (fraction.drop 1).all Char.isDigit
    && (fraction.isEmpty || !whole.isEmpty)
    && (exponent.isEmpty ||
      (!mantissa.isEmpty && 2 ≤ exponent.length && (exponent.drop 1).all Char.isDigit))

namespace Reading

/-- A negative number would be taken where the reading stands: by the pending option, or by the
    next positional argument. -/
def takesNegative (layout : Layout) (r : Reading) : Bool :=
  (r.pending.any fun p => p.2.takesNegative) ||
    (layout.slots[r.values.length]?.any fun slot => slot.type.takesNegative)

/-- Read one argument. -/
def next (layout : Layout) (r : Reading) (arg : List Char) : Except Stop Reading :=
  if r.literal then r.place layout arg
  else
    match arg with
    | ['-', '-'] => if r.pending.isSome then .error .usage else .ok { r with literal := true }
    | '-' :: '-' :: text => if r.pending.isSome then .error .usage else r.long layout text
    | '-' :: c :: text =>
        if looksNumeric (c :: text) && r.takesNegative layout then r.take layout arg
        else if r.pending.isSome then .error .usage
        else r.short layout (c :: text)
    | _ => r.take layout arg

/-- Read all arguments. -/
def all (layout : Layout) (r : Reading) : List String → Except Stop Reading
  | [] => .ok r
  | arg :: rest => do
      let r ← r.next layout arg.toList
      all layout r rest

/-- Nothing that is required is missing. -/
def isComplete (layout : Layout) (r : Reading) : Bool :=
  r.pending.isNone && (layout.slots.drop r.values.length).all fun slot => !slot.required

def path? (r : Reading) (name : String) : Option String :=
  match r.given.lookup name with
  | some (some (.path text)) => some text
  | _ => none

def scalar? (r : Reading) (name : String) : Option Scalar :=
  match r.given.lookup name with
  | some (some (.scalar n)) => some n
  | _ => none

def has (r : Reading) (name : String) : Bool := r.given.any (·.1 = name)

end Reading

/-- Read the arguments of a command. -/
def readArguments (layout : Layout) (args : List String) : Except Stop Reading := do
  let r ← Reading.start.all layout args
  if r.isComplete layout then return r else throw .usage

end Gridscript.CommandLine
