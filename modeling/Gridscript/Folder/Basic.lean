/-
  The working folder: a tree of files and folders, and the operations of the file system on it.

  The tree is a list of places with what is there; a place is the list of names that lead to it
  from the working folder. A path is walked name by name, and every name on the way but the last
  has to be a folder. What lies outside of the working folder is unknown: folders there can be
  passed, but nothing is found in them and nothing is written to them. So of the files that a
  program reads and writes, this is about those whose paths stay in the working folder. A path that
  starts with a slash, or that leaves by `..`, leads to no file here whatever the disk has there.
-/
import Gridscript.Folder.Fault
import Gridscript.Folder.Path

namespace Gridscript

/-- What is found at a place. -/
inductive Node where
  | file (bytes : List UInt8)
  | folder
deriving DecidableEq

/-- Names from the working folder down. -/
abbrev Place := List String

/-- The working folder: the places in it and what is there. -/
structure Folder where
  entries : List (Place × Node)
deriving DecidableEq

namespace Folder

def empty : Folder := ⟨[]⟩

/-- What is at a place. -/
def find? (f : Folder) (place : Place) : Option Node :=
  if place = [] then some .folder else f.entries.lookup place

/-- Entries with something else at a place, which keeps its position if it was there. -/
def putEntry (place : Place) (node : Node) : List (Place × Node) → List (Place × Node)
  | [] => [(place, node)]
  | e :: rest => if e.1 = place then (place, node) :: rest else e :: putEntry place node rest

/-- The tree with something else at a place. -/
def put (f : Folder) (place : Place) (node : Node) : Folder := ⟨putEntry place node f.entries⟩

/-- The tree without what is at a place. -/
def remove (f : Folder) (place : Place) : Folder := ⟨f.entries.filter fun e => e.1 ≠ place⟩

/-- The tree with something at a place, and folders on the way to it where nothing was. -/
def plant (f : Folder) (place : Place) (node : Node) : Folder :=
  let ways := (List.range place.length).filterMap fun n =>
    if n = 0 then none else some (place.take n)
  let f := ways.foldl (fun f way => if (f.find? way).isSome then f else f.put way .folder) f
  if place = [] then f else f.put place node

theorem lookup_entry (place other : Place) (node : Node) (entries : List (Place × Node)) :
    ((place, node) :: entries).lookup other =
      if other = place then some node else entries.lookup other := by
  by_cases h : other = place
  · simp [h]
  · have hb : (other == place) = false := beq_eq_false_iff_ne.2 h
    simp only [List.lookup_cons, hb, h, if_false]

theorem lookup_putEntry (place other : Place) (node : Node) (entries : List (Place × Node)) :
    (putEntry place node entries).lookup other =
      if other = place then some node else entries.lookup other := by
  induction entries with
  | nil => exact lookup_entry place other node []
  | cons e rest ih =>
      obtain ⟨p, n⟩ := e
      unfold putEntry
      split
      · rename_i hp
        simp only at hp
        subst hp
        simp only [lookup_entry]
        split <;> rfl
      · rename_i hp
        simp only [lookup_entry, ih] at hp ⊢
        by_cases h : other = place
        · subst h
          rw [if_neg (fun h => hp h.symm), if_pos rfl, if_pos rfl]
        · simp only [h, if_false]

/-- A place holds what was put there last. -/
theorem find?_put_self (f : Folder) {place : Place} (h : place ≠ []) (node : Node) :
    (f.put place node).find? place = some node := by
  simp [find?, put, h, lookup_putEntry]

/-- What was at another place is still there. -/
theorem find?_put_of_ne (f : Folder) {place other : Place} (h : other ≠ place) (node : Node) :
    (f.put place node).find? other = f.find? other := by
  simp [find?, put, h, lookup_putEntry]

/-! ## Paths -/

/-- The longest name, in bytes. -/
def maxName : Nat := 255

/-- The longest path, in bytes. -/
def maxPath : Nat := 4095

/-- Where a walk has come to: a place, or a folder outside of the working folder. -/
inductive Spot where
  | inside (place : Place)
  | outside
deriving DecidableEq

/-- Go on from a spot, which has to be a folder, by one name. -/
def step (f : Folder) (spot : Spot) (name : String) : Except FileFault Spot :=
  match spot with
  | .outside =>
      if name = "" ∨ name = "." ∨ name = ".." then .ok .outside else .error .notFound
  | .inside place =>
      match f.find? place with
      | none => .error .notFound
      | some (.file _) => .error .notDirectory
      | some .folder =>
          if name = "" ∨ name = "." then .ok (.inside place)
          else if name = ".." then
            .ok (if place = [] then .outside else .inside place.dropLast)
          else if maxName < name.utf8ByteSize then .error .nameTooLong
          else .ok (.inside (place ++ [name]))

/-- Walk by names from a spot. -/
def walk (f : Folder) (spot : Spot) : List String → Except FileFault Spot
  | [] => .ok spot
  | name :: rest =>
      match f.step spot name with
      | .error e => .error e
      | .ok next => walk f next rest

/-- Where a path starts. -/
def startOf (path : String) : Spot :=
  if path.toList.head? = some '/' then .outside else .inside []

/-- Paths that no walk is tried for. -/
def refused? (path : String) : Option FileFault :=
  if path.toList.contains '\x00' then some .nulInPath
  else if path = "" then some .notFound
  else if maxPath < path.utf8ByteSize then some .nameTooLong
  else none

/-- Where a path leads. -/
def resolve (f : Folder) (path : String) : Except FileFault Spot :=
  match refused? path with
  | some fault => .error fault
  | none => f.walk (startOf path) (Path.parts path)

/-! ## Operations -/

/-- Something is at a path. -/
def has (f : Folder) (path : String) : Bool :=
  match f.resolve path with
  | .error _ => false
  | .ok .outside => true
  | .ok (.inside place) => (f.find? place).isSome

/-- The bytes of the file at a path. -/
def read (f : Folder) (path : String) : Except FileFault (List UInt8) :=
  match f.resolve path with
  | .error e => .error e
  | .ok .outside => .error .isDirectory
  | .ok (.inside place) =>
      match f.find? place with
      | none => .error .notFound
      | some .folder => .error .isDirectory
      | some (.file bytes) => .ok bytes

/-- The place of the file that writing to a path makes or replaces. A path that ends in a slash
    is taken for a folder, whether there is one or not: only the names before its last one are
    looked up. -/
def target (f : Folder) (path : String) : Except FileFault Place :=
  match refused? path with
  | some fault => .error fault
  | none =>
      let names := Path.parts path
      let trimmed := (names.reverse.dropWhile (· = "")).reverse
      if trimmed.length ≠ names.length then
        match f.walk (startOf path) (trimmed.dropLast ++ ["."]) with
        | .error e => .error e
        | .ok _ => .error .isDirectory
      else
        match f.walk (startOf path) names with
        | .error e => .error e
        | .ok .outside => .error .isDirectory
        | .ok (.inside place) =>
            if f.find? place = some .folder then .error .isDirectory else .ok place

/-- The tree after a file has been written. -/
def write (f : Folder) (path : String) (bytes : List UInt8) : Except FileFault Folder :=
  match f.target path with
  | .error e => .error e
  | .ok place => .ok (f.put place (.file bytes))

end Folder

end Gridscript
