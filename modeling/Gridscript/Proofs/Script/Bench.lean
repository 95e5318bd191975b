/-
  Programs over grids and sessions.

  A bench is what a program that uses the library has at a moment: the grids, rows, assemblies
  and sessions in its registers, and the tree of files. `Gives` lists the operations that make
  items from items, `Step` what can happen to a bench: a call, which may fail, something done
  with a session, whether it fails or not, or files changed by others.

  All grids and rows on a bench that steps lead to are well formed, the variables of sessions
  included. It follows that no operation that comes next reaches outside of the cells of its
  grids, however the program goes on (`wellFormed_inRange_of_reachable`).
-/
import Mathlib.Logic.Function.Basic
import Mathlib.Logic.Relation
import Gridscript.Grid.Room
import Gridscript.Proofs.Script.Values

namespace Gridscript.Script

/-! ## Benches -/

/-- What a register holds. -/
inductive Item : Type 1 where
  | grid {α : Type} (g : Grid α)
  | row {α : Type} (r : Row α)
  | assembly {α : Type} (a : Assembly α)
  | session (s : Session)

namespace Item

def WellFormed : Item → Prop
  | grid g => g.WellFormed
  | row r => r.WellFormed
  | assembly a => a.WellFormed
  | session s => s.scope.WellFormed

/-- A value as an item, if it is made of cells. -/
def ofValue? : Value → Option Item
  | .matrix g => some (grid g)
  | .vector r => some (row r)
  | .scalar _ => none

end Item

/-- Registers and files. -/
structure Bench : Type 1 where
  held : Nat → Option Item
  folder : Folder

namespace Bench

def start (folder : Folder) : Bench := ⟨fun _ => none, folder⟩

def Holds (b : Bench) (item : Item) : Prop := ∃ x, b.held x = some item

/-- The bench with something else, or nothing, in a register. -/
def put (b : Bench) (x : Nat) (content : Option Item) : Bench :=
  { b with held := Function.update b.held x content }

/-- The bench after a call: a register holds what it gives. A call that fails leaves the bench
    as it was. -/
def keep (b : Bench) (x : Nat) : Option Item → Bench
  | some item => b.put x (some item)
  | none => b

/-! ## Operations -/

/-- What a call of an operation on items of the bench gives: `none` if it fails. -/
inductive Gives (b : Bench) : Option Item → Prop where
  -- Grids from outside
  | gridOfCells {α : Type} (shape : Shape) (cells : Array α) :
      Gives b ((Grid.ofCells shape cells).toOption.map .grid)
  | gridOfRows {α : Type} (rows : List (List α)) :
      Gives b ((Grid.ofRows rows).toOption.map .grid)
  | gridZeros (τ : IntType) (shape : Shape) :
      Gives b (((Grid.zeros? τ shape).bind Except.toOption).map .grid)
  | readText (τ : IntType) (text : List Char) :
      Gives b ((Csv.read τ text).toOption.map .grid)
  | readBytes (τ : IntType) (bytes : List UInt8) :
      Gives b ((Csv.readBytes τ bytes).toOption.map .grid)
  | load (τ : IntType) (path : String) :
      Gives b ((b.folder.loadGrid τ path).result.toOption.map .grid)
  -- Grids row by row
  | assemblyStart {α : Type} (shape : Shape) :
      Gives b ((Assembly.start (α := α) shape).toOption.map .assembly)
  | assemblyReserve (τ : IntType) (shape : Shape) :
      Gives b (((Assembly.reserve? τ shape).bind Except.toOption).map .assembly)
  | push {α : Type} {a : Assembly α} (ha : b.Holds (.assembly a)) (row : List α) :
      Gives b ((a.push row).toOption.map .assembly)
  | finish {α : Type} {a : Assembly α} (ha : b.Holds (.assembly a)) :
      Gives b (a.finish.toOption.map .grid)
  -- Grids from grids
  | transpose {α : Type} [Inhabited α] {g : Grid α} (hg : b.Holds (.grid g)) :
      Gives b (some (.grid g.transpose))
  | multiply {τ : IntType} {g h : Grid (Element τ)} (hg : b.Holds (.grid g))
      (hh : b.Holds (.grid h)) : Gives b ((g.multiply h).toOption.map .grid)
  | add {τ : IntType} {g h : Grid (Element τ)} (hg : b.Holds (.grid g))
      (hh : b.Holds (.grid h)) : Gives b ((g.add h).toOption.map .grid)
  | gridShift {τ : IntType} {g : Grid (Element τ)} (hg : b.Holds (.grid g)) (s : Element τ) :
      Gives b (some (.grid (g.shift s)))
  | gridScale {τ : IntType} {g : Grid (Element τ)} (hg : b.Holds (.grid g)) (s : Element τ) :
      Gives b (some (.grid (g.scale s)))
  | gridDivide {τ : IntType} {g : Grid (Element τ)} (hg : b.Holds (.grid g)) (s : Element τ) :
      Gives b ((g.divide? s).map .grid)
  | gridMap {α β : Type} {g : Grid α} (hg : b.Holds (.grid g)) (f : α → β) :
      Gives b (some (.grid (g.map f)))
  | gridSet {α : Type} {g : Grid α} (hg : b.Holds (.grid g)) (i j : Nat) (a : α) :
      Gives b ((g.set? i j a).map .grid)
  | gridSetFlat {α : Type} {g : Grid α} (hg : b.Holds (.grid g)) (k : Nat) (a : α) :
      Gives b ((g.setFlat? k a).map .grid)
  -- Rows
  | rowOfGrid {α : Type} {g : Grid α} (hg : b.Holds (.grid g)) (i : Nat) :
      Gives b ((g.row i).toOption.map .row)
  | rowOfCells {α : Type} (cells : Array α) : Gives b ((Row.ofCells cells).toOption.map .row)
  | rowZeros (τ : IntType) (length : Nat) :
      Gives b (((Row.zeros? τ length).bind Except.toOption).map .row)
  | rowShift {τ : IntType} {r : Row (Element τ)} (hr : b.Holds (.row r)) (s : Element τ) :
      Gives b (some (.row (r.shift s)))
  | rowScale {τ : IntType} {r : Row (Element τ)} (hr : b.Holds (.row r)) (s : Element τ) :
      Gives b (some (.row (r.scale s)))
  | rowDivide {τ : IntType} {r : Row (Element τ)} (hr : b.Holds (.row r)) (s : Element τ) :
      Gives b ((r.divide? s).map .row)
  | rowMap {α β : Type} {r : Row α} (hr : b.Holds (.row r)) (f : α → β) :
      Gives b (some (.row (r.map f)))
  | rowSet {α : Type} {r : Row α} (hr : b.Holds (.row r)) (k : Nat) (a : α) :
      Gives b ((r.set? k a).map .row)
  -- Sessions and what they show
  | session (settings : Settings) : Gives b (some (.session (Session.start settings)))
  | valueOf {s : Session} (hs : b.Holds (.session s)) (name : String) :
      Gives b ((s.scope.find? name).bind Item.ofValue?)
  | echoOf {s : Session} {program : Program} {echoed : List Echo} (hs : b.Holds (.session s))
      (h : (Session.execute b.folder s program).result = .ok echoed) {echo : Echo}
      (hecho : echo ∈ echoed) : Gives b (Item.ofValue? echo.value)

/-- Values that can be made from what the bench holds. -/
inductive HasValue (b : Bench) : Value → Prop where
  | matrix {g : Grid Scalar} (hg : b.Holds (.grid g)) : HasValue b (.matrix g)
  | vector {r : Row Scalar} (hr : b.Holds (.row r)) : HasValue b (.vector r)
  | scalar (n : Scalar) : HasValue b (.scalar n)

/-- What can happen to a bench. -/
inductive Step (b : Bench) : Bench → Prop where
  | call (x : Nat) {result : Option Item} (h : Gives b result) : Step b (b.keep x result)
  | copy (x : Nat) {item : Item} (h : b.Holds item) : Step b (b.put x (some item))
  | forget (x : Nat) : Step b (b.put x none)
  | bind (x : Nat) {s : Session} (hs : b.held x = some (.session s)) (name : String)
      {v : Value} (hv : HasValue b v) : Step b (b.put x (some (.session (s.bind name v))))
  | execute (x : Nat) {s : Session} (hs : b.held x = some (.session s)) (program : Program) :
      Step b (b.put x (some (.session (Session.execute b.folder s program).state)))
  | run (x : Nat) {s : Session} (hs : b.held x = some (.session s)) (program : Program) :
      Step b { b.put x (some (.session (s.run b.folder program).state.1)) with
        folder := (s.run b.folder program).state.2 }
  | save {s : Session} (hs : b.Holds (.session s)) :
      Step b { b with folder := (s.save b.folder).state }
  | files (folder : Folder) : Step b { b with folder := folder }

/-- Steps lead to the bench from one that holds nothing. -/
def Reachable (b : Bench) : Prop :=
  ∃ folder, Relation.ReflTransGen Step (start folder) b

/-! ## What steps keep -/

/-- All that is held is well formed. -/
def WellFormed (b : Bench) : Prop := ∀ item, b.Holds item → item.WellFormed

variable {b b' : Bench}

theorem wellFormed_of_toOption {ε : Type} {α : Type} {x : Except ε α} {f : α → Item}
    (h : ∀ a, x = .ok a → (f a).WellFormed) : ∀ item ∈ x.toOption.map f, item.WellFormed := by
  intro item hitem
  cases x with
  | error e => cases hitem
  | ok a =>
      cases hitem
      exact h a rfl

theorem wellFormed_of_map {α : Type} {x : Option α} {f : α → Item}
    (h : ∀ a, x = some a → (f a).WellFormed) : ∀ item ∈ x.map f, item.WellFormed := by
  intro item hitem
  obtain ⟨a, ha, rfl⟩ := Option.map_eq_some_iff.1 hitem
  exact h a ha

theorem wellFormed_of_some {item : Item} (h : item.WellFormed) :
    ∀ item' ∈ some item, item'.WellFormed := by
  intro item' hitem
  cases hitem
  exact h

theorem wellFormed_ofValue? {v : Value} (hv : v.WellFormed) :
    ∀ item ∈ Item.ofValue? v, item.WellFormed := by
  intro item hitem
  cases v with
  | matrix g => cases hitem; exact hv
  | vector r => cases hitem; exact hv
  | scalar n => cases hitem

theorem Gives.wellFormed {result : Option Item} (h : Gives b result) (hb : b.WellFormed) :
    ∀ item ∈ result, item.WellFormed := by
  cases h with
  | gridOfCells => exact wellFormed_of_toOption fun _ h => Grid.wellFormed_ofCells h
  | gridOfRows => exact wellFormed_of_toOption fun _ h => Grid.wellFormed_ofRows h
  | gridZeros => exact wellFormed_of_map fun _ h => Grid.wellFormed_zeros? h
  | readText => exact wellFormed_of_toOption fun _ h => Csv.wellFormed_read h
  | readBytes => exact wellFormed_of_toOption fun _ h => Csv.wellFormed_readBytes h
  | load => exact wellFormed_of_toOption fun _ h => Folder.wellFormed_loadGrid h
  | assemblyStart => exact wellFormed_of_toOption fun _ h => Assembly.wellFormed_start h
  | assemblyReserve => exact wellFormed_of_map fun _ h => Assembly.wellFormed_reserve? h
  | push ha => exact wellFormed_of_toOption fun _ h => Assembly.WellFormed.push (hb _ ha) h
  | finish ha => exact wellFormed_of_toOption fun _ h => Assembly.WellFormed.finish (hb _ ha) h
  | transpose hg => exact wellFormed_of_some (Grid.WellFormed.transpose (hb _ hg))
  | multiply hg hh =>
      exact wellFormed_of_toOption fun _ h => Grid.WellFormed.multiply (hb _ hg) (hb _ hh) h
  | add hg hh =>
      exact wellFormed_of_toOption fun _ h => Grid.WellFormed.add (hb _ hg) (hb _ hh) h
  | gridShift hg | gridScale hg | gridMap hg =>
      exact wellFormed_of_some (Grid.WellFormed.map (hb _ hg) _)
  | gridDivide hg => exact wellFormed_of_map fun _ h => Grid.WellFormed.divide? (hb _ hg) h
  | gridSet hg => exact wellFormed_of_map fun _ h => Grid.WellFormed.set? (hb _ hg) h
  | gridSetFlat hg => exact wellFormed_of_map fun _ h => Grid.WellFormed.setFlat? (hb _ hg) h
  | rowOfGrid hg => exact wellFormed_of_toOption fun _ h => Grid.WellFormed.row (hb _ hg) h
  | rowOfCells => exact wellFormed_of_toOption fun _ h => Row.wellFormed_ofCells h
  | rowZeros => exact wellFormed_of_map fun _ h => Row.wellFormed_zeros? h
  | rowShift hr | rowScale hr | rowMap hr =>
      exact wellFormed_of_some (Row.WellFormed.map (hb _ hr) _)
  | rowDivide hr => exact wellFormed_of_map fun _ h => Row.WellFormed.divide? (hb _ hr) h
  | rowSet hr => exact wellFormed_of_map fun _ h => Row.WellFormed.set? (hb _ hr) h
  | session => exact wellFormed_of_some Scope.wellFormed_empty
  | valueOf hs name =>
      intro item hitem
      obtain ⟨v, hv, hitem⟩ := Option.bind_eq_some_iff.1 hitem
      exact wellFormed_ofValue? (hb _ hs name v hv) item hitem
  | echoOf hs h hecho =>
      exact wellFormed_ofValue? (Session.wellFormed_echoed (hb _ hs) h _ hecho)

theorem HasValue.wellFormed {v : Value} (h : HasValue b v) (hb : b.WellFormed) :
    v.WellFormed := by
  cases h with
  | matrix hg => exact hb _ hg
  | vector hr => exact hb _ hr
  | scalar n => exact trivial

theorem WellFormed.put (hb : b.WellFormed) (x : Nat) {content : Option Item}
    (h : ∀ item ∈ content, item.WellFormed) : (b.put x content).WellFormed := by
  intro item hitem
  obtain ⟨y, hy⟩ := hitem
  have hy : Function.update b.held x content y = some item := hy
  by_cases hxy : y = x
  · rw [hxy, Function.update_self] at hy
    exact h item hy
  · rw [Function.update_of_ne hxy] at hy
    exact hb item ⟨y, hy⟩

theorem Step.wellFormed (h : Step b b') (hb : b.WellFormed) : b'.WellFormed := by
  cases h with
  | @call x result h =>
      have hresult := h.wellFormed hb
      cases result with
      | none => exact hb
      | some item => exact hb.put x hresult
  | copy x h => exact hb.put x (wellFormed_of_some (hb _ h))
  | forget x => exact hb.put x fun _ hitem => (by cases hitem)
  | bind x hs name hv =>
      have hscope : (Item.session _).WellFormed := hb _ ⟨x, hs⟩
      exact hb.put x (wellFormed_of_some (Scope.WellFormed.bind hscope name (hv.wellFormed hb)))
  | execute x hs program =>
      exact hb.put x (wellFormed_of_some (Session.wellFormed_execute program (hb _ ⟨x, hs⟩)))
  | run x hs program =>
      have hstate : (Session.execute b.folder _ program).state.scope.WellFormed :=
        Session.wellFormed_execute program (hb _ ⟨x, hs⟩)
      rw [← Session.run_session] at hstate
      exact hb.put x (wellFormed_of_some hstate)
  | save hs => exact hb
  | files folder => exact hb

theorem wellFormed_of_reachable (h : Reachable b) : b.WellFormed := by
  obtain ⟨folder, hsteps⟩ := h
  induction hsteps with
  | refl =>
      intro item hitem
      obtain ⟨x, hx⟩ := hitem
      cases hx
  | tail _ hstep ih => exact hstep.wellFormed ih

/-! ## Accesses -/

/-- No operation on what is held reaches outside of the cells: each with its accesses checked
    gives what it gives without. For sessions that is said of every expression after any
    program. -/
structure InRange (b : Bench) : Prop where
  get : ∀ {α : Type} {g : Grid α}, b.Holds (.grid g) → ∀ i j,
    Checked.get g i j = some (g.get i j)
  row : ∀ {α : Type} {g : Grid α}, b.Holds (.grid g) → ∀ i, Checked.row g i = some (g.row i)
  rows : ∀ {α : Type} {g : Grid α}, b.Holds (.grid g) → Checked.rows g = some g.toRows
  transpose : ∀ {α : Type} [Inhabited α] {g : Grid α}, b.Holds (.grid g) →
    Checked.transpose g = some g.transpose
  multiply : ∀ {τ : IntType} {g h : Grid (Element τ)}, b.Holds (.grid g) → b.Holds (.grid h) →
    Checked.multiply g h = some (g.multiply h)
  add : ∀ {τ : IntType} {g h : Grid (Element τ)}, b.Holds (.grid g) → b.Holds (.grid h) →
    Checked.add g h = some (g.add h)
  eval : ∀ {s : Session}, b.Holds (.session s) → ∀ (program : Program) (e : Expr),
    (Checked.eval (Session.execute b.folder s program).state.scope e).run =
      some (e.eval (Session.execute b.folder s program).state.scope)

theorem WellFormed.inRange (hb : b.WellFormed) : b.InRange where
  get hg := Checked.get_eq_some (hb _ hg)
  row hg := Checked.row_eq_some (hb _ hg)
  rows hg := Checked.rows_eq_some (hb _ hg)
  transpose hg := Checked.transpose_eq_some (hb _ hg)
  multiply hg hh := Checked.multiply_eq_some (hb _ hg) (hb _ hh)
  add hg hh := Checked.add_eq_some (hb _ hg) (hb _ hh)
  eval hs program e := by
    rw [Checked.eval_eq_lift (Session.wellFormed_execute program (hb _ hs))]
    rfl

/-- Whatever a program does with grids, rows, assemblies and sessions, every grid that it comes
    to hold has rows, columns and one cell for each place, every row a cell, and so have the
    values of variables; and no operation on them reaches outside of the cells. -/
theorem wellFormed_inRange_of_reachable (h : Reachable b) :
    (∀ item, b.Holds item → item.WellFormed) ∧ b.InRange :=
  ⟨wellFormed_of_reachable h, (wellFormed_of_reachable h).inRange⟩

/-- Two rows of three cells. -/
def wide : Grid Scalar :=
  let n := Element.wrap .i64
  ⟨2, 3, #[n 1, n 2, n 3, n 4, n 5, n 6]⟩

/-- A row is taken, then the program fails: the shapes of the product do not fit. -/
def rowThenMisfit : Program :=
  [⟨1, .assign "r" (.index (.var "A") (.int (Element.wrap .i64 1)))⟩,
    ⟨2, .display (.binary .mul (.var "A") (.var "A"))⟩]

/-- A session with the columns of the grid as rows. -/
def columns : Session := (Session.start {}).bind "A" (.matrix wide.transpose)

/-- The grid, its columns, and a session on them. -/
def beforeMisfit : Bench :=
  (((start Folder.empty).put 0 (some (.grid wide))).put 1 (some (.grid wide.transpose))).put 2
    (some (.session (Session.start {}))) |>.put 2 (some (.session columns))

/-- The bench when the program of the session has failed. -/
def afterMisfit : Bench :=
  beforeMisfit.put 2 (some (.session (Session.execute Folder.empty columns rowThenMisfit).state))

theorem wellFormed_inRange_afterMisfit :
    Reachable afterMisfit ∧
      (∀ item, afterMisfit.Holds item → item.WellFormed) ∧ afterMisfit.InRange := by
  have hcells : Grid.ofCells ⟨2, 3⟩ wide.cells = .ok wide := rfl
  have hgrid : Step (start Folder.empty) ((start Folder.empty).put 0 (some (.grid wide))) := by
    have hcall : Step (start Folder.empty) _ := .call 0 (.gridOfCells ⟨2, 3⟩ wide.cells)
    rwa [hcells] at hcall
  have hcolumns : Relation.ReflTransGen Step (start Folder.empty) beforeMisfit :=
    .tail (.tail (.tail (.tail .refl hgrid) (.call 1 (.transpose ⟨0, rfl⟩)))
      (.call 2 (.session {}))) (.bind 2 rfl "A" (.matrix ⟨1, rfl⟩))
  have hreach : Reachable afterMisfit :=
    ⟨Folder.empty, hcolumns.tail (.execute 2 rfl rowThenMisfit)⟩
  exact ⟨hreach, wellFormed_inRange_of_reachable hreach⟩

end Bench

end Gridscript.Script
