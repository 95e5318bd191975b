/-
  Values of well-formed grids and rows.

  Every operation of the language gives a well-formed value for well-formed operands, so an
  expression has one in a scope of such values (`wellFormed_eval`), and executing statements
  keeps a scope so: what a persistent statement loads is well formed as well.

  `Checked.eval` is the evaluator over the operations that check their accesses. In a scope of
  well-formed values it never meets an access outside of the cells: it gives what the evaluator
  gives (`Checked.eval_eq_lift`).
-/
import Gridscript.Proofs.Folder.GridFile
import Gridscript.Proofs.Grid.Access
import Gridscript.Proofs.Script.Execution
import Gridscript.Proofs.Script.Kinds

namespace Gridscript.Script

/-! ## Operations -/

namespace Value

def WellFormed : Value → Prop
  | matrix grid => grid.WellFormed
  | vector row => row.WellFormed
  | scalar _ => True

theorem WellFormed.negate {v : Value} (h : v.WellFormed) : v.negate.WellFormed := by
  cases v with
  | matrix g => exact Grid.WellFormed.map h _
  | vector r => exact Row.WellFormed.map h _
  | scalar n => exact trivial

theorem WellFormed.transpose {v w : Value} (h : v.WellFormed) (hw : v.transpose = .ok w) :
    w.WellFormed := by
  cases v with
  | matrix g =>
      cases hw
      exact Grid.WellFormed.transpose h
  | vector r => cases hw
  | scalar n => cases hw

/-- A value that an outcome on grids is turned into. -/
theorem wellFormed_of_map {α : Type} (x : Except GridFault α) (wrap : α → Value) {v : Value}
    (hx : ∀ a, x = .ok a → (wrap a).WellFormed)
    (h : (x.mapError Cause.grid).map wrap = .ok v) : v.WellFormed := by
  obtain ⟨a, ha, rfl⟩ := (Outcome.map_eq_ok_iff _ _ _).1 h
  exact hx a ((Outcome.mapError_eq_ok_iff _ _ _).1 ha)

theorem wellFormed_element {g : Grid Scalar} {i j : Nat} {v : Value}
    (h : element g i j = .ok v) : v.WellFormed :=
  wellFormed_of_map _ scalar (fun _ _ => trivial) h

theorem WellFormed.select {v w : Value} {i : Nat} (h : v.WellFormed) (hw : v.select i = .ok w) :
    w.WellFormed := by
  cases v with
  | matrix g => exact wellFormed_of_map _ vector (fun _ hr => Grid.WellFormed.row h hr) hw
  | vector r => exact wellFormed_of_map _ scalar (fun _ _ => trivial) hw
  | scalar n => cases hw

theorem wellFormed_of_quotient {α : Type} (x : Option α) (wrap : α → Value) {v : Value}
    (hx : ∀ a, x = some a → (wrap a).WellFormed) (h : quotient wrap x = .ok v) :
    v.WellFormed := by
  cases x with
  | none => cases h
  | some a =>
      cases h
      exact hx a rfl

theorem WellFormed.binary {op : BinaryOp} {a b v : Value} (ha : a.WellFormed)
    (hb : b.WellFormed) (h : Value.binary op a b = .ok v) : v.WellFormed := by
  revert h
  fun_cases Value.binary op a b with
  | case1 | case2 | case3 | case5 =>
      intro h
      cases h
      exact trivial
  | case4 | case20 => exact nofun
  | case6 => exact wellFormed_of_map _ matrix (fun _ hp => Grid.WellFormed.add ha hb hp)
  | case7 => exact wellFormed_of_map _ matrix (fun _ hp => Grid.WellFormed.multiply ha hb hp)
  | case8 | case10 | case11 =>
      intro h
      cases h
      exact Grid.WellFormed.map ha _
  | case9 | case12 =>
      intro h
      cases h
      exact Grid.WellFormed.map hb _
  | case13 => exact wellFormed_of_quotient _ matrix (fun _ hq => Grid.WellFormed.divide? ha hq)
  | case14 | case16 | case17 =>
      intro h
      cases h
      exact Row.WellFormed.map ha _
  | case15 | case18 =>
      intro h
      cases h
      exact Row.WellFormed.map hb _
  | case19 => exact wellFormed_of_quotient _ vector (fun _ hq => Row.WellFormed.divide? ha hq)

end Value

/-! ## Scopes -/

/-- Every variable has a well-formed value. -/
def Scope.WellFormed (scope : Scope) : Prop :=
  ∀ name v, scope.find? name = some v → v.WellFormed

theorem Scope.wellFormed_empty : Scope.empty.WellFormed := by
  intro name v h
  cases h

theorem Scope.WellFormed.bind {scope : Scope} (h : scope.WellFormed) (name : String) {v : Value}
    (hv : v.WellFormed) : (scope.bind name v).WellFormed := by
  intro other w hw
  by_cases ho : other = name
  · rw [ho, find?_bind_self] at hw
    cases hw
    exact hv
  · rw [find?_bind_of_ne scope ho] at hw
    exact h other w hw

/-- An expression has a well-formed value in a scope of such values. -/
theorem wellFormed_eval {scope : Scope} (hscope : scope.WellFormed) {e : Expr} {v : Value}
    (h : e.eval scope = .ok v) : v.WellFormed := by
  fun_induction Expr.eval scope e generalizing v with
  | case1 n =>
      cases h
      exact trivial
  | case2 name w hw =>
      cases h
      exact hscope name _ hw
  | case3 name hw => cases h
  | case4 e ih =>
      obtain ⟨w, hw, h⟩ := (Outcome.bind_eq_ok_iff _ _ _).1 h
      cases h
      exact (ih hw).negate
  | case5 e ih =>
      obtain ⟨w, hw, h⟩ := (Outcome.bind_eq_ok_iff _ _ _).1 h
      exact (ih hw).transpose h
  | case6 op lhs rhs ihl ihr =>
      obtain ⟨a, ha, h⟩ := (Outcome.bind_eq_ok_iff _ _ _).1 h
      obtain ⟨b, hb, h⟩ := (Outcome.bind_eq_ok_iff _ _ _).1 h
      exact (ihl ha).binary (ihr hb) h
  | case7 inner row col ihinner ihrow ihcol ihtarget =>
      obtain ⟨w, -, h⟩ := (Outcome.bind_eq_ok_iff _ _ _).1 h
      cases w with
      | matrix g =>
          obtain ⟨p, -, h⟩ := (Outcome.bind_eq_ok_iff _ _ _).1 h
          obtain ⟨i, -, h⟩ := (Outcome.bind_eq_ok_iff _ _ _).1 h
          obtain ⟨q, -, h⟩ := (Outcome.bind_eq_ok_iff _ _ _).1 h
          obtain ⟨j, -, h⟩ := (Outcome.bind_eq_ok_iff _ _ _).1 h
          exact Value.wellFormed_element h
      | vector _ | scalar _ =>
          obtain ⟨t, ht, h⟩ := (Outcome.bind_eq_ok_iff _ _ _).1 h
          obtain ⟨q, -, h⟩ := (Outcome.bind_eq_ok_iff _ _ _).1 h
          obtain ⟨j, -, h⟩ := (Outcome.bind_eq_ok_iff _ _ _).1 h
          exact (ihtarget ht).select h
  | case8 target position _ ihtarget ihposition =>
      obtain ⟨w, hw, h⟩ := (Outcome.bind_eq_ok_iff _ _ _).1 h
      obtain ⟨p, -, h⟩ := (Outcome.bind_eq_ok_iff _ _ _).1 h
      obtain ⟨i, -, h⟩ := (Outcome.bind_eq_ok_iff _ _ _).1 h
      exact (ihtarget hw).select h

/-! ## Sessions -/

namespace Session

variable {folder : Folder} {s : Session}

theorem wellFormed_step {stmt : Statement} {s' : Session} {shown : Option Value}
    (h : Succeeds folder s stmt s' shown) (hs : s.scope.WellFormed) :
    s'.scope.WellFormed ∧ ∀ v ∈ shown, v.WellFormed := by
  rcases step_cases h with ⟨name, grid, -, hload, rfl, rfl⟩ | ⟨name, e, v, -, heval, rfl, rfl⟩ |
    ⟨e, v, -, heval, rfl, hshown⟩
  · exact ⟨hs.bind name (Folder.wellFormed_loadGrid hload), fun _ hv => (by cases hv)⟩
  · exact ⟨hs.bind name (wellFormed_eval hs heval), fun _ hv => (by cases hv)⟩
  · refine ⟨hs, fun w hw => ?_⟩
    rw [hshown] at hw
    split at hw
    · cases hw
      exact wellFormed_eval hs heval
    · cases hw

theorem wellFormed_execute (program : Program) (hs : s.scope.WellFormed) :
    (execute folder s program).state.scope.WellFormed :=
  execute_invariant (motive := fun s => s.scope.WellFormed)
    (fun _ _ _ _ h hs => (wellFormed_step h hs).1) program hs

theorem wellFormed_echoed {program : Program} {echoed : List Echo} (hs : s.scope.WellFormed)
    (h : (execute folder s program).result = .ok echoed) :
    ∀ echo ∈ echoed, echo.value.WellFormed := by
  induction program generalizing s echoed with
  | nil =>
      cases h
      exact fun _ hecho => (by cases hecho)
  | cons stmt rest ih =>
      obtain ⟨fault, hstep⟩ | ⟨s', shown, hstep⟩ := step_outcome folder s stmt
      · rw [execute_cons_error hstep] at h
        cases h
      · obtain ⟨hs', hshown⟩ := wellFormed_step hstep hs
        rw [execute_cons_ok hstep] at h
        obtain ⟨later, hlater, rfl⟩ := (Outcome.map_eq_ok_iff _ _ _).1 h
        intro echo hecho
        rcases List.mem_append.1 hecho with hecho | hecho
        · obtain ⟨v, hv, rfl⟩ := List.mem_map.1 hecho
          exact hshown v (Option.mem_toList.1 hv)
        · exact ih hs' hlater echo hecho

/-- A run leaves the session that executing its program leaves. -/
theorem run_session (program : Program) :
    (s.run folder program).state.1 = (execute folder s program).state := by
  cases h : (execute folder s program).result with
  | error fault => rw [run_of_error h]
  | ok echoed =>
      rw [run_of_ok h]
      split <;> rfl

end Session

end Gridscript.Script

/-! ## Checked evaluation -/

namespace Gridscript.Checked

open Script

/-- An outcome without accesses. -/
def lift {α : Type} (x : Except Cause α) : ExceptT Cause Option α := ExceptT.mk (some x)

/-- A value that an outcome of a checked operation on grids is turned into. -/
def wrap {α : Type} (value : α → Value) (x : Option (Except GridFault α)) :
    ExceptT Cause Option Value :=
  ExceptT.mk (x.map fun r => (r.mapError Cause.grid).map value)

def transposeValue : Value → ExceptT Cause Option Value
  | .matrix grid => ExceptT.mk ((transpose grid).map fun t => .ok (.matrix t))
  | v => lift v.transpose

def selectValue : Value → Nat → ExceptT Cause Option Value
  | .matrix grid, position => wrap .vector (row grid position)
  | v, position => lift (v.select position)

def elementValue (grid : Grid Scalar) (row col : Nat) : ExceptT Cause Option Value :=
  wrap .scalar (get grid row col)

def binaryValue : BinaryOp → Value → Value → ExceptT Cause Option Value
  | .add, .matrix g, .matrix h => wrap .matrix (add g h)
  | .mul, .matrix g, .matrix h => wrap .matrix (multiply g h)
  | op, a, b => lift (Value.binary op a b)

/-- The value of an expression, every access checked. -/
def eval (scope : Scope) : Expr → ExceptT Cause Option Value
  | .int n => lift (.ok (.scalar n))
  | .var name =>
      match scope.find? name with
      | some v => lift (.ok v)
      | none => lift (.error (.undefined name))
  | .neg e => do
      let v ← eval scope e
      lift (.ok v.negate)
  | .transpose e => do
      let v ← eval scope e
      transposeValue v
  | .binary op lhs rhs => do
      let a ← eval scope lhs
      let b ← eval scope rhs
      binaryValue op a b
  | .index (.index inner row) col => do
      match ← eval scope inner with
      | .matrix grid =>
          let i ← lift (← eval scope row).position
          let j ← lift (← eval scope col).position
          elementValue grid i j
      | _ =>
          let target ← eval scope (.index inner row)
          let j ← lift (← eval scope col).position
          selectValue target j
  | .index target position => do
      let v ← eval scope target
      let i ← lift (← eval scope position).position
      selectValue v i

/-! Outcomes of well-formed operands are those of the evaluator. -/

theorem lift_bind {α β : Type} {x : Except Cause α} {f : α → ExceptT Cause Option β}
    {h : α → Except Cause β} (hf : ∀ a, x = .ok a → f a = lift (h a)) :
    (lift x >>= f) = lift (x >>= h) := by
  cases x with
  | error c => rfl
  | ok a => exact hf a rfl

theorem transposeValue_eq_lift {v : Value} (hv : v.WellFormed) :
    transposeValue v = lift v.transpose := by
  cases v with
  | matrix g =>
      rw [transposeValue, transpose_eq_some hv]
      rfl
  | vector r => rfl
  | scalar n => rfl

theorem selectValue_eq_lift {v : Value} (hv : v.WellFormed) (i : Nat) :
    selectValue v i = lift (v.select i) := by
  cases v with
  | matrix g =>
      rw [selectValue, row_eq_some hv]
      rfl
  | vector r => rfl
  | scalar n => rfl

theorem elementValue_eq_lift {g : Grid Scalar} (hg : g.WellFormed) (i j : Nat) :
    elementValue g i j = lift (Value.element g i j) := by
  unfold elementValue
  rw [get_eq_some hg]
  rfl

theorem binaryValue_eq_lift (op : BinaryOp) {a b : Value} (ha : a.WellFormed)
    (hb : b.WellFormed) : binaryValue op a b = lift (Value.binary op a b) := by
  fun_cases binaryValue op a b with
  | case1 g h => rw [add_eq_some ha hb]; rfl
  | case2 g h => rw [multiply_eq_some ha hb]; rfl
  | case3 => rfl

/-- In a scope of well-formed values, no access of the evaluator is outside of the cells. -/
theorem eval_eq_lift {scope : Scope} (hscope : scope.WellFormed) (e : Expr) :
    eval scope e = lift (e.eval scope) := by
  fun_induction Expr.eval scope e with
  | case1 n => rw [eval]
  | case2 name v hv => rw [eval, hv]
  | case3 name hv => rw [eval, hv]
  | case4 e ih =>
      rw [eval, ih]
      exact lift_bind fun v _ => rfl
  | case5 e ih =>
      rw [eval, ih]
      exact lift_bind fun v hv => transposeValue_eq_lift (wellFormed_eval hscope hv)
  | case6 op lhs rhs ihl ihr =>
      rw [eval, ihl, ihr]
      refine lift_bind fun a ha => lift_bind fun b hb => ?_
      exact binaryValue_eq_lift op (wellFormed_eval hscope ha) (wellFormed_eval hscope hb)
  | case7 inner row col ihinner ihrow ihcol ihtarget =>
      rw [eval, ihinner, ihrow, ihcol, ihtarget]
      refine lift_bind fun v hv => ?_
      cases v with
      | matrix g =>
          refine lift_bind fun p _ => lift_bind fun i _ => lift_bind fun q _ => ?_
          exact lift_bind fun j _ => elementValue_eq_lift (wellFormed_eval hscope hv) i j
      | vector _ | scalar _ =>
          refine lift_bind fun t ht => lift_bind fun q _ => lift_bind fun j _ => ?_
          exact selectValue_eq_lift (wellFormed_eval hscope ht) j
  | case8 target position hne ihtarget ihposition =>
      rw [eval, ihtarget, ihposition]
      · refine lift_bind fun v hv => lift_bind fun p _ => lift_bind fun i _ => ?_
        exact selectValue_eq_lift (wellFormed_eval hscope hv) i
      · exact hne

end Gridscript.Checked
