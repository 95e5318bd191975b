/-
  Positions one after the other.

  A position after a position on a matrix is evaluated as one access to an element: the matrix is
  evaluated, then both positions, and only then are they checked. Here that is shown to be no
  more than a short cut. A position selects from the value before it, whatever expression that
  value comes from (`eval_index_eq_ok_iff`), by induction on the expression: an element of a
  matrix is the element of its row. So two positions can be taken one at a time, with the row kept
  in a variable (`eval_index_index_iff`).
-/
import Gridscript.Proofs.Grid.Rows
import Gridscript.Proofs.Script.Dependence

namespace Gridscript.Script

/-- The position that an expression stands for. -/
def Expr.position (scope : Scope) (e : Expr) : Except Cause Nat := e.eval scope >>= Value.position

variable {scope : Scope}

/-! ## Elements and rows -/

theorem select_matrix_eq_ok_iff (g : Grid Scalar) (i : Nat) (v : Value) :
    (Value.matrix g).select i = .ok v ↔ ∃ r, g.row i = .ok r ∧ .vector r = v := by
  unfold Value.select
  simp only [Outcome.map_eq_ok_iff, Outcome.mapError_eq_ok_iff]

theorem select_vector_eq_ok_iff (r : Row Scalar) (i : Nat) (v : Value) :
    (Value.vector r).select i = .ok v ↔ ∃ a, r.get i = .ok a ∧ .scalar a = v := by
  unfold Value.select
  simp only [Outcome.map_eq_ok_iff, Outcome.mapError_eq_ok_iff]

/-- An element is what a second position selects from the row that a first selects. -/
theorem element_eq_ok_iff (g : Grid Scalar) (i j : Nat) (v : Value) :
    Value.element g i j = .ok v ↔
      ∃ w, (Value.matrix g).select i = .ok w ∧ w.select j = .ok v := by
  unfold Value.element
  simp only [Outcome.map_eq_ok_iff, Outcome.mapError_eq_ok_iff, Grid.get_eq_ok_iff]
  constructor
  · rintro ⟨a, ⟨r, hr, ha⟩, hv⟩
    exact ⟨.vector r, (select_matrix_eq_ok_iff g i _).2 ⟨r, hr, rfl⟩,
      (select_vector_eq_ok_iff r j v).2 ⟨a, ha, hv⟩⟩
  · rintro ⟨w, hw, hv⟩
    obtain ⟨r, hr, rfl⟩ := (select_matrix_eq_ok_iff g i w).1 hw
    obtain ⟨a, ha, hv⟩ := (select_vector_eq_ok_iff r j v).1 hv
    exact ⟨a, ⟨r, hr, ha⟩, hv⟩

/-! ## One position -/

/-- Evaluate a value and a position, and select. -/
def selectAt (target : Except Cause Value) (position : Except Cause Nat) : Except Cause Value :=
  target >>= fun v => position >>= fun n => v.select n

theorem selectAt_eq_ok_iff (target : Except Cause Value) (position : Except Cause Nat) (r : Value) :
    selectAt target position = .ok r ↔
      ∃ v n, target = .ok v ∧ position = .ok n ∧ v.select n = .ok r := by
  unfold selectAt
  simp only [Outcome.bind_eq_ok_iff]
  constructor
  · rintro ⟨v, hv, n, hn, hr⟩
    exact ⟨v, n, hv, hn, hr⟩
  · rintro ⟨v, n, hv, hn, hr⟩
    exact ⟨v, hv, n, hn, hr⟩

theorem eval_index_of_not_index {e : Expr} (he : ∀ inner row, e ≠ .index inner row) (i : Expr) :
    (Expr.index e i).eval scope = selectAt (e.eval scope) (i.position scope) := by
  rw [Expr.eval.eq_7 scope e i he]
  simp only [selectAt, Expr.position, bind_assoc]

theorem eval_index_index_of_matrix {inner : Expr} {g : Grid Scalar}
    (h : inner.eval scope = .ok (.matrix g)) (row col : Expr) :
    (Expr.index (.index inner row) col).eval scope =
      row.position scope >>= fun i => col.position scope >>= fun j => Value.element g i j := by
  rw [Expr.eval.eq_6, h]
  simp only [Expr.position, bind_assoc]
  rfl

theorem eval_index_index_of_not_matrix {inner : Expr} {w : Value}
    (h : inner.eval scope = .ok w) (hw : ∀ g, w ≠ .matrix g) (row col : Expr) :
    (Expr.index (.index inner row) col).eval scope =
      selectAt ((Expr.index inner row).eval scope) (col.position scope) := by
  rw [Expr.eval.eq_6, h]
  simp only [selectAt, Expr.position, bind_assoc]
  cases w with
  | matrix g => exact absurd rfl (hw g)
  | vector _ | scalar _ => rfl

/-- A position selects from the value of the expression before it, also where both are evaluated
    by way of an element. -/
theorem eval_index_eq_ok_iff (e i : Expr) (r : Value) :
    (Expr.index e i).eval scope = .ok r ↔
      ∃ v n, e.eval scope = .ok v ∧ i.position scope = .ok n ∧ v.select n = .ok r := by
  induction e generalizing i r with
  | int _ | var _ | neg _ | transpose _ | binary _ _ _ =>
      rw [eval_index_of_not_index, selectAt_eq_ok_iff]
      intro _ _ h
      cases h
  | index inner row ih _ =>
      cases hinner : inner.eval scope with
      | error c =>
          refine iff_of_false ?_ ?_
          · rw [Expr.eval.eq_6, hinner]
            intro h
            cases h
          · rintro ⟨v, n, hv, -⟩
            obtain ⟨w, m, hw, -⟩ := (ih row v).1 hv
            rw [hinner] at hw
            cases hw
      | ok w =>
          cases w with
          | matrix g =>
              rw [eval_index_index_of_matrix hinner]
              simp only [Outcome.bind_eq_ok_iff, element_eq_ok_iff]
              constructor
              · rintro ⟨a, ha, b, hb, v, hv, hr⟩
                exact ⟨v, b, (ih row v).2 ⟨_, a, hinner, ha, hv⟩, hb, hr⟩
              · rintro ⟨v, b, hv, hb, hr⟩
                obtain ⟨w, a, hw, ha, hv⟩ := (ih row v).1 hv
                rw [hinner] at hw
                cases hw
                exact ⟨a, ha, b, hb, v, hv, hr⟩
          | vector _ | scalar _ =>
              rw [eval_index_index_of_not_matrix hinner, selectAt_eq_ok_iff]
              intro _ h
              cases h

/-- Two positions can be taken one at a time: `e[i][j]` has a value exactly if `e[i]` has one and,
    with a variable bound to it that does not occur in `j`, so has the variable at `j`; the values
    are the same. -/
theorem eval_index_index_iff (e i j : Expr) {t : String} (ht : t ∉ j.names) (v : Value) :
    (Expr.index (.index e i) j).eval scope = .ok v ↔
      ∃ r, (Expr.index e i).eval scope = .ok r ∧
        (Expr.index (.var t) j).eval (scope.bind t r) = .ok v := by
  have hposition : ∀ r, j.position (scope.bind t r) = j.position scope := fun r => by
    unfold Expr.position
    rw [eval_bind_of_not_mem ht]
  have hvar : ∀ r, (Expr.var t).eval (scope.bind t r) = .ok r := fun r => by
    rw [Expr.eval, Scope.find?_bind_self]
  simp only [eval_index_eq_ok_iff (.index e i), eval_index_eq_ok_iff (.var t), hposition, hvar]
  constructor
  · rintro ⟨r, n, hr, hn, hv⟩
    exact ⟨r, hr, r, n, rfl, hn, hv⟩
  · rintro ⟨r, hr, w, n, hw, hn, hv⟩
    cases hw
    exact ⟨r, n, hr, hn, hv⟩

/-- A matrix whose first row holds positions of its second. -/
def tableScope : Scope :=
  Scope.empty.bind "A" (.matrix ⟨2, 2, #[.wrap .i64 1, .wrap .i64 0, .wrap .i64 5, .wrap .i64 7]⟩)

/-- The matrix at a row and at the element in its corner, a position that has positions itself. -/
theorem eval_index_index_iff_tableScope :
    "row" ∉ (Expr.index (.index (.var "A") (.int 0)) (.int 0)).names ∧
    ∃ r, (Expr.index (.var "A") (.int (.wrap .i64 1))).eval tableScope = .ok r ∧
      (Expr.index (.var "row") (.index (.index (.var "A") (.int 0)) (.int 0))).eval
        (tableScope.bind "row" r) = .ok (.scalar (.wrap .i64 7)) := by
  have ht : "row" ∉ (Expr.index (.index (.var "A") (.int 0)) (.int 0)).names := by decide
  have hvalue : (Expr.index (.index (.var "A") (.int (.wrap .i64 1)))
      (.index (.index (.var "A") (.int 0)) (.int 0))).eval tableScope =
      .ok (.scalar (.wrap .i64 7)) := by
    decide +kernel
  exact ⟨ht, (eval_index_index_iff _ _ _ ht _).1 hvalue⟩

end Gridscript.Script
