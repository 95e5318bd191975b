/-
  Arithmetic of matrices, rows and scalars.

  Scalars are added, subtracted, multiplied and divided one by one. Matrices and rows take other
  ways: they subtract by adding the negative, negate by multiplying with `-1`, and divide by
  looking for the quotient and falling back on the negative. All the same an operation with a
  scalar does to every element what it does to a scalar: it maps one function over a value of any
  kind (`binary_scalar`, `negate_eq_map`). Positions go through such a map (`eval_index_map`), so
  it makes no difference whether an element or a row is taken out of a matrix before an operation
  or after it (`eval_arithmetic`).
-/
import Gridscript.Proofs.Element.Division
import Gridscript.Proofs.Grid.Matrix
import Gridscript.Proofs.Script.Positions
import Gridscript.Proofs.Script.Values

namespace Gridscript.Script

/-! ## Operations on every element -/

/-- What an operation with the scalar `n` on the right does to a scalar. -/
def BinaryOp.withScalar (n : Scalar) : BinaryOp → Except Cause (Scalar → Scalar)
  | add => .ok (· + n)
  | sub => .ok (· - n)
  | mul => .ok (· * n)
  | div => if n = 0 then .error .divisionByZero else .ok (·.quotient n)

theorem withScalar_sub (n : Scalar) : BinaryOp.sub.withScalar n = .ok fun a => a - n := rfl

theorem withScalar_div (n : Scalar) :
    BinaryOp.div.withScalar n =
      if n = 0 then .error .divisionByZero else .ok (·.quotient n) := rfl

namespace Value

/-- The value of the same kind with the images of the elements. -/
def map (f : Scalar → Scalar) : Value → Value
  | matrix g => matrix (g.map f)
  | vector r => vector (r.map f)
  | scalar a => scalar (f a)

/-- To subtract a scalar is to add its negative. -/
theorem add_neg_eq_sub (n : Scalar) : (fun a : Scalar => a + -n) = fun a => a - n :=
  funext fun a => (sub_eq_add_neg a n).symm

/-- Quotients of all elements are the same whether they are looked for or wrapped. -/
theorem quotient_elements {α : Type} (wrap : α → Value) (mapped : (Scalar → Scalar) → α)
    (n : Scalar) :
    quotient wrap (if n = 0 then none else some (mapped (·.quotientOrNeg n))) =
      (BinaryOp.div.withScalar n).map fun f => wrap (mapped f) := by
  rw [withScalar_div]
  split
  · rfl
  · rename_i hn
    rw [funext fun a => Element.quotientOrNeg_eq_quotient a hn]
    rfl

/-- An operation with a scalar on the right is done to every element. -/
theorem binary_scalar (op : BinaryOp) (v : Value) (n : Scalar) :
    binary op v (scalar n) = (op.withScalar n).map fun f => v.map f := by
  cases op with
  | add | mul => cases v <;> rfl
  | sub =>
      rw [withScalar_sub, ← add_neg_eq_sub]
      cases v with
      | matrix g | vector r => rfl
      | scalar a => exact congrArg (fun f => Except.ok (scalar (f a))) (add_neg_eq_sub n).symm
  | div =>
      cases v with
      | matrix g => exact quotient_elements matrix (fun f => g.map f) n
      | vector r => exact quotient_elements vector (fun f => r.map f) n
      | scalar a =>
          rw [withScalar_div]
          show (if n = 0 then _ else _) = _
          split <;> rfl

/-- Sums and products with a scalar do not depend on the side it stands on. -/
theorem scalar_binary {op : BinaryOp} (hop : op = .add ∨ op = .mul) (n : Scalar) (v : Value) :
    binary op (scalar n) v = binary op v (scalar n) := by
  rcases hop with rfl | rfl
  · cases v with
    | matrix g | vector r => rfl
    | scalar a => exact congrArg (fun b => Except.ok (scalar b)) (add_comm n a)
  · cases v with
    | matrix g | vector r => rfl
    | scalar a => exact congrArg (fun b => Except.ok (scalar b)) (mul_comm n a)

theorem negate_eq_map (v : Value) : v.negate = v.map (- ·) := by
  have hminus : (- ·) = fun a : Scalar => a * -Element.wrap .i64 1 :=
    funext fun a => (mul_neg_one a).symm
  rw [hminus]
  cases v with
  | matrix g | vector r => rfl
  | scalar a => exact congrArg (fun f => scalar (f a)) hminus

/-- What a position selects from the images are the images of what it selects. -/
theorem select_map (f : Scalar → Scalar) {v w : Value} {i : Nat} (h : v.select i = .ok w) :
    (v.map f).select i = .ok (w.map f) := by
  cases v with
  | matrix g =>
      obtain ⟨r, hr, rfl⟩ := (select_matrix_eq_ok_iff g i w).1 h
      refine (select_matrix_eq_ok_iff (g.map f) i _).2 ⟨r.map f, ?_, rfl⟩
      rw [Grid.row_map, hr]
      rfl
  | vector r =>
      obtain ⟨a, ha, rfl⟩ := (select_vector_eq_ok_iff r i w).1 h
      refine (select_vector_eq_ok_iff (r.map f) i _).2 ⟨f a, ?_, rfl⟩
      rw [Row.get_eq_ok_iff] at ha ⊢
      unfold Row.cell? Row.map at *
      rw [Array.getElem?_map, ha]
      rfl
  | scalar n => cases h

end Value

/-! ## Positions after an operation -/

variable {scope : Scope}

/-- Whatever an expression is, where its elements are images, so is what a position selects. -/
theorem eval_index_map {X A i : Expr} {v w : Value} {f : Scalar → Scalar}
    (hX : X.eval scope = .ok (v.map f)) (hA : A.eval scope = .ok v)
    (hw : (Expr.index A i).eval scope = .ok w) :
    (Expr.index X i).eval scope = .ok (w.map f) := by
  obtain ⟨v', n, hv', hn, hselect⟩ := (eval_index_eq_ok_iff A i w).1 hw
  rw [hA] at hv'
  cases hv'
  exact (eval_index_eq_ok_iff X i _).2 ⟨_, n, hX, hn, Value.select_map f hselect⟩

theorem eval_binary {op : BinaryOp} {lhs rhs : Expr} {a b : Value}
    (ha : lhs.eval scope = .ok a) (hb : rhs.eval scope = .ok b) :
    (Expr.binary op lhs rhs).eval scope = Value.binary op a b := by
  rw [Expr.eval, ha, hb]
  rfl

theorem eval_neg {e : Expr} {v : Value} (h : e.eval scope = .ok v) :
    (Expr.neg e).eval scope = .ok v.negate := by
  rw [Expr.eval, h]
  rfl

section Matrix

variable {A B s i j : Expr} {g h : Grid Scalar} {n : Scalar} {p q : Nat} {v w : Value}

theorem eval_element (hA : A.eval scope = .ok (.matrix g)) (hg : g.WellFormed)
    (hi : i.position scope = .ok p) (hj : j.position scope = .ok q) (hp : p < g.rows)
    (hq : q < g.cols) :
    (Expr.index (.index A i) j).eval scope = .ok (.scalar (g.cell p q)) := by
  rw [eval_index_index_of_matrix hA, hi, hj]
  show Value.element g p q = _
  unfold Value.element
  rw [hg.get_eq_cell hp hq]
  rfl

theorem exists_eval_row (hA : A.eval scope = .ok (.matrix g)) (hi : i.position scope = .ok p)
    (hp : p < g.rows) : ∃ r, (Expr.index A i).eval scope = .ok (.vector r) := by
  have hrow : g.row p = .ok _ := if_neg (Nat.not_le_of_lt hp)
  exact ⟨_, (eval_index_eq_ok_iff A i _).2
    ⟨_, p, hA, hi, (select_matrix_eq_ok_iff g p _).2 ⟨_, hrow, rfl⟩⟩⟩

/-- An operation with a scalar gives the same before positions as after them. -/
theorem eval_positions_binary (op : BinaryOp) (hA : A.eval scope = .ok (.matrix g))
    (hs : s.eval scope = .ok (.scalar n)) (hv : (Expr.index A i).eval scope = .ok v)
    (hw : (Expr.index (.index A i) j).eval scope = .ok w) :
    (Expr.index (.binary op A s) i).eval scope = (Expr.binary op (.index A i) s).eval scope ∧
    (Expr.index (.index (.binary op A s) i) j).eval scope =
      (Expr.binary op (.index (.index A i) j) s).eval scope := by
  have hbinary : (Expr.binary op A s).eval scope = _ := eval_binary hA hs
  rw [eval_binary hv hs, eval_binary hw hs, Value.binary_scalar, Value.binary_scalar]
  rw [Value.binary_scalar] at hbinary
  cases hop : op.withScalar n with
  | error c =>
      rw [hop] at hbinary
      have hrow : (Expr.index (.binary op A s) i).eval scope = .error c := by
        rw [eval_index_of_not_index (fun _ _ h => by cases h), hbinary]
        rfl
      have helement : (Expr.index (.index (.binary op A s) i) j).eval scope = .error c := by
        rw [Expr.eval.eq_6, hbinary]
        rfl
      exact ⟨hrow, helement⟩
  | ok f =>
      rw [hop] at hbinary
      have hrow := eval_index_map hbinary hA hv
      exact ⟨hrow, eval_index_map hrow hv hw⟩

/-- Division by zero is the only failure of an operation with a scalar. -/
theorem withScalar_cases (op : BinaryOp) (n : Scalar) :
    (op = .div ∧ n = 0 → op.withScalar n = .error .divisionByZero) ∧
    (¬(op = .div ∧ n = 0) → ∃ f, op.withScalar n = .ok f) := by
  cases op with
  | add | sub | mul => exact ⟨fun h => (by cases h.1), fun _ => ⟨_, rfl⟩⟩
  | div =>
      rw [withScalar_div]
      exact ⟨fun h => if_pos h.2, fun h => ⟨_, if_neg fun hn => h ⟨rfl, hn⟩⟩⟩

theorem eval_scalar_binary {op : BinaryOp} (hop : op = .add ∨ op = .mul)
    (hA : A.eval scope = .ok (.matrix g)) (hs : s.eval scope = .ok (.scalar n))
    (hv : (Expr.index A i).eval scope = .ok v)
    (hw : (Expr.index (.index A i) j).eval scope = .ok w) :
    (Expr.index (.index (.binary op s A) i) j).eval scope =
      (Expr.binary op s (.index (.index A i) j)).eval scope := by
  have hne : ¬(op = .div ∧ n = 0) := fun h => by rcases hop with rfl | rfl <;> cases h.1
  obtain ⟨f, hf⟩ := (withScalar_cases op n).2 hne
  have hbinary : (Expr.binary op s A).eval scope = .ok ((Value.matrix g).map f) := by
    rw [eval_binary hs hA, Value.scalar_binary hop, Value.binary_scalar, hf]
    rfl
  rw [eval_binary hs hw, Value.scalar_binary hop, Value.binary_scalar, hf]
  exact eval_index_map (eval_index_map hbinary hA hv) hv hw

theorem eval_add_element (hA : A.eval scope = .ok (.matrix g)) (hB : B.eval scope = .ok (.matrix h))
    (hg : g.WellFormed) (hh : h.WellFormed) (hshape : g.shape = h.shape)
    (hi : i.position scope = .ok p) (hj : j.position scope = .ok q) (hp : p < g.rows)
    (hq : q < g.cols) :
    (Expr.index (.index (.binary .add A B) i) j).eval scope =
      (Expr.binary .add (.index (.index A i) j) (.index (.index B i) j)).eval scope := by
  obtain ⟨hrows, hcols⟩ := Shape.mk.inj hshape
  obtain ⟨t, ht, htshape, hcell⟩ := hg.exists_add hh hshape
  obtain ⟨htrows, htcols⟩ := Shape.mk.inj htshape
  have hsum : (Expr.binary .add A B).eval scope = .ok (.matrix t) := by
    rw [eval_binary hA hB, Value.binary, ht]
    rfl
  rw [eval_element hsum (hg.add hh ht) hi hj (htrows ▸ hp) (htcols ▸ hq), hcell p hp q hq,
    eval_binary (eval_element hA hg hi hj hp hq)
      (eval_element hB hh hi hj (hrows ▸ hp) (hcols ▸ hq))]
  rfl

theorem eval_transpose_element (hA : A.eval scope = .ok (.matrix g)) (hg : g.WellFormed)
    (hi : i.position scope = .ok p) (hj : j.position scope = .ok q) (hp : p < g.rows)
    (hq : q < g.cols) :
    (Expr.index (.index (.transpose A) j) i).eval scope =
      (Expr.index (.index A i) j).eval scope := by
  have htranspose : (Expr.transpose A).eval scope = .ok (.matrix g.transpose) := by
    rw [Expr.eval, hA]
    rfl
  rw [eval_element htranspose hg.transpose hj hi hq hp, eval_element hA hg hi hj hp hq,
    Grid.cell_transpose hp hq]

end Matrix

theorem position_of_scalar {e : Expr} {m : Scalar} (he : e.eval scope = .ok (.scalar m))
    (hm : 0 ≤ m.val) : e.position scope = .ok m.val.toNat := by
  unfold Expr.position
  rw [he]
  exact if_pos hm

/-- Matrices, rows and scalars compute alike. At positions that a matrix has, an operation with a
    scalar on the right gives the same before an element or a row is taken out as after it, and
    fails on both sides exactly for a division by zero. The same holds of sums and products with
    a scalar on the left, of sums of matrices, of negatives and of transposes. -/
theorem eval_arithmetic (hscope : scope.WellFormed) {A B s i j : Expr} {g h : Grid Scalar}
    {n p q : Scalar} (hA : A.eval scope = .ok (.matrix g)) (hB : B.eval scope = .ok (.matrix h))
    (hs : s.eval scope = .ok (.scalar n)) (hi : i.eval scope = .ok (.scalar p))
    (hj : j.eval scope = .ok (.scalar q)) (hp : 0 ≤ p.val ∧ p.val < g.rows)
    (hq : 0 ≤ q.val ∧ q.val < g.cols) :
    (∀ op, (Expr.index (.index (.binary op A s) i) j).eval scope =
        (Expr.binary op (.index (.index A i) j) s).eval scope ∧
      (Expr.index (.binary op A s) i).eval scope =
        (Expr.binary op (.index A i) s).eval scope) ∧
    (∀ op, op = .div ∧ n = 0 →
      (Expr.binary op (.index (.index A i) j) s).eval scope = .error .divisionByZero ∧
      (Expr.binary op (.index A i) s).eval scope = .error .divisionByZero) ∧
    (∀ op, ¬(op = .div ∧ n = 0) →
      (∃ b, (Expr.binary op (.index (.index A i) j) s).eval scope = .ok (.scalar b)) ∧
      ∃ w, (Expr.binary op (.index A i) s).eval scope = .ok (.vector w)) ∧
    (∀ op, op = .add ∨ op = .mul →
      (Expr.index (.index (.binary op s A) i) j).eval scope =
        (Expr.binary op s (.index (.index A i) j)).eval scope) ∧
    (g.shape = h.shape →
      (Expr.index (.index (.binary .add A B) i) j).eval scope =
        (Expr.binary .add (.index (.index A i) j) (.index (.index B i) j)).eval scope) ∧
    (Expr.index (.index (.neg A) i) j).eval scope =
      (Expr.neg (.index (.index A i) j)).eval scope ∧
    (Expr.index (.index (.transpose A) j) i).eval scope =
      (Expr.index (.index A i) j).eval scope := by
  have hg : g.WellFormed := wellFormed_eval hscope hA
  have hh : h.WellFormed := wellFormed_eval hscope hB
  have hip := position_of_scalar hi hp.1
  have hjq := position_of_scalar hj hq.1
  have hpr : p.val.toNat < g.rows := by omega
  have hqc : q.val.toNat < g.cols := by omega
  have ha := eval_element hA hg hip hjq hpr hqc
  obtain ⟨r, hr⟩ := exists_eval_row hA hip hpr
  refine ⟨fun op => (eval_positions_binary op hA hs hr ha).symm, fun op hop => ?_, fun op hop => ?_,
    fun op hop => eval_scalar_binary hop hA hs hr ha,
    fun hshape => eval_add_element hA hB hg hh hshape hip hjq hpr hqc, ?_,
    eval_transpose_element hA hg hip hjq hpr hqc⟩
  · have hwith := (withScalar_cases op n).1 hop
    rw [eval_binary ha hs, eval_binary hr hs, Value.binary_scalar, Value.binary_scalar, hwith]
    exact ⟨rfl, rfl⟩
  · obtain ⟨f, hf⟩ := (withScalar_cases op n).2 hop
    rw [eval_binary ha hs, eval_binary hr hs, Value.binary_scalar, Value.binary_scalar, hf]
    exact ⟨⟨_, rfl⟩, _, rfl⟩
  · have hneg := eval_neg hA
    rw [Value.negate_eq_map] at hneg
    rw [eval_neg ha, Value.negate_eq_map]
    exact eval_index_map (eval_index_map hneg hA hr) hr ha

/-- Matrices with the least scalar, whose quotient by `-1` and whose negative wrap. -/
def edgeScope : Scope :=
  (Scope.empty.bind "A" (.matrix ⟨1, 2, #[.wrap .i64 IntType.i64.least, .wrap .i64 5]⟩)).bind "B"
    (.matrix ⟨1, 2, #[.wrap .i64 IntType.i64.least, .wrap .i64 (-7)]⟩)

theorem wellFormed_edgeScope : edgeScope.WellFormed := by
  refine (Scope.wellFormed_empty.bind "A" ?_).bind "B" ?_
  · exact ⟨Nat.one_pos, Nat.two_pos, rfl⟩
  · exact ⟨Nat.one_pos, Nat.two_pos, rfl⟩

/-- The least scalar divided by `-1` is itself, before it is taken out of the matrix and after. -/
theorem eval_arithmetic_edgeScope :
    edgeScope.WellFormed ∧
    (Expr.index (.index (.binary .div (.var "A") (.neg (.int (.wrap .i64 1)))) (.int 0))
      (.int 0)).eval edgeScope = .ok (.scalar (.wrap .i64 IntType.i64.least)) ∧
    (Expr.index (.index (.binary .add (.var "A") (.var "B")) (.int 0)) (.int 0)).eval edgeScope =
      .ok (.scalar 0) := by
  have hA : (Expr.var "A").eval edgeScope =
      .ok (.matrix ⟨1, 2, #[.wrap .i64 IntType.i64.least, .wrap .i64 5]⟩) := by decide +kernel
  have hB : (Expr.var "B").eval edgeScope =
      .ok (.matrix ⟨1, 2, #[.wrap .i64 IntType.i64.least, .wrap .i64 (-7)]⟩) := by decide +kernel
  have hs : (Expr.neg (.int (.wrap .i64 1))).eval edgeScope = .ok (.scalar (.wrap .i64 (-1))) := by
    decide +kernel
  have hzero : (Expr.int 0).eval edgeScope = .ok (.scalar 0) := by rw [Expr.eval]
  obtain ⟨hscalar, -, -, -, hsum, -⟩ := eval_arithmetic wellFormed_edgeScope hA hB hs hzero hzero
    ⟨by decide, by decide⟩ ⟨by decide, by decide⟩
  refine ⟨wellFormed_edgeScope, (hscalar .div).1.trans ?_, (hsum rfl).trans ?_⟩
  · decide +kernel
  · decide +kernel

end Gridscript.Script
