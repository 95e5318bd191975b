/-
  Grids as matrices.

  A grid lays the entries of a matrix out in one sequence, and the operations on grids compute
  offsets into that sequence. Here a grid is read as a matrix (`matrix`) and a matrix is laid out
  as a grid (`ofMatrix`); for well-formed grids the two are inverse. Through this view the
  operations are those of matrices over the ring of elements (`transpose_eq`, `multiply_eq`,
  `add_eq`, `scale_ofMatrix`), so laws of matrices hold of grids, and their proofs have no
  offsets in them.
-/
import Gridscript.Proofs.Element.Ring
import Gridscript.Proofs.Grid.WellFormed
import Mathlib.Algebra.BigOperators.Fin
import Mathlib.Data.Matrix.Mul

namespace Gridscript.Grid

/-! ## Reading and laying out -/

section View

variable {α : Type} {n m : ℕ}

/-- The grid with the entries of a matrix. -/
def ofMatrix (M : Matrix (Fin n) (Fin m) α) : Grid α :=
  ⟨n, m, Array.ofFn fun k : Fin (n * m) => M k.divNat k.modNat⟩

theorem map_ofMatrix {β : Type} (f : α → β) (M : Matrix (Fin n) (Fin m) α) :
    (ofMatrix M).map f = ofMatrix (M.map f) := by
  simp only [ofMatrix, Grid.map, Array.map_ofFn]
  rfl

variable [Inhabited α]

/-- The cells in the first `n` rows and `m` columns. -/
def matrix (n m : ℕ) (g : Grid α) : Matrix (Fin n) (Fin m) α := Matrix.of fun i j => g.cell i j

theorem cell_ofMatrix (M : Matrix (Fin n) (Fin m) α) (i : Fin n) (j : Fin m) :
    (ofMatrix M).cell i j = M i j := by
  have hlt : i.val * m + j.val < n * m := offset_lt i.isLt j.isLt
  have hplace : finProdFinEquiv (i, j) = ⟨i.val * m + j.val, hlt⟩ :=
    Fin.ext (by rw [finProdFinEquiv_apply_val, Nat.add_comm, Nat.mul_comm])
  have hback := finProdFinEquiv.symm_apply_apply (i, j)
  rw [hplace, finProdFinEquiv_symm_apply, Prod.mk.injEq] at hback
  simp [cell, ofMatrix, hlt, hback]

@[simp] theorem matrix_ofMatrix (M : Matrix (Fin n) (Fin m) α) : (ofMatrix M).matrix n m = M := by
  ext i j
  exact cell_ofMatrix M i j

/-- A well-formed grid is the layout of its matrix. -/
theorem WellFormed.ofMatrix_matrix {g : Grid α} (h : g.WellFormed) :
    ofMatrix (g.matrix g.rows g.cols) = g := by
  have hcells : (ofMatrix (g.matrix g.rows g.cols)).cells = g.cells := by
    refine Array.ext (by simp [ofMatrix, h.size_eq]) fun k hk hk' => ?_
    have hplace : k / g.cols * g.cols + k % g.cols = k := Nat.div_add_mod' k g.cols
    simp [ofMatrix, matrix, cell, hplace, hk']
  exact congrArg (Grid.mk g.rows g.cols) hcells

/-- Access to a place of a well-formed grid finds its cell. -/
theorem WellFormed.get_eq_cell {g : Grid α} (h : g.WellFormed) {i j : ℕ} (hi : i < g.rows)
    (hj : j < g.cols) : g.get i j = .ok (g.cell i j) := by
  have hlt := h.offset_lt_size hi hj
  simp [get, cell?, cell, hi, hj, hlt, Nat.not_le.2 hi]

/-! ## The operations -/

theorem transpose_eq {g : Grid α} (hn : g.rows = n) (hm : g.cols = m) :
    g.transpose = ofMatrix (g.matrix n m).transpose := by
  subst hn hm
  rfl

theorem transpose_ofMatrix (M : Matrix (Fin n) (Fin m) α) :
    (ofMatrix M).transpose = ofMatrix M.transpose := by
  have h : (ofMatrix M).transpose = ofMatrix ((ofMatrix M).matrix n m).transpose :=
    transpose_eq rfl rfl
  rwa [matrix_ofMatrix] at h

theorem matrix_transpose {g : Grid α} (hn : g.rows = n) (hm : g.cols = m) :
    g.transpose.matrix m n = (g.matrix n m).transpose := by
  rw [transpose_eq hn hm, matrix_ofMatrix]

theorem WellFormed.transpose_transpose {g : Grid α} (h : g.WellFormed) :
    g.transpose.transpose = g := by
  rw [transpose_eq (g := g) rfl rfl, transpose_ofMatrix, Matrix.transpose_transpose,
    h.ofMatrix_matrix]

theorem cell_transpose {g : Grid α} {i j : ℕ} (hi : i < g.rows) (hj : j < g.cols) :
    g.transpose.cell j i = g.cell i j := by
  rw [transpose_eq rfl rfl]
  exact cell_ofMatrix (g.matrix g.rows g.cols).transpose ⟨j, hj⟩ ⟨i, hi⟩

end View

section Algebra

variable {τ : IntType} {n m p : ℕ} {a b : Grid (Element τ)}

/-- A sum that is taken up term after term is the sum of the terms. -/
theorem dot_eq_sum (p : ℕ) (f h : ℕ → Element τ) : dot p f h = ∑ k : Fin p, f k * h k := by
  rw [Fin.sum_univ_eq_sum_range fun k => f k * h k]
  unfold dot
  induction p with
  | zero => rfl
  | succ p ih =>
      rw [List.range_succ, List.foldl_append, ih, Finset.sum_range_succ]
      rfl

theorem multiply_eq (hn : a.rows = n) (ha : a.cols = p) (hb : b.rows = p) (hm : b.cols = m) :
    a.multiply b = .ok (ofMatrix (a.matrix n p * b.matrix p m)) := by
  subst hn ha hm
  unfold multiply
  rw [if_pos hb.symm]
  simp only [dot_eq_sum]
  rfl

theorem ofMatrix_multiply (M : Matrix (Fin n) (Fin p) (Element τ)) (hb : b.rows = p)
    (hm : b.cols = m) : (ofMatrix M).multiply b = .ok (ofMatrix (M * b.matrix p m)) := by
  have h : (ofMatrix M).multiply b = .ok (ofMatrix ((ofMatrix M).matrix n p * b.matrix p m)) :=
    multiply_eq rfl rfl hb hm
  rwa [matrix_ofMatrix] at h

theorem multiply_ofMatrix (hn : a.rows = n) (ha : a.cols = p)
    (M : Matrix (Fin p) (Fin m) (Element τ)) :
    a.multiply (ofMatrix M) = .ok (ofMatrix (a.matrix n p * M)) := by
  have h : a.multiply (ofMatrix M) = .ok (ofMatrix (a.matrix n p * (ofMatrix M).matrix p m)) :=
    multiply_eq hn ha rfl rfl
  rwa [matrix_ofMatrix] at h

theorem add_eq (ha : a.WellFormed) (hb : b.WellFormed) (hshape : a.shape = b.shape)
    (hn : a.rows = n) (hm : a.cols = m) :
    a.add b = .ok (ofMatrix (a.matrix n m + b.matrix n m)) := by
  subst hn hm
  have hadd : a.add b = .ok ⟨a.rows, a.cols, Array.zipWith (· + ·) a.cells b.cells⟩ :=
    if_pos hshape
  rw [hadd, ← (ha.add hb hadd).ofMatrix_matrix]
  congr 2
  ext i j
  have hlt := ha.offset_lt_size i.isLt j.isLt
  have hcols : b.cols = a.cols := (Shape.mk.inj hshape).2.symm
  simp [matrix, cell, hlt, hcols, ha.size_eq_of_shape hb hshape]

theorem WellFormed.exists_add (ha : a.WellFormed) (hb : b.WellFormed)
    (hshape : a.shape = b.shape) :
    ∃ t, a.add b = .ok t ∧ t.shape = a.shape ∧
      ∀ i < a.rows, ∀ j < a.cols, t.cell i j = a.cell i j + b.cell i j := by
  refine ⟨_, add_eq ha hb hshape rfl rfl, rfl, fun i hi j hj => ?_⟩
  exact cell_ofMatrix (a.matrix a.rows a.cols + b.matrix a.rows a.cols) ⟨i, hi⟩ ⟨j, hj⟩

theorem ofMatrix_add (M N : Matrix (Fin n) (Fin m) (Element τ)) :
    (ofMatrix M).add (ofMatrix N) = .ok (ofMatrix (M + N)) := by
  have hshape : (ofMatrix M).shape = (ofMatrix N).shape := rfl
  have hcells : Array.zipWith (· + ·) (ofMatrix M).cells (ofMatrix N).cells =
      (ofMatrix (M + N)).cells :=
    Array.ext (by simp [ofMatrix]) fun k hk hk' => by simp [ofMatrix]
  unfold add
  rw [if_pos hshape, hcells]
  rfl

theorem scale_ofMatrix (M : Matrix (Fin n) (Fin m) (Element τ)) (s : Element τ) :
    (ofMatrix M).scale s = ofMatrix (s • M) := by
  have hentries : M.map (· * s) = s • M := by
    ext i j
    rw [Matrix.map_apply, Matrix.smul_apply, smul_eq_mul, mul_comm]
  rw [← hentries, ← map_ofMatrix]
  rfl

theorem WellFormed.matrix_scale (ha : a.WellFormed) (s : Element τ) (hn : a.rows = n)
    (hm : a.cols = m) : (a.scale s).matrix n m = s • a.matrix n m := by
  subst hn hm
  have hscale := scale_ofMatrix (a.matrix a.rows a.cols) s
  rw [ha.ofMatrix_matrix] at hscale
  rw [hscale, matrix_ofMatrix]

end Algebra

end Gridscript.Grid
