/-
  Laws of the algebra of grids.

  Arithmetic wraps after every step, and the laws hold all the same. A cell of a product is the
  sum of products taken over the integers and reduced once (`multiply_exact`). Products of three
  grids do not depend on the order in which they are taken (`multiply_assoc`). Exchanging rows
  and columns undoes itself, turns products around and goes through sums (`transpose_laws`).
  Sums and multiples may be taken before a product or after it (`multiply_bilinear`).
  Products exist only for shapes that fit; each law also says for which shapes its two sides
  exist, so that neither side can exist without the other.
-/
import Gridscript.Proofs.Grid.Matrix
import Gridscript.Proofs.Outcome

namespace Gridscript.Grid

variable {τ : IntType} {a b c p : Grid (Element τ)}

/-! ## Shapes that fit -/

theorem multiply_of_ne (h : a.cols ≠ b.rows) :
    a.multiply b = .error (.shape (.incompatible .multiply a.shape b.shape)) := if_neg h

theorem exists_multiply_iff (a b : Grid (Element τ)) :
    (∃ p, a.multiply b = .ok p) ↔ a.cols = b.rows := by
  constructor
  · rintro ⟨p, hp⟩
    by_contra h
    rw [multiply_of_ne h] at hp
    cases hp
  · intro h
    exact ⟨_, multiply_eq rfl h rfl rfl⟩

theorem shape_of_multiply (h : a.multiply b = .ok p) : p.rows = a.rows ∧ p.cols = b.cols := by
  have hfits := (exists_multiply_iff a b).1 ⟨p, h⟩
  rw [multiply_eq rfl hfits rfl rfl] at h
  cases h
  exact ⟨rfl, rfl⟩

theorem exists_add_iff (a b : Grid (Element τ)) :
    (∃ s, a.add b = .ok s) ↔ a.shape = b.shape := by
  unfold add
  split
  · rename_i h
    exact iff_of_true ⟨_, rfl⟩ h
  · rename_i h
    refine iff_of_false ?_ h
    rintro ⟨s, hs⟩
    cases hs

theorem shape_transpose (g : Grid (Element τ)) : g.transpose.shape = ⟨g.cols, g.rows⟩ := rfl

theorem shape_transpose_eq_iff (a b : Grid (Element τ)) :
    a.transpose.shape = b.transpose.shape ↔ a.shape = b.shape := by
  rw [shape_transpose, shape_transpose, shape, shape, Shape.mk.injEq, Shape.mk.injEq, and_comm]

/-! ## Products -/

/-- It does not matter whether each step of a sum of products wraps or the whole does once. -/
theorem sum_mul_eq_wrap (p : ℕ) (f h : ℕ → Element τ) :
    ∑ k : Fin p, f k * h k =
      Element.wrap τ (∑ k ∈ Finset.range p, (f k).val * (h k).val) := by
  show _ = ((∑ k ∈ Finset.range p, (f k).val * (h k).val : ℤ) : Element τ)
  rw [Fin.sum_univ_eq_sum_range fun k => f k * h k]
  simp only [Int.cast_sum, Int.cast_mul, Element.intCast_val]

/-- Products exist exactly if the columns of the one are as many as the rows of the other; else
    both shapes are reported. A cell of a product is the only value of its type that is
    congruent, modulo the number of values, to the sum of products over the integers. -/
theorem multiply_exact (ha : a.WellFormed) (hb : b.WellFormed) :
    (a.multiply b = .error (.shape (.incompatible .multiply a.shape b.shape)) ↔
      a.cols ≠ b.rows) ∧
    (a.cols = b.rows → ∃ p, a.multiply b = .ok p ∧ p.WellFormed ∧ p.shape = ⟨a.rows, b.cols⟩ ∧
      ∀ i < a.rows, ∀ j < b.cols, ∃ e, p.get i j = .ok e ∧ ∀ z : ℤ,
        τ.InRange z ∧ z ≡ ∑ k ∈ Finset.range a.cols, (a.cell i k).val * (b.cell k j).val
          [ZMOD τ.modulus] ↔ z = e.val) := by
  refine ⟨⟨fun h hfits => ?_, multiply_of_ne⟩, fun hfits => ?_⟩
  · obtain ⟨p, hp⟩ := (exists_multiply_iff a b).2 hfits
    rw [hp] at h
    cases h
  · have hp := multiply_eq (a := a) (b := b) rfl rfl hfits.symm rfl
    have hwf := ha.multiply hb hp
    refine ⟨_, hp, hwf, rfl, fun i hi j hj => ⟨_, hwf.get_eq_cell hi hj, fun z => ?_⟩⟩
    have hcell := cell_ofMatrix (a.matrix a.rows a.cols * b.matrix a.cols b.cols) ⟨i, hi⟩ ⟨j, hj⟩
    have hsum := sum_mul_eq_wrap a.cols (fun k => a.cell i k) fun k => b.cell k j
    rw [IntType.inRange_and_modEq_iff, hcell, Matrix.mul_apply]
    show z = _ ↔ z = (∑ k : Fin a.cols, a.cell i k * b.cell k j).val
    rw [hsum, Element.val_wrap]

/-- A grid whose products leave the type. -/
def peaks : Grid (Element .i8) :=
  ⟨2, 2, #[.wrap .i8 100, .wrap .i8 (-128), .wrap .i8 127, .wrap .i8 3]⟩

/-- Another such grid. -/
def slopes : Grid (Element .i8) :=
  ⟨2, 2, #[.wrap .i8 2, .wrap .i8 127, .wrap .i8 (-128), .wrap .i8 5]⟩

theorem wellFormed_peaks : peaks.WellFormed := ⟨by decide, by decide, rfl⟩

theorem wellFormed_slopes : slopes.WellFormed := ⟨by decide, by decide, rfl⟩

/-- The sum `100 * 2 + -128 * -128` is `16584` and wraps to `-56`. -/
theorem multiply_exact_peaks_slopes :
    peaks.WellFormed ∧ slopes.WellFormed ∧
      ∃ p e, peaks.multiply slopes = .ok p ∧ p.get 0 0 = .ok e ∧ e.val = -56 := by
  obtain ⟨p, hp, -, -, hcells⟩ := (multiply_exact wellFormed_peaks wellFormed_slopes).2 rfl
  obtain ⟨e, he, hvalue⟩ := hcells 0 (by decide) 0 (by decide)
  have hval : -56 = e.val := (hvalue (-56)).1 ⟨by decide, by decide⟩
  exact ⟨wellFormed_peaks, wellFormed_slopes, p, e, hp, he, hval.symm⟩

theorem fits_of_multiply_left {g : Grid (Element τ)}
    (h : (a.multiply b >>= fun p => p.multiply c) = .ok g) :
    a.cols = b.rows ∧ b.cols = c.rows := by
  obtain ⟨p, hp, hg⟩ := (Outcome.bind_eq_ok_iff _ _ _).1 h
  have hpc := (exists_multiply_iff p c).1 ⟨g, hg⟩
  rw [(shape_of_multiply hp).2] at hpc
  exact ⟨(exists_multiply_iff a b).1 ⟨p, hp⟩, hpc⟩

theorem fits_of_multiply_right {g : Grid (Element τ)}
    (h : (b.multiply c >>= fun q => a.multiply q) = .ok g) :
    a.cols = b.rows ∧ b.cols = c.rows := by
  obtain ⟨q, hq, hg⟩ := (Outcome.bind_eq_ok_iff _ _ _).1 h
  have haq := (exists_multiply_iff a q).1 ⟨g, hg⟩
  rw [(shape_of_multiply hq).1] at haq
  exact ⟨haq, (exists_multiply_iff b c).1 ⟨q, hq⟩⟩

theorem multiply_left_eq (hab : a.cols = b.rows) (hbc : b.cols = c.rows) :
    (a.multiply b >>= fun p => p.multiply c) = .ok (ofMatrix
      (a.matrix a.rows b.rows * b.matrix b.rows b.cols * c.matrix b.cols c.cols)) := by
  rw [multiply_eq rfl hab rfl rfl]
  exact ofMatrix_multiply _ hbc.symm rfl

theorem multiply_right_eq (hab : a.cols = b.rows) (hbc : b.cols = c.rows) :
    (b.multiply c >>= fun q => a.multiply q) = .ok (ofMatrix
      (a.matrix a.rows b.rows * (b.matrix b.rows b.cols * c.matrix b.cols c.cols))) := by
  rw [multiply_eq rfl rfl hbc.symm rfl]
  exact multiply_ofMatrix rfl hab _

/-- The product of three grids exists in both orders or in none, for shapes that fit, and is the
    same in both. -/
theorem multiply_assoc (a b c : Grid (Element τ)) :
    ((∃ g, (a.multiply b >>= fun p => p.multiply c) = .ok g) ↔
      a.cols = b.rows ∧ b.cols = c.rows) ∧
    ∀ g, (a.multiply b >>= fun p => p.multiply c) = .ok g ↔
      (b.multiply c >>= fun q => a.multiply q) = .ok g := by
  by_cases hfits : a.cols = b.rows ∧ b.cols = c.rows
  · rw [multiply_left_eq hfits.1 hfits.2, multiply_right_eq hfits.1 hfits.2, Matrix.mul_assoc]
    exact ⟨iff_of_true ⟨_, rfl⟩ hfits, fun g => Iff.rfl⟩
  · refine ⟨iff_of_false ?_ hfits, fun g => iff_of_false ?_ ?_⟩
    · rintro ⟨g, hg⟩
      exact hfits (fits_of_multiply_left hg)
    · exact fun hg => hfits (fits_of_multiply_left hg)
    · exact fun hg => hfits (fits_of_multiply_right hg)

/-! ## Transposes -/

/-- The product of the transposes, in reverse order, is the transpose of the product. -/
theorem multiply_transpose (h : a.cols = b.rows) :
    ∃ p, a.multiply b = .ok p ∧ b.transpose.multiply a.transpose = .ok p.transpose := by
  refine ⟨_, multiply_eq rfl h rfl rfl, ?_⟩
  rw [transpose_ofMatrix, Matrix.transpose_mul, ← matrix_transpose rfl rfl,
    ← matrix_transpose rfl h]
  exact multiply_eq rfl rfl h rfl

/-- The sum of the transposes is the transpose of the sum. -/
theorem add_transpose (ha : a.WellFormed) (hb : b.WellFormed) (h : a.shape = b.shape) :
    ∃ s, a.add b = .ok s ∧ a.transpose.add b.transpose = .ok s.transpose := by
  obtain ⟨hrows, hcols⟩ := Shape.mk.inj h
  refine ⟨_, add_eq ha hb h rfl rfl, ?_⟩
  rw [transpose_ofMatrix, Matrix.transpose_add, ← matrix_transpose rfl rfl,
    ← matrix_transpose hrows.symm hcols.symm]
  exact add_eq ha.transpose hb.transpose ((shape_transpose_eq_iff a b).2 h) rfl rfl

/-- Transposing twice changes nothing. A product exists exactly if the product of the transposes
    in reverse order does, which is then its transpose; and a sum exactly if the sum of the
    transposes does, which is then its transpose. -/
theorem transpose_laws (ha : a.WellFormed) (hb : b.WellFormed) :
    a.transpose.transpose = a ∧
    (((∃ p, a.multiply b = .ok p) ↔ a.cols = b.rows) ∧
      ∀ g, b.transpose.multiply a.transpose = .ok g ↔
        ∃ p, a.multiply b = .ok p ∧ p.transpose = g) ∧
    (((∃ s, a.add b = .ok s) ↔ a.shape = b.shape) ∧
      ∀ g, a.transpose.add b.transpose = .ok g ↔ ∃ s, a.add b = .ok s ∧ s.transpose = g) := by
  refine ⟨ha.transpose_transpose, ⟨exists_multiply_iff a b, ?_⟩, exists_add_iff a b, ?_⟩
  · refine Outcome.eq_ok_iff_of_image (exists_multiply_iff a b).1 (fun h => ?_) multiply_transpose
    exact ((exists_multiply_iff _ _).1 h).symm
  · refine Outcome.eq_ok_iff_of_image (exists_add_iff a b).1 (fun h => ?_) (add_transpose ha hb)
    exact (shape_transpose_eq_iff a b).1 ((exists_add_iff _ _).1 h)

theorem transpose_laws_peaks_slopes :
    peaks.WellFormed ∧ slopes.WellFormed ∧ peaks.transpose.transpose = peaks ∧
      (∃ p, peaks.multiply slopes = .ok p ∧
        slopes.transpose.multiply peaks.transpose = .ok p.transpose) ∧
      ∃ s, peaks.add slopes = .ok s ∧ peaks.transpose.add slopes.transpose = .ok s.transpose := by
  obtain ⟨htwice, ⟨hmultiply, hproduct⟩, hadd, hsum⟩ :=
    transpose_laws wellFormed_peaks wellFormed_slopes
  obtain ⟨p, hp⟩ := hmultiply.2 rfl
  obtain ⟨s, hs⟩ := hadd.2 rfl
  exact ⟨wellFormed_peaks, wellFormed_slopes, htwice, ⟨p, hp, (hproduct _).2 ⟨p, hp, rfl⟩⟩,
    s, hs, (hsum _).2 ⟨s, hs, rfl⟩⟩

/-! ## Sums and multiples -/

section Bilinear

variable {a' b' : Grid (Element τ)}

theorem shape_of_add {t : Grid (Element τ)} (h : a.add b = .ok t) : t.shape = a.shape := by
  unfold add at h
  split at h
  · cases h
    rfl
  · cases h

theorem fits_of_add_multiply {g : Grid (Element τ)}
    (h : (a.add a' >>= fun t => t.multiply b) = .ok g) :
    a.shape = a'.shape ∧ a.cols = b.rows := by
  obtain ⟨t, ht, hg⟩ := (Outcome.bind_eq_ok_iff _ _ _).1 h
  have htb := (exists_multiply_iff t b).1 ⟨g, hg⟩
  rw [(Shape.mk.inj (shape_of_add ht)).2] at htb
  exact ⟨(exists_add_iff a a').1 ⟨t, ht⟩, htb⟩

theorem fits_of_multiply_add {g : Grid (Element τ)}
    (h : (b.add b' >>= fun t => a.multiply t) = .ok g) :
    b.shape = b'.shape ∧ a.cols = b.rows := by
  obtain ⟨t, ht, hg⟩ := (Outcome.bind_eq_ok_iff _ _ _).1 h
  have hat := (exists_multiply_iff a t).1 ⟨g, hg⟩
  rw [(Shape.mk.inj (shape_of_add ht)).1] at hat
  exact ⟨(exists_add_iff b b').1 ⟨t, ht⟩, hat⟩

/-- The sum of two products. -/
def addProducts (a b a' b' : Grid (Element τ)) : Except GridFault (Grid (Element τ)) :=
  a.multiply b >>= fun p => a'.multiply b' >>= fun q => p.add q

/-- Products can be added if their outer sizes are the same. -/
theorem fits_of_addProducts {g : Grid (Element τ)} (h : addProducts a b a' b' = .ok g) :
    (a.cols = b.rows ∧ a'.cols = b'.rows) ∧ a.rows = a'.rows ∧ b.cols = b'.cols := by
  obtain ⟨p, hp, h⟩ := (Outcome.bind_eq_ok_iff _ _ _).1 h
  obtain ⟨q, hq, h⟩ := (Outcome.bind_eq_ok_iff _ _ _).1 h
  obtain ⟨hrows, hcols⟩ := Shape.mk.inj ((exists_add_iff p q).1 ⟨g, h⟩)
  rw [(shape_of_multiply hp).1, (shape_of_multiply hq).1] at hrows
  rw [(shape_of_multiply hp).2, (shape_of_multiply hq).2] at hcols
  exact ⟨⟨(exists_multiply_iff a b).1 ⟨p, hp⟩, (exists_multiply_iff a' b').1 ⟨q, hq⟩⟩, hrows, hcols⟩

theorem addProducts_eq {n k k' m : ℕ} (hn : a.rows = n) (hak : a.cols = k) (hkb : b.rows = k)
    (hm : b.cols = m) (hn' : a'.rows = n) (hak' : a'.cols = k') (hkb' : b'.rows = k')
    (hm' : b'.cols = m) :
    addProducts a b a' b' =
      .ok (ofMatrix (a.matrix n k * b.matrix k m + a'.matrix n k' * b'.matrix k' m)) := by
  unfold addProducts
  rw [multiply_eq hn hak hkb hm, multiply_eq hn' hak' hkb' hm']
  exact ofMatrix_add _ _

theorem add_multiply (ha : a.WellFormed) (ha' : a'.WellFormed) (hshape : a.shape = a'.shape)
    (hfits : a.cols = b.rows) :
    ∃ g, (a.add a' >>= fun t => t.multiply b) = .ok g ∧ addProducts a b a' b = .ok g := by
  obtain ⟨hrows, hcols⟩ := Shape.mk.inj hshape
  refine ⟨_, ?_, addProducts_eq rfl rfl hfits.symm rfl hrows.symm hcols.symm hfits.symm rfl⟩
  rw [add_eq ha ha' hshape rfl rfl, ← Matrix.add_mul]
  exact ofMatrix_multiply _ hfits.symm rfl

theorem multiply_add (hb : b.WellFormed) (hb' : b'.WellFormed) (hshape : b.shape = b'.shape)
    (hfits : a.cols = b.rows) :
    ∃ g, (b.add b' >>= fun t => a.multiply t) = .ok g ∧ addProducts a b a b' = .ok g := by
  obtain ⟨hrows, hcols⟩ := Shape.mk.inj hshape
  refine ⟨_, ?_, addProducts_eq rfl hfits rfl rfl rfl hfits hrows.symm hcols.symm⟩
  rw [add_eq hb hb' hshape rfl rfl, ← Matrix.mul_add]
  exact multiply_ofMatrix rfl hfits _

/-- A multiple of a product is the product of a multiple of either factor. -/
theorem multiply_scale (ha : a.WellFormed) (hb : b.WellFormed) (s : Element τ)
    (hfits : a.cols = b.rows) :
    ∃ p, a.multiply b = .ok p ∧ (a.scale s).multiply b = .ok (p.scale s) ∧
      a.multiply (b.scale s) = .ok (p.scale s) := by
  refine ⟨_, multiply_eq rfl hfits rfl rfl, ?_, ?_⟩
  · rw [scale_ofMatrix, ← Matrix.smul_mul, ← ha.matrix_scale s rfl hfits]
    exact multiply_eq rfl hfits rfl rfl
  · rw [scale_ofMatrix, ← Matrix.mul_smul, ← hb.matrix_scale s rfl rfl]
    exact multiply_eq rfl hfits rfl rfl

/-- Products are linear in both factors. A sum times a grid is the sum of the products, and a
    grid times a sum likewise; either side exists exactly for summands of one shape that fits.
    Multiplying a factor by a scalar multiplies the product by it. -/
theorem multiply_bilinear (ha : a.WellFormed) (ha' : a'.WellFormed) (hb : b.WellFormed)
    (hb' : b'.WellFormed) (s : Element τ) :
    (((∃ g, (a.add a' >>= fun t => t.multiply b) = .ok g) ↔
        a.shape = a'.shape ∧ a.cols = b.rows) ∧
      ∀ g, (a.add a' >>= fun t => t.multiply b) = .ok g ↔
        (a.multiply b >>= fun p => a'.multiply b >>= fun q => p.add q) = .ok g) ∧
    (((∃ g, (b.add b' >>= fun t => a.multiply t) = .ok g) ↔
        b.shape = b'.shape ∧ a.cols = b.rows) ∧
      ∀ g, (b.add b' >>= fun t => a.multiply t) = .ok g ↔
        (a.multiply b >>= fun p => a.multiply b' >>= fun q => p.add q) = .ok g) ∧
    ((∃ p, a.multiply b = .ok p) ↔ a.cols = b.rows) ∧
    (∀ g, (a.scale s).multiply b = .ok g ↔ ∃ p, a.multiply b = .ok p ∧ p.scale s = g) ∧
    ∀ g, a.multiply (b.scale s) = .ok g ↔ ∃ p, a.multiply b = .ok p ∧ p.scale s = g := by
  refine ⟨?_, ?_, exists_multiply_iff a b, ?_, ?_⟩
  · refine Outcome.ok_iff_ok_of_common (fun h => ?_) (fun h => ?_)
      fun h => add_multiply ha ha' h.1 h.2
    · obtain ⟨g, hg⟩ := h
      exact fits_of_add_multiply hg
    · obtain ⟨g, hg⟩ := h
      obtain ⟨⟨hab, hab'⟩, hrows, -⟩ := fits_of_addProducts hg
      exact ⟨congrArg₂ Shape.mk hrows (hab.trans hab'.symm), hab⟩
  · refine Outcome.ok_iff_ok_of_common (fun h => ?_) (fun h => ?_)
      fun h => multiply_add hb hb' h.1 h.2
    · obtain ⟨g, hg⟩ := h
      exact fits_of_multiply_add hg
    · obtain ⟨g, hg⟩ := h
      obtain ⟨⟨hab, hab'⟩, -, hcols⟩ := fits_of_addProducts hg
      exact ⟨congrArg₂ Shape.mk (hab.symm.trans hab') hcols, hab⟩
  · refine Outcome.eq_ok_iff_of_image (exists_multiply_iff a b).1
      (exists_multiply_iff (a.scale s) b).1 fun hfits => ?_
    obtain ⟨p, hp, hleft, -⟩ := multiply_scale ha hb s hfits
    exact ⟨p, hp, hleft⟩
  · refine Outcome.eq_ok_iff_of_image (exists_multiply_iff a b).1
      (exists_multiply_iff a (b.scale s)).1 fun hfits => ?_
    obtain ⟨p, hp, -, hright⟩ := multiply_scale ha hb s hfits
    exact ⟨p, hp, hright⟩

theorem multiply_bilinear_peaks_slopes :
    peaks.WellFormed ∧ slopes.WellFormed ∧
      (∃ g, (peaks.add slopes >>= fun t => t.multiply slopes) = .ok g ∧
        (peaks.multiply slopes >>= fun p => slopes.multiply slopes >>= fun q => p.add q) =
          .ok g) ∧
      (∃ g, (slopes.add peaks >>= fun t => peaks.multiply t) = .ok g ∧
        (peaks.multiply slopes >>= fun p => peaks.multiply peaks >>= fun q => p.add q) = .ok g) ∧
      ∃ p, peaks.multiply slopes = .ok p ∧
        (peaks.scale (.wrap .i8 127)).multiply slopes = .ok (p.scale (.wrap .i8 127)) ∧
        peaks.multiply (slopes.scale (.wrap .i8 127)) = .ok (p.scale (.wrap .i8 127)) := by
  obtain ⟨⟨hleft, hleft'⟩, ⟨hright, hright'⟩, hproduct, hscale, hscale'⟩ :=
    multiply_bilinear wellFormed_peaks wellFormed_slopes wellFormed_slopes wellFormed_peaks
      (.wrap .i8 127)
  obtain ⟨g, hg⟩ := hleft.2 ⟨rfl, rfl⟩
  obtain ⟨g', hg'⟩ := hright.2 ⟨rfl, rfl⟩
  obtain ⟨p, hp⟩ := hproduct.2 rfl
  exact ⟨wellFormed_peaks, wellFormed_slopes, ⟨g, hg, (hleft' g).1 hg⟩,
    ⟨g', hg', (hright' g').1 hg'⟩, p, hp, (hscale _).2 ⟨p, hp, rfl⟩, (hscale' _).2 ⟨p, hp, rfl⟩⟩

end Bilinear

end Gridscript.Grid
