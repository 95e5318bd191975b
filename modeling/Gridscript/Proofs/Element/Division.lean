/-
  Quotients of a fixed-width type.

  A quotient cut off toward zero is no larger than the dividend, and at most half as large unless
  the divisor is `1` or `-1`. So it is a value of the type of its operands, but for one case: the
  least value of a signed type divided by `-1` (`inRange_tdiv_of_not_least`). There the quotient is
  the negative of the dividend, and wrapping the one is wrapping the other: looking for the quotient
  in the type and falling back on the negative gives what wrapping the quotient gives
  (`quotientOrNeg_eq_quotient`).

  The quotient times the divisor lies between zero and the dividend, so it is in the type as well,
  and what is left of the dividend is smaller than the divisor and has the sign of the dividend
  (`isQuotient_quotientOrNeg`).
-/
import Gridscript.Element.Basic

namespace Gridscript

variable {τ : IntType}

theorem IntType.inRange_tdiv {a b : Int} (ha : τ.InRange a) (hb : τ.InRange b) (hzero : b ≠ 0)
    (hminus : b ≠ -1) : τ.InRange (a.tdiv b) := by
  by_cases hone : b = 1
  · rwa [hone, Int.tdiv_one]
  · have hhalf : (a.tdiv b).natAbs ≤ a.natAbs / 2 := by
      rw [Int.natAbs_tdiv]
      exact Nat.div_le_div_left (by omega) (by decide)
    have hnonneg : 0 ≤ a → 0 ≤ b → 0 ≤ a.tdiv b := Int.tdiv_nonneg
    have hmodulus := τ.modulus_eq_two_mul
    by_cases hsigned : τ.signed = true
    · simp only [InRange, least, if_pos hsigned] at ha ⊢
      omega
    · simp only [InRange, least, if_neg hsigned] at ha hb ⊢
      omega

/-- The quotient leaves the type in no other case. -/
theorem IntType.inRange_tdiv_of_not_least {a b : Int} (ha : τ.InRange a) (hb : τ.InRange b)
    (hzero : b ≠ 0) (h : ¬(τ.signed = true ∧ a = τ.least ∧ b = -1)) : τ.InRange (a.tdiv b) := by
  by_cases hminus : b = -1
  · have hneg : a.tdiv b = -a := by rw [hminus, Int.tdiv_neg, Int.tdiv_one]
    have hmodulus := τ.modulus_eq_two_mul
    have hsigned : τ.signed = true := by
      -- An unsigned type has no negative values.
      by_cases hs : τ.signed = true
      · exact hs
      · simp only [InRange, least, if_neg hs] at hb
        omega
    have hleast : a ≠ τ.least := fun ha => h ⟨hsigned, ha, hminus⟩
    rw [hneg]
    simp only [InRange, least, if_pos hsigned] at ha hleast ⊢
    omega
  · exact inRange_tdiv ha hb hzero hminus

theorem IntType.reduce_neg_least (h : τ.signed = true) : τ.reduce (-τ.least) = τ.least := by
  have hmodulus := τ.modulus_eq_two_mul
  have hwhole : -τ.least - τ.least = τ.modulus := by
    simp only [least, if_pos h]
    omega
  rw [reduce, hwhole, Int.emod_self, Int.add_zero]

/-- What lies between zero and a value of the type is a value of the type. -/
theorem IntType.inRange_of_between {a n : Int} (ha : τ.InRange a)
    (h : 0 ≤ n ∧ n ≤ a ∨ a ≤ n ∧ n ≤ 0) : τ.InRange n := by
  have hzero := τ.inRange_zero
  unfold InRange at *
  omega

/-- The remainder lies between zero and the dividend, and so does what it leaves. -/
theorem tdiv_mul_between (a b : Int) :
    0 ≤ a.tdiv b * b ∧ a.tdiv b * b ≤ a ∨ a ≤ a.tdiv b * b ∧ a.tdiv b * b ≤ 0 := by
  have hsum := Int.tdiv_mul_add_tmod a b
  have hsmall : (a.tmod b).natAbs ≤ a.natAbs := by
    rw [Int.natAbs_tmod]
    exact Nat.mod_le _ _
  rcases Int.le_total 0 a with ha | ha
  · have hrest := Int.tmod_nonneg b ha
    omega
  · have hrest : 0 ≤ (-a).tmod b := Int.tmod_nonneg b (by omega)
    rw [Int.neg_tmod] at hrest
    omega

namespace Element

theorem val_ne_zero {b : Element τ} (h : b ≠ 0) : b.val ≠ 0 := fun hval => h (Element.ext hval)

/-- By a divisor other than zero, the quotient or else the negative is the wrapped quotient. -/
theorem quotientOrNeg_eq_quotient (a : Element τ) {b : Element τ} (hb : b ≠ 0) :
    a.quotientOrNeg b = a.quotient b := by
  unfold quotientOrNeg quotient? ofInt?
  rw [if_neg hb]
  split
  · rename_i hrange
    exact Element.ext (IntType.reduce_of_inRange hrange).symm
  · rename_i hrange
    have hminus : b.val = -1 := Decidable.byContradiction fun hne =>
      hrange (IntType.inRange_tdiv a.inRange b.inRange (val_ne_zero hb) hne)
    unfold quotient
    rw [hminus, Int.tdiv_neg, Int.tdiv_one]
    rfl

/-- `q` is the quotient of `a` by `s`: cut off toward zero, but for the one that the type does not
    have, which is the least value again; and `a` is the wrapped product of `q` and `s` and a rest
    that is smaller than `s` and not of the other sign than `a`. -/
structure IsQuotient (a s q : Element τ) : Prop where
  val_eq : q.val =
    if τ.signed = true ∧ a.val = τ.least ∧ s.val = -1 then τ.least else a.val.tdiv s.val
  exists_rest : ∃ r : Int, a.val = (wrap τ (q.val * s.val)).val + r ∧
    r.natAbs < s.val.natAbs ∧ (r = 0 ∨ r.sign = a.val.sign)

theorem isQuotient_quotientOrNeg (a : Element τ) {s : Element τ} (hs : s ≠ 0) :
    IsQuotient a s (a.quotientOrNeg s) := by
  have hzero := val_ne_zero hs
  rw [quotientOrNeg_eq_quotient a hs]
  by_cases hleast : τ.signed = true ∧ a.val = τ.least ∧ s.val = -1
  · -- The quotient is outside of the type, and nothing is left.
    obtain ⟨hsigned, ha, hminus⟩ := hleast
    have hwrapped := IntType.reduce_neg_least hsigned
    have hquotient : (a.quotient s).val = τ.least := by
      rw [quotient, val_wrap, hminus, Int.tdiv_neg, Int.tdiv_one, ha, hwrapped]
    refine ⟨by rw [if_pos ⟨hsigned, ha, hminus⟩, hquotient], 0, ?_, by omega, .inl rfl⟩
    rw [hquotient, hminus, val_wrap, Int.mul_neg, Int.mul_one, hwrapped, ha, Int.add_zero]
  · have hrange := IntType.inRange_tdiv_of_not_least a.inRange s.inRange hzero hleast
    have hquotient : (a.quotient s).val = a.val.tdiv s.val := IntType.reduce_of_inRange hrange
    have hproduct : τ.InRange (a.val.tdiv s.val * s.val) :=
      IntType.inRange_of_between a.inRange (tdiv_mul_between a.val s.val)
    refine ⟨by rw [if_neg hleast, hquotient], a.val.tmod s.val, ?_, ?_, ?_⟩
    · rw [hquotient, val_wrap, IntType.reduce_of_inRange hproduct, Int.tdiv_mul_add_tmod]
    · rw [Int.natAbs_tmod]
      exact Nat.mod_lt _ (Int.natAbs_pos.2 hzero)
    · by_cases hdvd : s.val ∣ a.val
      · exact .inl (Int.tmod_eq_zero_of_dvd hdvd)
      · exact .inr (by rw [Int.sign_tmod, if_neg hdvd])

end Element

end Gridscript
