/-
  The ring of a fixed-width type.

  Every operation on elements is the operation on integers followed by one `wrap`, and two
  integers have the same `wrap` exactly if they are congruent modulo the number of values of the
  type (`wrap_eq_wrap_iff`). So it makes no difference where in a computation values are
  wrapped, and how often: `wrap` takes sums to sums and products to products, the elements are a
  commutative ring, and `wrap` is the map of the integers onto it.
-/
import Gridscript.Element.Basic
import Mathlib.Algebra.Ring.InjSurj
import Mathlib.Data.Int.ModEq

namespace Gridscript

variable {τ : IntType}

namespace IntType

theorem reduce_modEq (τ : IntType) (n : Int) : τ.reduce n ≡ n [ZMOD τ.modulus] := by
  unfold reduce
  calc τ.least + (n - τ.least) % τ.modulus
      ≡ τ.least + (n - τ.least) [ZMOD τ.modulus] := (Int.mod_modEq _ _).add_left _
    _ = n := add_sub_cancel _ _

theorem reduce_eq_reduce_iff {m n : Int} :
    τ.reduce m = τ.reduce n ↔ m ≡ n [ZMOD τ.modulus] := by
  constructor
  · intro h
    exact (τ.reduce_modEq m).symm.trans (h ▸ τ.reduce_modEq n)
  · intro h
    unfold reduce
    rw [h.sub_right τ.least]

/-- The value of the type in the class of `n` is the only one there. -/
theorem inRange_and_modEq_iff {m n : Int} :
    τ.InRange m ∧ m ≡ n [ZMOD τ.modulus] ↔ m = τ.reduce n := by
  constructor
  · intro h
    rw [← reduce_of_inRange h.1, reduce_eq_reduce_iff.2 h.2]
  · intro h
    rw [h]
    exact ⟨τ.inRange_reduce n, τ.reduce_modEq n⟩

end IntType

namespace Element

/-! ## Wrapping and the operations -/

theorem wrap_eq_wrap_iff {m n : Int} : wrap τ m = wrap τ n ↔ m ≡ n [ZMOD τ.modulus] := by
  rw [Element.ext_iff, val_wrap, val_wrap, IntType.reduce_eq_reduce_iff]

theorem wrap_surjective (τ : IntType) : Function.Surjective (wrap τ) :=
  fun a => ⟨a.val, wrap_val a⟩

theorem wrap_zero : wrap τ 0 = 0 := wrap_val 0

theorem wrap_add (m n : Int) : wrap τ (m + n) = wrap τ m + wrap τ n :=
  wrap_eq_wrap_iff.2 ((τ.reduce_modEq m).add (τ.reduce_modEq n)).symm

theorem wrap_mul (m n : Int) : wrap τ (m * n) = wrap τ m * wrap τ n :=
  wrap_eq_wrap_iff.2 ((τ.reduce_modEq m).mul (τ.reduce_modEq n)).symm

theorem wrap_neg (n : Int) : wrap τ (-n) = -wrap τ n :=
  wrap_eq_wrap_iff.2 (τ.reduce_modEq n).neg.symm

theorem wrap_sub (m n : Int) : wrap τ (m - n) = wrap τ m - wrap τ n :=
  wrap_eq_wrap_iff.2 ((τ.reduce_modEq m).sub (τ.reduce_modEq n)).symm

/-! ## The ring -/

instance : One (Element τ) := ⟨wrap τ 1⟩

instance : NatCast (Element τ) := ⟨fun n => wrap τ n⟩

instance : IntCast (Element τ) := ⟨wrap τ⟩

instance : SMul ℕ (Element τ) := ⟨fun k a => wrap τ (k * a.val)⟩

instance : SMul ℤ (Element τ) := ⟨fun k a => wrap τ (k * a.val)⟩

instance : Pow (Element τ) ℕ := ⟨fun a k => wrap τ (a.val ^ k)⟩

theorem wrap_nsmul (k : ℕ) (n : Int) : wrap τ (k * n) = k • wrap τ n :=
  wrap_eq_wrap_iff.2 ((τ.reduce_modEq n).mul_left k).symm

theorem wrap_zsmul (k n : Int) : wrap τ (k * n) = k • wrap τ n :=
  wrap_eq_wrap_iff.2 ((τ.reduce_modEq n).mul_left k).symm

theorem wrap_pow (n : Int) (k : ℕ) : wrap τ (n ^ k) = wrap τ n ^ k :=
  wrap_eq_wrap_iff.2 ((τ.reduce_modEq n).pow k).symm

instance : CommRing (Element τ) :=
  (wrap_surjective τ).commRing (wrap τ) wrap_zero rfl wrap_add wrap_mul wrap_neg wrap_sub
    wrap_nsmul wrap_zsmul wrap_pow (fun _ => rfl) (fun _ => rfl)

/-- Elements are the images of their values. -/
theorem intCast_val (a : Element τ) : (a.val : Element τ) = a := wrap_val a

end Element

end Gridscript
