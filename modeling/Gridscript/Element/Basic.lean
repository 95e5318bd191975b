/-
  Elements of a grid: integers of a fixed width whose arithmetic wraps.

  An `IntType` is a width in bits and a sign. Its values are the `2 ^ width` integers from
  `least` on, and `reduce` is the map from all integers onto them that keeps the class
  modulo `2 ^ width`. Every operation on elements is the operation on integers followed by
  one `reduce`.
-/

namespace Gridscript

/-- A fixed-width integer type. -/
structure IntType where
  width : Nat
  signed : Bool
  width_pos : 0 < width := by decide
deriving DecidableEq

namespace IntType

def i8 : IntType := ⟨8, true, by decide⟩

def i16 : IntType := ⟨16, true, by decide⟩

def i32 : IntType := ⟨32, true, by decide⟩

/-- The type of script scalars and of the grids that scripts and commands handle. -/
def i64 : IntType := ⟨64, true, by decide⟩

def i128 : IntType := ⟨128, true, by decide⟩

def u8 : IntType := ⟨8, false, by decide⟩

def u16 : IntType := ⟨16, false, by decide⟩

def u32 : IntType := ⟨32, false, by decide⟩

def u64 : IntType := ⟨64, false, by decide⟩

/-- Number of values of the type. -/
def modulus (τ : IntType) : Int := Nat.pow 2 τ.width

/-- The least value of the type. -/
def least (τ : IntType) : Int := if τ.signed then -(Nat.pow 2 (τ.width - 1) : Nat) else 0

/-- The values of the type are the `modulus` integers from `least` on. -/
def InRange (τ : IntType) (n : Int) : Prop := τ.least ≤ n ∧ n < τ.least + τ.modulus

instance (τ : IntType) (n : Int) : Decidable (τ.InRange n) :=
  inferInstanceAs (Decidable (_ ∧ _))

/-- The value of the type in the class of `n` modulo `modulus`. -/
def reduce (τ : IntType) (n : Int) : Int := τ.least + (n - τ.least) % τ.modulus

theorem modulus_pos (τ : IntType) : 0 < τ.modulus :=
  Int.natCast_pos.2 (Nat.two_pow_pos τ.width)

theorem inRange_reduce (τ : IntType) (n : Int) : τ.InRange (τ.reduce n) := by
  have h1 := Int.emod_nonneg (n - τ.least) (Int.ne_of_gt τ.modulus_pos)
  have h2 := Int.emod_lt_of_pos (n - τ.least) τ.modulus_pos
  unfold InRange reduce
  omega

/-- A value of the type stands for itself. -/
theorem reduce_of_inRange {τ : IntType} {n : Int} (h : τ.InRange n) : τ.reduce n = n := by
  unfold InRange at h
  rw [reduce, Int.emod_eq_of_lt (by omega) (by omega)]
  omega

/-- Half of the values lie below the power of two that is left after the sign bit. -/
theorem modulus_eq_two_mul (τ : IntType) : τ.modulus = 2 * (Nat.pow 2 (τ.width - 1) : Nat) := by
  obtain ⟨w, s, hw⟩ := τ
  cases w with
  | zero => exact absurd hw (Nat.lt_irrefl 0)
  | succ k =>
      have h : Nat.pow 2 (k + 1) = Nat.pow 2 k * 2 := rfl
      simp only [modulus, h, Nat.add_sub_cancel]
      omega

theorem inRange_zero (τ : IntType) : τ.InRange 0 := by
  have h : 0 < Nat.pow 2 (τ.width - 1) := Nat.two_pow_pos _
  have hm := τ.modulus_eq_two_mul
  unfold InRange least
  split <;> omega

end IntType

/-- An element: an integer of the given type. -/
structure Element (τ : IntType) where
  val : Int
  inRange : τ.InRange val
deriving DecidableEq

namespace Element

variable {τ : IntType}

@[ext]
theorem ext {a b : Element τ} (h : a.val = b.val) : a = b := by
  cases a; cases b; cases h; rfl

/-- The element in the class of `n`. -/
def wrap (τ : IntType) (n : Int) : Element τ := ⟨τ.reduce n, τ.inRange_reduce n⟩

/-- The element `n`, if the type has it. -/
def ofInt? (τ : IntType) (n : Int) : Option (Element τ) :=
  if h : τ.InRange n then some ⟨n, h⟩ else none

instance : Zero (Element τ) := ⟨⟨0, τ.inRange_zero⟩⟩

instance : Inhabited (Element τ) := ⟨0⟩

instance : Add (Element τ) := ⟨fun a b => wrap τ (a.val + b.val)⟩

instance : Sub (Element τ) := ⟨fun a b => wrap τ (a.val - b.val)⟩

instance : Mul (Element τ) := ⟨fun a b => wrap τ (a.val * b.val)⟩

instance : Neg (Element τ) := ⟨fun a => wrap τ (-a.val)⟩

/-- Quotient cut off toward zero, wrapped: the least value divided by `-1` is itself. -/
def quotient (a b : Element τ) : Element τ := wrap τ (a.val.tdiv b.val)

/-- Quotient cut off toward zero, if the divisor is not zero and the type has the quotient. -/
def quotient? (a b : Element τ) : Option (Element τ) :=
  if b = 0 then none else ofInt? τ (a.val.tdiv b.val)

/-- The quotient, or the negative of `a` where there is none. By a divisor other than zero, that
    is the least value divided by `-1` alone. -/
def quotientOrNeg (a b : Element τ) : Element τ := (a.quotient? b).getD (-a)

@[simp] theorem val_wrap (n : Int) : (wrap τ n).val = τ.reduce n := rfl

@[simp] theorem val_zero : (0 : Element τ).val = 0 := rfl

@[simp] theorem val_add (a b : Element τ) : (a + b).val = τ.reduce (a.val + b.val) := rfl

@[simp] theorem val_sub (a b : Element τ) : (a - b).val = τ.reduce (a.val - b.val) := rfl

@[simp] theorem val_mul (a b : Element τ) : (a * b).val = τ.reduce (a.val * b.val) := rfl

@[simp] theorem val_neg (a : Element τ) : (-a).val = τ.reduce (-a.val) := rfl

@[simp] theorem wrap_val (a : Element τ) : wrap τ a.val = a :=
  ext (IntType.reduce_of_inRange a.inRange)

theorem ofInt?_val (a : Element τ) : ofInt? τ a.val = some a := by
  simp [ofInt?, a.inRange]

end Element

end Gridscript
