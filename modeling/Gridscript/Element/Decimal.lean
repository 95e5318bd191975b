/-
  Decimal text of integers and elements.

  Written: a minus sign for a negative integer, then its digits with no leading zero. Read: an
  optional sign, at least one ASCII digit and nothing else, with any number of leading zeros,
  and the integer has to be one of the type. Only signed types take a minus sign, so `-0` is
  no unsigned integer. `ofText?_text` says that what is written is read back.
-/
import Gridscript.Element.Basic

namespace Gridscript

namespace Decimal

/-- The natural number that a non-empty run of ASCII digits stands for. -/
def natural? (digits : List Char) : Option Nat :=
  if digits ≠ [] ∧ digits.all Char.isDigit then some (Nat.ofDigitChars 10 digits 0) else none

/-- The integer that a decimal text stands for; `signed` allows a minus sign. -/
def integer? (signed : Bool) : List Char → Option Int
  | '+' :: digits => (natural? digits).map Int.ofNat
  | '-' :: digits => if signed then (natural? digits).map (fun n => -Int.ofNat n) else none
  | digits => (natural? digits).map Int.ofNat

/-- Decimal text of an integer. -/
def text : Int → List Char
  | .ofNat n => Nat.toDigits 10 n
  | .negSucc n => '-' :: Nat.toDigits 10 (n + 1)

theorem natural?_toDigits (n : Nat) : natural? (Nat.toDigits 10 n) = some n := by
  have hne : Nat.toDigits 10 n ≠ [] := by
    have := Nat.length_toDigits_pos (b := 10) (n := n)
    intro h
    simp [h] at this
  have hall : (Nat.toDigits 10 n).all Char.isDigit = true :=
    List.all_eq_true.2 fun _ hc => Nat.isDigit_of_mem_toDigits (by decide) (by decide) hc
  simp only [natural?, hne, hall, ne_eq, not_false_eq_true, and_self, if_true,
    Nat.ofDigitChars_toDigits (by decide : 1 < 10) (by decide)]

/-- A run of digits is read without its sign being asked for. -/
theorem integer?_of_digits (signed : Bool) (ds : List Char) (h : ds.all Char.isDigit = true) :
    integer? signed ds = (natural? ds).map Int.ofNat := by
  unfold integer?
  split
  · simp [Char.isDigit] at h
  · simp [Char.isDigit] at h
  · rfl

theorem integer?_text (signed : Bool) (n : Int) (h : signed = true ∨ 0 ≤ n) :
    integer? signed (text n) = some n := by
  cases n with
  | ofNat n =>
      rw [text, integer?_of_digits, natural?_toDigits]
      · rfl
      · exact List.all_eq_true.2 fun _ hc =>
          Nat.isDigit_of_mem_toDigits (by decide) (by decide) hc
  | negSucc n =>
      have hs : signed = true := by
        rcases h with h | h
        · exact h
        · simp at h
      simp [text, integer?, hs, natural?_toDigits, Int.negSucc_eq]

end Decimal

namespace Element

variable {τ : IntType}

/-- Decimal text of an element. -/
def text (a : Element τ) : List Char := Decimal.text a.val

/-- The element that a decimal text stands for. -/
def ofText? (τ : IntType) (cs : List Char) : Option (Element τ) :=
  (Decimal.integer? τ.signed cs).bind (ofInt? τ)

theorem ofText?_text (a : Element τ) : ofText? τ a.text = some a := by
  have h : τ.signed = true ∨ 0 ≤ a.val := by
    have hr := a.inRange.1
    unfold IntType.least at hr
    cases hs : τ.signed
    · exact .inr (by simpa [hs] using hr)
    · exact .inl rfl
  simp [ofText?, text, Decimal.integer?_text _ _ h, ofInt?_val]

end Element

end Gridscript
