/-
  Numerals: the decimal texts of integers, said without the reader.

  `Numeral signed cs n` gives the texts of `n` by their form: digits, digits after a plus sign,
  or digits after a minus sign where the type has one. The reader takes exactly these
  (`integer?_eq_some_iff`), and for elements exactly those of an integer of the type
  (`ofText?_eq_some_iff`), since an element carries the proof that it is one. Digits alone are
  the text of what they stand for with zeros in front (`ofText?_digits_iff`).
-/
import Mathlib.Data.List.Induction
import Gridscript.Element.Decimal

namespace Gridscript

namespace Decimal

/-- At least one ASCII digit and nothing else. -/
def Digits (ds : List Char) : Prop := ds ≠ [] ∧ ∀ c ∈ ds, c.isDigit = true

/-- The texts of an integer: digits under a sign or none, a minus sign only where `signed`
    allows it. -/
inductive Numeral (signed : Bool) : List Char → Int → Prop
  | bare {ds : List Char} (h : Digits ds) : Numeral signed ds (Nat.ofDigitChars 10 ds 0)
  | plus {ds : List Char} (h : Digits ds) :
      Numeral signed ('+' :: ds) (Nat.ofDigitChars 10 ds 0)
  | minus {ds : List Char} (hs : signed = true) (h : Digits ds) :
      Numeral signed ('-' :: ds) (-(Nat.ofDigitChars 10 ds 0 : Nat))

theorem natural?_eq_some_iff (ds : List Char) (n : Nat) :
    natural? ds = some n ↔ Digits ds ∧ n = Nat.ofDigitChars 10 ds 0 := by
  unfold natural? Digits
  rw [← List.all_eq_true]
  split
  · rename_i h
    simp [h, eq_comm]
  · rename_i h
    exact ⟨fun hn => (by cases hn), fun hn => absurd hn.1 h⟩

theorem integer?_eq_some_iff (signed : Bool) (cs : List Char) (n : Int) :
    integer? signed cs = some n ↔ Numeral signed cs n := by
  constructor
  · intro h
    unfold integer? at h
    split at h
    · obtain ⟨m, hm, rfl⟩ := Option.map_eq_some_iff.1 h
      obtain ⟨hd, rfl⟩ := (natural?_eq_some_iff _ _).1 hm
      exact .plus hd
    · split at h
      · rename_i hs
        obtain ⟨m, hm, rfl⟩ := Option.map_eq_some_iff.1 h
        obtain ⟨hd, rfl⟩ := (natural?_eq_some_iff _ _).1 hm
        exact .minus hs hd
      · cases h
    · obtain ⟨m, hm, rfl⟩ := Option.map_eq_some_iff.1 h
      obtain ⟨hd, rfl⟩ := (natural?_eq_some_iff _ _).1 hm
      exact .bare hd
  · intro h'
    obtain hd | hd | ⟨hs, hd⟩ := h'
    · rw [integer?_of_digits signed cs (List.all_eq_true.2 hd.2),
        (natural?_eq_some_iff _ _).2 ⟨hd, rfl⟩]
      rfl
    · simp only [integer?, (natural?_eq_some_iff _ _).2 ⟨hd, rfl⟩]
      rfl
    · simp only [integer?, if_pos hs, (natural?_eq_some_iff _ _).2 ⟨hd, rfl⟩]
      rfl

namespace Numeral

variable {signed : Bool} {cs : List Char} {n : Int}

theorem ne_nil (h : Numeral signed cs n) : cs ≠ [] := by
  cases h with
  | bare h => exact h.1
  | plus h => exact List.cons_ne_nil _ _
  | minus hs h => exact List.cons_ne_nil _ _

theorem mem (h : Numeral signed cs n) {c : Char} (hc : c ∈ cs) :
    c.isDigit = true ∨ c = '+' ∨ c = '-' := by
  cases h with
  | bare h => exact .inl (h.2 c hc)
  | plus h => exact (List.mem_cons.1 hc).elim (fun e => .inr (.inl e)) fun m => .inl (h.2 c m)
  | minus hs h => exact (List.mem_cons.1 hc).elim (fun e => .inr (.inr e)) fun m => .inl (h.2 c m)

/-- A text is a numeral of one integer only. -/
theorem unique {m : Int} (hm : Numeral signed cs m) (hn : Numeral signed cs n) : m = n := by
  rw [← integer?_eq_some_iff] at hm hn
  exact Option.some.inj (hm.symm.trans hn)

/-- Characters that are neither digits nor signs stand in no numeral. -/
theorem not_mem (h : Numeral signed cs n) {c : Char} (hd : c.isDigit = false) (hp : c ≠ '+')
    (hm : c ≠ '-') : c ∉ cs := by
  intro hc
  rcases h.mem hc with h | h | h
  · rw [hd] at h; cases h
  · exact hp h
  · exact hm h

end Numeral

/-! ## Zeros in front -/

theorem digitChar_of_isDigit {c : Char} (h : c.isDigit = true) :
    c.toNat - '0'.toNat < 10 ∧ Nat.digitChar (c.toNat - '0'.toNat) = c := by
  have hcodes : ∀ n ∈ List.range' 48 10, n - 48 < 10 ∧ Nat.digitChar (n - 48) = Char.ofNat n := by
    decide
  obtain ⟨hlo, hhi⟩ := Char.isDigit_iff_toNat.1 h
  have hmem : c.toNat ∈ List.range' 48 10 := List.mem_range'_1.2 ⟨hlo, Nat.lt_succ_of_le hhi⟩
  have hc := hcodes c.toNat hmem
  rwa [Char.ofNat_toNat] at hc

/-- Digits are those of their number, with any number of zeros in front. -/
theorem Digits.exists_zeros {ds : List Char} (h : Digits ds) :
    ∃ zeros, ds = List.replicate zeros '0' ++ Nat.toDigits 10 (Nat.ofDigitChars 10 ds 0) := by
  obtain ⟨hne, hall⟩ := h
  induction ds using List.reverseRecOn with
  | nil => exact absurd rfl hne
  | append_singleton ds d ih =>
      obtain ⟨hlt, hd⟩ := digitChar_of_isDigit (hall d (by simp))
      have hlast := Nat.toDigits_of_lt_base hlt
      rw [hd] at hlast
      have hvalue : Nat.ofDigitChars 10 (ds ++ [d]) 0 =
          10 * Nat.ofDigitChars 10 ds 0 + (d.toNat - '0'.toNat) := by
        rw [Nat.ofDigitChars_append, Nat.ofDigitChars_cons, Nat.ofDigitChars_nil]
      rw [hvalue]
      by_cases hds : ds = []
      · refine ⟨0, ?_⟩
        rw [hds, Nat.ofDigitChars_nil, Nat.mul_zero, Nat.zero_add, hlast]
        rfl
      · obtain ⟨zeros, hzeros⟩ := ih hds fun c hc => hall c (List.mem_append_left _ hc)
        generalize hv : Nat.ofDigitChars 10 ds 0 = value at hzeros
        rcases Nat.eq_zero_or_pos value with hzero | hpos
        · -- Only zeros so far: they all stand in front of the last digit.
          refine ⟨zeros + 1, ?_⟩
          rw [hzeros, hzero, Nat.toDigits_zero, Nat.mul_zero, Nat.zero_add, hlast,
            List.replicate_succ']
        · refine ⟨zeros, ?_⟩
          rw [← Nat.toDigits_append_toDigits (by decide) hpos hlt, hlast, hzeros,
            List.append_assoc]

theorem digits_zeros (zeros n : Nat) :
    Digits (List.replicate zeros '0' ++ Nat.toDigits 10 n) ∧
      Nat.ofDigitChars 10 (List.replicate zeros '0' ++ Nat.toDigits 10 n) 0 = n := by
  refine ⟨⟨?_, ?_⟩, ?_⟩
  · exact List.append_ne_nil_of_right_ne_nil _ Nat.toDigits_ne_nil
  · intro c hc
    rcases List.mem_append.1 hc with hc | hc
    · rw [List.eq_of_mem_replicate hc]
      rfl
    · exact Nat.isDigit_of_mem_toDigits (by decide) (by decide) hc
  · rw [Nat.ofDigitChars_append, Nat.ofDigitChars_replicate_zero, Nat.mul_zero,
      Nat.ofDigitChars_ten_toDigits]

end Decimal

/-- The elements that a text stands for are those that it is a numeral of. -/
theorem Element.ofText?_eq_some_iff {τ : IntType} (cs : List Char) (a : Element τ) :
    Element.ofText? τ cs = some a ↔ Decimal.Numeral τ.signed cs a.val := by
  rw [Element.ofText?, Option.bind_eq_some_iff]
  simp only [Decimal.integer?_eq_some_iff]
  constructor
  · intro h
    obtain ⟨n, hn, ha⟩ := h
    unfold Element.ofInt? at ha
    split at ha
    · cases ha; exact hn
    · cases ha
  · intro h
    exact ⟨a.val, h, Element.ofInt?_val a⟩

/-- Digits stand for the elements that are not negative and have the same text but for zeros in
    front. -/
theorem Element.ofText?_digits_iff {τ : IntType} {ds : List Char} (h : Decimal.Digits ds)
    (a : Element τ) :
    Element.ofText? τ ds = some a ↔
      0 ≤ a.val ∧ ∃ zeros, ds = List.replicate zeros '0' ++ a.text := by
  rw [Element.ofText?_eq_some_iff]
  constructor
  · intro hnumeral
    have hval := hnumeral.unique (.bare h)
    refine ⟨by omega, ?_⟩
    rw [Element.text, hval]
    exact h.exists_zeros
  · rintro ⟨hpos, zeros, hzeros⟩
    obtain ⟨n, hn⟩ := Int.eq_ofNat_of_zero_le hpos
    rw [Element.text, hn, show Decimal.text (n : Int) = Nat.toDigits 10 n from rfl] at hzeros
    have hvalue := (Decimal.digits_zeros zeros n).2
    rw [← hzeros] at hvalue
    rw [hn, ← hvalue]
    exact .bare h

end Gridscript
