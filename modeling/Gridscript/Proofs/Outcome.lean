/-
  What the success or failure of a chain of outcomes says about its links.
-/
import Mathlib.Data.List.Forall2

namespace Gridscript.Outcome

variable {ε ε' α β : Type}

theorem bind_eq_ok_iff (x : Except ε α) (f : α → Except ε β) (b : β) :
    (x >>= f) = .ok b ↔ ∃ a, x = .ok a ∧ f a = .ok b := by
  cases x with
  | error e => exact ⟨fun h => (by cases h), fun ⟨_, h, _⟩ => (by cases h)⟩
  | ok a => exact ⟨fun h => ⟨a, rfl, h⟩, fun ⟨_, h, hf⟩ => (by cases h; exact hf)⟩

theorem bind_eq_error_iff (x : Except ε α) (f : α → Except ε β) (e : ε) :
    (x >>= f) = .error e ↔ x = .error e ∨ ∃ a, x = .ok a ∧ f a = .error e := by
  cases x with
  | error e' =>
      constructor
      · intro h
        cases h
        exact .inl rfl
      · rintro (h | ⟨a, ha, -⟩)
        · cases h
          rfl
        · cases ha
  | ok a =>
      constructor
      · exact fun h => .inr ⟨a, rfl, h⟩
      · rintro (h | ⟨b, hb, hf⟩)
        · cases h
        · cases hb
          exact hf

theorem mapError_eq_ok_iff (x : Except ε α) (f : ε → ε') (a : α) :
    x.mapError f = .ok a ↔ x = .ok a := by
  cases x with
  | error e => exact ⟨fun h => (by cases h), fun h => (by cases h)⟩
  | ok b => exact ⟨fun h => (by cases h; rfl), fun h => (by cases h; rfl)⟩

theorem map_eq_ok_iff (x : Except ε α) (f : α → β) (b : β) :
    x.map f = .ok b ↔ ∃ a, x = .ok a ∧ f a = b := by
  cases x with
  | error e => exact ⟨fun h => (by cases h), fun ⟨_, h, _⟩ => (by cases h)⟩
  | ok a =>
      constructor
      · intro h
        cases h
        exact ⟨a, rfl, rfl⟩
      · intro h'
        obtain ⟨_, h, rfl⟩ := h'
        cases h
        rfl

theorem map_eq_error_iff (x : Except ε α) (f : α → β) (e : ε) :
    x.map f = .error e ↔ x = .error e := by
  cases x with
  | error e' => exact ⟨fun h => (by cases h; rfl), fun h => (by cases h; rfl)⟩
  | ok a => exact ⟨fun h => (by cases h), fun h => (by cases h)⟩

/-- Two outcomes that succeed under one condition, the second with the image of the first. -/
theorem eq_ok_iff_of_image {x : Except ε α} {y : Except ε β} {f : α → β} {c : Prop}
    (hx : (∃ a, x = .ok a) → c) (hy : (∃ b, y = .ok b) → c)
    (h : c → ∃ a, x = .ok a ∧ y = .ok (f a)) (b : β) :
    y = .ok b ↔ ∃ a, x = .ok a ∧ f a = b := by
  constructor
  · intro hb
    obtain ⟨a, ha, hfa⟩ := h (hy ⟨b, hb⟩)
    rw [hfa] at hb
    exact ⟨a, ha, Except.ok.inj hb⟩
  · intro h'
    obtain ⟨a, ha, rfl⟩ := h'
    obtain ⟨a', ha', hfa⟩ := h (hx ⟨a, ha⟩)
    rw [ha] at ha'
    rw [hfa, Except.ok.inj ha']

/-- Two outcomes that succeed under one condition and then give the same. -/
theorem ok_iff_ok_of_common {x y : Except ε α} {c : Prop} (hx : (∃ a, x = .ok a) → c)
    (hy : (∃ a, y = .ok a) → c) (h : c → ∃ a, x = .ok a ∧ y = .ok a) :
    ((∃ a, x = .ok a) ↔ c) ∧ ∀ a, x = .ok a ↔ y = .ok a := by
  refine ⟨⟨hx, fun hc => ?_⟩, fun a => ?_⟩
  · obtain ⟨a, ha, -⟩ := h hc
    exact ⟨a, ha⟩
  · constructor
    · intro ha
      obtain ⟨b, hb, hyb⟩ := h (hx ⟨a, ha⟩)
      rw [hyb, ← hb, ha]
    · intro ha
      obtain ⟨b, hb, hyb⟩ := h (hy ⟨a, ha⟩)
      rw [hb, ← hyb, ha]

/-- A walk over a list succeeds exactly if every step does, and gives what the steps give. -/
theorem mapM_eq_ok_iff (f : α → Except ε β) (xs : List α) (ys : List β) :
    xs.mapM f = .ok ys ↔ List.Forall₂ (fun x y => f x = .ok y) xs ys := by
  induction xs generalizing ys with
  | nil =>
      rw [List.forall₂_nil_left_iff]
      exact ⟨fun h => (by cases h; rfl), fun h => (by rw [h]; rfl)⟩
  | cons x xs ih =>
      rw [List.mapM_cons, bind_eq_ok_iff, List.forall₂_cons_left_iff]
      constructor
      · intro h'
        obtain ⟨y, hy, h⟩ := h'
        obtain ⟨ys', hys, h⟩ := (bind_eq_ok_iff _ _ _).1 h
        cases h
        exact ⟨y, ys', hy, (ih ys').1 hys, rfl⟩
      · intro heq
        obtain ⟨y, ys', hy, hys, rfl⟩ := heq
        exact ⟨y, hy, (bind_eq_ok_iff _ _ _).2 ⟨ys', (ih ys').2 hys, rfl⟩⟩

/-- A walk over a list fails exactly if a step does, and as the first of those. -/
theorem mapM_eq_error_iff (f : α → Except ε β) (xs : List α) (e : ε) :
    xs.mapM f = .error e ↔
      ∃ before x after, xs = before ++ x :: after ∧ (∀ y ∈ before, ∃ b, f y = .ok b) ∧
        f x = .error e := by
  induction xs with
  | nil =>
      constructor
      · intro h
        cases h
      · rintro ⟨before, x, after, hxs, -⟩
        cases before <;> cases hxs
  | cons x xs ih =>
      rw [List.mapM_cons, bind_eq_error_iff]
      constructor
      · rintro (h | ⟨y, hy, h⟩)
        · exact ⟨[], x, xs, rfl, nofun, h⟩
        · rcases (bind_eq_error_iff _ _ _).1 h with h | ⟨ys, -, h⟩
          · obtain ⟨before, z, after, rfl, hbefore, hz⟩ := ih.1 h
            refine ⟨x :: before, z, after, rfl, fun w hw => ?_, hz⟩
            rcases List.mem_cons.1 hw with rfl | hw
            · exact ⟨y, hy⟩
            · exact hbefore w hw
          · cases h
      · rintro ⟨before, z, after, hxs, hbefore, hz⟩
        cases before with
        | nil =>
            cases hxs
            exact .inl hz
        | cons w before =>
            cases hxs
            obtain ⟨y, hy⟩ := hbefore x List.mem_cons_self
            refine .inr ⟨y, hy, (bind_eq_error_iff _ _ _).2 (.inl (ih.2 ?_))⟩
            exact ⟨before, z, after, rfl, fun v hv => hbefore v (List.mem_cons_of_mem _ hv), hz⟩

end Gridscript.Outcome
