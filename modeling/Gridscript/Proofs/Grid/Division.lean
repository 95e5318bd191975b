/-
  Grids and rows divided by a scalar.

  Both keep their cells in one sequence and divide them by the same map, so what holds of the
  quotient of an element (`Element.IsQuotient`) holds of each of their cells, in its place
  (`forall₂_quotients`). There is no quotient by zero and there is one by every other scalar, in
  every type, because the one quotient that a type does not have is wrapped.
-/
import Gridscript.Grid.Algebra
import Gridscript.Proofs.Element.Division
import Mathlib.Data.List.Forall2

namespace Gridscript

variable {τ : IntType}

theorem forall₂_quotients (cells : Array (Element τ)) {s : Element τ} (hs : s ≠ 0) :
    List.Forall₂ (fun a q => Element.IsQuotient a s q) cells.toList
      (cells.map (·.quotientOrNeg s)).toList := by
  rw [Array.toList_map, List.forall₂_map_right_iff, List.forall₂_same]
  intro a _
  exact Element.isQuotient_quotientOrNeg a hs

/-- An optional result that is missing for zero only. -/
theorem ite_zero_eq_none_iff {α : Type} (s : Element τ) (a : α) :
    (if s = 0 then none else some a) = none ↔ s = 0 := by
  by_cases hs : s = 0
  · rw [if_pos hs]
    exact iff_of_true rfl hs
  · rw [if_neg hs]
    exact iff_of_false nofun hs

/-- Division by a scalar in every type, of grids and of rows. There is no result exactly if the
    scalar is zero. Otherwise the shape stays, and the cells are the quotients of those in the same
    places: cut off toward zero, with the least value for the least value divided by `-1`. -/
theorem divide?_exact (s : Element τ) :
    (∀ g : Grid (Element τ), (g.divide? s = none ↔ s = 0) ∧
      (s ≠ 0 → ∃ q, g.divide? s = some q ∧ q.shape = g.shape ∧
        List.Forall₂ (fun a q => Element.IsQuotient a s q) g.cells.toList q.cells.toList)) ∧
    ∀ r : Row (Element τ), (r.divide? s = none ↔ s = 0) ∧
      (s ≠ 0 → ∃ q, r.divide? s = some q ∧ q.length = r.length ∧
        List.Forall₂ (fun a q => Element.IsQuotient a s q) r.cells.toList q.cells.toList) := by
  constructor
  · intro g
    refine ⟨ite_zero_eq_none_iff s _, fun hs => ?_⟩
    exact ⟨_, if_neg hs, rfl, forall₂_quotients g.cells hs⟩
  · intro r
    refine ⟨ite_zero_eq_none_iff s _, fun hs => ?_⟩
    exact ⟨_, if_neg hs, Array.size_map, forall₂_quotients r.cells hs⟩

/-- The least value of a type, and values around zero. -/
def leastRow : Row (Element .i8) :=
  ⟨#[.wrap .i8 (-128), .wrap .i8 127, .wrap .i8 (-7), .wrap .i8 0]⟩

theorem divide?_exact_leastRow :
    (.wrap .i8 (-1) : Element .i8) ≠ 0 ∧ ∃ q, leastRow.divide? (.wrap .i8 (-1)) = some q ∧
      q.length = 4 ∧ List.Forall₂ (fun a q => Element.IsQuotient a (.wrap .i8 (-1)) q)
        leastRow.cells.toList q.cells.toList := by
  have hs : (.wrap .i8 (-1) : Element .i8) ≠ 0 := by decide
  exact ⟨hs, ((divide?_exact (.wrap .i8 (-1))).2 leastRow).2 hs⟩

example : (leastRow.divide? (.wrap .i8 (-1))).map (fun q => q.cells.toList.map (·.val)) =
    some [-128, -127, 7, 0] := by
  decide +kernel

end Gridscript
