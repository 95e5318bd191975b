/-
  What an expression depends on.

  `Expr.names` lists the variables that occur in an expression. Evaluation looks up no others, so
  an expression has the same value or the same failure in all scopes that agree on them
  (`eval_congr`): binding a variable that does not occur in it changes nothing.
-/
import Gridscript.Proofs.Script.Kinds

namespace Gridscript.Script

/-- The variables that occur in an expression. -/
def Expr.names : Expr → List String
  | int _ => []
  | var name => [name]
  | neg e => e.names
  | transpose e => e.names
  | binary _ lhs rhs => lhs.names ++ rhs.names
  | index target position => target.names ++ position.names

/-- The scopes have the same values for the variables of an expression. -/
def AgreeOn (s t : Scope) (e : Expr) : Prop := ∀ name ∈ e.names, s.find? name = t.find? name

variable {s t : Scope}

theorem AgreeOn.append {e a b : Expr} (he : e.names = a.names ++ b.names) (h : AgreeOn s t e) :
    AgreeOn s t a ∧ AgreeOn s t b := by
  unfold AgreeOn at h
  rw [he] at h
  exact ⟨fun name ha => h name (List.mem_append_left _ ha),
    fun name hb => h name (List.mem_append_right _ hb)⟩

/-- Scopes that agree on the variables of an expression give it one outcome. -/
theorem eval_congr (e : Expr) (h : AgreeOn s t e) : e.eval s = e.eval t := by
  fun_induction Expr.eval s e with
  | case1 n => rw [Expr.eval]
  | case2 name v hv => rw [Expr.eval, ← h name List.mem_cons_self, hv]
  | case3 name hv => rw [Expr.eval, ← h name List.mem_cons_self, hv]
  | case4 e ih => rw [Expr.eval, ih h]
  | case5 e ih => rw [Expr.eval, ih h]
  | case6 op lhs rhs ihl ihr =>
      obtain ⟨hl, hr⟩ := h.append rfl
      rw [Expr.eval, ihl hl, ihr hr]
  | case7 inner row col ihinner ihrow ihcol ihtarget =>
      obtain ⟨htarget, hcol⟩ := h.append rfl
      obtain ⟨hinner, hrow⟩ := htarget.append rfl
      rw [Expr.eval, ihinner hinner, ihrow hrow, ihcol hcol, ihtarget htarget]
  | case8 target position hne ihtarget ihposition =>
      obtain ⟨htarget, hposition⟩ := h.append rfl
      rw [Expr.eval, ihtarget htarget, ihposition hposition]
      exact hne

theorem eval_bind_of_not_mem {name : String} {e : Expr} (h : name ∉ e.names) (v : Value) :
    e.eval (s.bind name v) = e.eval s := by
  refine eval_congr e fun other hother => ?_
  have hne : other ≠ name := fun heq => h (heq ▸ hother)
  exact s.find?_bind_of_ne hne v

end Gridscript.Script
