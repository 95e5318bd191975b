/-
  Assignments that do not depend on each other.

  Sessions are alike if they have the same settings, the same persistent names and the same values
  of variables, whatever the order in which the variables were bound. Nothing that a statement does
  tells alike sessions apart: they go through every program alike (`endAlike_execute`). Two
  assignments, each to a variable that does not occur in the other, lead to alike sessions in
  both orders or fail in both (`endAlike_exchange`). So they can be exchanged wherever they stand
  side by side in a program.
-/
import Gridscript.Proofs.Script.Composition
import Gridscript.Proofs.Script.Dependence

namespace Gridscript.Script

theorem Scope.find?_bind (s : Scope) (name : String) (v : Value) (other : String) :
    (s.bind name v).find? other = if other = name then some v else s.find? other := by
  by_cases h : other = name
  · rw [if_pos h, h, find?_bind_self]
  · rw [if_neg h, find?_bind_of_ne s h]

namespace Session

/-! ## Alike sessions -/

/-- The sessions differ at most in the order in which variables were bound. -/
structure Alike (s t : Session) : Prop where
  settings_eq : s.settings = t.settings
  persistent_eq : s.persistent = t.persistent
  find?_eq : ∀ name, s.scope.find? name = t.scope.find? name

variable {folder : Folder} {s t : Session}

theorem Alike.refl (s : Session) : Alike s s := ⟨rfl, rfl, fun _ => rfl⟩

theorem Alike.eval_eq (h : Alike s t) (e : Expr) : e.eval s.scope = e.eval t.scope :=
  eval_congr e fun name _ => h.find?_eq name

theorem Alike.bind (h : Alike s t) (name : String) (v : Value) :
    Alike (s.bind name v) (t.bind name v) := by
  refine ⟨h.settings_eq, h.persistent_eq, fun other => ?_⟩
  have hbound : (s.scope.bind name v).find? other = (t.scope.bind name v).find? other := by
    rw [Scope.find?_bind, Scope.find?_bind, h.find?_eq]
  exact hbound

theorem Alike.declare (h : Alike s t) (name : String) (line : Nat) (grid : Grid Scalar) :
    Alike (s.declare name line grid) (t.declare name line grid) := by
  have hbound := h.bind name (.matrix grid)
  refine ⟨h.settings_eq, ?_, hbound.find?_eq⟩
  unfold Session.declare
  rw [h.persistent_eq]

/-- It makes no difference which of two variables is bound first. -/
theorem Alike.bind_bind (h : Alike s t) {x y : String} (hxy : x ≠ y) (v w : Value) :
    Alike ((s.bind x v).bind y w) ((t.bind y w).bind x v) := by
  refine ⟨h.settings_eq, h.persistent_eq, fun name => ?_⟩
  have hbound : ((s.scope.bind x v).bind y w).find? name =
      ((t.scope.bind y w).bind x v).find? name := by
    rw [Scope.find?_bind, Scope.find?_bind, Scope.find?_bind, Scope.find?_bind, h.find?_eq]
    by_cases hx : name = x
    · have hy : name ≠ y := hx ▸ hxy
      rw [if_neg hy, if_pos hx, if_pos hx]
    · rw [if_neg hx, if_neg hx]
  exact hbound

/-! ## Executing in alike sessions -/

/-- Both ways to execute fail, or both succeed with the same report and alike sessions. -/
inductive EndAlike (p q : Progress Session (List Echo)) : Prop
  | fails {f g : Fault} (hp : p.result = .error f) (hq : q.result = .error g)
  | succeeds {echoed : List Echo} (hp : p.result = .ok echoed) (hq : q.result = .ok echoed)
      (hstate : Alike p.state q.state)

theorem EndAlike.andThen {p q : Progress Session (List Echo)}
    {next later : Session → Progress Session (List Echo)} (h : EndAlike p q)
    (hnext : ∀ s t, Alike s t → EndAlike (next s) (later t)) :
    EndAlike (p.andThen next) (q.andThen later) := by
  cases h with
  | fails hp hq =>
      rw [Progress.andThen_of_error hp, Progress.andThen_of_error hq]
      exact .fails hp hq
  | @succeeds echoed hp hq hstate =>
      rw [Progress.andThen_of_ok hp, Progress.andThen_of_ok hq]
      cases hnext _ _ hstate with
      | @fails f g hf hg =>
          have hleft : (next p.state).result.map (echoed ++ ·) = .error f := by rw [hf]; rfl
          have hright : (later q.state).result.map (echoed ++ ·) = .error g := by rw [hg]; rfl
          exact .fails hleft hright
      | @succeeds more hf hg hend =>
          have hleft : (next p.state).result.map (echoed ++ ·) = .ok (echoed ++ more) := by
            rw [hf]; rfl
          have hright : (later q.state).result.map (echoed ++ ·) = .ok (echoed ++ more) := by
            rw [hg]; rfl
          exact .succeeds hleft hright hend

theorem endAlike_of_error {stmt : Statement} {f g : Fault}
    (hs : (step folder s stmt).result = .error f) (ht : (step folder t stmt).result = .error g) :
    EndAlike (execute folder s [stmt]) (execute folder t [stmt]) := by
  rw [execute_cons_error hs, execute_cons_error ht]
  exact .fails rfl rfl

theorem endAlike_of_succeeds {stmt : Statement} {s' t' : Session} {shown : Option Value}
    (hs : Succeeds folder s stmt s' shown) (ht : Succeeds folder t stmt t' shown)
    (h : Alike s' t') : EndAlike (execute folder s [stmt]) (execute folder t [stmt]) := by
  rw [execute_cons_ok hs, execute_cons_ok ht]
  exact .succeeds rfl rfl h

/-- One statement does the same in alike sessions. -/
theorem endAlike_single (h : Alike s t) (stmt : Statement) :
    EndAlike (execute folder s [stmt]) (execute folder t [stmt]) := by
  obtain ⟨line, action⟩ := stmt
  cases action with
  | persistent name =>
      cases hs : (folder.loadGrid .i64 (s.settings.gridPath name)).result with
      | error f =>
          have ht := hs
          rw [h.settings_eq] at ht
          exact endAlike_of_error (congrArg Progress.result (step_persistent_of_error hs))
            (congrArg Progress.result (step_persistent_of_error ht))
      | ok grid =>
          have ht := hs
          rw [h.settings_eq] at ht
          exact endAlike_of_succeeds (succeeds_persistent hs line) (succeeds_persistent ht line)
            (h.declare name line grid)
  | assign name e =>
      cases hs : e.eval s.scope with
      | error c =>
          have ht := (h.eval_eq e).symm.trans hs
          exact endAlike_of_error (congrArg Progress.result (step_assign_of_error hs))
            (congrArg Progress.result (step_assign_of_error ht))
      | ok v =>
          have ht := (h.eval_eq e).symm.trans hs
          exact endAlike_of_succeeds (succeeds_assign hs folder line name)
            (succeeds_assign ht folder line name) (h.bind name v)
  | display e =>
      cases hs : e.eval s.scope with
      | error c =>
          have ht := (h.eval_eq e).symm.trans hs
          exact endAlike_of_error (congrArg Progress.result (step_display_of_error hs))
            (congrArg Progress.result (step_display_of_error ht))
      | ok v =>
          have ht := succeeds_display ((h.eval_eq e).symm.trans hs) folder line
          rw [← h.settings_eq] at ht
          exact endAlike_of_succeeds (succeeds_display hs folder line) ht h

/-- So does a program. -/
theorem endAlike_execute (h : Alike s t) (program : Program) :
    EndAlike (execute folder s program) (execute folder t program) := by
  induction program generalizing s t with
  | nil => exact .succeeds rfl rfl h
  | cons stmt rest ih =>
      rw [execute_cons folder s, execute_cons folder t]
      exact (endAlike_single h stmt).andThen fun _ _ hnext => ih hnext

/-! ## Exchanging assignments -/

theorem execute_assign_ok (folder : Folder) (line : Nat) (name : String) {e : Expr} {v : Value}
    (h : e.eval s.scope = .ok v) (rest : Program) :
    (execute folder s (⟨line, .assign name e⟩ :: rest)).result =
        (execute folder (s.bind name v) rest).result ∧
      (execute folder s (⟨line, .assign name e⟩ :: rest)).state =
        (execute folder (s.bind name v) rest).state := by
  rw [execute_cons_ok (succeeds_assign h folder line name)]
  refine ⟨?_, rfl⟩
  cases (execute folder (s.bind name v) rest).result <;> rfl

theorem execute_assign_error (folder : Folder) (line : Nat) (name : String) {e : Expr}
    {c : Cause} (h : e.eval s.scope = .error c) (rest : Program) :
    (execute folder s (⟨line, .assign name e⟩ :: rest)).result = .error ⟨line, c⟩ := by
  have hstep : (step folder s ⟨line, .assign name e⟩).result = .error ⟨line, c⟩ := by
    rw [step_assign_of_error h]
  rw [execute_cons_error hstep]

section Pair

variable {x y : String} {e d : Expr}

/-- Where the second of two assignments does not read what the first writes, both compute with the
    variables as they are before. -/
theorem execute_pair_ok (folder : Folder) (y : String) (j k : Nat) {v w : Value}
    (hx : x ∉ d.names) (he : e.eval s.scope = .ok v) (hd : d.eval s.scope = .ok w) :
    (execute folder s [⟨j, .assign x e⟩, ⟨k, .assign y d⟩]).result = .ok [] ∧
      (execute folder s [⟨j, .assign x e⟩, ⟨k, .assign y d⟩]).state =
        (s.bind x v).bind y w := by
  have hd' : d.eval (s.bind x v).scope = .ok w := (eval_bind_of_not_mem hx v).trans hd
  obtain ⟨hfirst, hmiddle⟩ := execute_assign_ok folder j x he [⟨k, .assign y d⟩]
  obtain ⟨hsecond, hend⟩ := execute_assign_ok folder k y hd' []
  rw [hfirst, hmiddle, hsecond, hend]
  exact ⟨rfl, rfl⟩

theorem execute_pair_error (folder : Folder) (y : String) (j k : Nat) (hx : x ∉ d.names)
    (h : (∃ c, e.eval s.scope = .error c) ∨ ∃ c, d.eval s.scope = .error c) :
    ∃ f, (execute folder s [⟨j, .assign x e⟩, ⟨k, .assign y d⟩]).result = .error f := by
  cases he : e.eval s.scope with
  | error c => exact ⟨_, execute_assign_error folder j x he _⟩
  | ok v =>
      obtain ⟨c, hc⟩ | ⟨c, hc⟩ := h
      · rw [he] at hc
        cases hc
      · have hd : d.eval (s.bind x v).scope = .error c := (eval_bind_of_not_mem hx v).trans hc
        rw [(execute_assign_ok folder j x he _).1]
        exact ⟨_, execute_assign_error folder k y hd []⟩

/-- Independent assignments in either order, in alike sessions. -/
theorem endAlike_exchange (folder : Folder) (i j k l : Nat) (h : Alike s t) (hxy : x ≠ y)
    (hx : x ∉ d.names) (hy : y ∉ e.names) :
    EndAlike (execute folder s [⟨i, .assign x e⟩, ⟨j, .assign y d⟩])
      (execute folder t [⟨k, .assign y d⟩, ⟨l, .assign x e⟩]) := by
  have hfails : ((∃ c, e.eval s.scope = .error c) ∨ ∃ c, d.eval s.scope = .error c) →
      EndAlike (execute folder s [⟨i, .assign x e⟩, ⟨j, .assign y d⟩])
        (execute folder t [⟨k, .assign y d⟩, ⟨l, .assign x e⟩]) := by
    intro hfault
    obtain ⟨f, hf⟩ := execute_pair_error folder y i j hx hfault
    rw [h.eval_eq e, h.eval_eq d] at hfault
    obtain ⟨g, hg⟩ := execute_pair_error folder x k l hy hfault.symm
    exact .fails hf hg
  cases he : e.eval s.scope with
  | error c => exact hfails (.inl ⟨c, he⟩)
  | ok v =>
      cases hd : d.eval s.scope with
      | error c => exact hfails (.inr ⟨c, hd⟩)
      | ok w =>
          have he' : e.eval t.scope = .ok v := (h.eval_eq e).symm.trans he
          have hd' : d.eval t.scope = .ok w := (h.eval_eq d).symm.trans hd
          obtain ⟨hforth, hstate⟩ := execute_pair_ok folder y i j hx he hd
          obtain ⟨hback, hstate'⟩ := execute_pair_ok folder x k l hy hd' he'
          refine .succeeds hforth hback ?_
          rw [hstate, hstate']
          exact h.bind_bind hxy v w

end Pair

/-- Evaluation reads its own variables only, and independent assignments commute. An expression has
    the same value, or the same failure, in any two sessions that agree on the variables that
    occur in it. Two assignments side by side in a program, to different variables neither of which
    occurs in the other's expression, can be exchanged: in both orders the program succeeds or in
    both it fails, and if it succeeds it reports the same and leaves the same values of all
    variables and the same persistent names. -/
theorem assignments_commute :
    (∀ (e : Expr) (s t : Session),
      (∀ name ∈ e.names, s.scope.find? name = t.scope.find? name) →
        e.eval s.scope = e.eval t.scope) ∧
    ∀ (folder : Folder) (s : Session) (before after : Program) (x y : String) (e d : Expr)
      (i j k l : Nat), x ≠ y → x ∉ d.names → y ∉ e.names →
      EndAlike (execute folder s (before ++ [⟨i, .assign x e⟩, ⟨j, .assign y d⟩] ++ after))
        (execute folder s (before ++ [⟨k, .assign y d⟩, ⟨l, .assign x e⟩] ++ after)) := by
  refine ⟨fun e s t h => eval_congr e h, ?_⟩
  intro folder s before after x y e d i j k l hxy hx hy
  have hbefore : EndAlike (execute folder s before) (execute folder s before) :=
    endAlike_execute (.refl s) before
  have hpair := hbefore.andThen fun _ _ h => endAlike_exchange folder i j k l h hxy hx hy
  rw [← execute_append, ← execute_append] at hpair
  rw [execute_append folder s _ after, execute_append folder s _ after]
  exact hpair.andThen fun _ _ h => endAlike_execute h after

/-- A session with one variable. -/
def oneVariable : Session := (start {}).bind "c" (.scalar (.wrap .i64 7))

/-- Two variables set from a third. -/
theorem assignments_commute_oneVariable :
    (execute .empty oneVariable
        [⟨1, .assign "a" (.var "c")⟩, ⟨2, .assign "b" (.neg (.var "c"))⟩]).result = .ok [] ∧
      EndAlike
        (execute .empty oneVariable
          [⟨1, .assign "a" (.var "c")⟩, ⟨2, .assign "b" (.neg (.var "c"))⟩])
        (execute .empty oneVariable
          [⟨1, .assign "b" (.neg (.var "c"))⟩, ⟨2, .assign "a" (.var "c")⟩]) := by
  constructor
  · exact (execute_pair_ok .empty "b" 1 2 (by decide) rfl rfl).1
  · exact assignments_commute.2 .empty oneVariable [] [] "a" "b" (.var "c") (.neg (.var "c"))
      1 2 1 2 (by decide) (by decide) (by decide)

end Session

end Gridscript.Script
