/-
  Kinds of expressions.

  Which kind of value an expression has, if it has one, is decided by the kinds of the variables
  (`Expr.kind?`). Evaluation agrees with it (`agrees_eval`): a value has that kind, and an
  undefined name or an operation on the wrong kinds is met only where there is no kind. A
  position that is out of range, a division by zero or shapes that do not fit say nothing about
  the kind. Two scopes whose variables have the same kinds thus differ in no more than these.
-/
import Gridscript.Proofs.Outcome
import Gridscript.Script.Eval

namespace Gridscript.Script

namespace Kind

def transpose? : Kind → Option Kind
  | matrix => some matrix
  | _ => none

/-- The kind of what stands at a position. -/
def select? : Kind → Option Kind
  | matrix => some vector
  | vector => some scalar
  | scalar => none

/-- The kind of what stands at a position of some kind. Only scalars are positions. -/
def index? : Kind → Kind → Option Kind
  | target, scalar => target.select?
  | _, _ => none

/-- A scalar on the right goes with all kinds and operators. -/
def binary? : BinaryOp → Kind → Kind → Option Kind
  | _, k, scalar => some k
  | .add, scalar, k => some k
  | .mul, scalar, k => some k
  | .add, matrix, matrix => some matrix
  | .mul, matrix, matrix => some matrix
  | _, _, _ => none

end Kind

/-- The kind of an expression, where the variables have the given kinds. -/
def Expr.kind? (kinds : String → Option Kind) : Expr → Option Kind
  | int _ => some .scalar
  | var name => kinds name
  | neg e => e.kind? kinds
  | transpose e => (e.kind? kinds).bind Kind.transpose?
  | binary op lhs rhs =>
      (lhs.kind? kinds).bind fun a => (rhs.kind? kinds).bind fun b => Kind.binary? op a b
  | index target position =>
      (target.kind? kinds).bind fun a => (position.kind? kinds).bind fun b => a.index? b

/-- The kinds of the variables. -/
def Scope.kinds (s : Scope) (name : String) : Option Kind := (s.find? name).map Value.kind

/-- Causes that lie in names and kinds alone. -/
def Cause.isStatic : Cause → Bool
  | undefined _ => true
  | unsupported _ => true
  | _ => false

/-- A value has the kind, and a static cause is met only if there is none. -/
def Agrees (kind : Option Kind) : Except Cause Value → Prop
  | .ok v => kind = some v.kind
  | .error c => c.isStatic = true → kind = none

/-! ## Operations on values -/

theorem Agrees.bind {kind : Option Kind} {x : Except Cause Value} (hx : Agrees kind x)
    {next : Kind → Option Kind} {f : Value → Except Cause Value}
    (hf : ∀ v, Agrees (next v.kind) (f v)) : Agrees (kind.bind next) (x >>= f) := by
  cases x with
  | error c =>
      intro hc
      rw [hx hc]
      rfl
  | ok v =>
      rw [show kind = some v.kind from hx]
      exact hf v

/-- A fault of the algebra of grids says nothing about kinds. -/
theorem agrees_grid {α : Type} (x : Except GridFault α) (wrap : α → Value) {kind : Kind}
    (hwrap : ∀ a, (wrap a).kind = kind) :
    Agrees (some kind) ((x.mapError Cause.grid).map wrap) := by
  cases x with
  | error f => exact nofun
  | ok a => exact congrArg some (hwrap a).symm

theorem agrees_quotient {α : Type} (x : Option α) (wrap : α → Value) {kind : Kind}
    (hwrap : ∀ a, (wrap a).kind = kind) : Agrees (some kind) (Value.quotient wrap x) := by
  cases x with
  | none => exact nofun
  | some a => exact congrArg some (hwrap a).symm

theorem kind_negate (v : Value) : v.negate.kind = v.kind := by
  cases v <;> rfl

theorem agrees_transpose (v : Value) : Agrees v.kind.transpose? v.transpose := by
  cases v with
  | matrix g => exact rfl
  | vector r => exact fun _ => rfl
  | scalar n => exact fun _ => rfl

theorem agrees_select (v : Value) (i : Nat) : Agrees v.kind.select? (v.select i) := by
  cases v with
  | matrix g => exact agrees_grid _ _ fun _ => rfl
  | vector r => exact agrees_grid _ _ fun _ => rfl
  | scalar n => exact fun _ => rfl

/-- What is done with a position has a kind only if the position is a scalar. That a scalar is
    negative says nothing about kinds. -/
theorem agrees_position_bind (kind : Kind → Option Kind) (hm : kind .matrix = none)
    (hv : kind .vector = none) {f : Nat → Except Cause Value}
    (hf : ∀ i, Agrees (kind .scalar) (f i)) (p : Value) :
    Agrees (kind p.kind) (p.position >>= f) := by
  cases p with
  | matrix g => exact fun _ => hm
  | vector r => exact fun _ => hv
  | scalar n =>
      by_cases hn : 0 ≤ n.val
      · rw [show (Value.scalar n).position = .ok n.val.toNat from if_pos hn]
        exact hf _
      · rw [show (Value.scalar n).position = .error (.invalidIndex n) from if_neg hn]
        exact nofun

theorem agrees_index (v p : Value) :
    Agrees (v.kind.index? p.kind) (p.position >>= fun i => v.select i) :=
  agrees_position_bind v.kind.index? rfl rfl (agrees_select v) p

theorem agrees_element (g : Grid Scalar) (i : Nat) (p : Value) :
    Agrees (Kind.vector.index? p.kind) (p.position >>= fun j => Value.element g i j) :=
  agrees_position_bind Kind.vector.index? rfl rfl (fun _ => agrees_grid _ _ fun _ => rfl) p

theorem agrees_div_scalar (a b : Scalar) :
    Agrees (some .scalar) (Value.binary .div (.scalar a) (.scalar b)) := by
  rw [Value.binary]
  split
  · exact nofun
  · exact rfl

theorem agrees_binary (op : BinaryOp) (a b : Value) :
    Agrees (Kind.binary? op a.kind b.kind) (Value.binary op a b) := by
  -- Each entry of the table is a value, a misuse, an outcome of the algebra, or a quotient.
  cases op <;> cases a <;> cases b
  all_goals
    first
    | exact rfl
    | exact fun _ => rfl
    | exact agrees_grid _ _ fun _ => rfl
    | exact agrees_quotient _ _ fun _ => rfl
    | exact agrees_div_scalar _ _

/-! ## Expressions -/

theorem agrees_eval (scope : Scope) (e : Expr) : Agrees (e.kind? scope.kinds) (e.eval scope) := by
  fun_induction Expr.eval scope e with
  | case1 n => exact rfl
  | case2 name v h => exact congrArg (Option.map Value.kind) h
  | case3 name h => exact fun _ => congrArg (Option.map Value.kind) h
  | case4 e ih =>
      have hnegate : ∀ v : Value, Agrees (some v.kind) (.ok v.negate) :=
        fun v => congrArg some (kind_negate v).symm
      have h := ih.bind hnegate
      rwa [Option.bind_fun_some] at h
  | case5 e ih => exact ih.bind agrees_transpose
  | case6 op lhs rhs ihl ihr =>
      exact ihl.bind fun a => ihr.bind fun b => agrees_binary op a b
  | case7 inner row col ihinner ihrow ihcol ihtarget =>
      cases hinner : inner.eval scope with
      | error c =>
          rw [hinner] at ihinner
          intro hc
          rw [Expr.kind?, Expr.kind?, ihinner hc]
          rfl
      | ok v =>
          cases v with
          | matrix g =>
              rw [hinner] at ihinner
              rw [Expr.kind?, Expr.kind?, show inner.kind? scope.kinds = some .matrix from ihinner]
              rw [Option.bind_some, Option.bind_assoc]
              refine ihrow.bind (agrees_position_bind (fun b => (Kind.matrix.index? b).bind _)
                rfl rfl fun i => ?_)
              exact ihcol.bind (agrees_element g i)
          | vector r => exact ihtarget.bind fun v => ihcol.bind (agrees_index v)
          | scalar n => exact ihtarget.bind fun v => ihcol.bind (agrees_index v)
  | case8 target position _ ihtarget ihposition =>
      exact ihtarget.bind fun v => ihposition.bind (agrees_index v)

theorem kind?_of_eval {scope : Scope} {e : Expr} {v : Value} (h : e.eval scope = .ok v) :
    e.kind? scope.kinds = some v.kind := by
  have hagrees := agrees_eval scope e
  rwa [h] at hagrees

theorem kind?_of_static {scope : Scope} {e : Expr} {c : Cause} (h : e.eval scope = .error c)
    (hc : c.isStatic = true) : e.kind? scope.kinds = none := by
  have hagrees := agrees_eval scope e
  rw [h] at hagrees
  exact hagrees hc

theorem kind?_index_eq_some {kinds : String → Option Kind} {target position : Expr} {k : Kind}
    (h : (Expr.index target position).kind? kinds = some k) :
    ∃ a, target.kind? kinds = some a ∧ a.select? = some k := by
  obtain ⟨a, ha, h⟩ := Option.bind_eq_some_iff.1 h
  obtain ⟨b, -, h⟩ := Option.bind_eq_some_iff.1 h
  cases b with
  | scalar => exact ⟨a, ha, h⟩
  | matrix => cases h
  | vector => cases h

/-- Two positions are left by matrices only. -/
theorem kind?_index_index {kinds : String → Option Kind} {e i j : Expr} {k : Kind}
    (h : (Expr.index (.index e i) j).kind? kinds = some k) :
    e.kind? kinds = some .matrix ∧ k = .scalar := by
  obtain ⟨b, hb, hk⟩ := kind?_index_eq_some h
  obtain ⟨a, ha, hab⟩ := kind?_index_eq_some hb
  cases a with
  | matrix => cases hab; cases hk; exact ⟨ha, rfl⟩
  | vector => cases hab; cases hk
  | scalar => cases hab

theorem eval_index_index {scope : Scope} {e i j : Expr} {v : Value}
    (h : (Expr.index (.index e i) j).eval scope = .ok v) :
    ∃ g, e.eval scope = .ok (.matrix g) := by
  obtain ⟨hkind, -⟩ := kind?_index_index (kind?_of_eval h)
  rw [Expr.eval] at h
  obtain ⟨w, hw, -⟩ := (Outcome.bind_eq_ok_iff _ _ _).1 h
  rw [kind?_of_eval hw] at hkind
  cases w with
  | matrix g => exact ⟨g, hw⟩
  | vector r => cases hkind
  | scalar n => cases hkind

/-- Kinds are sound for evaluation. In two scopes that bind the same names to values of the same
    kinds, an expression has no values of different kinds, and one that meets an undefined name
    or an operation on the wrong kinds in either scope has no value in the other. So two
    positions take a matrix, and three are never taken. -/
theorem eval_kinds (e : Expr) (s t : Scope)
    (hst : ∀ name, (s.find? name).map Value.kind = (t.find? name).map Value.kind) :
    (∀ v w, e.eval s = .ok v → e.eval t = .ok w → v.kind = w.kind) ∧
    (∀ c, c.isStatic = true →
      (e.eval s = .error c → ∀ w, e.eval t ≠ .ok w) ∧
      (e.eval t = .error c → ∀ v, e.eval s ≠ .ok v)) ∧
    (∀ i j v, (Expr.index (.index e i) j).eval s = .ok v → ∃ g, e.eval s = .ok (.matrix g)) ∧
    (∀ i j k v, (Expr.index (.index (.index e i) j) k).eval s ≠ .ok v) := by
  have hkinds : s.kinds = t.kinds := funext hst
  refine ⟨fun v w hv hw => ?_, fun c hc => ⟨fun he w hw => ?_, fun he v hv => ?_⟩,
    fun i j v => eval_index_index, fun i j k v hv => ?_⟩
  · have hkv := kind?_of_eval hv
    rw [hkinds, kind?_of_eval hw] at hkv
    exact (Option.some.inj hkv).symm
  · have hkw := kind?_of_eval hw
    rw [← hkinds, kind?_of_static he hc] at hkw
    cases hkw
  · have hkv := kind?_of_eval hv
    rw [hkinds, kind?_of_static he hc] at hkv
    cases hkv
  · obtain ⟨hmatrix, -⟩ := kind?_index_index (kind?_of_eval hv)
    obtain ⟨a, -, ha⟩ := kind?_index_eq_some hmatrix
    cases a <;> cases ha

/-- A grid of one row, and a position in it. -/
def shortScope : Scope := (Scope.empty.bind "n" (.scalar 0)).bind "A" (.matrix ⟨1, 1, #[0]⟩)

/-- A grid of two rows, and a position that only this grid has. -/
def tallScope : Scope :=
  (Scope.empty.bind "A" (.matrix ⟨2, 2, #[0, 0, 0, 0]⟩)).bind "n" (.scalar (Element.wrap .i64 1))

theorem eval_kinds_short_tall :
    (∀ name, (shortScope.find? name).map Value.kind = (tallScope.find? name).map Value.kind) ∧
    ∃ v w, (Expr.index (.var "A") (.var "n")).eval shortScope = .ok v ∧
      (Expr.index (.var "A") (.var "n")).eval tallScope = .ok w ∧ v ≠ w ∧ v.kind = w.kind := by
  have hkinds : ∀ name,
      (shortScope.find? name).map Value.kind = (tallScope.find? name).map Value.kind := by
    intro name
    by_cases hA : name = "A"
    · subst hA
      rfl
    · by_cases hn : name = "n"
      · subst hn
        rfl
      · simp only [shortScope, tallScope, Scope.find?_bind_of_ne _ hA, Scope.find?_bind_of_ne _ hn]
  have hshort : (Expr.index (.var "A") (.var "n")).eval shortScope = .ok (.vector ⟨#[0]⟩) := by
    decide +kernel
  have htall : (Expr.index (.var "A") (.var "n")).eval tallScope = .ok (.vector ⟨#[0, 0]⟩) := by
    decide +kernel
  exact ⟨hkinds, _, _, hshort, htall, by decide, (eval_kinds _ _ _ hkinds).1 _ _ hshort htall⟩

end Gridscript.Script
