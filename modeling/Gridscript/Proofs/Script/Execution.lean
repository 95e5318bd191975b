/-
  Executing statements.

  A statement computes before it changes the session: each of its forms is a computation that may
  fail and then changes that cannot (`Work.traced_bind_of_error`, `Work.traced_bind_of_ok`). So a
  statement that fails leaves the session as it was (`state_of_step_error`). `step_cases` lists
  what a statement that succeeds can do; what executing keeps is shown from it once, by
  `execute_invariant`. `step_error_cases` lists what makes one fail. A program fails exactly at a
  statement that fails after all statements before it have succeeded (`execute_eq_error_iff`);
  `Reaches` says in which session one ends that does not fail.
-/
import Gridscript.Script.Session
import Gridscript.Proofs.Outcome

namespace Gridscript.Script.Session

/-! ## Work on a session -/

namespace Work

variable {α β : Type} {x : Traced Fault α} {s : Session}

/-- A computation that fails ends the work before the session is touched. -/
theorem traced_bind_of_error {fault : Fault} (h : x.result = .error fault) (f : α → Work β) :
    (traced x >>= f) s = ⟨s, x.log, .error fault⟩ := by
  show andThen (traced x) f s = _
  simp only [andThen, traced, h]

theorem traced_bind_of_ok {a : α} (h : x.result = .ok a) (f : α → Work β) :
    (traced x >>= f) s = ⟨(f a s).state, x.log ++ (f a s).log, (f a s).result⟩ := by
  show andThen (traced x) f s = _
  simp only [andThen, traced, h]

end Work

variable {folder : Folder} {s s' : Session} {stmt : Statement} {shown : Option Value}

/-! ## The outcome of a statement -/

section Outcomes

variable {line : Nat} {name : String} {e : Expr}

theorem step_persistent_of_error {f : GridFault}
    (h : (folder.loadGrid .i64 (s.settings.gridPath name)).result = .error f) :
    step folder s ⟨line, .persistent name⟩ =
      ⟨s, (folder.loadGrid .i64 (s.settings.gridPath name)).log, .error ⟨line, .grid f⟩⟩ := by
  refine Work.traced_bind_of_error ?_ _
  rw [Traced.result_mapFault, h]
  rfl

theorem step_persistent_of_ok {grid : Grid Scalar}
    (h : (folder.loadGrid .i64 (s.settings.gridPath name)).result = .ok grid) :
    step folder s ⟨line, .persistent name⟩ =
      ⟨s.declare name line grid, (folder.loadGrid .i64 (s.settings.gridPath name)).log ++
        [⟨.debug, .session, s!"line {line}: persistent {name} loaded as {grid.shape.text}"⟩],
        .ok none⟩ := by
  refine Work.traced_bind_of_ok ?_ _
  rw [Traced.result_mapFault, h]
  rfl

theorem step_assign_of_error {cause : Cause} (h : e.eval s.scope = .error cause) :
    step folder s ⟨line, .assign name e⟩ = ⟨s, [], .error ⟨line, cause⟩⟩ := by
  refine Work.traced_bind_of_error ?_ _
  rw [Traced.result_lift, h]
  rfl

theorem step_assign_of_ok {v : Value} (h : e.eval s.scope = .ok v) :
    step folder s ⟨line, .assign name e⟩ =
      ⟨s.bind name v, [⟨.debug, .session, s!"line {line}: {name} = <{v.kind.text}>"⟩],
        .ok none⟩ := by
  refine Work.traced_bind_of_ok ?_ _
  rw [Traced.result_lift, h]
  rfl

theorem step_display_of_error {cause : Cause} (h : e.eval s.scope = .error cause) :
    step folder s ⟨line, .display e⟩ = ⟨s, [], .error ⟨line, cause⟩⟩ := by
  refine Work.traced_bind_of_error ?_ _
  rw [Traced.result_lift, h]
  rfl

theorem step_display_of_ok {v : Value} (h : e.eval s.scope = .ok v) :
    step folder s ⟨line, .display e⟩ =
      ⟨s, [], .ok (if s.settings.echoExpressions then some v else none)⟩ := by
  refine Work.traced_bind_of_ok ?_ _
  rw [Traced.result_lift, h]
  rfl

end Outcomes

/-- The statement succeeds: it leaves the session `s'` and reports `shown`. -/
structure Succeeds (folder : Folder) (s : Session) (stmt : Statement) (s' : Session)
    (shown : Option Value) : Prop where
  result_eq : (step folder s stmt).result = .ok shown
  state_eq : (step folder s stmt).state = s'

theorem step_outcome (folder : Folder) (s : Session) (stmt : Statement) :
    (∃ fault, (step folder s stmt).result = .error fault) ∨
      ∃ s' shown, Succeeds folder s stmt s' shown := by
  cases h : (step folder s stmt).result with
  | error fault => exact .inl ⟨fault, rfl⟩
  | ok shown => exact .inr ⟨_, shown, h, rfl⟩

theorem succeeds_persistent {name : String} {grid : Grid Scalar}
    (h : (folder.loadGrid .i64 (s.settings.gridPath name)).result = .ok grid) (line : Nat) :
    Succeeds folder s ⟨line, .persistent name⟩ (s.declare name line grid) none := by
  constructor <;> rw [step_persistent_of_ok h]

theorem succeeds_assign {e : Expr} {v : Value} (h : e.eval s.scope = .ok v) (folder : Folder)
    (line : Nat) (name : String) :
    Succeeds folder s ⟨line, .assign name e⟩ (s.bind name v) none := by
  constructor <;> rw [step_assign_of_ok h]

theorem succeeds_display {e : Expr} {v : Value} (h : e.eval s.scope = .ok v) (folder : Folder)
    (line : Nat) :
    Succeeds folder s ⟨line, .display e⟩ s
      (if s.settings.echoExpressions then some v else none) := by
  constructor <;> rw [step_display_of_ok h]

/-- All that a statement can do when it succeeds. -/
theorem step_cases (h : Succeeds folder s stmt s' shown) :
    (∃ name grid, stmt.action = .persistent name ∧
      (folder.loadGrid .i64 (s.settings.gridPath name)).result = .ok grid ∧
      s' = s.declare name stmt.line grid ∧ shown = none) ∨
    (∃ name e v, stmt.action = .assign name e ∧ e.eval s.scope = .ok v ∧
      s' = s.bind name v ∧ shown = none) ∨
    (∃ e v, stmt.action = .display e ∧ e.eval s.scope = .ok v ∧ s' = s ∧
      shown = if s.settings.echoExpressions then some v else none) := by
  obtain ⟨line, action⟩ := stmt
  obtain ⟨hresult, rfl⟩ := h
  cases action with
  | persistent name =>
      cases hload : (folder.loadGrid .i64 (s.settings.gridPath name)).result with
      | error f =>
          rw [step_persistent_of_error hload] at hresult
          cases hresult
      | ok grid =>
          rw [step_persistent_of_ok hload] at hresult ⊢
          cases hresult
          exact .inl ⟨name, grid, rfl, hload, rfl, rfl⟩
  | assign name e =>
      cases heval : e.eval s.scope with
      | error cause =>
          rw [step_assign_of_error heval] at hresult
          cases hresult
      | ok v =>
          rw [step_assign_of_ok heval] at hresult ⊢
          cases hresult
          exact .inr (.inl ⟨name, e, v, rfl, heval, rfl, rfl⟩)
  | display e =>
      cases heval : e.eval s.scope with
      | error cause =>
          rw [step_display_of_error heval] at hresult
          cases hresult
      | ok v =>
          rw [step_display_of_ok heval] at hresult ⊢
          cases hresult
          exact .inr (.inr ⟨e, v, rfl, heval, rfl, rfl⟩)

theorem settings_of_step (h : Succeeds folder s stmt s' shown) : s'.settings = s.settings := by
  obtain ⟨_, _, -, -, rfl, -⟩ | ⟨_, _, _, -, -, rfl, -⟩ | ⟨_, _, -, -, rfl, -⟩ := step_cases h <;>
    rfl

/-- All that can make a statement fail. Whatever it is, the fault is on the statement's line, and
    the session is what it was. -/
theorem step_error_cases {fault : Fault} (h : (step folder s stmt).result = .error fault) :
    (step folder s stmt).state = s ∧
      ((∃ name f, stmt.action = .persistent name ∧
        (folder.loadGrid .i64 (s.settings.gridPath name)).result = .error f ∧
        fault = ⟨stmt.line, .grid f⟩) ∨
      (∃ name e cause, stmt.action = .assign name e ∧ e.eval s.scope = .error cause ∧
        fault = ⟨stmt.line, cause⟩) ∨
      (∃ e cause, stmt.action = .display e ∧ e.eval s.scope = .error cause ∧
        fault = ⟨stmt.line, cause⟩)) := by
  obtain ⟨line, action⟩ := stmt
  cases action with
  | persistent name =>
      cases hload : (folder.loadGrid .i64 (s.settings.gridPath name)).result with
      | error f =>
          rw [step_persistent_of_error hload] at h ⊢
          cases h
          exact ⟨rfl, .inl ⟨name, f, rfl, hload, rfl⟩⟩
      | ok grid =>
          rw [step_persistent_of_ok hload] at h
          cases h
  | assign name e =>
      cases heval : e.eval s.scope with
      | error cause =>
          rw [step_assign_of_error heval] at h ⊢
          cases h
          exact ⟨rfl, .inr (.inl ⟨name, e, cause, rfl, heval, rfl⟩)⟩
      | ok v =>
          rw [step_assign_of_ok heval] at h
          cases h
  | display e =>
      cases heval : e.eval s.scope with
      | error cause =>
          rw [step_display_of_error heval] at h ⊢
          cases h
          exact ⟨rfl, .inr (.inr ⟨e, cause, rfl, heval, rfl⟩)⟩
      | ok v =>
          rw [step_display_of_ok heval] at h
          cases h

theorem state_of_step_error {fault : Fault} (h : (step folder s stmt).result = .error fault) :
    (step folder s stmt).state = s :=
  (step_error_cases h).1

theorem line_of_step_error {fault : Fault} (h : (step folder s stmt).result = .error fault) :
    fault.line = stmt.line := by
  obtain ⟨_, _, -, -, rfl⟩ | ⟨_, _, _, -, -, rfl⟩ | ⟨_, _, -, -, rfl⟩ := (step_error_cases h).2 <;>
    rfl

/-! ## Sequences of statements -/

theorem execute_cons_error {fault : Fault} (h : (step folder s stmt).result = .error fault)
    (rest : Program) :
    execute folder s (stmt :: rest) = ⟨s, (step folder s stmt).log, .error fault⟩ := by
  simp only [execute, h, state_of_step_error h]

theorem execute_cons_ok (h : Succeeds folder s stmt s' shown) (rest : Program) :
    execute folder s (stmt :: rest) =
      ⟨(execute folder s' rest).state,
        (step folder s stmt).log ++ (execute folder s' rest).log,
        (execute folder s' rest).result.map
          ((shown.toList.map fun v => (⟨stmt.line, v⟩ : Echo)) ++ ·)⟩ := by
  simp only [execute, h.result_eq, h.state_eq]

/-- What every statement keeps is kept by a program, whether it succeeds or not. -/
theorem execute_invariant {motive : Session → Prop}
    (hstep : ∀ s stmt s' shown, Succeeds folder s stmt s' shown → motive s → motive s')
    (program : Program) (hs : motive s) : motive (execute folder s program).state := by
  induction program generalizing s with
  | nil => exact hs
  | cons stmt rest ih =>
      obtain ⟨fault, h⟩ | ⟨s', shown, h⟩ := step_outcome folder s stmt
      · rw [execute_cons_error h]
        exact hs
      · rw [execute_cons_ok h]
        exact ih (hstep s stmt s' shown h hs)

theorem settings_execute (program : Program) :
    (execute folder s program).state.settings = s.settings :=
  execute_invariant (motive := fun t => t.settings = s.settings)
    (fun _ _ _ _ h ht => (settings_of_step h).trans ht) program rfl

/-- The program fails with a fault: one of its statements does, in the session that the
    statements before it lead to. -/
def FailsAt (folder : Folder) (s : Session) (program : Program) (fault : Fault) : Prop :=
  ∃ before stmt after echoed, program = before ++ stmt :: after ∧
    (execute folder s before).result = .ok echoed ∧
    (step folder (execute folder s before).state stmt).result = .error fault

theorem not_failsAt_nil (fault : Fault) : ¬ FailsAt folder s [] fault := by
  intro h
  obtain ⟨before, stmt, after, -, hsplit, -⟩ := h
  cases before <;> cases hsplit

/-- If the first statement fails, the program fails there and nowhere else. -/
theorem failsAt_cons_of_error {first : Fault} (h : (step folder s stmt).result = .error first)
    (rest : Program) (fault : Fault) : FailsAt folder s (stmt :: rest) fault ↔ first = fault := by
  constructor
  · intro hfails
    obtain ⟨before, stmt', after, echoed, hsplit, hok, hfail⟩ := hfails
    cases before with
    | nil =>
        obtain ⟨rfl, rfl⟩ := List.cons.inj hsplit
        exact Except.error.inj (h.symm.trans hfail)
    | cons _ before =>
        obtain ⟨rfl, rfl⟩ := List.cons.inj hsplit
        rw [execute_cons_error h] at hok
        cases hok
  · intro hfault
    subst hfault
    exact ⟨[], stmt, rest, [], rfl, rfl, h⟩

/-- If the first statement succeeds, the program fails where the rest of it does. -/
theorem failsAt_cons_of_ok (h : Succeeds folder s stmt s' shown) (rest : Program)
    (fault : Fault) : FailsAt folder s (stmt :: rest) fault ↔ FailsAt folder s' rest fault := by
  constructor
  · intro hfails
    obtain ⟨before, stmt', after, echoed, hsplit, hok, hfail⟩ := hfails
    cases before with
    | nil =>
        obtain ⟨rfl, rfl⟩ := List.cons.inj hsplit
        cases h.result_eq.symm.trans hfail
    | cons _ before =>
        obtain ⟨rfl, rfl⟩ := List.cons.inj hsplit
        rw [execute_cons_ok h] at hok hfail
        obtain ⟨echoed', hok, -⟩ := (Outcome.map_eq_ok_iff _ _ _).1 hok
        exact ⟨before, stmt', after, echoed', rfl, hok, hfail⟩
  · intro hfails
    obtain ⟨before, stmt', after, echoed, rfl, hok, hfail⟩ := hfails
    refine ⟨stmt :: before, stmt', after,
      (shown.toList.map fun v => ⟨stmt.line, v⟩) ++ echoed, rfl, ?_, ?_⟩
    · rw [execute_cons_ok h]
      exact (Outcome.map_eq_ok_iff _ _ _).2 ⟨echoed, hok, rfl⟩
    · rw [execute_cons_ok h]
      exact hfail

theorem execute_eq_error_iff (program : Program) (fault : Fault) :
    (execute folder s program).result = .error fault ↔ FailsAt folder s program fault := by
  induction program generalizing s with
  | nil => exact iff_of_false (fun h => (by cases h)) (not_failsAt_nil fault)
  | cons stmt rest ih =>
      obtain ⟨first, h⟩ | ⟨s', shown, h⟩ := step_outcome folder s stmt
      · rw [execute_cons_error h, failsAt_cons_of_error h]
        exact ⟨Except.error.inj, congrArg Except.error⟩
      · rw [execute_cons_ok h, Outcome.map_eq_error_iff, ih, failsAt_cons_of_ok h]

/-! ## Programs that succeed -/

/-- The program succeeds and ends in the session `t`. -/
def Reaches (folder : Folder) (s : Session) (program : Program) (t : Session) : Prop :=
  (∃ echoed, (execute folder s program).result = .ok echoed) ∧ (execute folder s program).state = t

variable {t : Session} {program : Program}

theorem reaches_nil_iff : Reaches folder s [] t ↔ s = t :=
  ⟨fun h => h.2, fun h => ⟨⟨[], rfl⟩, h⟩⟩

theorem reaches_cons_iff :
    Reaches folder s (stmt :: program) t ↔
      ∃ s' shown, Succeeds folder s stmt s' shown ∧ Reaches folder s' program t := by
  unfold Reaches
  obtain ⟨fault, h⟩ | ⟨s', shown, h⟩ := step_outcome folder s stmt
  · rw [execute_cons_error h]
    refine iff_of_false ?_ ?_
    · rintro ⟨⟨_, hok⟩, -⟩
      cases hok
    · rintro ⟨_, _, hok, -⟩
      cases h.symm.trans hok.result_eq
  · rw [execute_cons_ok h]
    constructor
    · rintro ⟨⟨_, hok⟩, hstate⟩
      obtain ⟨later, hlater, -⟩ := (Outcome.map_eq_ok_iff _ _ _).1 hok
      exact ⟨s', shown, h, ⟨later, hlater⟩, hstate⟩
    · rintro ⟨t', _, hout, ⟨later, hlater⟩, hstate⟩
      obtain rfl : t' = s' := hout.state_eq.symm.trans h.state_eq
      exact ⟨⟨_, (Outcome.map_eq_ok_iff _ _ _).2 ⟨later, hlater, rfl⟩⟩, hstate⟩

theorem reaches_persistent_iff {line : Nat} {name : String} :
    Reaches folder s (⟨line, .persistent name⟩ :: program) t ↔
      ∃ grid, (folder.loadGrid .i64 (s.settings.gridPath name)).result = .ok grid ∧
        Reaches folder (s.declare name line grid) program t := by
  rw [reaches_cons_iff]
  constructor
  · rintro ⟨s', shown, hstep, hrest⟩
    obtain ⟨_, grid, haction, hload, rfl, -⟩ | ⟨_, _, _, haction, -⟩ | ⟨_, _, haction, -⟩ :=
      step_cases hstep
    · cases haction
      exact ⟨grid, hload, hrest⟩
    · cases haction
    · cases haction
  · rintro ⟨grid, hload, hrest⟩
    exact ⟨_, none, succeeds_persistent hload line, hrest⟩

theorem reaches_assign_iff {line : Nat} {name : String} {e : Expr} :
    Reaches folder s (⟨line, .assign name e⟩ :: program) t ↔
      ∃ v, e.eval s.scope = .ok v ∧ Reaches folder (s.bind name v) program t := by
  rw [reaches_cons_iff]
  constructor
  · rintro ⟨s', shown, hstep, hrest⟩
    obtain ⟨_, _, haction, -⟩ | ⟨_, _, v, haction, heval, rfl, -⟩ | ⟨_, _, haction, -⟩ :=
      step_cases hstep
    · cases haction
    · cases haction
      exact ⟨v, heval, hrest⟩
    · cases haction
  · rintro ⟨v, heval, hrest⟩
    exact ⟨_, none, succeeds_assign heval folder line name, hrest⟩

/-! ## Runs -/

theorem run_of_error {program : Program} {fault : Fault}
    (h : (execute folder s program).result = .error fault) :
    s.run folder program =
      ⟨((execute folder s program).state, folder), (execute folder s program).log,
        .error fault⟩ := by
  simp only [run, h]

theorem run_of_ok {program : Program} {echoed : List Echo}
    (h : (execute folder s program).result = .ok echoed) :
    s.run folder program =
      if s.settings.savePersistent then
        ⟨((execute folder s program).state, ((execute folder s program).state.save folder).state),
          (execute folder s program).log ++ ((execute folder s program).state.save folder).log,
          ((execute folder s program).state.save folder).result.map fun paths => ⟨echoed, paths⟩⟩
      else
        ⟨((execute folder s program).state, folder), (execute folder s program).log,
          .ok ⟨echoed, []⟩⟩ := by
  simp only [run, h]

end Gridscript.Script.Session

namespace Gridscript.Script

theorem runSource_of_parse_error {source : List Char} {fault : Fault}
    (h : parse source = .error fault) (settings : Settings) (folder : Folder) :
    runSource settings folder source = ⟨folder, [], .error fault⟩ := by
  simp only [runSource, h]

theorem runSource_of_parse {source : List Char} {program : Program}
    (h : parse source = .ok program) (settings : Settings) (folder : Folder) :
    runSource settings folder source =
      ⟨((Session.start settings).run folder program).state.2,
        ((Session.start settings).run folder program).log,
        ((Session.start settings).run folder program).result⟩ := by
  simp only [runSource, h]

end Gridscript.Script
