/-
  Programs in sequence.

  Statements are executed up to the first failure, and what they report is appended. So a
  program is executed like its first statement and then the rest, by `Progress.andThen`, which
  is associative: any two parts of a program are executed one after the other
  (`execute_append`). With the statement that fails at the start of the second part, a program
  that fails is seen to end in the session that the statements before that one lead to: the one
  that fails has a session to change, and leaves it as it was (`state_of_step_error`). Its run
  changes no file of the working folder; files outside of it are not covered.
-/
import Gridscript.Proofs.Script.Execution

namespace Gridscript.Script.Session

namespace Progress

variable {σ α : Type}

/-- Go on from the state that was reached, unless there was a failure on the way. -/
def andThen (first : Progress σ (List α)) (next : σ → Progress σ (List α)) :
    Progress σ (List α) :=
  match first.result with
  | .error _ => first
  | .ok items =>
      ⟨(next first.state).state, first.log ++ (next first.state).log,
        (next first.state).result.map (items ++ ·)⟩

variable {first : Progress σ (List α)}

theorem andThen_of_error {fault : Fault} (h : first.result = .error fault)
    (next : σ → Progress σ (List α)) : first.andThen next = first := by
  simp only [andThen, h]

theorem andThen_of_ok {items : List α} (h : first.result = .ok items)
    (next : σ → Progress σ (List α)) :
    first.andThen next =
      ⟨(next first.state).state, first.log ++ (next first.state).log,
        (next first.state).result.map (items ++ ·)⟩ := by
  simp only [andThen, h]

/-- Where nothing has happened yet, what comes next is all that happens. -/
theorem nil_andThen (state : σ) (next : σ → Progress σ (List α)) :
    (⟨state, [], .ok []⟩ : Progress σ (List α)).andThen next = next state := by
  have hmap : (next state).result.map ([] ++ ·) = (next state).result := by
    cases (next state).result <;> rfl
  rw [andThen_of_ok rfl, hmap]
  rfl

theorem andThen_assoc (first : Progress σ (List α)) (next later : σ → Progress σ (List α)) :
    (first.andThen next).andThen later = first.andThen fun a => (next a).andThen later := by
  cases hfirst : first.result with
  | error fault =>
      rw [andThen_of_error hfirst, andThen_of_error hfirst, andThen_of_error hfirst]
  | ok items =>
      rw [andThen_of_ok hfirst, andThen_of_ok hfirst]
      cases hnext : (next first.state).result with
      | error fault => simp only [andThen, hnext, Except.map]
      | ok more =>
          cases hlater : (later (next first.state).state).result with
          | error fault => simp only [andThen, hnext, hlater, Except.map, List.append_assoc]
          | ok rest => simp only [andThen, hnext, hlater, Except.map, List.append_assoc]

end Progress

variable {folder : Folder} {s : Session}

/-! ## Statements -/

theorem execute_cons (folder : Folder) (s : Session) (stmt : Statement) (rest : Program) :
    execute folder s (stmt :: rest) =
      (execute folder s [stmt]).andThen (execute folder · rest) := by
  obtain ⟨fault, h⟩ | ⟨s', shown, h⟩ := step_outcome folder s stmt
  · have hone : (execute folder s [stmt]).result = .error fault := by rw [execute_cons_error h]
    rw [Progress.andThen_of_error hone, execute_cons_error h, execute_cons_error h]
  · rw [execute_cons_ok h, execute_cons_ok h]
    simp only [execute, Progress.andThen, Except.map, List.append_nil]

/-- A program in two parts is executed like its first part and then, unless that failed, its
    second part in the session that was reached. -/
theorem execute_append (folder : Folder) (s : Session) (p q : Program) :
    execute folder s (p ++ q) = (execute folder s p).andThen (execute folder · q) := by
  induction p generalizing s with
  | nil => exact (Progress.nil_andThen s (execute folder · q)).symm
  | cons stmt p ih =>
      rw [List.cons_append, execute_cons, execute_cons folder s stmt p, Progress.andThen_assoc]
      simp only [ih]

/-- The failing statement leaves nothing behind. -/
theorem execute_append_cons_error {before : Program} {stmt : Statement} {echoed : List Echo}
    {fault : Fault} (hbefore : (execute folder s before).result = .ok echoed)
    (hstmt : (step folder (execute folder s before).state stmt).result = .error fault)
    (after : Program) :
    execute folder s (before ++ stmt :: after) =
      ⟨(execute folder s before).state,
        (execute folder s before).log ++ (step folder (execute folder s before).state stmt).log,
        .error fault⟩ := by
  rw [execute_append, Progress.andThen_of_ok hbefore, execute_cons_error hstmt]
  rfl

/-- Programs compose and statements are atomic. A program in two parts is executed like the
    first and then, if it succeeds, the second from the session reached, with what they report
    appended. A program that fails has executed the statements before one that fails, and that one
    leaves the session as it found it: the session is the one that those before it lead to, the
    fault is on the line of that statement, and a run changes no file. -/
theorem execute_append_atomic (folder : Folder) (s : Session) (p q : Program) :
    execute folder s (p ++ q) = (execute folder s p).andThen (execute folder · q) ∧
    ∀ fault, (execute folder s p).result = .error fault →
      ∃ before stmt after echoed, p = before ++ stmt :: after ∧
        (execute folder s before).result = .ok echoed ∧
        (step folder (execute folder s before).state stmt).result = .error fault ∧
        (step folder (execute folder s before).state stmt).state =
          (execute folder s before).state ∧
        fault.line = stmt.line ∧
        (execute folder s p).state = (execute folder s before).state ∧
        (s.run folder p).state = ((execute folder s before).state, folder) ∧
        (s.run folder p).result = .error fault := by
  refine ⟨execute_append folder s p q, fun fault hp => ?_⟩
  obtain ⟨before, stmt, after, echoed, rfl, hbefore, hstmt⟩ :=
    (execute_eq_error_iff p fault).1 hp
  have hstate : (execute folder s (before ++ stmt :: after)).state =
      (execute folder s before).state := by
    rw [execute_append_cons_error hbefore hstmt]
  refine ⟨before, stmt, after, echoed, rfl, hbefore, hstmt, state_of_step_error hstmt,
    line_of_step_error hstmt, hstate, ?_⟩
  rw [run_of_error hp, hstate]
  exact ⟨rfl, rfl⟩

end Gridscript.Script.Session
