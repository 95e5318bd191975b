/-
  Commands and scripts that do the same.

  Each operation of the command line on grids can be said in a script: the operands are declared
  persistent, and the first of them is assigned the result. The script goes a longer way. Its text
  is cut into tokens, a negative scalar into a sign and a number, the tokens become statements, the
  grids are loaded into variables, and the result is saved to the file that the first operand came
  from. Both ways end in the same text or both fail (`perform_iff_runSource`). The grids are in the
  working folder; where they are not, both fail here whatever is there.
-/
import Gridscript.Proofs.Command.OneShot
import Gridscript.Proofs.Script.Persistence

namespace Gridscript

open CommandLine (Invocation perform Computes)
open Command (Holds)

/-- An operation on one grid, or on two. -/
inductive Operation where
  | single (op : Command.Unary)
  | joint (op : Joint)

namespace Operation

/-- The command for the operation, with its operands and its output. -/
def command (left right output : String) : Operation → Invocation
  | single op => .unary op left (some output)
  | joint op => .binary op left right (some output)

/-- The scalar that the operation takes. -/
def scalar? : Operation → Option Scalar
  | single (.scale s) => some s
  | single (.shift s) => some s
  | _ => none

/-! ## Scripts for operations -/

/-- A line that declares a name persistent. -/
def declaration (name : String) : List Char :=
  "persistent".toList ++ (' ' :: (name.toList ++ ['\n']))

/-- The operation on the variables `x` and `y`, as it is written. -/
def formula (x y : String) : Operation → List Char
  | single .transpose => "transpose".toList ++ (' ' :: x.toList)
  | single (.scale s) => x.toList ++ (' ' :: '*' :: ' ' :: s.text)
  | single (.shift s) => x.toList ++ (' ' :: '+' :: ' ' :: s.text)
  | joint .multiply => x.toList ++ (' ' :: '*' :: ' ' :: y.toList)
  | joint .add => x.toList ++ (' ' :: '+' :: ' ' :: y.toList)

/-- The line that assigns the result to `x`. -/
def assignment (x y : String) (o : Operation) : List Char :=
  x.toList ++ (' ' :: '=' :: ' ' :: (o.formula x y ++ ['\n']))

/-- The script for the operation: the operands are declared, and `x` becomes the result. -/
def script (x y : String) : Operation → List Char
  | single op => declaration x ++ assignment x y (single op)
  | joint op => declaration x ++ (declaration y ++ assignment x y (joint op))

end Operation

namespace Script

/-! ## Tokens of the scripts -/

/-- A name that is no keyword. -/
def IsName (name : String) : Prop :=
  IsWordText name.toList ∧ name ≠ "persistent" ∧ name ≠ "transpose"

theorem IsName.spelled {name : String} (h : IsName name) :
    (Token.ident name).Spelled name.toList :=
  .ident h.1 h.2.1 h.2.2

theorem IsName.not_slash {name : String} (h : IsName name) : '/' ∉ name.toList :=
  IsWord.not_slash h.1.isWordPart

theorem IsName.ne_empty {name : String} (h : IsName name) : name ≠ "" := by
  rintro rfl
  obtain ⟨c, rest, hnil, -⟩ := h.1
  cases hnil

theorem Layout.spaced {before t : Token} {ts : List Token} {text rest : List Char}
    (ht : t.Spelled text) (h : Layout t ts rest) :
    Layout before (t :: ts) (' ' :: (text ++ rest)) := by
  have hgap : IsGap [' '] := isGap_nil.cons (by decide) (by decide)
  exact .token hgap ht (fun _ => List.cons_ne_nil _ _) h

theorem Layout.sign {before t : Token} {c : Char} (ht : t.char? = some c) {ts : List Token}
    {rest : List Char} (h : Layout t ts rest) : Layout before (t :: ts) (' ' :: c :: rest) := by
  have hspelled : t.Spelled [c] := .char ht
  exact .spaced hspelled h

theorem Layout.flush {before t : Token} {ts : List Token} {text rest : List Char}
    (ht : t.Spelled text) (hsep : ¬ before.RunsInto t) (h : Layout t ts rest) :
    Layout before (t :: ts) (text ++ rest) :=
  .token isGap_nil ht (fun hruns => absurd hruns hsep) h

theorem layout_lineEnd {before : Token} {ts : List Token} {rest : List Char}
    (h : Layout .newline ts rest) : Layout before (.newline :: ts) ('\n' :: rest) :=
  .newline isGap_nil (.inl rfl) h

/-- A scalar as a literal, which has no sign, or as a literal with a sign before it. -/
def literal (s : Scalar) : Expr := if 0 ≤ s.val then .int s else .neg (.int (-s))

def literalTokens (s : Scalar) : List Token :=
  if 0 ≤ s.val then [.int s] else [.minus, .int (-s)]

/-- A scalar with an opposite is written with a sign before the text of that. -/
theorem text_of_neg {s : Scalar} (hleast : IntType.i64.least < s.val) (hneg : s.val < 0) :
    (-s).val = -s.val ∧ s.text = '-' :: (-s).text := by
  have hend : IntType.i64.least + IntType.i64.modulus = -IntType.i64.least := rfl
  have hrange : IntType.i64.InRange (-s.val) := ⟨by omega, by omega⟩
  have hval : (-s).val = -s.val := IntType.reduce_of_inRange hrange
  refine ⟨hval, ?_⟩
  obtain ⟨n, hn⟩ := Int.eq_negSucc_of_lt_zero hneg
  rw [Element.text, Element.text, hval, hn]
  rfl

theorem layout_literal {before : Token} {ts : List Token} {rest : List Char} {s : Scalar}
    (hleast : IntType.i64.least < s.val) (h : ∀ n, Layout (.int n) ts rest) :
    Layout before (literalTokens s ++ ts) (' ' :: (s.text ++ rest)) := by
  unfold literalTokens
  split
  · rename_i hpos
    exact Layout.spaced (.int hpos 0) (h s)
  · rename_i hneg
    obtain ⟨hval, htext⟩ := text_of_neg hleast (Int.not_le.1 hneg)
    have hpos : 0 ≤ (-s).val := by omega
    rw [htext]
    refine Layout.sign (t := .minus) rfl ?_
    exact Layout.flush (.int hpos 0) (by simp [Token.RunsInto, Token.isWord, Token.isNumber]) (h _)

end Script

namespace Operation

open Script Script.Session

/-- The tokens of the formula. -/
def tokens (x y : String) : Operation → List Token
  | single .transpose => [.transpose, .ident x]
  | single (.scale s) => .ident x :: .star :: literalTokens s
  | single (.shift s) => .ident x :: .plus :: literalTokens s
  | joint .multiply => [.ident x, .star, .ident y]
  | joint .add => [.ident x, .plus, .ident y]

/-- The expression that the formula stands for. -/
def expression (x y : String) : Operation → Expr
  | single .transpose => .transpose (.var x)
  | single (.scale s) => .binary .mul (.var x) (literal s)
  | single (.shift s) => .binary .add (.var x) (literal s)
  | joint .multiply => .binary .mul (.var x) (.var y)
  | joint .add => .binary .add (.var x) (.var y)

variable {x y : String} {o : Operation}

theorem layout_infix (hx : IsName x) {t before : Token} {c : Char} (hc : t.char? = some c)
    {ts : List Token} {text rest : List Char} (h : Layout t ts (' ' :: (text ++ rest))) :
    Layout before (.ident x :: t :: ts)
      (' ' :: (x.toList ++ (' ' :: c :: ' ' :: text) ++ rest)) := by
  rw [List.append_assoc]
  exact .spaced hx.spelled (.sign hc h)

/-- The formula in its line is a layout of its tokens. -/
theorem layout_formula (hx : IsName x) (hy : IsName y)
    (hs : ∀ s ∈ o.scalar?, IntType.i64.least < s.val) {ts : List Token} {rest : List Char}
    (h : ∀ t, Layout t ts rest) (before : Token) :
    Layout before (o.tokens x y ++ ts) (' ' :: (o.formula x y ++ rest)) := by
  cases o with
  | single op =>
      cases op with
      | transpose =>
          have htext : formula x y (single .transpose) ++ rest =
              "transpose".toList ++ (' ' :: (x.toList ++ rest)) := List.append_assoc _ _ _
          rw [htext]
          exact .spaced .transpose (.spaced hx.spelled (h _))
      | scale s => exact layout_infix hx rfl (layout_literal (hs s rfl) fun n => h _)
      | shift s => exact layout_infix hx rfl (layout_literal (hs s rfl) fun n => h _)
  | joint op =>
      cases op with
      | multiply => exact layout_infix hx rfl (.spaced hy.spelled (h _))
      | add => exact layout_infix hx rfl (.spaced hy.spelled (h _))

theorem layout_declaration (hx : IsName x) {ts : List Token} {rest : List Char}
    (h : Layout .newline ts rest) :
    Layout .newline (.persistent :: .ident x :: .newline :: ts) (declaration x ++ rest) := by
  have htext : declaration x ++ rest =
      "persistent".toList ++ (' ' :: (x.toList ++ ['\n'] ++ rest)) := List.append_assoc _ _ _
  rw [htext, List.append_assoc]
  exact .flush .persistent (by simp [Token.RunsInto, Token.isWord, Token.isNumber])
    (.spaced hx.spelled (layout_lineEnd h))

theorem layout_assignment (hx : IsName x) (hy : IsName y)
    (hs : ∀ s ∈ o.scalar?, IntType.i64.least < s.val) :
    Layout .newline (.ident x :: .assign :: (o.tokens x y ++ [.newline])) (assignment x y o) := by
  have hend : ∀ t, Layout t [.newline] ['\n'] :=
    fun t => layout_lineEnd (.finish isGap_nil (.inl rfl))
  refine .flush hx.spelled (by simp [Token.RunsInto, Token.isWord, Token.isNumber]) ?_
  exact .sign rfl (layout_formula hx hy hs hend _)

/-- The tokens of the script. -/
def scriptTokens (x y : String) (o : Operation) : List Token :=
  let assigned := .ident x :: .assign :: (o.tokens x y ++ [.newline])
  match o with
  | single _ => .persistent :: .ident x :: .newline :: assigned
  | joint _ =>
      .persistent :: .ident x :: .newline :: .persistent :: .ident y :: .newline :: assigned

theorem layout_script (hx : IsName x) (hy : IsName y)
    (hs : ∀ s ∈ o.scalar?, IntType.i64.least < s.val) :
    Layout .newline (o.scriptTokens x y) (o.script x y) := by
  have hassignment := layout_assignment hx hy hs
  cases o with
  | single op => exact layout_declaration hx hassignment
  | joint op => exact layout_declaration hx (layout_declaration hy hassignment)

/-! ## Programs of the scripts -/

/-- The program that the script stands for. -/
def program (x y : String) : Operation → Program
  | single op => [⟨1, .persistent x⟩, ⟨2, .assign x (expression x y (single op))⟩]
  | joint op =>
      [⟨1, .persistent x⟩, ⟨2, .persistent y⟩, ⟨3, .assign x (expression x y (joint op))⟩]

/-- A scalar after an operator is read with its sign, whichever of the two operators it is. -/
theorem statements_literal {t : Token} {op : BinaryOp}
    (h : t = .star ∧ op = .mul ∨ t = .plus ∧ op = .add) (x : String) (s : Scalar) :
    statements (placed 1 (.persistent :: .ident x :: .newline :: .ident x :: .assign :: .ident x ::
      t :: (literalTokens s ++ [.newline] ++ [.eof]))) =
    .ok [⟨1, .persistent x⟩, ⟨2, .assign x (.binary op (.var x) (literal s))⟩] := by
  unfold literalTokens literal
  split
  · obtain ⟨rfl, rfl⟩ | ⟨rfl, rfl⟩ := h <;> cbv
  · -- The number after the sign may be any: it is read as it stands.
    generalize -s = n
    obtain ⟨rfl, rfl⟩ | ⟨rfl, rfl⟩ := h <;> cbv

theorem statements_scriptTokens (x y : String) (o : Operation) :
    statements (placed 1 (o.scriptTokens x y ++ [.eof])) = .ok (o.program x y) := by
  cases o with
  | single op =>
      cases op with
      | transpose => cbv
      | scale s => exact statements_literal (.inl ⟨rfl, rfl⟩) x s
      | shift s => exact statements_literal (.inr ⟨rfl, rfl⟩) x s
  | joint op => cases op <;> cbv

theorem parse_script (hx : IsName x) (hy : IsName y)
    (hs : ∀ s ∈ o.scalar?, IntType.i64.least < s.val) :
    parse (o.script x y) = .ok (o.program x y) := by
  rw [parse, lexemes, (layout_script hx hy hs).lexemesFrom_eq]
  exact statements_scriptTokens x y o

/-! ## What the scripts compute -/

variable {folder : Folder} {settings : Settings} {t : Session} {output : String}

theorem eval_literal {s : Scalar} (hleast : IntType.i64.least < s.val) (scope : Scope) :
    (literal s).eval scope = .ok (.scalar s) := by
  unfold literal
  split
  · rw [Expr.eval]
  · rename_i hneg
    obtain ⟨hval, -⟩ := text_of_neg hleast (Int.not_le.1 hneg)
    have hopposite : -(-s) = s := by
      refine Element.ext ?_
      rw [Element.val_neg, hval, Int.neg_neg]
      exact IntType.reduce_of_inRange s.inRange
    rw [Expr.eval, Expr.eval]
    show Except.ok (Value.scalar (-(-s))) = _
    rw [hopposite]

theorem eval_single {op : Command.Unary} (hs : ∀ s ∈ (single op).scalar?, IntType.i64.least < s.val)
    {scope : Scope} {g : Grid Scalar} (hx : scope.find? x = some (.matrix g)) :
    ((single op).expression x y).eval scope = .ok (.matrix (op.apply g)) := by
  have hvar : (Expr.var x).eval scope = .ok (.matrix g) := by
    rw [Expr.eval, hx]
  cases op with
  | transpose =>
      show (Expr.transpose (.var x)).eval scope = _
      rw [Expr.eval, hvar]
      rfl
  | scale s =>
      show (Expr.binary .mul (.var x) (literal s)).eval scope = _
      rw [Expr.eval, hvar, eval_literal (hs s rfl)]
      rfl
  | shift s =>
      show (Expr.binary .add (.var x) (literal s)).eval scope = _
      rw [Expr.eval, hvar, eval_literal (hs s rfl)]
      rfl

theorem eval_joint {op : Joint} {scope : Scope} {g h : Grid Scalar}
    (hx : scope.find? x = some (.matrix g)) (hy : scope.find? y = some (.matrix h)) :
    ((joint op).expression x y).eval scope =
      ((Command.joined op g h).mapError Cause.grid).map .matrix := by
  have hvar : (Expr.var x).eval scope = .ok (.matrix g) := by
    rw [Expr.eval, hx]
  have hvar' : (Expr.var y).eval scope = .ok (.matrix h) := by
    rw [Expr.eval, hy]
  cases op with
  | multiply =>
      show (Expr.binary .mul (.var x) (.var y)).eval scope = _
      rw [Expr.eval, hvar, hvar']
      rfl
  | add =>
      show (Expr.binary .add (.var x) (.var y)).eval scope = _
      rw [Expr.eval, hvar, hvar']
      rfl

/-- What a script loads is what a command takes. -/
theorem loadGrid_gridPath_iff (hx : IsName x) {g : Grid Scalar} :
    (folder.loadGrid .i64 (settings.gridPath x)).result = .ok g ↔
      Holds folder (settings.gridPath x) g := by
  have hpath : Command.isGridPath (settings.gridPath x) = true := by
    unfold Command.isGridPath
    rw [settings.extension?_gridPath hx.not_slash hx.ne_empty]
    decide +kernel
  rw [Command.loadGrid_eq_ok_iff, Holds, and_iff_right hpath]

theorem reaches_single_iff (hx : IsName x) {op : Command.Unary}
    (hs : ∀ s ∈ (single op).scalar?, IntType.i64.least < s.val) :
    Reaches folder (start settings) ((single op).program x y) t ↔
      ∃ g, Holds folder (settings.gridPath x) g ∧
        ((start settings).declare x 1 g).bind x (.matrix (op.apply g)) = t := by
  rw [program, reaches_persistent_iff]
  refine exists_congr fun g => and_congr (loadGrid_gridPath_iff hx) ?_
  have heval : ((single op).expression x y).eval ((start settings).declare x 1 g).scope =
      .ok (.matrix (op.apply g)) :=
    eval_single hs (Scope.find?_bind_self _ _ _)
  simp only [reaches_assign_iff, reaches_nil_iff, heval, Except.ok.injEq, exists_eq_left']

theorem reaches_joint_iff (hx : IsName x) (hy : IsName y) (hxy : x ≠ y) {op : Joint} :
    Reaches folder (start settings) ((joint op).program x y) t ↔
      ∃ g, Holds folder (settings.gridPath x) g ∧ ∃ h, Holds folder (settings.gridPath y) h ∧
        ∃ r, Command.joined op g h = .ok r ∧
          (((start settings).declare x 1 g).declare y 2 h).bind x (.matrix r) = t := by
  rw [program, reaches_persistent_iff]
  refine exists_congr fun g => and_congr (loadGrid_gridPath_iff hx) ?_
  rw [reaches_persistent_iff]
  refine exists_congr fun h => and_congr (loadGrid_gridPath_iff hy) ?_
  have hfirst : (((start settings).declare x 1 g).declare y 2 h).scope.find? x =
      some (.matrix g) :=
    (Scope.find?_bind_of_ne _ hxy _).trans (Scope.find?_bind_self _ _ _)
  have heval : ((joint op).expression x y).eval _ =
      ((Command.joined op g h).mapError Cause.grid).map .matrix :=
    eval_joint hfirst (Scope.find?_bind_self _ y (.matrix h))
  rw [reaches_assign_iff, heval]
  constructor
  · rintro ⟨v, hv, ht⟩
    obtain ⟨r, hr, rfl⟩ := (Outcome.map_eq_ok_iff _ _ _).1 hv
    exact ⟨r, (Outcome.mapError_eq_ok_iff _ _ _).1 hr, reaches_nil_iff.1 ht⟩
  · rintro ⟨r, hr, ht⟩
    refine ⟨.matrix r, ?_, reaches_nil_iff.2 ht⟩
    rw [hr]
    rfl

/-- The script succeeds exactly if the command has something to compute, and the first operand
    then holds what the command computes. -/
theorem reaches_program_iff (hx : IsName x) (hy : IsName y) (hxy : x ≠ y)
    (hs : ∀ s ∈ o.scalar?, IntType.i64.least < s.val) (text : List Char) :
    (∃ t r, Reaches folder (start settings) (o.program x y) t ∧
      t.scope.find? x = some (.matrix r) ∧ text = Csv.text r) ↔
    Computes folder (o.command (settings.gridPath x) (settings.gridPath y) output) text := by
  cases o with
  | single op =>
      rw [command, CommandLine.computes_unary_iff]
      simp only [reaches_single_iff hx hs]
      constructor
      · rintro ⟨_, r, ⟨g, hg, rfl⟩, hr, rfl⟩
        cases (Scope.find?_bind_self _ _ _).symm.trans hr
        exact ⟨g, hg, rfl⟩
      · rintro ⟨g, hg, rfl⟩
        exact ⟨_, _, ⟨g, hg, rfl⟩, Scope.find?_bind_self _ _ _, rfl⟩
  | joint op =>
      rw [command, CommandLine.computes_binary_iff]
      simp only [reaches_joint_iff hx hy hxy]
      constructor
      · rintro ⟨_, r, ⟨g, hg, h, hh, p, hp, rfl⟩, hr, rfl⟩
        cases (Scope.find?_bind_self _ _ _).symm.trans hr
        exact ⟨g, h, r, hg, hh, hp, rfl⟩
      · rintro ⟨g, h, r, hg, hh, hr, rfl⟩
        exact ⟨_, r, ⟨g, hg, h, hh, r, hr, rfl⟩, Scope.find?_bind_self _ _ _, rfl⟩

/-- The first operand ends up as a matrix. -/
theorem exists_matrix_of_reaches (hx : IsName x) (hy : IsName y) (hxy : x ≠ y)
    (hs : ∀ s ∈ o.scalar?, IntType.i64.least < s.val)
    (h : Reaches folder (start settings) (o.program x y) t) :
    ∃ r, t.scope.find? x = some (.matrix r) := by
  cases o with
  | single op =>
      obtain ⟨g, -, rfl⟩ := (reaches_single_iff hx hs).1 h
      exact ⟨_, Scope.find?_bind_self _ _ _⟩
  | joint op =>
      obtain ⟨g, -, h, -, r, -, rfl⟩ := (reaches_joint_iff hx hy hxy).1 h
      exact ⟨r, Scope.find?_bind_self _ _ _⟩

theorem mem_declared_program (x y : String) (o : Operation) : x ∈ declared (o.program x y) := by
  cases o <;> exact List.mem_cons_self

theorem isRun_command (left right output : String) (o : Operation) :
    (o.command left right output).isRun = false := by
  cases o <;> rfl

theorem output?_command (left right output : String) (o : Operation) :
    (o.command left right output).output? = some output := by
  cases o <;> rfl

/-- The command line and scripts agree. An operation on the files of grids in a folder, with an
    output that can be written, succeeds exactly if the script does that declares the operands and
    assigns the result to the first of them; the output then has the text that the script leaves
    in the file of the first operand. The scalar of the operation may be any but the least, whose
    opposite is no scalar. -/
theorem perform_iff_runSource {x y : String} (hx : IsName x) (hy : IsName y) (hxy : x ≠ y)
    {o : Operation} (hs : ∀ s ∈ o.scalar?, IntType.i64.least < s.val) (dataDir : String) (echo : Bool)
    (folder : Folder) {output : String} {place : Place}
    (hout : folder.target output = .ok place) :
    let settings : Settings := { dataDir := dataDir, echoExpressions := echo }
    let command := o.command (settings.gridPath x) (settings.gridPath y) output
    let ran := runSource settings folder (o.script x y)
    ((perform folder command).result = .ok () ↔ ∃ report, ran.result = .ok report) ∧
      ∀ report, ran.result = .ok report →
        ∃ text, (perform folder command).folder.read output = .ok (Utf8.encode text) ∧
          ran.state.read (settings.gridPath x) = .ok (Utf8.encode text) := by
  intro settings command ran
  have hparse := parse_script hx hy hs
  have hrun := isRun_command (settings.gridPath x) (settings.gridPath y) output o
  have houtput := output?_command (settings.gridPath x) (settings.gridPath y) output o
  have hwritable : Command.Writable folder command.output? := by
    intro path hpath
    cases houtput.symm.trans hpath
    exact ⟨place, hout⟩
  have hscript : ∀ t, Reaches folder (start settings) (o.program x y) t →
      ∃ r, t.scope.find? x = some (.matrix r) ∧ Computes folder command (Csv.text r) := by
    intro t ht
    obtain ⟨r, hr⟩ := exists_matrix_of_reaches hx hy hxy hs ht
    exact ⟨r, hr, (reaches_program_iff hx hy hxy hs _).1 ⟨t, r, ht, hr, rfl⟩⟩
  have hreport := exists_report_iff hparse settings folder
  refine ⟨?_, fun report hreported => ?_⟩
  -- Both succeed exactly if there is something to compute; for the command there has to be a
  -- place for the output as well, and there is.
  · rw [hreport]
    constructor
    · intro hperform
      obtain ⟨⟨text, htext⟩, -⟩ := CommandLine.computes_of_perform hrun hperform
      obtain ⟨t, -, ht, -⟩ := (reaches_program_iff hx hy hxy hs text).2 htext
      exact ⟨t, ht⟩
    · rintro ⟨t, ht⟩
      obtain ⟨r, -, hcomputes⟩ := hscript t ht
      exact (CommandLine.perform_of_computes hrun hcomputes hwritable).1
  · obtain ⟨t, ht⟩ := hreport.1 ⟨report, hreported⟩
    obtain ⟨r, hr, hcomputes⟩ := hscript t ht
    have hdelivered := (CommandLine.perform_of_computes hrun hcomputes hwritable).2
    exact ⟨Csv.text r, hdelivered.file output houtput,
      read_of_reaches rfl hparse ht (mem_declared_program x y o) hr⟩

/-- Multiplication by a negative scalar. -/
def timesMinusThree : Operation := single (.scale (Element.wrap .i64 (-3)))

theorem perform_iff_runSource_timesMinusThree :
    let ran := runSource { dataDir := "." } CommandLine.twoCellsFile
      "persistent A\nA = A * -3\n".toList
    let done := perform CommandLine.twoCellsFile
      (.unary (.scale (Element.wrap .i64 (-3))) "./A.csv" (some "out.csv"))
    done.result = .ok () ∧ (∃ report, ran.result = .ok report) ∧
      done.folder.read "out.csv" = .ok (Utf8.encode "-3,6\n".toList) ∧
      ran.state.read "./A.csv" = .ok (Utf8.encode "-3,6\n".toList) := by
  intro ran done
  have hnameA : IsName "A" := ⟨⟨'A', [], rfl, by decide +kernel, nofun⟩, by decide, by decide⟩
  have hnameB : IsName "B" := ⟨⟨'B', [], rfl, by decide +kernel, nofun⟩, by decide, by decide⟩
  have hpath : ({ dataDir := "." } : Settings).gridPath "A" = "./A.csv" := by decide +kernel
  have hscript : timesMinusThree.script "A" "B" = "persistent A\nA = A * -3\n".toList := by
    decide +kernel
  have htarget : CommandLine.twoCellsFile.target "out.csv" = .ok ["out.csv"] := by decide +kernel
  have hscalar : ∀ s ∈ timesMinusThree.scalar?, IntType.i64.least < s.val := by
    intro s hs
    cases hs
    decide +kernel
  have hholds : Holds CommandLine.twoCellsFile "./A.csv" CommandLine.twoCells :=
    ⟨by decide +kernel, _, by decide +kernel, Csv.readBytes_encode_text ⟨by decide, by decide, rfl⟩⟩
  have hwritable : Command.Writable CommandLine.twoCellsFile (some "out.csv") := by
    intro path hpath
    cases hpath
    exact ⟨_, htarget⟩
  have hcomputes : Computes CommandLine.twoCellsFile
      (.unary (.scale (Element.wrap .i64 (-3))) "./A.csv" (some "out.csv")) _ := .scale hholds
  obtain ⟨hdone, hdelivered⟩ := CommandLine.perform_of_computes rfl hcomputes hwritable
  have hout : done.folder.read "out.csv" = .ok (Utf8.encode "-3,6\n".toList) := by
    rw [hdelivered.file "out.csv" rfl]
    decide +kernel
  obtain ⟨hiff, htext⟩ := perform_iff_runSource hnameA hnameB (by decide) hscalar "." true
    CommandLine.twoCellsFile htarget
  rw [hpath, hscript] at hiff htext
  obtain ⟨report, hreport⟩ := hiff.1 hdone
  obtain ⟨text, hleft, hright⟩ := htext report hreport
  refine ⟨hdone, ⟨report, hreport⟩, hout, ?_⟩
  exact hright.trans (hleft.symm.trans hout)

end Operation

end Gridscript
