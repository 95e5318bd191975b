/-
  One-shot commands.

  A command takes all its grids from the tree as it is, computes, and then writes once or not at
  all. `Computes` says what a command makes of the files in a tree, with one rule for each command
  and no word on how it is carried out, and `Delivers` where the text goes. A command succeeds
  exactly if there is such a text and a place to put it (`exists_performWrite`). So whatever
  makes it fail does so before anything is written, and it does not matter whether the output is
  one of the operands.

  This covers inputs and outputs in the working folder. A path that starts with a slash or leaves
  by `..` leads to no file here (`Folder.no_file_outside`), so a command with one fails.
-/
import Gridscript.CommandLine.Completion
import Gridscript.Proofs.Folder.GridFile
import Gridscript.Proofs.Folder.Writing

namespace Gridscript

/-! ## Rows as text -/

/-- A row is written like the grid that has no other. -/
theorem Csv.text_single {τ : IntType} (cells : List (Element τ)) :
    Csv.text ⟨1, cells.length, cells.toArray⟩ = Csv.line cells ++ ['\n'] := by
  have hrows : (⟨1, cells.length, cells.toArray⟩ : Grid (Element τ)).toRows = [cells] := by
    simp [Grid.toRows]
  rw [Csv.text, hrows]
  exact List.append_nil _

/-- A copy of a row is one of the list of rows. -/
theorem Grid.row_eq_ok_iff {α : Type} {g : Grid α} {index : Nat} {r : Row α} :
    g.row index = .ok r ↔ g.toRows[index]? = some r.cells.toList := by
  unfold Grid.row Grid.toRows
  rw [List.getElem?_map]
  by_cases h : g.rows ≤ index
  · rw [if_pos h, List.getElem?_eq_none (by rwa [List.length_range])]
    exact iff_of_false nofun nofun
  · rw [if_neg h, List.getElem?_range (Nat.lt_of_not_le h)]
    obtain ⟨cells⟩ := r
    rw [Option.map_some, Except.ok.injEq, Option.some.injEq, Row.mk.injEq, Array.toList_inj]

namespace Command

/-- An element multiplied by one scalar and added to another, as far as they are given. -/
def adjusted (scale shift : Option Scalar) (a : Scalar) : Scalar :=
  let product := match scale with
    | some s => a * s
    | none => a
  match shift with
  | some s => product + s
  | none => product

theorem toList_adjust (scale shift : Option Scalar) (r : Row Scalar) :
    (adjust scale shift r).cells.toList = r.cells.toList.map (adjusted scale shift) := by
  cases scale with
  | none =>
      cases shift with
      | none => exact (List.map_id _).symm
      | some t => exact Array.toList_map
  | some s =>
      cases shift with
      | none => exact Array.toList_map
      | some t =>
          simp only [adjust, Row.scale, Row.shift, Row.map, Array.toList_map, List.map_map]
          rfl

/-! ## Input -/

/-- The path is that of a grid file, and this is the grid in it. -/
def Holds (folder : Folder) (path : String) (grid : Grid Scalar) : Prop :=
  isGridPath path = true ∧
    ∃ bytes, folder.read path = .ok bytes ∧ Csv.readBytes .i64 bytes = .ok grid

variable {folder : Folder} {path : String} {grid : Grid Scalar}

theorem Holds.unique {other : Grid Scalar} (h : Holds folder path grid)
    (h' : Holds folder path other) : grid = other := by
  obtain ⟨-, bytes, hread, hgrid⟩ := h
  obtain ⟨-, bytes', hread', hgrid'⟩ := h'
  cases hread.symm.trans hread'
  exact Except.ok.inj (hgrid.symm.trans hgrid')

/-- Where something can be read, there is something. -/
theorem has_of_read {bytes : List UInt8} (h : folder.read path = .ok bytes) :
    folder.has path = true := by
  unfold Folder.read at h
  unfold Folder.has
  split at h
  · cases h
  · cases h
  · rename_i place hresolve
    split at h
    · cases h
    · cases h
    · rename_i b hfind
      simp only [hfind, Option.isSome_some]

theorem loadGrid_eq_ok_iff :
    (folder.loadGrid .i64 path).result = .ok grid ↔
      ∃ bytes, folder.read path = .ok bytes ∧ Csv.readBytes .i64 bytes = .ok grid := by
  rw [Folder.result_loadGrid, Outcome.bind_eq_ok_iff]
  simp only [Folder.readGridFile, Outcome.mapError_eq_ok_iff]

theorem input_eq_ok_iff : (input folder path).result = .ok grid ↔ Holds folder path grid := by
  have hvalid : ∀ bytes, folder.read path = .ok bytes → isGridPath path = true →
      validate folder path = .ok () := by
    intro bytes hread hpath
    simp [validate, hpath, has_of_read hread]
  have hpath : validate folder path = .ok () → isGridPath path = true := by
    intro h
    unfold validate at h
    split at h
    · cases h
    · simpa using ‹¬(!isGridPath path) = true›
  rw [input, Traced.result_bind, Outcome.bind_eq_ok_iff]
  simp only [Traced.result_lift, Traced.result_mapFault, Outcome.mapError_eq_ok_iff,
    loadGrid_eq_ok_iff]
  constructor
  · rintro ⟨_, hv, hload⟩
    exact ⟨hpath hv, hload⟩
  · rintro ⟨hp, bytes, hread, hgrid⟩
    exact ⟨(), hvalid bytes hread hp, bytes, hread, hgrid⟩

/-! ## Output -/

/-- Where a text goes: it is printed, or it becomes the file that is named. -/
def Delivers (folder : Folder) (output : Option String) (text : List Char) (w : Written) : Prop :=
  match output with
  | none => w = ⟨folder, text⟩
  | some path => ∃ place, folder.target path = .ok place ∧
      w = ⟨folder.put place (.file (Utf8.encode text)), []⟩

/-- There is a place for the output. -/
def Writable (folder : Folder) (output : Option String) : Prop :=
  ∀ path, output = some path → ∃ place, folder.target path = .ok place

theorem exists_delivers_iff {output : Option String} {text : List Char} :
    (∃ w, Delivers folder output text w) ↔ Writable folder output := by
  unfold Writable
  cases output with
  | none => exact iff_of_true ⟨_, rfl⟩ nofun
  | some path =>
      constructor
      · rintro ⟨w, place, hplace, -⟩ other hother
        cases hother
        exact ⟨place, hplace⟩
      · intro h
        obtain ⟨place, hplace⟩ := h path rfl
        exact ⟨_, place, hplace, rfl⟩

/-- What comes of writing a text to a path, however its faults are told. -/
theorem delivers_iff_of_write {ε : Type} {x : Except ε Folder} {text : List Char} {w : Written}
    (hx : ∀ f, x = .ok f ↔ folder.write path (Utf8.encode text) = .ok f) :
    (x >>= fun f => Except.ok (⟨f, []⟩ : Written)) = .ok w ↔
      Delivers folder (some path) text w := by
  simp only [Outcome.bind_eq_ok_iff, hx, Folder.write_eq_ok_iff, Delivers]
  constructor
  · rintro ⟨_, ⟨place, hplace, rfl⟩, hw⟩
    exact ⟨place, hplace, (Except.ok.inj hw).symm⟩
  · rintro ⟨place, hplace, rfl⟩
    exact ⟨_, ⟨place, hplace, rfl⟩, rfl⟩

theorem writeGrid_eq_ok_iff {output : Option String} {w : Written} :
    (writeGrid folder grid output).result = .ok w ↔
      Delivers folder output (Csv.text grid) w := by
  cases output with
  | none => exact ⟨fun h => (by cases h; rfl), fun h => (by rw [h]; rfl)⟩
  | some path =>
      rw [writeGrid, Traced.result_bind]
      refine delivers_iff_of_write fun f => ?_
      rw [Traced.result_mapFault, Folder.result_saveGrid, Outcome.mapError_eq_ok_iff,
        Outcome.mapError_eq_ok_iff]

theorem writeRow_eq_ok_iff {r : Row Scalar} {output : Option String} {w : Written} :
    (writeRow folder r output).result = .ok w ↔
      Delivers folder output (Csv.line r.cells.toList ++ ['\n']) w := by
  cases output with
  | none => exact ⟨fun h => (by cases h; rfl), fun h => (by rw [h]; rfl)⟩
  | some path =>
      rw [writeRow, Traced.result_bind]
      refine delivers_iff_of_write fun f => ?_
      rw [Traced.result_lift, Outcome.mapError_eq_ok_iff]

/-- What a delivered text leaves behind: the printed text, or the file, and no other change. -/
structure Delivered (folder : Folder) (output : Option String) (text : List Char) (after : Folder)
    (printed : String) : Prop where
  printed_eq : printed = if output.isSome then "" else String.ofList text
  file : ∀ path, output = some path → after.read path = .ok (Utf8.encode text)
  frame : ∀ place, (∀ path, output = some path → folder.resolve path ≠ .ok (.inside place)) →
    after.find? place = folder.find? place

theorem Delivers.delivered {output : Option String} {text : List Char} {w : Written}
    (h : Delivers folder output text w) :
    Delivered folder output text w.folder (String.ofList w.printed) := by
  cases output with
  | none =>
      obtain rfl : w = ⟨folder, text⟩ := h
      exact ⟨rfl, nofun, fun _ _ => rfl⟩
  | some path =>
      obtain ⟨place, hplace, rfl⟩ := h
      refine ⟨rfl, fun other hother => ?_, fun other hother => ?_⟩
      · cases hother
        have hwrites : Folder.Writes folder ([] ++ [(path, Utf8.encode text)]) _ :=
          .cons hplace .nil
        exact hwrites.read_eq fun _ _ => nofun
      · refine Folder.find?_put_of_ne folder ?_ _
        rintro rfl
        exact hother path rfl (Folder.resolve_of_target hplace)

end Command

/-! ## Commands -/

namespace CommandLine

open Command

/-- The command runs a script. -/
def Invocation.isRun : Invocation → Bool
  | run .. => true
  | _ => false

/-- The file that the result is asked to be written to. -/
def Invocation.output? : Invocation → Option String
  | run .. => none
  | shape _ => none
  | unary _ _ output => output
  | binary _ _ _ output => output
  | row _ _ _ _ output => output

/-- `Computes folder command text`: of the grids in the files of the tree that it is given, the
    command makes something with this text. -/
inductive Computes (folder : Folder) : Invocation → List Char → Prop
  | shape {input : String} {g : Grid Scalar} (hg : Holds folder input g) :
      Computes folder (.shape input) s!"{g.rows} x {g.cols}\n".toList
  | transpose {input : String} {output : Option String} {g : Grid Scalar}
      (hg : Holds folder input g) :
      Computes folder (.unary .transpose input output) (Csv.text g.transpose)
  | scale {input : String} {output : Option String} {s : Scalar} {g : Grid Scalar}
      (hg : Holds folder input g) :
      Computes folder (.unary (.scale s) input output) (Csv.text (g.scale s))
  | shift {input : String} {output : Option String} {s : Scalar} {g : Grid Scalar}
      (hg : Holds folder input g) :
      Computes folder (.unary (.shift s) input output) (Csv.text (g.shift s))
  | multiply {left right : String} {output : Option String} {g h result : Grid Scalar}
      (hg : Holds folder left g) (hh : Holds folder right h) (hr : g.multiply h = .ok result) :
      Computes folder (.binary .multiply left right output) (Csv.text result)
  | add {left right : String} {output : Option String} {g h result : Grid Scalar}
      (hg : Holds folder left g) (hh : Holds folder right h) (hr : g.add h = .ok result) :
      Computes folder (.binary .add left right output) (Csv.text result)
  | row {input : String} {index : Nat} {scale shift : Option Scalar} {output : Option String}
      {g : Grid Scalar} {cells : List Scalar} (hg : Holds folder input g)
      (hrow : g.toRows[index]? = some cells) :
      Computes folder (.row input index scale shift output)
        (Csv.text ⟨1, cells.length, (cells.map (adjusted scale shift)).toArray⟩)

variable {folder : Folder}

theorem computes_unary_iff {op : Unary} {input : String} {output : Option String}
    {text : List Char} :
    Computes folder (.unary op input output) text ↔
      ∃ g, Holds folder input g ∧ text = Csv.text (op.apply g) := by
  constructor
  · intro h
    cases h with
    | transpose hg => exact ⟨_, hg, rfl⟩
    | scale hg => exact ⟨_, hg, rfl⟩
    | shift hg => exact ⟨_, hg, rfl⟩
  · rintro ⟨g, hg, rfl⟩
    cases op with
    | transpose => exact .transpose hg
    | scale s => exact .scale hg
    | shift s => exact .shift hg

theorem computes_binary_iff {op : Joint} {left right : String} {output : Option String}
    {text : List Char} :
    Computes folder (.binary op left right output) text ↔
      ∃ g h result, Holds folder left g ∧ Holds folder right h ∧ joined op g h = .ok result ∧
        text = Csv.text result := by
  constructor
  · intro h
    cases h with
    | multiply hg hh hr => exact ⟨_, _, _, hg, hh, hr, rfl⟩
    | add hg hh hr => exact ⟨_, _, _, hg, hh, hr, rfl⟩
  · rintro ⟨g, h, result, hg, hh, hr, rfl⟩
    cases op with
    | multiply => exact .multiply hg hh hr
    | add => exact .add hg hh hr

/-- The row is written by itself, as the text of a grid with no other row. -/
theorem computes_row_iff {input : String} {index : Nat} {scale shift : Option Scalar}
    {output : Option String} {text : List Char} :
    Computes folder (.row input index scale shift output) text ↔
      ∃ g r, Holds folder input g ∧ g.row index = .ok r ∧
        text = Csv.line (adjust scale shift r).cells.toList ++ ['\n'] := by
  have htext : ∀ r : Row Scalar, Csv.line (adjust scale shift r).cells.toList ++ ['\n'] =
      Csv.text ⟨1, r.cells.toList.length,
        (r.cells.toList.map (adjusted scale shift)).toArray⟩ := by
    intro r
    rw [← List.length_map (adjusted scale shift), Csv.text_single, toList_adjust]
  constructor
  · intro h
    cases h with
    | @row _ _ _ _ _ g cells hg hrow =>
        have hr : g.row index = .ok ⟨cells.toArray⟩ := Grid.row_eq_ok_iff.2 hrow
        exact ⟨g, _, hg, hr, (htext ⟨cells.toArray⟩).symm⟩
  · rintro ⟨g, r, hg, hr, rfl⟩
    rw [htext]
    exact .row hg (Grid.row_eq_ok_iff.1 hr)

/-! ## Carrying out -/

theorem unary_eq_ok_iff {op : Unary} {input : String} {r : Grid Scalar} :
    (Command.unary folder input op).result = .ok r ↔
      ∃ g, Holds folder input g ∧ op.apply g = r := by
  simp only [Command.unary, Traced.result_bind, Outcome.bind_eq_ok_iff, input_eq_ok_iff,
    Traced.result_note, Traced.result_pure, Except.ok.injEq, true_and, exists_const]

theorem binary_eq_ok_iff {op : Joint} {left right : String} {r : Grid Scalar} :
    (Command.binary folder left right op).result = .ok r ↔
      ∃ g, Holds folder left g ∧ ∃ h, Holds folder right h ∧ joined op g h = .ok r := by
  simp only [Command.binary, Traced.result_bind, Outcome.bind_eq_ok_iff, input_eq_ok_iff,
    Traced.result_note, Traced.result_pure, Traced.result_lift, Outcome.mapError_eq_ok_iff,
    Except.ok.injEq, true_and, exists_const, exists_eq_right]

theorem row_eq_ok_iff {input : String} {index : Nat} {scale shift : Option Scalar}
    {r : Row Scalar} :
    (Command.row folder input index scale shift).result = .ok r ↔
      ∃ g, Holds folder input g ∧ ∃ r', g.row index = .ok r' ∧ adjust scale shift r' = r := by
  simp only [Command.row, Traced.result_bind, Outcome.bind_eq_ok_iff, input_eq_ok_iff,
    Traced.result_pure, Traced.result_lift, Outcome.mapError_eq_ok_iff, Except.ok.injEq]

/-- A command that runs no script is one computation with an output, which succeeds exactly as
    `Computes` and `Delivers` say. -/
theorem exists_performWrite (folder : Folder) {command : Invocation}
    (hrun : command.isRun = false) :
    ∃ t : Traced Failure Written, perform folder command = performWrite folder t ∧
      ∀ w, t.result = .ok w ↔
        ∃ text, Computes folder command text ∧ Delivers folder command.output? text w := by
  cases command with
  | run => cases hrun
  | shape input =>
      refine ⟨_, rfl, fun w => ?_⟩
      simp only [shapeText, Traced.result_bind, Outcome.bind_eq_ok_iff, input_eq_ok_iff]
      constructor
      · rintro ⟨g, hg, hw⟩
        exact ⟨_, .shape hg, (Except.ok.inj hw).symm⟩
      · rintro ⟨_, ⟨hg⟩, rfl⟩
        exact ⟨_, hg, rfl⟩
  | unary op input output =>
      refine ⟨_, rfl, fun w => ?_⟩
      simp only [Traced.result_bind, Outcome.bind_eq_ok_iff, unary_eq_ok_iff,
        writeGrid_eq_ok_iff, computes_unary_iff]
      constructor
      · rintro ⟨_, ⟨g, hg, rfl⟩, hw⟩
        exact ⟨_, ⟨g, hg, rfl⟩, hw⟩
      · rintro ⟨_, ⟨g, hg, rfl⟩, hw⟩
        exact ⟨_, ⟨g, hg, rfl⟩, hw⟩
  | binary op left right output =>
      refine ⟨_, rfl, fun w => ?_⟩
      simp only [Traced.result_bind, Outcome.bind_eq_ok_iff, binary_eq_ok_iff,
        writeGrid_eq_ok_iff, computes_binary_iff]
      constructor
      · rintro ⟨r, ⟨g, hg, h, hh, hr⟩, hw⟩
        exact ⟨_, ⟨g, h, r, hg, hh, hr, rfl⟩, hw⟩
      · rintro ⟨_, ⟨g, h, r, hg, hh, hr, rfl⟩, hw⟩
        exact ⟨r, ⟨g, hg, h, hh, hr⟩, hw⟩
  | row input index scale shift output =>
      refine ⟨_, rfl, fun w => ?_⟩
      simp only [Traced.result_bind, Outcome.bind_eq_ok_iff, row_eq_ok_iff,
        writeRow_eq_ok_iff, computes_row_iff]
      constructor
      · rintro ⟨_, ⟨g, hg, r, hr, rfl⟩, hw⟩
        exact ⟨_, ⟨g, r, hg, hr, rfl⟩, hw⟩
      · rintro ⟨_, ⟨g, r, hg, hr, rfl⟩, hw⟩
        exact ⟨_, ⟨g, hg, r, hr, rfl⟩, hw⟩

theorem perform_of_computes {command : Invocation} {text : List Char}
    (hrun : command.isRun = false) (htext : Computes folder command text)
    (hout : Writable folder command.output?) :
    (perform folder command).result = .ok () ∧
      Delivered folder command.output? text (perform folder command).folder
        (perform folder command).printed := by
  obtain ⟨t, ht, hok⟩ := exists_performWrite folder hrun
  obtain ⟨w, hw⟩ := exists_delivers_iff.2 hout
  rw [ht, performWrite, (hok w).2 ⟨text, htext, hw⟩]
  exact ⟨rfl, hw.delivered⟩

theorem computes_of_perform {command : Invocation} (hrun : command.isRun = false)
    (h : (perform folder command).result = .ok ()) :
    (∃ text, Computes folder command text) ∧ Writable folder command.output? := by
  obtain ⟨t, ht, hok⟩ := exists_performWrite folder hrun
  rw [ht, performWrite] at h
  cases hresult : t.result with
  | error failure =>
      rw [hresult] at h
      cases h
  | ok w =>
      obtain ⟨text, htext, hw⟩ := (hok w).1 hresult
      exact ⟨⟨text, htext⟩, exists_delivers_iff.1 ⟨w, hw⟩⟩

theorem folder_of_perform_error {command : Invocation} (hrun : command.isRun = false)
    {failure : Failure} (h : (perform folder command).result = .error failure) :
    (perform folder command).folder = folder := by
  obtain ⟨t, ht, -⟩ := exists_performWrite folder hrun
  rw [ht, performWrite] at h ⊢
  cases hresult : t.result with
  | error failure' => rfl
  | ok w =>
      rw [hresult] at h
      cases h

/-! ## Command lines -/

variable {args : List String}

/-- A command line that asks for a command ends as the command does. -/
theorem complete_of_invoke (folder : Folder) {command : Invocation}
    (h : request args = .invoke command) (filterText : Option String) :
    ((complete folder filterText args).exit = 0 ↔ (perform folder command).result = .ok ()) ∧
      (complete folder filterText args).folder = (perform folder command).folder ∧
      (complete folder filterText args).printed = (perform folder command).printed := by
  unfold complete
  simp only [h]
  cases (perform folder command).result with
  | error failure => exact ⟨iff_of_false nofun nofun, rfl, rfl⟩
  | ok => exact ⟨iff_of_true rfl rfl, rfl, rfl⟩

theorem folder_of_not_invoke (h : ∀ command, request args ≠ .invoke command)
    (filterText : Option String) : (complete folder filterText args).folder = folder := by
  unfold complete
  cases hrequest : request args with
  | invoke command => exact absurd hrequest (h command)
  | version => rfl
  | help => rfl
  | usage => rfl

/-- One-shot commands are atomic and safe in place. A command line that runs no script and ends
    with a failure leaves all files as they were. A command succeeds exactly if its operands hold
    grids that it can compute with and there is a place for its output. It then has changed no
    file but its output, which has the text of what it computes of the operands as they were
    before, also where the output is one of them. -/
theorem complete_atomic (folder : Folder) (filterText : Option String)
    (hrun : ∀ command, request args = .invoke command → command.isRun = false) :
    ((complete folder filterText args).exit ≠ 0 →
      (complete folder filterText args).folder = folder) ∧
    ∀ command, request args = .invoke command →
      ((complete folder filterText args).exit = 0 ↔
        (∃ text, Computes folder command text) ∧ Writable folder command.output?) ∧
      ((complete folder filterText args).exit = 0 →
        ∃ text, Computes folder command text ∧
          Delivered folder command.output? text (complete folder filterText args).folder
            (complete folder filterText args).printed) := by
  refine ⟨fun hexit => ?_, fun command hrequest => ?_⟩
  · by_cases h : ∃ command, request args = .invoke command
    · obtain ⟨command, hrequest⟩ := h
      obtain ⟨hzero, hfolder, -⟩ := complete_of_invoke folder hrequest filterText
      rw [hfolder]
      cases hresult : (perform folder command).result with
      | error failure => exact folder_of_perform_error (hrun command hrequest) hresult
      | ok => exact absurd (hzero.2 hresult) hexit
    · exact folder_of_not_invoke (fun command hrequest => h ⟨command, hrequest⟩) filterText
  · obtain ⟨hzero, hfolder, hprinted⟩ := complete_of_invoke folder hrequest filterText
    have hone := hrun command hrequest
    rw [hzero, hfolder, hprinted]
    constructor
    · refine ⟨computes_of_perform hone, ?_⟩
      rintro ⟨⟨text, htext⟩, hout⟩
      exact (perform_of_computes hone htext hout).1
    · intro hok
      obtain ⟨⟨text, htext⟩, hout⟩ := computes_of_perform hone hok
      exact ⟨text, htext, (perform_of_computes hone htext hout).2⟩

/-- A row of two cells. -/
def twoCells : Grid Scalar := ⟨1, 2, #[Element.wrap .i64 1, Element.wrap .i64 (-2)]⟩

/-- The row in a file. -/
def twoCellsFile : Folder := ⟨[(["A.csv"], .file (Utf8.encode (Csv.text twoCells)))]⟩

/-- A file can be replaced by its own transpose. -/
theorem complete_atomic_in_place :
    request ["transpose", "A.csv", "-o", "A.csv"] =
        .invoke (.unary .transpose "A.csv" (some "A.csv")) ∧
      (complete twoCellsFile none ["transpose", "A.csv", "-o", "A.csv"]).exit = 0 ∧
      (complete twoCellsFile none ["transpose", "A.csv", "-o", "A.csv"]).folder.read "A.csv" =
        .ok (Utf8.encode ['1', '\n', '-', '2', '\n']) := by
  have hrequest : request ["transpose", "A.csv", "-o", "A.csv"] =
      .invoke (.unary .transpose "A.csv" (some "A.csv")) := by
    decide +kernel
  have hholds : Holds twoCellsFile "A.csv" twoCells :=
    ⟨by decide +kernel, _, by decide +kernel, Csv.readBytes_encode_text ⟨by decide, by decide, rfl⟩⟩
  have hwritable : Writable twoCellsFile (some "A.csv") := by
    intro path hpath
    cases hpath
    exact ⟨["A.csv"], by decide +kernel⟩
  have hone : ∀ command, request ["transpose", "A.csv", "-o", "A.csv"] = .invoke command →
      command.isRun = false := by
    intro command h
    rw [hrequest] at h
    cases h
    rfl
  obtain ⟨-, hcommand⟩ := complete_atomic twoCellsFile none hone
  obtain ⟨hexit, hdelivered⟩ := hcommand _ hrequest
  have hzero := hexit.2 ⟨⟨_, .transpose hholds⟩, hwritable⟩
  obtain ⟨text, htext, hfile⟩ := hdelivered hzero
  refine ⟨hrequest, hzero, ?_⟩
  cases htext with
  | transpose hg =>
      rw [hfile.file "A.csv" rfl, hg.unique hholds]
      decide +kernel

end CommandLine

end Gridscript
