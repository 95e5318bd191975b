/-
  Grids in files.

  Records apart, a grid is loaded from the bytes of its file and saved as the bytes of its text.
  The bytes of a text stand for it, so a grid is loaded from where its text is as it was.
-/
import Gridscript.Folder.Store
import Gridscript.Proofs.Csv.RoundTrip
import Gridscript.Proofs.Grid.WellFormed
import Gridscript.Proofs.Text.Utf8

namespace Gridscript

variable {τ : IntType}

theorem Csv.result_readTraced (text : List Char) :
    (Csv.readTraced τ text).result = Csv.read τ text := by
  unfold Csv.readTraced
  split
  · rw [Traced.result_bind]
    rfl
  · rfl

theorem Csv.readBytes_encode_text {g : Grid (Element τ)} (h : g.WellFormed) :
    Csv.readBytes τ (Utf8.encode (Csv.text g)) = .ok g := by
  have hdecode : Csv.decode (Utf8.encode (Csv.text g)) = .ok (Csv.text g) := by
    unfold Csv.decode
    rw [Utf8.decode?_encode]
  unfold Csv.readBytes
  rw [hdecode]
  show Csv.read τ (Csv.text g) = .ok g
  rw [Csv.read_of_tableText (Csv.tableText_text h) (.inl rfl), ← h.eq_mk_toRows]

namespace Folder

theorem result_loadGrid (f : Folder) (path : String) :
    (f.loadGrid τ path).result = f.readGridFile path >>= Csv.readBytes τ := by
  simp only [loadGrid, Csv.readBytesTraced, Traced.result_bind, Traced.result_lift,
    Csv.result_readTraced, Traced.result_note, Traced.result_pure]
  cases f.readGridFile path with
  | error e => rfl
  | ok bytes =>
      show (Csv.readBytes τ bytes >>= fun g => Except.ok g) = Csv.readBytes τ bytes
      cases Csv.readBytes τ bytes <;> rfl

theorem result_saveGrid (f : Folder) (path : String) (g : Grid (Element τ)) :
    (f.saveGrid path g).result =
      (f.write path (Utf8.encode (Csv.text g))).mapError (GridFault.file path) := by
  simp only [saveGrid, Traced.result_bind, Traced.result_lift, Traced.result_note,
    Traced.result_pure]
  cases f.write path (Utf8.encode (Csv.text g)) <;> rfl

theorem wellFormed_loadGrid {f : Folder} {path : String} {g : Grid (Element τ)}
    (h : (f.loadGrid τ path).result = .ok g) : g.WellFormed := by
  rw [result_loadGrid] at h
  obtain ⟨bytes, -, h⟩ := (Outcome.bind_eq_ok_iff _ _ _).1 h
  exact Csv.wellFormed_readBytes h

/-- A file with the text of a grid holds that grid. -/
theorem loadGrid_of_read_text {f : Folder} {path : String} {g : Grid (Element τ)}
    (hg : g.WellFormed) (h : f.read path = .ok (Utf8.encode (Csv.text g))) :
    (f.loadGrid τ path).result = .ok g := by
  rw [result_loadGrid, readGridFile, h]
  exact Csv.readBytes_encode_text hg

end Folder

end Gridscript
