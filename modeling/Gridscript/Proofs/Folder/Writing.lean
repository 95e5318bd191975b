/-
  Writing files one after the other.

  A file is written to where no folder is, so a tree keeps its folders (`sameFolders_put`). That
  is all that a walk which succeeds has seen of it: the files that come and go at the places in
  between only change what is said about a path that leads nowhere. So the place that a path is
  written to does not depend on what has been written before (`SameFolders.target_of_ok`), and
  after any number of writings each place has what was last written to it, or what it had.

  All of this, and all that is shown with it about runs and commands, is about the files in the
  working folder. A walk that has left it does not come back, so no file is read or written on such
  a path (`no_file_outside`).
-/
import Gridscript.Proofs.Folder.Rewrite

namespace Gridscript.Folder

variable {f g : Folder}

/-! ## Trees with the same folders -/

def SameFolders (f g : Folder) : Prop :=
  ∀ place, f.find? place = some .folder ↔ g.find? place = some .folder

theorem SameFolders.refl (f : Folder) : SameFolders f f := fun _ => Iff.rfl

theorem SameFolders.symm (h : SameFolders f g) : SameFolders g f := fun place => (h place).symm

theorem SameFolders.trans {k : Folder} (hfg : SameFolders f g) (hgk : SameFolders g k) :
    SameFolders f k := fun place => (hfg place).trans (hgk place)

theorem SameFolders.step_of_ok (h : SameFolders f g) {spot next : Spot} {name : String}
    (hstep : f.step spot name = .ok next) : g.step spot name = .ok next := by
  cases spot with
  | outside => exact hstep
  | inside place =>
      unfold step at hstep ⊢
      cases hf : f.find? place with
      | none =>
          simp only [hf] at hstep
          cases hstep
      | some node =>
          cases node with
          | file bytes =>
              simp only [hf] at hstep
              cases hstep
          | folder =>
              simp only [hf] at hstep
              simp only [(h place).1 hf]
              exact hstep

theorem SameFolders.walk_of_ok (h : SameFolders f g) {spot last : Spot} {names : List String}
    (hwalk : f.walk spot names = .ok last) : g.walk spot names = .ok last := by
  induction names generalizing spot with
  | nil => exact hwalk
  | cons name rest ih =>
      cases hstep : f.step spot name with
      | error e =>
          rw [walk, hstep] at hwalk
          cases hwalk
      | ok next =>
          rw [walk, hstep] at hwalk
          rw [walk, h.step_of_ok hstep]
          exact ih hwalk

/-- What it takes for a path to be written to a place: it ends in no slash, and leads there. -/
theorem target_eq_ok_iff {path : String} {place : Place} :
    f.target path = .ok place ↔
      refused? path = none ∧
      ((Path.parts path).reverse.dropWhile (· = "")).reverse.length = (Path.parts path).length ∧
      f.walk (startOf path) (Path.parts path) = .ok (.inside place) ∧
      f.find? place ≠ some .folder := by
  rw [target]
  cases hrefused : refused? path with
  | some fault => simp
  | none =>
      dsimp only
      by_cases hslash : ((Path.parts path).reverse.dropWhile (· = "")).reverse.length =
          (Path.parts path).length
      · rw [if_neg fun hne => hne hslash]
        cases hwalk : f.walk (startOf path) (Path.parts path) with
        | error e => simp
        | ok spot =>
            cases spot with
            | outside => simp
            | inside last =>
                by_cases hfolder : f.find? last = some .folder
                · dsimp only
                  rw [if_pos hfolder]
                  refine iff_of_false nofun ?_
                  rintro ⟨-, -, hlast, hfind⟩
                  cases hlast
                  exact hfind hfolder
                · dsimp only
                  rw [if_neg hfolder]
                  constructor
                  · intro h
                    cases h
                    exact ⟨rfl, hslash, rfl, hfolder⟩
                  · rintro ⟨-, -, hlast, -⟩
                    cases hlast
                    rfl
      · rw [if_pos hslash]
        refine iff_of_false ?_ fun h => hslash h.2.1
        split <;> exact nofun

/-! ## Outside of the working folder -/

theorem walk_outside {names : List String} {spot : Spot} (h : f.walk .outside names = .ok spot) :
    spot = .outside := by
  induction names with
  | nil =>
      cases h
      rfl
  | cons name rest ih =>
      cases hstep : f.step .outside name with
      | error e =>
          rw [walk, hstep] at h
          cases h
      | ok next =>
          have hnext : next = .outside := by
            rw [step] at hstep
            split at hstep
            · cases hstep
              rfl
            · cases hstep
          rw [walk, hstep, hnext] at h
          exact ih h

theorem not_inside_of_leaves {spot : Spot} {before : List String}
    (hleaves : f.walk spot before = .ok .outside) (after : List String) (place : Place) :
    f.walk spot (before ++ after) ≠ .ok (.inside place) := by
  intro h
  rw [walk_append, hleaves] at h
  cases walk_outside h

/-- A path that leaves the working folder, as one that starts with a slash does before its first
    name, leads to no file: nothing is read there, and nothing is written. -/
theorem no_file_outside {path : String} {before after : List String}
    (hparts : Path.parts path = before ++ after)
    (hleaves : f.walk (startOf path) before = .ok .outside) :
    (∀ bytes, f.read path ≠ .ok bytes) ∧ ∀ bytes tree, f.write path bytes ≠ .ok tree := by
  have hwalk : ∀ place, f.walk (startOf path) (Path.parts path) ≠ .ok (.inside place) := by
    rw [hparts]
    exact not_inside_of_leaves hleaves after
  constructor
  · intro bytes h
    obtain ⟨-, place, hplace, -⟩ := walk_of_read h
    exact hwalk place hplace
  · intro bytes tree h
    rw [write] at h
    cases htarget : f.target path with
    | error e =>
        rw [htarget] at h
        cases h
    | ok place => exact hwalk place (target_eq_ok_iff.1 htarget).2.2.1

/-! ## Writing -/

theorem SameFolders.target_of_ok (h : SameFolders f g) {path : String} {place : Place}
    (htarget : f.target path = .ok place) : g.target path = .ok place := by
  obtain ⟨hrefused, hslash, hwalk, hfind⟩ := target_eq_ok_iff.1 htarget
  exact target_eq_ok_iff.2 ⟨hrefused, hslash, h.walk_of_ok hwalk, mt (h place).2 hfind⟩

theorem resolve_of_target {path : String} {place : Place} (h : f.target path = .ok place) :
    f.resolve path = .ok (.inside place) := by
  obtain ⟨hrefused, -, hwalk, -⟩ := target_eq_ok_iff.1 h
  rw [resolve, hrefused]
  exact hwalk

theorem ne_nil_of_target {path : String} {place : Place} (h : f.target path = .ok place) :
    place ≠ [] := by
  rintro rfl
  exact (target_eq_ok_iff.1 h).2.2.2 rfl

theorem sameFolders_put {path : String} {place : Place} (h : f.target path = .ok place)
    (bytes : List UInt8) : SameFolders f (f.put place (.file bytes)) := by
  obtain ⟨-, -, -, hfind⟩ := target_eq_ok_iff.1 h
  intro other
  by_cases ho : other = place
  · rw [ho, find?_put_self f (ne_nil_of_target h)]
    exact iff_of_false hfind nofun
  · rw [find?_put_of_ne f ho]

theorem write_eq_ok_iff {path : String} {bytes : List UInt8} :
    f.write path bytes = .ok g ↔
      ∃ place, f.target path = .ok place ∧ g = f.put place (.file bytes) := by
  rw [write]
  cases f.target path with
  | error e => simp
  | ok place => simp [eq_comm]

/-! ## Sequences of writings -/

/-- `Writes f files g`: the tree `f` becomes `g` when bytes are written to paths, in order. -/
inductive Writes : Folder → List (String × List UInt8) → Folder → Prop
  | nil {f : Folder} : Writes f [] f
  | cons {f g : Folder} {path : String} {bytes : List UInt8} {place : Place}
      {files : List (String × List UInt8)} (h : f.target path = .ok place)
      (hrest : Writes (f.put place (.file bytes)) files g) : Writes f ((path, bytes) :: files) g

variable {files : List (String × List UInt8)}

theorem Writes.sameFolders (h : Writes f files g) : SameFolders f g := by
  induction h with
  | nil => exact .refl _
  | cons h _ ih => exact (sameFolders_put h _).trans ih

/-- A place that none of the paths leads to keeps what it had. -/
theorem Writes.find?_of_ne (h : Writes f files g) {place : Place}
    (hplace : ∀ file ∈ files, f.target file.1 ≠ .ok place) : g.find? place = f.find? place := by
  induction h with
  | nil => rfl
  | @cons f g path bytes last files htarget _ ih =>
      have hfolders := (sameFolders_put htarget bytes).symm
      have hrest : ∀ file ∈ files, (f.put last (.file bytes)).target file.1 ≠ .ok place :=
        fun file hfile hto =>
          hplace file (List.mem_cons_of_mem _ hfile) (hfolders.target_of_ok hto)
      have hne : place ≠ last := by
        rintro rfl
        exact hplace (path, bytes) List.mem_cons_self htarget
      rw [ih hrest, find?_put_of_ne f hne]

theorem Writes.split {more : List (String × List UInt8)} (h : Writes f (files ++ more) g) :
    ∃ mid, Writes f files mid ∧ Writes mid more g := by
  induction files generalizing f with
  | nil => exact ⟨f, .nil, h⟩
  | cons file files ih =>
      cases h with
      | cons htarget hrest =>
          obtain ⟨mid, hfiles, hmore⟩ := ih hrest
          exact ⟨mid, .cons htarget hfiles, hmore⟩

/-- A path that no later one leads to the place of is read as what was written to it. -/
theorem Writes.read_eq {before after : List (String × List UInt8)} {path : String}
    {bytes : List UInt8} (h : Writes f (before ++ (path, bytes) :: after) g)
    (hafter : ∀ place, f.target path = .ok place → ∀ file ∈ after, f.target file.1 ≠ .ok place) :
    g.read path = .ok bytes := by
  obtain ⟨mid, hbefore, hmid⟩ := h.split
  cases hmid with
  | @cons _ _ _ _ place _ htarget hrest =>
      have hplace := hbefore.sameFolders.symm.target_of_ok htarget
      have hfolders := hbefore.sameFolders.trans (sameFolders_put htarget bytes)
      have hfind := hrest.find?_of_ne fun file hfile hto =>
        hafter place hplace file hfile (hfolders.symm.target_of_ok hto)
      rw [find?_put_self mid (ne_nil_of_target htarget)] at hfind
      rw [read, resolve_of_target (h.sameFolders.target_of_ok hplace)]
      simp only [hfind]

end Gridscript.Folder
