/-
  Writing files that can be read.

  Walks see of a tree only where there are files and where there are folders. A tree keeps that
  when a file is replaced by another one (`sameLayout_put`), so all paths lead where they led
  before. A path that a file can be read at leads to that file when it is written to as well
  (`target_of_read`): it cannot end in a slash, since a slash asks for a folder. Together, files
  that can be read can be written one after the other (`write_of_read`).
-/
import Gridscript.Folder.Basic

namespace Gridscript

def Node.isFolder : Node → Bool
  | .file _ => false
  | .folder => true

namespace Folder

/-- The same places are taken, by files in both trees or by folders in both. -/
def SameLayout (f g : Folder) : Prop :=
  ∀ place, (f.find? place).map Node.isFolder = (g.find? place).map Node.isFolder

theorem SameLayout.refl (f : Folder) : SameLayout f f := fun _ => rfl

theorem SameLayout.trans {f g h : Folder} (hfg : SameLayout f g) (hgh : SameLayout g h) :
    SameLayout f h := fun place => (hfg place).trans (hgh place)

theorem ne_nil_of_file {f : Folder} {place : Place} {bytes : List UInt8}
    (h : f.find? place = some (.file bytes)) : place ≠ [] := by
  intro h'
  subst h'
  cases h

/-- A file in the place of a file. -/
theorem sameLayout_put {f : Folder} {place : Place} {old : List UInt8}
    (h : f.find? place = some (.file old)) (new : List UInt8) :
    SameLayout f (f.put place (.file new)) := by
  intro other
  by_cases ho : other = place
  · rw [ho, h, find?_put_self f (ne_nil_of_file h)]
    rfl
  · rw [find?_put_of_ne f ho]

theorem SameLayout.cases {f g : Folder} (h : SameLayout f g) (place : Place) :
    (f.find? place = none ∧ g.find? place = none) ∨
      (∃ a b, f.find? place = some (.file a) ∧ g.find? place = some (.file b)) ∨
      (f.find? place = some .folder ∧ g.find? place = some .folder) := by
  have hp := h place
  cases hf : f.find? place with
  | none =>
      rw [hf, Option.map_none, eq_comm, Option.map_eq_none_iff] at hp
      exact .inl ⟨rfl, hp⟩
  | some m =>
      rw [hf, Option.map_some, eq_comm, Option.map_eq_some_iff] at hp
      obtain ⟨n, hg, hn⟩ := hp
      cases m with
      | file a =>
          cases n with
          | file b => exact .inr (.inl ⟨a, b, rfl, hg⟩)
          | folder => cases hn
      | folder =>
          cases n with
          | file b => cases hn
          | folder => exact .inr (.inr ⟨rfl, hg⟩)

theorem SameLayout.step_eq {f g : Folder} (h : SameLayout f g) (spot : Spot) (name : String) :
    f.step spot name = g.step spot name := by
  cases spot with
  | outside => rfl
  | inside place =>
      simp only [step]
      rcases h.cases place with ⟨hf, hg⟩ | ⟨a, b, hf, hg⟩ | ⟨hf, hg⟩
      all_goals rw [hf, hg]

/-- Paths lead to the same spots in trees of the same layout. -/
theorem SameLayout.walk_eq {f g : Folder} (h : SameLayout f g) (spot : Spot)
    (names : List String) : f.walk spot names = g.walk spot names := by
  induction names generalizing spot with
  | nil => rfl
  | cons name rest ih =>
      unfold walk
      rw [h.step_eq]
      cases g.step spot name with
      | error e => rfl
      | ok next => exact ih next

theorem SameLayout.resolve_eq {f g : Folder} (h : SameLayout f g) (path : String) :
    f.resolve path = g.resolve path := by
  unfold resolve
  simp only [h.walk_eq]

theorem SameLayout.find?_eq_folder_iff {f g : Folder} (h : SameLayout f g) (place : Place) :
    f.find? place = some .folder ↔ g.find? place = some .folder := by
  rcases h.cases place with ⟨hf, hg⟩ | ⟨a, b, hf, hg⟩ | ⟨hf, hg⟩
  · rw [hf, hg]
  · simp [hf, hg]
  · rw [hf, hg]

theorem SameLayout.target_eq {f g : Folder} (h : SameLayout f g) (path : String) :
    f.target path = g.target path := by
  unfold target
  simp only [h.walk_eq, h.find?_eq_folder_iff]

/-! ## A path to a file -/

theorem walk_append (f : Folder) (spot : Spot) (names more : List String) :
    f.walk spot (names ++ more) =
      match f.walk spot names with
      | .error e => .error e
      | .ok next => f.walk next more := by
  induction names generalizing spot with
  | nil => rfl
  | cons name rest ih =>
      simp only [List.cons_append, walk]
      cases f.step spot name with
      | error e => rfl
      | ok next => exact ih next

/-- An empty name, as a slash at the end leaves it, leads on from folders only. -/
theorem getLast?_of_walk {f : Folder} {spot : Spot} {names : List String} {place : Place}
    {bytes : List UInt8} (h : f.walk spot names = .ok (.inside place))
    (hfile : f.find? place = some (.file bytes)) : names.getLast? ≠ some "" := by
  intro hlast
  obtain ⟨before, rfl⟩ := List.getLast?_eq_some_iff.1 hlast
  rw [walk_append] at h
  cases hw : f.walk spot before with
  | error e => rw [hw] at h; cases h
  | ok next =>
      simp only [hw, walk] at h
      cases next with
      | outside => simp [step] at h
      | inside last =>
          cases hlast : f.find? last with
          | none => simp [step, hlast] at h
          | some n =>
              cases n with
              | file b => simp [step, hlast] at h
              | folder =>
                  simp only [step, hlast, true_or, if_true, Except.ok.injEq, Spot.inside.injEq] at h
                  rw [h, hfile] at hlast
                  cases hlast

/-- What a successful reading says about the path. -/
theorem walk_of_read {f : Folder} {path : String} {bytes : List UInt8}
    (h : f.read path = .ok bytes) :
    refused? path = none ∧ ∃ place, f.walk (startOf path) (Path.parts path) = .ok (.inside place) ∧
      f.find? place = some (.file bytes) := by
  unfold read resolve at h
  cases hrefused : refused? path with
  | some fault => simp [hrefused] at h
  | none =>
      simp only [hrefused] at h
      cases hwalk : f.walk (startOf path) (Path.parts path) with
      | error e => simp [hwalk] at h
      | ok spot =>
          cases spot with
          | outside => simp [hwalk] at h
          | inside place =>
              simp only [hwalk] at h
              cases hfind : f.find? place with
              | none => simp [hfind] at h
              | some n =>
                  cases n with
                  | folder => simp [hfind] at h
                  | file b =>
                      simp only [hfind, Except.ok.injEq] at h
                      exact ⟨rfl, place, rfl, by rw [hfind, h]⟩

/-- The place that a path is read at is the place that it is written to. -/
theorem target_of_read {f : Folder} {path : String} {bytes : List UInt8}
    (h : f.read path = .ok bytes) :
    ∃ place, f.resolve path = .ok (.inside place) ∧ f.target path = .ok place ∧
      f.find? place = some (.file bytes) := by
  obtain ⟨hrefused, place, hwalk, hfile⟩ := walk_of_read h
  have hlast := getLast?_of_walk hwalk hfile
  have htrim : (Path.parts path).reverse.dropWhile (· = "") = (Path.parts path).reverse := by
    cases hr : (Path.parts path).reverse with
    | nil => rfl
    | cons name rest =>
        rw [← List.head?_reverse, hr, List.head?_cons] at hlast
        exact List.dropWhile_cons_of_neg (by simpa using hlast)
  refine ⟨place, ?_, ?_, hfile⟩
  · unfold resolve
    simp [hrefused, hwalk]
  · unfold target
    simp [hrefused, htrim, hwalk, hfile]

/-- Where a file can be read, it can be replaced in all trees of the same layout. -/
theorem put_of_read {f g : Folder} {path : String} {bytes : List UInt8}
    (h : f.read path = .ok bytes) (hfg : SameLayout f g) :
    ∃ place, f.resolve path = .ok (.inside place) ∧
      (∃ old, g.find? place = some (.file old)) ∧
      ∀ new, g.write path new = .ok (g.put place (.file new)) := by
  obtain ⟨place, hresolve, htarget, hfile⟩ := target_of_read h
  refine ⟨place, hresolve, ?_, fun new => ?_⟩
  · rcases hfg.cases place with ⟨hf, -⟩ | ⟨a, b, -, hg⟩ | ⟨hf, -⟩
    · rw [hf] at hfile; cases hfile
    · exact ⟨b, hg⟩
    · rw [hf] at hfile; cases hfile
  · rw [write, ← hfg.target_eq, htarget]

/-- A file that can be read can be written, in any tree of the same layout, which stays. -/
theorem write_of_read {f g : Folder} {path : String} {bytes : List UInt8}
    (h : f.read path = .ok bytes) (hfg : SameLayout f g) (new : List UInt8) :
    ∃ g', g.write path new = .ok g' ∧ SameLayout f g' := by
  obtain ⟨place, -, ⟨old, hold⟩, hwrite⟩ := put_of_read h hfg
  exact ⟨_, hwrite new, hfg.trans (sameLayout_put hold new)⟩

end Folder

end Gridscript
