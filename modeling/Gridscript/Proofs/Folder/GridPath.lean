/-
  Paths of persistent grids.

  The path of a persistent grid is that of the data folder with one more name, however the data
  folder is written. If the name of the grid has no slash, the path leads to a file in the data
  folder that is called by that name, so different names have different paths, and these lead to
  different places.
-/
import Gridscript.Proofs.Folder.Rewrite
import Gridscript.Settings.Basic

namespace Gridscript

/-! ## The names of a path -/

theorem splitOn_of_not_mem {name : List Char} (h : '/' ∉ name) : name.splitOn '/' = [name] := by
  have hsplit : (['/'].intercalate [name]).splitOn '/' = [name] :=
    List.splitOn_intercalate '/' (List.forall_mem_singleton.2 h) (List.cons_ne_nil _ _)
  rwa [List.intercalate_singleton] at hsplit

theorem Path.parts_of_toList {path name : String} {dir : List Char}
    (h : path.toList = dir ++ '/' :: name.toList) (hname : '/' ∉ name.toList) :
    Path.parts path = (dir.splitOn '/').map String.ofList ++ [name] := by
  unfold Path.parts
  rw [h, List.splitOn_append_cons_self, splitOn_of_not_mem hname, List.map_append]
  simp

theorem not_mem_fileName {name : String} (h : '/' ∉ name.toList) :
    '/' ∉ (name ++ ".csv").toList := by
  rw [String.toList_append, List.mem_append]
  rintro (hmem | hmem)
  · exact h hmem
  · revert hmem
    decide

/-- The path of a grid is its file in the working folder, or some way to a folder and its file
    after a slash. The way does not depend on the grid. -/
theorem Settings.gridPath_cases (s : Settings) :
    (∀ name : String, s.gridPath name = name ++ ".csv") ∨
      ∃ dir : List Char, ∀ name : String, '/' ∉ name.toList →
        (s.gridPath name).toList = dir ++ '/' :: (name ++ ".csv").toList := by
  by_cases hempty : s.dataDir = ""
  · exact .inl fun name => if_pos (.inr hempty)
  · right
    have hjoin : ∀ name : String, '/' ∉ name.toList → s.gridPath name =
        if s.dataDir.toList.getLast? = some '/' then s.dataDir ++ (name ++ ".csv")
        else s.dataDir ++ "/" ++ (name ++ ".csv") := by
      intro name hname
      refine if_neg ?_
      rintro (hhead | hdir)
      · exact not_mem_fileName hname (List.mem_of_head? hhead)
      · exact hempty hdir
    by_cases hlast : s.dataDir.toList.getLast? = some '/'
    · obtain ⟨dir, hdir⟩ := List.getLast?_eq_some_iff.1 hlast
      refine ⟨dir, fun name hname => ?_⟩
      rw [hjoin name hname, if_pos hlast, String.toList_append, hdir, List.append_assoc]
      rfl
    · refine ⟨s.dataDir.toList, fun name hname => ?_⟩
      rw [hjoin name hname, if_neg hlast, String.toList_append, String.toList_append,
        List.append_assoc]
      rfl

theorem Settings.exists_parts_gridPath (s : Settings) :
    ∃ (start : Folder.Spot) (dir : List String), ∀ name : String, '/' ∉ name.toList →
      Folder.startOf (s.gridPath name) = start ∧
        Path.parts (s.gridPath name) = dir ++ [name ++ ".csv"] := by
  rcases s.gridPath_cases with hpath | ⟨dir, hpath⟩
  · refine ⟨.inside [], [], fun name hname => ?_⟩
    have hfile := not_mem_fileName hname
    rw [hpath name]
    constructor
    · exact if_neg fun hhead => hfile (List.mem_of_head? hhead)
    · unfold Path.parts
      rw [splitOn_of_not_mem hfile, List.map_singleton, String.ofList_toList, List.nil_append]
  · refine ⟨Folder.startOf (String.ofList (dir ++ ['/'])),
      (dir.splitOn '/').map String.ofList, fun name hname => ?_⟩
    refine ⟨?_, Path.parts_of_toList (hpath name hname) (not_mem_fileName hname)⟩
    have hhead : (dir ++ '/' :: (name ++ ".csv").toList).head? = (dir ++ ['/']).head? := by
      cases dir <;> rfl
    unfold Folder.startOf
    rw [hpath name hname, hhead, String.toList_ofList]

theorem fileName_injective {a b : String} (h : a ++ ".csv" = b ++ ".csv") : a = b := by
  rw [← String.toList_inj, String.toList_append, String.toList_append] at h
  exact String.toList_inj.1 (List.append_cancel_right h)

/-- Different grids have different paths. -/
theorem Settings.gridPath_injective (s : Settings) {a b : String} (ha : '/' ∉ a.toList)
    (hb : '/' ∉ b.toList) (h : s.gridPath a = s.gridPath b) : a = b := by
  obtain ⟨start, dir, hparts⟩ := s.exists_parts_gridPath
  have hfiles : dir ++ [a ++ ".csv"] = dir ++ [b ++ ".csv"] := by
    rw [← (hparts a ha).2, ← (hparts b hb).2, h]
  exact fileName_injective (List.singleton_inj.1 (List.append_cancel_left hfiles))

/-! ## Places -/

namespace Folder

/-- A file is neither the folder that it is in nor the one above. -/
theorem fileName_ne (name : String) :
    ¬(name ++ ".csv" = "" ∨ name ++ ".csv" = ".") ∧ name ++ ".csv" ≠ ".." := by
  have hlen : 4 ≤ (name ++ ".csv").toList.length := by
    rw [String.toList_append, List.length_append]
    exact Nat.le_add_left _ _
  refine ⟨?_, fun h => ?_⟩
  · rintro (h | h) <;> rw [h] at hlen <;> exact absurd hlen (by decide)
  · rw [h] at hlen
    exact absurd hlen (by decide)

theorem step_fileName {f : Folder} {spot : Spot} {name : String} {place : Place}
    (h : f.step spot (name ++ ".csv") = .ok (.inside place)) :
    ∃ home, spot = .inside home ∧ place = home ++ [name ++ ".csv"] := by
  obtain ⟨hself, hup⟩ := fileName_ne name
  cases spot with
  | outside =>
      simp only [step] at h
      split at h <;> cases h
  | inside home =>
      refine ⟨home, rfl, ?_⟩
      unfold step at h
      cases hfind : f.find? home with
      | none => simp only [hfind] at h; cases h
      | some node =>
          cases node with
          | file bytes => simp only [hfind] at h; cases h
          | folder =>
              simp only [hfind, if_neg hself, if_neg hup] at h
              split at h
              · cases h
              · cases h
                rfl

/-- A path with a file at its end leads into the folder that the way before leads to. -/
theorem walk_of_resolve {f : Folder} {path name : String} {start : Spot} {dir : List String}
    {place : Place} (hstart : startOf path = start)
    (hparts : Path.parts path = dir ++ [name ++ ".csv"])
    (h : f.resolve path = .ok (.inside place)) :
    ∃ home, f.walk start dir = .ok (.inside home) ∧ place = home ++ [name ++ ".csv"] := by
  unfold resolve at h
  split at h
  · cases h
  · rw [hstart, hparts, walk_append] at h
    cases hwalk : f.walk start dir with
    | error e => simp only [hwalk] at h; cases h
    | ok spot =>
        simp only [hwalk, walk] at h
        cases hlast : f.step spot (name ++ ".csv") with
        | error e => simp only [hlast] at h; cases h
        | ok next =>
            simp only [hlast] at h
            cases h
            obtain ⟨home, rfl, hplace⟩ := step_fileName hlast
            exact ⟨home, rfl, hplace⟩

/-- Different grids are kept at different places. -/
theorem eq_of_resolve_gridPath {f : Folder} {s : Settings} {a b : String} {place : Place}
    (ha : '/' ∉ a.toList) (hb : '/' ∉ b.toList)
    (hra : f.resolve (s.gridPath a) = .ok (.inside place))
    (hrb : f.resolve (s.gridPath b) = .ok (.inside place)) : a = b := by
  obtain ⟨start, dir, hparts⟩ := s.exists_parts_gridPath
  obtain ⟨home, hwalk, hplace⟩ := walk_of_resolve (hparts a ha).1 (hparts a ha).2 hra
  obtain ⟨home', hwalk', hplace'⟩ := walk_of_resolve (hparts b hb).1 (hparts b hb).2 hrb
  rw [hwalk] at hwalk'
  cases hwalk'
  rw [hplace] at hplace'
  exact fileName_injective (List.singleton_inj.1 (List.append_cancel_left hplace'))

end Folder

/-! ## Extensions -/

theorem extensionOf?_fileName {name : String} (h : name ≠ "") :
    Path.extensionOf? (name ++ ".csv") = some "csv" := by
  have hreverse : (name ++ ".csv").toList.reverse =
      'v' :: 's' :: 'c' :: '.' :: name.toList.reverse := by
    rw [String.toList_append, List.reverse_append]
    rfl
  have hlen : ¬ ('.' :: name.toList.reverse).length ≤ 1 := by
    have hpos := List.length_pos_iff.2 (mt String.toList_eq_nil_iff.1 h)
    rw [List.length_cons, List.length_reverse]
    omega
  unfold Path.extensionOf?
  rw [hreverse]
  show (if _ ∨ ('.' :: name.toList.reverse).length ≤ 1 then none else some "csv") = some "csv"
  exact if_neg (not_or.2 ⟨(Folder.fileName_ne name).2, hlen⟩)

/-- The path of a grid has the extension of grid files. -/
theorem Settings.extension?_gridPath (s : Settings) {name : String} (hname : '/' ∉ name.toList)
    (hne : name ≠ "") : Path.extension? (s.gridPath name) = some "csv" := by
  obtain ⟨start, dir, hparts⟩ := s.exists_parts_gridPath
  have hfile := not_or.1 (Folder.fileName_ne name).1
  unfold Path.extension? Path.lastName?
  rw [(hparts name hname).2, List.filter_append,
    List.filter_cons_of_pos (by simpa using hfile), List.filter_nil, List.getLast?_concat]
  exact extensionOf?_fileName hne

end Gridscript
