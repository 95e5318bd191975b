/-
  Settings read back from JSON text.

  A member of an object gives one of the settings, or none (`Gives`). An object whose members give
  each of them at most once is read as the standard settings with what is given in place, in
  whatever order it is given and whatever else the object holds (`read?_of_gives`). Both written
  forms of settings are such objects: they differ only in their blanks (`written_object`), and a
  quoted string spells the text it was made from (`exists_spells_quote`).

  The value of a member that gives nothing need not spell anything, but its name must: a name is
  compared with the three before the member is passed over. An object with a name that holds half of
  a pair without the other half is refused as a whole (`read?_of_unspelled`).

  The file that settings are loaded from is one of the working folder.
-/
import Gridscript.Proofs.Folder.Writing
import Gridscript.Proofs.Json.Reading
import Gridscript.Proofs.Text.Utf8
import Gridscript.Settings.Json
import Mathlib.Data.List.Forall2

namespace Gridscript

/-! ## Written strings and objects -/

namespace Json

/-- A character is written as one piece that stands for it. -/
theorem exists_piece_escape (c : Char) :
    ∃ p, PieceText p (escape c) ∧ ∀ {ps text}, Spells ps text → Spells (p :: ps) (c :: text) := by
  have hshort {letter : Char} (h : (letter, c) ∈ shorthands) :
      ∃ p, PieceText p ['\\', letter] ∧
        ∀ {ps text}, Spells ps text → Spells (p :: ps) (c :: text) :=
    ⟨.plain c, .short h, .plain c⟩
  unfold escape
  iterate 7
    split
    · subst c
      exact hshort (by decide)
  split
  · rename_i hcontrol
    have hc : c.toNat < 32 := hcontrol
    have hcode : ((0 * 16 + 0) * 16 + c.toNat / 16) * 16 + c.toNat % 16 = c.toNat := by omega
    have hzero : IsHex '0' 0 := by decide
    have hunit : PieceText _ _ := .unit hzero hzero
      (⟨by omega, .inl rfl⟩ : IsHex _ (c.toNat / 16))
      (⟨by omega, .inl rfl⟩ : IsHex _ (c.toNat % 16))
    rw [hcode] at hunit
    exact ⟨.unit c.toNat, hunit, .unit (by omega)⟩
  · rename_i hquote hslash _ _ _ _ _ hcontrol
    exact ⟨.plain c, .plain hquote hslash (Char.not_lt.1 hcontrol), .plain c⟩

theorem exists_spells_quote (text : List Char) :
    ∃ ps, Spells ps text ∧ Written (.value (.string ps)) (quote text) := by
  obtain ⟨ps, hps, hbody⟩ : ∃ ps, Spells ps text ∧ BodyText ps (text.flatMap escape) := by
    induction text with
    | nil => exact ⟨[], .nil, .nil⟩
    | cons c text ih =>
        obtain ⟨ps, hps, hbody⟩ := ih
        obtain ⟨p, hp, hspells⟩ := exists_piece_escape c
        exact ⟨p :: ps, hspells hps, .cons hp hbody⟩
  exact ⟨ps, hps, .string hbody⟩

theorem Written.gap {v : Json} {gap text : List Char} (h : Written (.value v) text)
    (hgap : gap.all isBlank) : Written (.value v) (gap ++ text) := by
  induction gap with
  | nil => exact h
  | cons c gap ih =>
      rw [List.all_cons, Bool.and_eq_true] at hgap
      exact .before hgap.1 (ih hgap.2)

theorem Written.gapAfter {v : Json} {gap text : List Char} (h : Written (.value v) text)
    (hgap : gap.all isBlank) : Written (.value v) (text ++ gap) := by
  induction gap generalizing text with
  | nil => rwa [List.append_nil]
  | cons c gap ih =>
      rw [List.all_cons, Bool.and_eq_true] at hgap
      have hmore := ih (h.after hgap.1) hgap.2
      rwa [List.append_assoc] at hmore

/-- A member is written as a quoted name and the text of its value. -/
structure MemberText (m : List Piece × Json) (t : List Char × List Char) : Prop where
  name : Written (.value (.string m.1)) (quote t.1)
  value : Written (.value m.2) t.2

/-- A member with blanks before its name and its value. -/
def memberLine (indent space : List Char) (t : List Char × List Char) : List Char :=
  indent ++ quote t.1 ++ (':' :: space) ++ t.2

section Layout

variable (line indent space : List Char)
variable (hline : line.all isBlank) (hindent : indent.all isBlank) (hspace : space.all isBlank)

include hline hindent hspace

theorem written_members {ms : List (List Piece × Json)} {texts : List (List Char × List Char)}
    (h : List.Forall₂ MemberText ms texts) (hne : texts ≠ []) :
    Written (.members ms)
      (line ++ (',' :: line).intercalate (texts.map (memberLine indent space)) ++ line) := by
  induction h with
  | nil => exact absurd rfl hne
  | @cons m t ms texts hm h ih =>
      obtain ⟨name, v⟩ := m
      have hname := (hm.name.gap hindent).gap hline
      have hvalue := hm.value.gap hspace
      cases h with
      | nil =>
          have hlast := Written.member hname (hvalue.gapAfter hline)
          simpa [memberLine, List.intercalate] using hlast
      | cons hm' h =>
          have hrest := ih (List.cons_ne_nil _ _)
          have hmembers := Written.members hname hvalue hrest
          simpa [memberLine, List.intercalate] using hmembers

theorem written_object {ms : List (List Piece × Json)} {texts : List (List Char × List Char)}
    (h : List.Forall₂ MemberText ms texts) (hne : texts ≠ []) :
    Written (.value (.object ms)) (['\x7b'] ++
      (line ++ (',' :: line).intercalate (texts.map (memberLine indent space)) ++ line) ++
      ['\x7d']) :=
  .object (written_members line indent space hline hindent hspace h hne)

end Layout

end Json

/-! ## What the members of an object give -/

namespace Settings

/-- What a member of an object gives. -/
inductive Entry where
  | dataDir (dir : String)
  | savePersistent (b : Bool)
  | echoExpressions (b : Bool)
  | other

namespace Entry

/-- The name of a member that gives one of the settings. -/
def name? : Entry → Option String
  | dataDir _ => some "data_dir"
  | savePersistent _ => some "save_persistent"
  | echoExpressions _ => some "echo_expressions"
  | other => none

/-- The settings with what is given in place. -/
def apply (s : Settings) : Entry → Settings
  | dataDir dir => { s with dataDir := dir }
  | savePersistent b => { s with savePersistent := b }
  | echoExpressions b => { s with echoExpressions := b }
  | other => s

end Entry

/-- `Gives member entry`: the name is one of the three and the value is of its type, or the name is
    any other text and the value does not matter. A name with half of a pair that has no other half
    spells no text: a member of such a name gives nothing, and the object that holds it is
    refused (`read?_of_unspelled`). -/
inductive Gives : List Json.Piece × Json → Entry → Prop
  | dataDir {name ps : List Json.Piece} {dir : String}
      (hname : Json.Spells name "data_dir".toList) (h : Json.Spells ps dir.toList) :
      Gives (name, .string ps) (.dataDir dir)
  | savePersistent {name : List Json.Piece} (hname : Json.Spells name "save_persistent".toList)
      (b : Bool) : Gives (name, .bool b) (.savePersistent b)
  | echoExpressions {name : List Json.Piece} (hname : Json.Spells name "echo_expressions".toList)
      (b : Bool) : Gives (name, .bool b) (.echoExpressions b)
  | other {name : List Json.Piece} {text : List Char} (hname : Json.Spells name text)
      (h : String.ofList text ∉ ["data_dir", "save_persistent", "echo_expressions"])
      (value : Json) : Gives (name, value) .other

/-- What gives the settings. -/
def entries (s : Settings) : List Entry :=
  [.dataDir s.dataDir, .savePersistent s.savePersistent, .echoExpressions s.echoExpressions]

theorem foldl_entries (s : Settings) : s.entries.foldl Entry.apply {} = s := rfl

/-! ## Reading objects -/

namespace Draft

/-- Nothing has been given that the entry gives. -/
def Lacks (d : Draft) : Entry → Prop
  | .dataDir _ => d.dataDir = none
  | .savePersistent _ => d.savePersistent = none
  | .echoExpressions _ => d.echoExpressions = none
  | .other => True

def take (d : Draft) : Entry → Draft
  | .dataDir dir => { d with dataDir := some dir }
  | .savePersistent b => { d with savePersistent := some b }
  | .echoExpressions b => { d with echoExpressions := some b }
  | .other => d

theorem lacks_empty (e : Entry) : empty.Lacks e := by
  cases e with
  | other => trivial
  | _ => rfl

theorem settings_take (d : Draft) (e : Entry) : (d.take e).settings = e.apply d.settings := by
  cases e <;> rfl

theorem Lacks.take {d : Draft} {e e' : Entry} (h : d.Lacks e')
    (hne : ∀ name ∈ e'.name?, e.name? ≠ some name) : (d.take e).Lacks e' := by
  cases e with
  | other => exact h
  | _ =>
      cases e' <;> first | exact h | exact absurd rfl (hne _ rfl)

theorem member?_of_gives {d : Draft} {name : List Json.Piece} {value : Json} {e : Entry}
    (h : Gives (name, value) e) (hd : d.Lacks e) :
    ∃ text, Json.decode? name = some text ∧
      d.member? (String.ofList text) value = some (d.take e) := by
  cases h with
  | dataDir hname hvalue =>
      refine ⟨_, hname.decode?, ?_⟩
      have hd : d.dataDir = none := hd
      simp [member?, hd, Json.string?, hvalue.decode?, Draft.take]
  | savePersistent hname b =>
      refine ⟨_, hname.decode?, ?_⟩
      have hd : d.savePersistent = none := hd
      simp [member?, hd, Json.bool?, Draft.take]
  | echoExpressions hname b =>
      refine ⟨_, hname.decode?, ?_⟩
      have hd : d.echoExpressions = none := hd
      simp [member?, hd, Json.bool?, Draft.take]
  | other hname hother =>
      refine ⟨_, hname.decode?, ?_⟩
      simp only [List.mem_cons, List.not_mem_nil, or_false, not_or] at hother
      simp [member?, hother, Draft.take]

theorem members?_of_gives {ms : List (List Json.Piece × Json)} {es : List Entry}
    (h : List.Forall₂ Gives ms es) (hnodup : (es.filterMap Entry.name?).Nodup) (d : Draft)
    (hd : ∀ e ∈ es, d.Lacks e) : d.members? ms = some (es.foldl take d) := by
  induction h generalizing d with
  | nil => rfl
  | @cons m e ms es hm _ ih =>
      obtain ⟨name, value⟩ := m
      obtain ⟨he, hes⟩ := List.forall_mem_cons.1 hd
      obtain ⟨text, htext, hmember⟩ := member?_of_gives hm he
      have hrest : ∀ e' ∈ es, (d.take e).Lacks e' := by
        intro e' he'
        refine (hes e' he').take fun name hname hsame => ?_
        rw [List.filterMap_cons_some hsame] at hnodup
        exact (List.nodup_cons.1 hnodup).1 (List.mem_filterMap.2 ⟨e', he', hname⟩)
      have hnodup : (es.filterMap Entry.name?).Nodup :=
        hnodup.sublist ((List.sublist_cons_self e es).filterMap _)
      rw [members?, htext]
      dsimp only
      rw [hmember]
      exact ih hnodup (d.take e) hrest

/-- Whatever stands before it, a name without a text is not passed over. -/
theorem members?_of_unspelled {ms : List (List Json.Piece × Json)}
    (h : ∃ m ∈ ms, Json.decode? m.1 = none) (d : Draft) : d.members? ms = none := by
  induction ms generalizing d with
  | nil =>
      obtain ⟨m, hm, -⟩ := h
      cases hm
  | cons m ms ih =>
      obtain ⟨name, value⟩ := m
      cases hname : Json.decode? name with
      | none => simp only [members?, hname]
      | some text =>
          have hrest : ∃ m ∈ ms, Json.decode? m.1 = none := by
            obtain ⟨m, hm, hnone⟩ := h
            rcases List.mem_cons.1 hm with rfl | hm
            · rw [hname] at hnone
              cases hnone
            · exact ⟨m, hm, hnone⟩
          cases hmember : d.member? (String.ofList text) value with
          | none => simp only [members?, hname, hmember]
          | some d' => simp only [members?, hname, hmember, ih hrest]

theorem settings_foldl_take (es : List Entry) (d : Draft) :
    (es.foldl take d).settings = es.foldl Entry.apply d.settings := by
  induction es generalizing d with
  | nil => rfl
  | cons e es ih => rw [List.foldl_cons, ih, settings_take, List.foldl_cons]

end Draft

/-- An object that gives each of the settings at most once is read as the standard settings with
    what it gives in place. -/
theorem read?_of_gives {ms : List (List Json.Piece × Json)} {es : List Entry} {text : List Char}
    (hw : Json.Written (.value (.object ms)) text) (h : List.Forall₂ Gives ms es)
    (hnodup : (es.filterMap Entry.name?).Nodup) : read? text = some (es.foldl Entry.apply {}) := by
  rw [read?, Json.read?_of_written hw]
  show (Draft.empty.members? ms).map Draft.settings = _
  rw [Draft.members?_of_gives h hnodup _ fun e _ => Draft.lacks_empty e, Option.map_some,
    Draft.settings_foldl_take]
  rfl

/-- An object with a name that spells no text is refused. -/
theorem read?_of_unspelled {ms : List (List Json.Piece × Json)} {text : List Char}
    (hw : Json.Written (.value (.object ms)) text)
    (h : ∃ m ∈ ms, ∀ name, ¬ Json.Spells m.1 name) : read? text = none := by
  have hnone : ∃ m ∈ ms, Json.decode? m.1 = none := by
    obtain ⟨m, hm, hspells⟩ := h
    refine ⟨m, hm, Option.eq_none_iff_forall_ne_some.2 fun name hname => hspells name ?_⟩
    exact (Json.decode?_eq_some_iff_spells (hw.units m.1 (List.mem_map_of_mem hm)) name).1 hname
  rw [read?, Json.read?_of_written hw]
  show (Draft.empty.members? ms).map Draft.settings = none
  rw [Draft.members?_of_unspelled hnone]
  rfl

/-! ## Written settings -/

theorem exists_gives_members (s : Settings) :
    ∃ ms, List.Forall₂ Gives ms s.entries ∧ List.Forall₂ Json.MemberText ms s.members := by
  obtain ⟨dirName, hdir, hdirText⟩ := Json.exists_spells_quote "data_dir".toList
  obtain ⟨saveName, hsave, hsaveText⟩ := Json.exists_spells_quote "save_persistent".toList
  obtain ⟨echoName, hecho, hechoText⟩ := Json.exists_spells_quote "echo_expressions".toList
  obtain ⟨ps, hps, hpsText⟩ := Json.exists_spells_quote s.dataDir.toList
  exact ⟨[(dirName, .string ps), (saveName, .bool s.savePersistent),
      (echoName, .bool s.echoExpressions)],
    .cons (.dataDir hdir hps) (.cons (.savePersistent hsave _)
      (.cons (.echoExpressions hecho _) .nil)),
    .cons ⟨hdirText, hpsText⟩ (.cons ⟨hsaveText, .bool _⟩ (.cons ⟨hechoText, .bool _⟩ .nil))⟩

theorem nodup_names_entries (s : Settings) : (s.entries.filterMap Entry.name?).Nodup := by
  show ["data_dir", "save_persistent", "echo_expressions"].Nodup
  decide

/-- The two forms of settings differ in their blanks only. -/
theorem exists_written (s : Settings) {text : List Char}
    (h : text = s.compact ∨ text = s.pretty) :
    ∃ ms, Json.Written (.value (.object ms)) text ∧ List.Forall₂ Gives ms s.entries := by
  obtain ⟨ms, hgives, hmembers⟩ := s.exists_gives_members
  refine ⟨ms, ?_, hgives⟩
  have hne : s.members ≠ [] := List.cons_ne_nil _ _
  obtain rfl | rfl := h
  · have hwritten := Json.written_object [] [] [] rfl rfl rfl hmembers hne
    rw [List.append_nil] at hwritten
    exact hwritten
  · have hwritten := Json.written_object ['\n'] [' ', ' '] [' '] rfl rfl rfl hmembers hne
    show Json.Written _ (['\x7b', '\n'] ++
      [',', '\n'].intercalate (s.members.map (Json.memberLine [' ', ' '] [' '])) ++
      ['\n', '\x7d'])
    simpa using hwritten

/-! ## Files -/

theorem load_of_write {folder tree : Folder} {path : String} {text : List Char}
    (hw : folder.write path (Utf8.encode text) = .ok tree) :
    load tree path = (read? text).elim (.error (.malformed path)) .ok := by
  obtain ⟨place, hplace, rfl⟩ := Folder.write_eq_ok_iff.1 hw
  have hwrites : Folder.Writes folder ([] ++ (path, Utf8.encode text) :: []) _ :=
    .cons hplace .nil
  have hread := hwrites.read_eq (by simp)
  have htext : (folder.put place (.file (Utf8.encode text))).readText path = .ok text := by
    rw [Folder.readText, hread]
    dsimp only
    rw [Utf8.decode?_encode]
  rw [load, htext]
  dsimp only
  cases read? text <;> rfl

/-- Settings written to a file in either form are loaded as they were. An object in a file is
    loaded as the standard settings with what its members give in place, if none of the three names
    comes twice. The members may come in any order and in any spelling, and there may be members
    whose names spell something else, with any values. An object with a member whose name spells
    nothing is refused. -/
theorem load_written (folder tree : Folder) (path : String) (text : List Char)
    (hw : folder.write path (Utf8.encode text) = .ok tree) :
    (∀ s : Settings, text = s.compact ∨ text = s.pretty → load tree path = .ok s) ∧
      (∀ (ms : List (List Json.Piece × Json)) (es : List Entry),
        Json.Written (.value (.object ms)) text → List.Forall₂ Gives ms es →
        (es.filterMap Entry.name?).Nodup → load tree path = .ok (es.foldl Entry.apply {})) ∧
      ∀ ms : List (List Json.Piece × Json), Json.Written (.value (.object ms)) text →
        (∃ m ∈ ms, ∀ name, ¬ Json.Spells m.1 name) → load tree path = .error (.malformed path) := by
  rw [load_of_write hw]
  refine ⟨fun s hs => ?_, fun ms es hwritten hgives hnodup => ?_, fun ms hwritten hname => ?_⟩
  · obtain ⟨ms, hwritten, hgives⟩ := s.exists_written hs
    rw [read?_of_gives hwritten hgives s.nodup_names_entries, foldl_entries]
    rfl
  · rw [read?_of_gives hwritten hgives hnodup]
    rfl
  · rw [read?_of_unspelled hwritten hname]
    rfl

/-- An object with a member of another name, the flag for saving and the folder. -/
def overriding : List Char :=
  "\x7b\"\\u0078\" : [\"\\uD800\",-0.5e+1] ,\"save_persistent\":false,\n".toList ++
    "\"data_dir\":\"\\ud83D\\uDE00\\/\"\x7d".toList

/-- The other member holds half of a pair, and the folder is spelled with escapes. -/
theorem load_written_overriding :
    ∃ tree, Folder.empty.write "run.json" (Utf8.encode overriding) = .ok tree ∧
      load tree "run.json" = .ok { dataDir := "😀/", savePersistent := false } := by
  obtain ⟨saveName, hsave, hsaveText⟩ := Json.exists_spells_quote "save_persistent".toList
  obtain ⟨dirName, hdir, hdirText⟩ := Json.exists_spells_quote "data_dir".toList
  have hother : Json.BodyText [.unit 0x78] "\\u0078".toList :=
    .cons (.unit (i := 0) (j := 0) (k := 7) (l := 8) (by decide) (by decide) (by decide)
      (by decide)) .nil
  have hhalf : Json.BodyText [.unit 0xD800] "\\uD800".toList :=
    .cons (.unit (i := 13) (j := 8) (k := 0) (l := 0) (by decide) (by decide) (by decide)
      (by decide)) .nil
  have hface : Json.BodyText [.unit 0xD83D, .unit 0xDE00, .plain '/']
      "\\ud83D\\uDE00\\/".toList :=
    .cons (.unit (i := 13) (j := 8) (k := 3) (l := 13) (by decide) (by decide) (by decide)
      (by decide)) (.cons (.unit (i := 13) (j := 14) (k := 0) (l := 0) (by decide) (by decide)
      (by decide) (by decide)) (.cons (.short (show ('/', '/') ∈ _ by decide)) .nil))
  have hnumber : Json.IsNumber "-0.5e+1".toList :=
    ⟨['-'], ['0'], ['.', '5'], ['e', '+', '1'], by decide, .inl rfl, .inr ⟨['5'], by decide, rfl⟩,
      .inr ⟨'e', ['+'], ['1'], .inl rfl, by decide, by decide, rfl⟩, rfl⟩
  have hitems := Json.Written.array (.items (.string hhalf) (.item (.number hnumber)))
  have hwritten : Json.Written (.value (.object [([.unit 0x78], _), (saveName, _), (dirName, _)]))
      overriding :=
    .object (.members (.after (.string hother) (c := ' ') rfl)
      (.before (c := ' ') rfl (.after hitems (c := ' ') rfl))
      (.members hsaveText (.bool false)
        (.member (.before (c := '\n') rfl hdirText) (.string hface))))
  have hw : Folder.empty.write "run.json" (Utf8.encode overriding) = .ok _ :=
    Folder.write_eq_ok_iff.2 ⟨["run.json"], by decide +kernel, rfl⟩
  refine ⟨_, hw, (load_written _ _ _ _ hw).2.1 _
    [.other, .savePersistent false, .dataDir "😀/"] hwritten ?_ (by decide)⟩
  exact .cons (.other (.unit (c := 'x') (by decide) .nil) (by decide) _)
    (.cons (.savePersistent hsave _)
      (.cons (.dataDir hdir (.pair (c := '😀') (by decide) (.plain '/' .nil))) .nil))

/-- An object with one member, whose name is half of a pair. -/
def halfNamed : List Char := "\x7b\"\\ud800\":1\x7d".toList

/-- The object is well formed, and its only member has none of the three names. Still it is not
    read as the standard settings: it is refused. -/
theorem load_halfNamed :
    Json.Written (.value (.object [([.unit 0xD800], .number ['1'])])) halfNamed ∧
      (∀ name, ¬ Json.Spells [.unit 0xD800] name) ∧
      ∃ tree, Folder.empty.write "run.json" (Utf8.encode halfNamed) = .ok tree ∧
        load tree "run.json" ≠ .ok {} ∧
        load tree "run.json" = .error (.malformed "run.json") := by
  have hhalf : Json.BodyText [.unit 0xD800] "\\ud800".toList :=
    .cons (.unit (i := 13) (j := 8) (k := 0) (l := 0) (by decide) (by decide) (by decide)
      (by decide)) .nil
  have hnumber : Json.IsNumber ['1'] :=
    ⟨[], ['1'], [], [], by decide, .inr (by decide), .inl rfl, .inl rfl, rfl⟩
  have hwritten : Json.Written (.value (.object [([.unit 0xD800], .number ['1'])])) halfNamed :=
    .object (.member (.string hhalf) (.number hnumber))
  have hname : ∀ name, ¬ Json.Spells [.unit 0xD800] name := by
    intro name hspells
    have hdecode := hspells.decode?
    cases hdecode
  have hw : Folder.empty.write "run.json" (Utf8.encode halfNamed) = .ok _ :=
    Folder.write_eq_ok_iff.2 ⟨["run.json"], by decide +kernel, rfl⟩
  have hload := load_of_write hw
  rw [read?_of_unspelled hwritten ⟨_, List.mem_singleton_self _, hname⟩] at hload
  refine ⟨hwritten, hname, _, hw, ?_, hload⟩
  rw [hload]
  exact nofun

end Settings

end Gridscript
