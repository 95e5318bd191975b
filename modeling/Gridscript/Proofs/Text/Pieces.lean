/-
  Where bytes stop being text.

  Any bytes are those of a text and then bytes that no character begins (`exists_encode_append`).
  The pieces of the first part are its characters, so it is the longest beginning that is text
  (`prefix_take_validLength`), and the bytes stand for a text exactly if nothing is left
  (`decode?_eq_some_iff`). What is shown for other bytes has U+FFFD where the rest begins. ASCII
  bytes stand for themselves and are no part of other characters: a text may be cut behind one
  (`exists_encode_of_append`), and an ASCII character is shown only where its byte is
  (`mem_of_mem_lossy`).
-/
import Gridscript.Proofs.Text.Utf8

namespace Gridscript.Utf8

/-- No character begins the bytes. -/
def BeginsNoChar (bytes : List UInt8) : Prop :=
  ∀ c tail, bytes ≠ String.utf8EncodeChar c ++ tail

theorem beginsNoChar_nil : BeginsNoChar [] := by
  intro c tail h
  obtain ⟨b, inner, hbytes, -⟩ := first_utf8EncodeChar c []
  rw [hbytes] at h
  cases h

/-- Fewer bytes begin no character either. -/
theorem BeginsNoChar.of_append {bytes more : List UInt8} (h : BeginsNoChar (bytes ++ more)) :
    BeginsNoChar bytes := by
  intro c tail hbytes
  refine h c (tail ++ more) ?_
  rw [hbytes, List.append_assoc]

theorem BeginsNoChar.first_eq_bad {b : UInt8} {tail : List UInt8} (h : BeginsNoChar (b :: tail)) :
    ∃ n, first b tail = .bad n := by
  cases hfirst : first b tail with
  | bad n => exact ⟨n, rfl⟩
  | char c n =>
      obtain ⟨rest, hbytes, -⟩ := (first_eq_char_iff b tail c n).1 hfirst
      exact absurd hbytes (h c rest)

theorem beginsNoChar_of_first {b : UInt8} {tail : List UInt8} {n : Nat}
    (h : first b tail = .bad n) : BeginsNoChar (b :: tail) := by
  intro c rest hbytes
  rw [(first_eq_char_iff b tail c _).2 ⟨rest, hbytes, rfl⟩] at h
  cases h

/-! ## The text at the beginning -/

theorem encode_cons (c : Char) (text : List Char) :
    encode (c :: text) = String.utf8EncodeChar c ++ encode text := List.flatMap_cons

/-- A piece that is a character ends where the bytes of the character do. -/
theorem eq_append_drop_of_first {b : UInt8} {tail : List UInt8} {c : Char} {n : Nat}
    (h : first b tail = .char c n) :
    b :: tail = String.utf8EncodeChar c ++ tail.drop (n - 1) := by
  obtain ⟨rest, hbytes, hn⟩ := (first_eq_char_iff b tail c n).1 h
  obtain ⟨b', inner, hencoded, -⟩ := first_utf8EncodeChar c rest
  rw [hencoded, List.cons_append] at hbytes
  obtain ⟨rfl, rfl⟩ := List.cons.inj hbytes
  rw [hn, hencoded, List.length_cons, Nat.add_sub_cancel, List.drop_left, List.cons_append]

/-- Bytes are those of a text and then bytes that no character begins. -/
theorem exists_encode_append (bytes : List UInt8) :
    ∃ text rest, bytes = encode text ++ rest ∧ BeginsNoChar rest := by
  fun_induction pieces bytes with
  | case1 => exact ⟨[], [], rfl, beginsNoChar_nil⟩
  | case2 b tail ih =>
      cases hfirst : first b tail with
      | bad n => exact ⟨[], b :: tail, rfl, beginsNoChar_of_first hfirst⟩
      | char c n =>
          obtain ⟨text, rest, hafter, hrest⟩ := ih
          refine ⟨c :: text, rest, ?_, hrest⟩
          rw [hfirst] at hafter
          rw [eq_append_drop_of_first hfirst, encode_cons, List.append_assoc, ← hafter]
          rfl

theorem pieces_encode_append (text : List Char) (rest : List UInt8) :
    pieces (encode text ++ rest) =
      (text.map fun c => .char c (String.utf8EncodeChar c).length) ++ pieces rest := by
  induction text with
  | nil => rfl
  | cons c text ih =>
      rw [encode_cons, List.append_assoc, pieces_utf8EncodeChar, ih]
      rfl

theorem pieces_of_beginsNoChar {b : UInt8} {tail : List UInt8} (h : BeginsNoChar (b :: tail)) :
    ∃ n more, pieces (b :: tail) = .bad n :: more := by
  obtain ⟨n, hfirst⟩ := h.first_eq_bad
  rw [pieces, hfirst]
  exact ⟨n, _, rfl⟩

theorem validLength_encode_append (text : List Char) (rest : List UInt8) :
    validLength (encode text ++ rest) = (encode text).length + validLength rest := by
  unfold validLength
  rw [pieces_encode_append]
  induction text with
  | nil => simp [encode]
  | cons c text ih =>
      rw [List.map_cons, List.cons_append, goodLength, ih, encode_cons, List.length_append,
        Nat.add_assoc]

theorem validLength_of_beginsNoChar {rest : List UInt8} (h : BeginsNoChar rest) :
    validLength rest = 0 := by
  cases rest with
  | nil =>
      rw [validLength, pieces]
      rfl
  | cons b tail =>
      obtain ⟨n, more, hpieces⟩ := pieces_of_beginsNoChar h
      rw [validLength, hpieces]
      rfl

theorem decode?_encode_append (text : List Char) (rest : List UInt8) :
    decode? (encode text ++ rest) = (decode? rest).map (text ++ ·) := by
  unfold decode?
  rw [pieces_encode_append]
  induction text with
  | nil => simp
  | cons c text ih =>
      rw [List.map_cons, List.cons_append, List.mapM_cons, ih]
      cases (pieces rest).mapM Piece.char? <;> rfl

theorem decode?_of_beginsNoChar {b : UInt8} {tail : List UInt8} (h : BeginsNoChar (b :: tail)) :
    decode? (b :: tail) = none := by
  obtain ⟨n, more, hpieces⟩ := pieces_of_beginsNoChar h
  rw [decode?, hpieces, List.mapM_cons]
  rfl

/-- Bytes stand for a text exactly if they are its bytes. -/
theorem decode?_eq_some_iff (bytes : List UInt8) (text : List Char) :
    decode? bytes = some text ↔ bytes = encode text := by
  refine ⟨fun h => ?_, fun h => h ▸ decode?_encode text⟩
  obtain ⟨text', rest, rfl, hrest⟩ := exists_encode_append bytes
  cases rest with
  | nil =>
      rw [List.append_nil, decode?_encode] at h
      rw [List.append_nil, Option.some.inj h]
  | cons b tail =>
      rw [decode?_encode_append, decode?_of_beginsNoChar hrest] at h
      cases h

/-- The longest beginning of the bytes that is text. -/
theorem prefix_take_validLength {bytes good : List UInt8} (hgood : good <+: bytes)
    (htext : ∃ text, good = encode text) : good <+: bytes.take (validLength bytes) := by
  obtain ⟨text, rfl⟩ := htext
  obtain ⟨rest, rfl⟩ := hgood
  rw [validLength_encode_append, List.take_length_add_append]
  exact List.prefix_append _ _

theorem lossy_encode_append (text : List Char) (rest : List UInt8) :
    lossy (encode text ++ rest) = text ++ lossy rest := by
  unfold lossy
  rw [pieces_encode_append, List.map_append, List.map_map]
  congr 1
  exact List.map_id text

theorem replacement_mem_lossy {b : UInt8} {tail : List UInt8} (h : BeginsNoChar (b :: tail)) :
    '\uFFFD' ∈ lossy (b :: tail) := by
  obtain ⟨n, more, hpieces⟩ := pieces_of_beginsNoChar h
  rw [lossy, hpieces]
  exact List.mem_cons_self

/-! ## ASCII -/

theorem utf8EncodeChar_of_lt {c : Char} (h : c.toNat < 0x80) :
    String.utf8EncodeChar c = [UInt8.ofNat c.toNat] := by
  unfold String.utf8EncodeChar
  exact if_pos (Nat.le_of_lt_succ h)

theorem le_of_mem_utf8EncodeChar {c : Char} {b : UInt8} (hc : 0x80 ≤ c.toNat)
    (hb : b ∈ String.utf8EncodeChar c) : 0x80 ≤ b.toNat := by
  have hbounds := toNat_char_bounds c
  unfold String.utf8EncodeChar at hb
  dsimp only at hb
  rw [show c.val.toNat = c.toNat from rfl, if_neg (by omega)] at hb
  -- Every byte of the longer forms has its highest bit set.
  split at hb
  · simp only [List.mem_cons, List.not_mem_nil, or_false] at hb
    rcases hb with rfl | rfl <;> rw [UInt8.toNat_ofNat'] <;> omega
  · split at hb
    · simp only [List.mem_cons, List.not_mem_nil, or_false] at hb
      rcases hb with rfl | rfl | rfl <;> rw [UInt8.toNat_ofNat'] <;> omega
    · simp only [List.mem_cons, List.not_mem_nil, or_false] at hb
      rcases hb with rfl | rfl | rfl | rfl <;> rw [UInt8.toNat_ofNat'] <;> omega

/-- An ASCII byte is no part of a longer character. -/
theorem utf8EncodeChar_of_mem {c : Char} {b : UInt8} (hb : b ∈ String.utf8EncodeChar c)
    (hlt : b.toNat < 0x80) : String.utf8EncodeChar c = [b] := by
  by_cases hc : c.toNat < 0x80
  · rw [utf8EncodeChar_of_lt hc] at hb ⊢
    rw [List.mem_singleton.1 hb]
  · have hle := le_of_mem_utf8EncodeChar (Nat.le_of_not_lt hc) hb
    omega

theorem not_beginsNoChar_of_lt {b : UInt8} (tail : List UInt8) (hlt : b.toNat < 0x80) :
    ¬BeginsNoChar (b :: tail) := by
  intro h
  refine h (Char.ofNat b.toNat) tail ?_
  rw [utf8EncodeChar_one hlt]
  rfl

/-- A text may be cut behind an ASCII byte, or before all of its bytes. -/
theorem exists_encode_of_append {text : List Char} {before after : List UInt8}
    (h : encode text = before ++ after) (hbefore : ∀ b ∈ before.getLast?, b.toNat < 0x80) :
    ∃ rest, after = encode rest := by
  induction text generalizing before with
  | nil =>
      rw [encode, List.flatMap_nil] at h
      exact ⟨[], (List.append_eq_nil_iff.1 h.symm).2⟩
  | cons c text ih =>
      rw [encode_cons] at h
      rcases List.append_eq_append_iff.1 h with ⟨more, rfl, htext⟩ | ⟨more, hc, rfl⟩
      · refine ih htext fun b hb => hbefore b ?_
        rw [List.getLast?_append, Option.mem_def.1 hb]
        rfl
      · cases hlast : before.getLast? with
        | none =>
            rw [List.getLast?_eq_none_iff.1 hlast, List.nil_append] at hc
            exact ⟨c :: text, by rw [encode_cons, hc]⟩
        | some b =>
            have hb : b ∈ before := List.mem_of_getLast? hlast
            have hone := utf8EncodeChar_of_mem (hc ▸ List.mem_append_left more hb)
              (hbefore b hlast)
            have hlength := congrArg List.length (hc.symm.trans hone)
            rw [List.length_append, List.length_singleton] at hlength
            have hmore : more = [] := List.length_eq_zero_iff.1 (by
              have := List.length_pos_of_mem hb
              omega)
            exact ⟨text, by rw [hmore, List.nil_append]⟩

/-- An ASCII character is shown only where its byte is. -/
theorem mem_of_mem_lossy {bytes : List UInt8} {c : Char} (hc : c ∈ lossy bytes)
    (hlt : c.toNat < 0x80) : UInt8.ofNat c.toNat ∈ bytes := by
  unfold lossy at hc
  fun_induction pieces bytes with
  | case1 => cases hc
  | case2 b tail ih =>
      rw [List.map_cons] at hc
      rcases List.mem_cons.1 hc with rfl | hc
      · cases hfirst : first b tail with
        | bad n =>
            have hreplacement : 0x80 ≤ '\uFFFD'.toNat := by decide
            rw [hfirst] at hlt
            exact absurd hlt (Nat.not_lt_of_le hreplacement)
        | char c n =>
            rw [hfirst] at hlt
            have hbytes := eq_append_drop_of_first hfirst
            have hone : String.utf8EncodeChar c = [UInt8.ofNat c.toNat] := utf8EncodeChar_of_lt hlt
            rw [hone, List.singleton_append] at hbytes
            rw [(List.cons.inj hbytes).1]
            exact List.mem_cons_self
      · exact List.mem_cons_of_mem _ (List.mem_of_mem_drop (ih hc))

end Gridscript.Utf8
