/-
  The bytes of a text stand for that text.

  A character becomes one to four bytes: a leading byte that tells their number, then six bits
  in each of the others. `first` finds the character again whatever bytes follow, so the pieces
  of an encoded text are its characters one by one. It finds no others: bytes are read as a
  character exactly if they begin with its bytes (`first_eq_char_iff`).
-/
import Gridscript.Text.Utf8

namespace Gridscript.Utf8

/-! ## Bytes as numbers -/

theorem lead_two {b : UInt8} (h : 0xC2 ≤ b.toNat ∧ b.toNat ≤ 0xDF) :
    lead b = some (1, 0x80, 0xBF) := by
  unfold lead
  simp only [UInt8.le_iff_toNat_le]
  exact if_pos h

/-- The least first inner byte of three bytes keeps shorter forms out, the greatest surrogates. -/
theorem lead_three {b : UInt8} (h : 0xE0 ≤ b.toNat ∧ b.toNat ≤ 0xEF) :
    lead b = some (2, if b.toNat = 0xE0 then 0xA0 else 0x80,
      if b.toNat = 0xED then 0x9F else 0xBF) := by
  unfold lead
  simp only [UInt8.le_iff_toNat_le, ← UInt8.toNat_inj, UInt8.reduceToNat]
  grind

theorem lead_four {b : UInt8} (h : 0xF0 ≤ b.toNat ∧ b.toNat ≤ 0xF4) :
    lead b = some (3, if b.toNat = 0xF0 then 0x90 else 0x80,
      if b.toNat = 0xF4 then 0x8F else 0xBF) := by
  unfold lead
  simp only [UInt8.le_iff_toNat_le, ← UInt8.toNat_inj, UInt8.reduceToNat]
  grind

theorem isInner_iff (b : UInt8) : isInner b = true ↔ 0x80 ≤ b.toNat ∧ b.toNat ≤ 0xBF := by
  unfold isInner
  simp [UInt8.le_iff_toNat_le]

/-! ## Bytes of one character -/

section First

variable {b b₁ b₂ b₃ : UInt8} (rest : List UInt8)

theorem not_ascii (hb : 0x80 ≤ b.toNat) : ¬b < 0x80 := by
  rw [UInt8.lt_iff_toNat_lt]
  exact Nat.not_lt_of_le hb

theorem first_one (hb : b.toNat < 0x80) : first b rest = .char (Char.ofNat b.toNat) 1 := by
  unfold first
  exact if_pos (UInt8.lt_iff_toNat_lt.2 hb)

theorem first_two (hb : 0xC2 ≤ b.toNat ∧ b.toNat ≤ 0xDF) (h₁ : isInner b₁ = true) :
    first b (b₁ :: rest) = .char (Char.ofNat (b.toNat % 32 * 64 + payload b₁)) 2 := by
  have hascii := not_ascii (b := b) (by omega)
  rw [isInner_iff] at h₁
  have hbounds : (0x80 : UInt8) ≤ b₁ ∧ b₁ ≤ 0xBF :=
    ⟨UInt8.le_iff_toNat_le.2 h₁.1, UInt8.le_iff_toNat_le.2 h₁.2⟩
  unfold first
  simp only [if_neg hascii, lead_two hb, if_neg (not_not_intro hbounds), if_true]

theorem first_three (hb : 0xE0 ≤ b.toNat ∧ b.toNat ≤ 0xEF) (h₁ : isInner b₁ = true)
    (hlow : b.toNat = 0xE0 → 0xA0 ≤ b₁.toNat) (hhigh : b.toNat = 0xED → b₁.toNat ≤ 0x9F)
    (h₂ : isInner b₂ = true) :
    first b (b₁ :: b₂ :: rest) =
      .char (Char.ofNat ((b.toNat % 16 * 64 + payload b₁) * 64 + payload b₂)) 3 := by
  have hascii := not_ascii (b := b) (by omega)
  rw [isInner_iff] at h₁
  have hbounds : (if b.toNat = 0xE0 then (0xA0 : UInt8) else 0x80) ≤ b₁ ∧
      b₁ ≤ if b.toNat = 0xED then (0x9F : UInt8) else 0xBF := by
    simp only [UInt8.le_iff_toNat_le, apply_ite UInt8.toNat, UInt8.reduceToNat]
    grind
  unfold first
  simp only [if_neg hascii, lead_three hb, if_neg (not_not_intro hbounds), h₂, not_true,
    if_true, if_false, Nat.reduceEqDiff]

theorem first_four (hb : 0xF0 ≤ b.toNat ∧ b.toNat ≤ 0xF4) (h₁ : isInner b₁ = true)
    (hlow : b.toNat = 0xF0 → 0x90 ≤ b₁.toNat) (hhigh : b.toNat = 0xF4 → b₁.toNat ≤ 0x8F)
    (h₂ : isInner b₂ = true) (h₃ : isInner b₃ = true) :
    first b (b₁ :: b₂ :: b₃ :: rest) =
      .char (Char.ofNat (((b.toNat % 8 * 64 + payload b₁) * 64 + payload b₂) * 64
        + payload b₃)) 4 := by
  have hascii := not_ascii (b := b) (by omega)
  rw [isInner_iff] at h₁
  have hbounds : (if b.toNat = 0xF0 then (0x90 : UInt8) else 0x80) ≤ b₁ ∧
      b₁ ≤ if b.toNat = 0xF4 then (0x8F : UInt8) else 0xBF := by
    simp only [UInt8.le_iff_toNat_le, apply_ite UInt8.toNat, UInt8.reduceToNat]
    grind
  unfold first
  simp only [if_neg hascii, lead_four hb, if_neg (not_not_intro hbounds), h₂, h₃, not_true,
    if_false, Nat.reduceEqDiff]

end First

/-! ## Encoded characters -/

/-- The inner byte that carries the six bits `n % 64`. -/
theorem toNat_inner (n : Nat) : (UInt8.ofNat (n % 64 + 128)).toNat = n % 64 + 128 := by
  rw [UInt8.toNat_ofNat']
  omega

theorem payload_inner (n : Nat) : payload (UInt8.ofNat (n % 64 + 128)) = n % 64 := by
  unfold payload
  rw [toNat_inner]
  omega

theorem isInner_inner (n : Nat) : isInner (UInt8.ofNat (n % 64 + 128)) = true := by
  rw [isInner_iff, toNat_inner]
  omega

/-- No character is a surrogate or lies beyond the last code point. -/
theorem toNat_char_bounds (c : Char) :
    c.toNat < 0xD800 ∨ 0xDFFF < c.toNat ∧ c.toNat < 0x110000 := c.valid

/-- The bytes of a character are read as that character, whatever follows them. -/
theorem first_utf8EncodeChar (c : Char) (rest : List UInt8) :
    ∃ b inner, String.utf8EncodeChar c = b :: inner ∧
      first b (inner ++ rest) = .char c (inner.length + 1) := by
  have hc := toNat_char_bounds c
  have hchar := Char.ofNat_toNat c
  unfold String.utf8EncodeChar
  dsimp only
  rw [show c.val.toNat = c.toNat from rfl]
  split
  · refine ⟨_, [], rfl, ?_⟩
    have hb : (UInt8.ofNat c.toNat).toNat = c.toNat := by
      rw [UInt8.toNat_ofNat']
      omega
    rw [first_one _ (by omega), hb, hchar]
    rfl
  · split
    · refine ⟨_, [_], rfl, ?_⟩
      have hb : (UInt8.ofNat (c.toNat / 64 % 32 + 192)).toNat = c.toNat / 64 + 192 := by
        rw [UInt8.toNat_ofNat']
        omega
      have hval : (c.toNat / 64 + 192) % 32 * 64 + c.toNat % 64 = c.toNat := by omega
      rw [List.singleton_append, first_two _ (by omega) (isInner_inner _), hb, payload_inner,
        hval, hchar]
      rfl
    · split
      · refine ⟨_, [_, _], rfl, ?_⟩
        have hb : (UInt8.ofNat (c.toNat / 4096 % 16 + 224)).toNat = c.toNat / 4096 + 224 := by
          rw [UInt8.toNat_ofNat']
          omega
        have hval : ((c.toNat / 4096 + 224) % 16 * 64 + c.toNat / 64 % 64) * 64
            + c.toNat % 64 = c.toNat := by omega
        rw [List.cons_append, List.singleton_append,
          first_three _ (by omega) (isInner_inner _) (by rw [toNat_inner]; omega)
            (by rw [toNat_inner]; omega) (isInner_inner _),
          hb, payload_inner, payload_inner, hval, hchar]
        rfl
      · refine ⟨_, [_, _, _], rfl, ?_⟩
        have hb : (UInt8.ofNat (c.toNat / 262144 % 8 + 240)).toNat = c.toNat / 262144 + 240 := by
          rw [UInt8.toNat_ofNat']
          omega
        have hval : (((c.toNat / 262144 + 240) % 8 * 64 + c.toNat / 4096 % 64) * 64
            + c.toNat / 64 % 64) * 64 + c.toNat % 64 = c.toNat := by omega
        rw [List.cons_append, List.cons_append, List.singleton_append,
          first_four _ (by omega) (isInner_inner _) (by rw [toNat_inner]; omega)
            (by rw [toNat_inner]; omega) (isInner_inner _) (isInner_inner _),
          hb, payload_inner, payload_inner, payload_inner, hval, hchar]
        rfl

theorem pieces_utf8EncodeChar (c : Char) (rest : List UInt8) :
    pieces (String.utf8EncodeChar c ++ rest) =
      .char c (String.utf8EncodeChar c).length :: pieces rest := by
  obtain ⟨b, inner, hbytes, hfirst⟩ := first_utf8EncodeChar c rest
  rw [hbytes, List.cons_append, pieces, hfirst]
  simp only [Piece.size, Nat.add_sub_cancel, List.drop_left, List.length_cons]

/-- The bytes of a text stand for it. -/
theorem decode?_encode (text : List Char) : decode? (encode text) = some text := by
  induction text with
  | nil =>
      unfold decode?
      rw [encode, List.flatMap_nil, pieces]
      rfl
  | cons c text ih =>
      unfold decode? at ih ⊢
      rw [encode, List.flatMap_cons, ← encode, pieces_utf8EncodeChar, List.mapM_cons, ih]
      rfl

/-! ## Bytes read as a character -/

theorem toNat_ofNat {n : Nat} (h : n.isValidChar) : (Char.ofNat n).toNat = n := by
  rw [Char.ofNat, dif_pos h]
  rfl

section Encoded

variable {b b₁ b₂ b₃ : UInt8}

/-- The bounds that a leading byte sets for the next byte make that an inner byte, and are those
    that keep shorter forms, surrogates and what lies beyond the last code point out. -/
theorem lead_bounds {k : Nat} {low high : UInt8} (h : lead b = some (k, low, high))
    (h₁ : low ≤ b₁ ∧ b₁ ≤ high) :
    isInner b₁ = true ∧
      (k = 1 ∧ (0xC2 ≤ b.toNat ∧ b.toNat ≤ 0xDF) ∨
      k = 2 ∧ (0xE0 ≤ b.toNat ∧ b.toNat ≤ 0xEF) ∧ (b.toNat = 0xE0 → 0xA0 ≤ b₁.toNat) ∧
        (b.toNat = 0xED → b₁.toNat ≤ 0x9F) ∨
      k = 3 ∧ (0xF0 ≤ b.toNat ∧ b.toNat ≤ 0xF4) ∧ (b.toNat = 0xF0 → 0x90 ≤ b₁.toNat) ∧
        (b.toNat = 0xF4 → b₁.toNat ≤ 0x8F)) := by
  rw [isInner_iff]
  revert h
  fun_cases lead b
  case case8 => exact nofun
  all_goals
    intro h
    cases h
    simp only [UInt8.le_iff_toNat_le, ← UInt8.toNat_inj, UInt8.reduceToNat] at *
    grind

theorem utf8EncodeChar_one (hb : b.toNat < 0x80) :
    String.utf8EncodeChar (Char.ofNat b.toNat) = [b] := by
  have hcode : (Char.ofNat b.toNat).val.toNat = b.toNat := toNat_ofNat (.inl (by omega))
  unfold String.utf8EncodeChar
  dsimp only
  rw [hcode, if_pos (by omega), UInt8.ofNat_toNat]

theorem utf8EncodeChar_two (hb : 0xC2 ≤ b.toNat ∧ b.toNat ≤ 0xDF) (h₁ : isInner b₁ = true) :
    String.utf8EncodeChar (Char.ofNat (b.toNat % 32 * 64 + payload b₁)) = [b, b₁] := by
  rw [isInner_iff] at h₁
  generalize hn : b.toNat % 32 * 64 + payload b₁ = n
  unfold payload at hn
  have hcode : (Char.ofNat n).val.toNat = n := toNat_ofNat (.inl (by omega))
  have hlead : n / 64 % 32 + 192 = b.toNat := by omega
  have hinner : n % 64 + 128 = b₁.toNat := by omega
  unfold String.utf8EncodeChar
  dsimp only
  rw [hcode, if_neg (by omega), if_pos (by omega), hlead, hinner, UInt8.ofNat_toNat,
    UInt8.ofNat_toNat]

theorem utf8EncodeChar_three (hb : 0xE0 ≤ b.toNat ∧ b.toNat ≤ 0xEF) (h₁ : isInner b₁ = true)
    (hlow : b.toNat = 0xE0 → 0xA0 ≤ b₁.toNat) (hhigh : b.toNat = 0xED → b₁.toNat ≤ 0x9F)
    (h₂ : isInner b₂ = true) :
    String.utf8EncodeChar (Char.ofNat ((b.toNat % 16 * 64 + payload b₁) * 64 + payload b₂)) =
      [b, b₁, b₂] := by
  rw [isInner_iff] at h₁ h₂
  generalize hn : (b.toNat % 16 * 64 + payload b₁) * 64 + payload b₂ = n
  unfold payload at hn
  have hvalid : n.isValidChar := by
    unfold Nat.isValidChar
    omega
  have hcode : (Char.ofNat n).val.toNat = n := toNat_ofNat hvalid
  have hlead : n / 4096 % 16 + 224 = b.toNat := by omega
  have hinner : n / 64 % 64 + 128 = b₁.toNat := by omega
  have hlast : n % 64 + 128 = b₂.toNat := by omega
  unfold String.utf8EncodeChar
  dsimp only
  rw [hcode, if_neg (by omega), if_neg (by omega), if_pos (by omega), hlead, hinner, hlast,
    UInt8.ofNat_toNat, UInt8.ofNat_toNat, UInt8.ofNat_toNat]

theorem utf8EncodeChar_four (hb : 0xF0 ≤ b.toNat ∧ b.toNat ≤ 0xF4) (h₁ : isInner b₁ = true)
    (hlow : b.toNat = 0xF0 → 0x90 ≤ b₁.toNat) (hhigh : b.toNat = 0xF4 → b₁.toNat ≤ 0x8F)
    (h₂ : isInner b₂ = true) (h₃ : isInner b₃ = true) :
    String.utf8EncodeChar (Char.ofNat (((b.toNat % 8 * 64 + payload b₁) * 64 + payload b₂) * 64
      + payload b₃)) = [b, b₁, b₂, b₃] := by
  rw [isInner_iff] at h₁ h₂ h₃
  generalize hn : ((b.toNat % 8 * 64 + payload b₁) * 64 + payload b₂) * 64 + payload b₃ = n
  unfold payload at hn
  have hvalid : n.isValidChar := by
    unfold Nat.isValidChar
    omega
  have hcode : (Char.ofNat n).val.toNat = n := toNat_ofNat hvalid
  have hlead : n / 262144 % 8 + 240 = b.toNat := by omega
  have hinner : n / 4096 % 64 + 128 = b₁.toNat := by omega
  have hnext : n / 64 % 64 + 128 = b₂.toNat := by omega
  have hlast : n % 64 + 128 = b₃.toNat := by omega
  unfold String.utf8EncodeChar
  dsimp only
  rw [hcode, if_neg (by omega), if_neg (by omega), if_neg (by omega), hlead, hinner, hnext, hlast,
    UInt8.ofNat_toNat, UInt8.ofNat_toNat, UInt8.ofNat_toNat, UInt8.ofNat_toNat]

end Encoded

/-- Bytes are read as a character only if they begin with the bytes of that character. -/
theorem exists_append_of_first {b : UInt8} {rest : List UInt8} {c : Char} {n : Nat}
    (h : first b rest = .char c n) :
    ∃ tail, b :: rest = String.utf8EncodeChar c ++ tail ∧
      n = (String.utf8EncodeChar c).length := by
  revert h
  fun_cases first b rest with
  | case1 rest hb =>
      intro h
      cases h
      rw [utf8EncodeChar_one (UInt8.lt_iff_toNat_lt.1 hb)]
      exact ⟨rest, rfl, rfl⟩
  | case5 _ low high b₁ tail h₁ hlead =>
      intro h
      cases h
      obtain ⟨hinner, hb | hb | hb⟩ := lead_bounds hlead (Decidable.not_not.1 h₁)
      · rw [utf8EncodeChar_two hb.2 hinner]
        exact ⟨tail, rfl, rfl⟩
      · cases hb.1
      · cases hb.1
  | case8 _ low high b₁ h₁ b₂ tail h₂ hlead =>
      intro h
      cases h
      obtain ⟨hinner, hb | hb | hb⟩ := lead_bounds hlead (Decidable.not_not.1 h₁)
      · cases hb.1
      · rw [utf8EncodeChar_three hb.2.1 hinner hb.2.2.1 hb.2.2.2 (Decidable.not_not.1 h₂)]
        exact ⟨tail, rfl, rfl⟩
      · cases hb.1
  | case11 _ k low high hlead b₁ h₁ hk b₂ h₂ hk' b₃ tail h₃ =>
      intro h
      cases h
      obtain ⟨hinner, hb | hb | hb⟩ := lead_bounds hlead (Decidable.not_not.1 h₁)
      · exact absurd hb.1 hk
      · exact absurd hb.1 hk'
      · rw [utf8EncodeChar_four hb.2.1 hinner hb.2.2.1 hb.2.2.2 (Decidable.not_not.1 h₂)
          (Decidable.not_not.1 h₃)]
        exact ⟨tail, rfl, rfl⟩
  | _ => exact nofun

theorem first_eq_char_iff (b : UInt8) (rest : List UInt8) (c : Char) (n : Nat) :
    first b rest = .char c n ↔
      ∃ tail, b :: rest = String.utf8EncodeChar c ++ tail ∧
        n = (String.utf8EncodeChar c).length := by
  refine ⟨exists_append_of_first, ?_⟩
  rintro ⟨tail, hbytes, hn⟩
  obtain ⟨b', inner, hencoded, hfirst⟩ := first_utf8EncodeChar c tail
  rw [hencoded] at hbytes hn
  cases hbytes
  rw [hn, List.length_cons]
  exact hfirst

end Gridscript.Utf8
