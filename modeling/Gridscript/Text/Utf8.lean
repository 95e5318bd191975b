/-
  UTF-8 text as bytes.

  `pieces` cuts any bytes into characters and runs of bytes that form none. A run that forms
  none is as long as the longest beginning of a character that it is, and at least one byte.
  Bytes are text if all their pieces are characters; `lossy` puts U+FFFD for each of the others.
-/

namespace Gridscript.Utf8

/-- A character or a run of bytes that forms none, with its number of bytes. -/
inductive Piece where
  | char (c : Char) (size : Nat)
  | bad (size : Nat)
deriving DecidableEq

namespace Piece

def size : Piece → Nat
  | char _ n => n
  | bad n => n

/-- The character shown for the piece. -/
def shown : Piece → Char
  | char c _ => c
  | bad _ => '\uFFFD'

def char? : Piece → Option Char
  | char c _ => some c
  | bad _ => none

end Piece

/-- How many bytes follow a leading byte, and the bounds of the first of them. -/
def lead (b : UInt8) : Option (Nat × UInt8 × UInt8) :=
  if 0xC2 ≤ b ∧ b ≤ 0xDF then some (1, 0x80, 0xBF)
  else if b = 0xE0 then some (2, 0xA0, 0xBF)
  else if b = 0xED then some (2, 0x80, 0x9F)
  else if 0xE1 ≤ b ∧ b ≤ 0xEF then some (2, 0x80, 0xBF)
  else if b = 0xF0 then some (3, 0x90, 0xBF)
  else if 0xF1 ≤ b ∧ b ≤ 0xF3 then some (3, 0x80, 0xBF)
  else if b = 0xF4 then some (3, 0x80, 0x8F)
  else none

/-- A byte inside a character. -/
def isInner (b : UInt8) : Bool := 0x80 ≤ b && b ≤ 0xBF

/-- The six bits that an inner byte carries. -/
def payload (b : UInt8) : Nat := b.toNat % 64

/-- The piece that bytes begin with. -/
def first (b : UInt8) (rest : List UInt8) : Piece :=
  if b < 0x80 then .char (Char.ofNat b.toNat) 1
  else
    match lead b with
    | none => .bad 1
    | some (following, low, high) =>
        match rest with
        | [] => .bad 1
        | b₁ :: rest₁ =>
            if ¬(low ≤ b₁ ∧ b₁ ≤ high) then .bad 1
            else if following = 1 then
              .char (Char.ofNat (b.toNat % 32 * 64 + payload b₁)) 2
            else
              match rest₁ with
              | [] => .bad 2
              | b₂ :: rest₂ =>
                  if ¬isInner b₂ then .bad 2
                  else if following = 2 then
                    .char (Char.ofNat ((b.toNat % 16 * 64 + payload b₁) * 64 + payload b₂)) 3
                  else
                    match rest₂ with
                    | [] => .bad 3
                    | b₃ :: _ =>
                        if ¬isInner b₃ then .bad 3
                        else
                          .char (Char.ofNat (((b.toNat % 8 * 64 + payload b₁) * 64 + payload b₂) * 64
                            + payload b₃)) 4

/-- Bytes cut into pieces. -/
def pieces : List UInt8 → List Piece
  | [] => []
  | b :: rest => first b rest :: pieces (rest.drop ((first b rest).size - 1))
termination_by bytes => bytes.length
decreasing_by simp only [List.length_drop, List.length_cons]; omega

/-- The text that bytes stand for, if all of them belong to characters. -/
def decode? (bytes : List UInt8) : Option (List Char) := (pieces bytes).mapM Piece.char?

/-- The text of bytes, with U+FFFD for each run that forms no character. -/
def lossy (bytes : List UInt8) : List Char := (pieces bytes).map Piece.shown

/-- Number of bytes of the characters before the first piece that is none. -/
def goodLength : List Piece → Nat
  | .char _ n :: rest => n + goodLength rest
  | _ => 0

/-- Number of bytes before the first run that forms no character. -/
def validLength (bytes : List UInt8) : Nat := goodLength (pieces bytes)

/-- The bytes of a text. -/
def encode (text : List Char) : List UInt8 := text.flatMap String.utf8EncodeChar

end Gridscript.Utf8
