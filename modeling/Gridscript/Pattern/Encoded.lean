/-
  Ranges of characters as sequences of ranges of bytes.

  The characters of a range have encodings of several lengths and with all kinds of bytes. Cut in
  the right places, a range falls into parts in each of which the first bytes run over a range, the
  second bytes over a range whatever the first is, and so on. A part is then given by these ranges
  of bytes, one after the other.
-/
import Gridscript.Pattern.CharSet

namespace Gridscript.Pattern

/-- Ranges of bytes, one after the other. -/
abbrev ByteRanges := List (Nat × Nat)

namespace Encoded

/-- Where a range is cut at blocks of `block` code points: it is to start and to end with whole
    blocks if it reaches over more than one. -/
def cutAtBlocks? (block low high : Nat) : Option (Nat × Nat) :=
  if low / block = high / block then none
  else if low % block ≠ 0 then
    some (low - low % block + block - 1, low - low % block + block)
  else if high % block ≠ block - 1 then some (high - high % block - 1, high - high % block)
  else none

/-- Where a range is cut at the last code point of encodings of a length. -/
def cutAfter? (last low high : Nat) : Option (Nat × Nat) :=
  if low ≤ last ∧ last < high then some (last, last + 1) else none

/-- Where a range is to be cut first: the end of its first part and the start of its second. -/
def cut? (low high : Nat) : Option (Nat × Nat) :=
  if low < 0xE000 ∧ 0xD7FF < high then some (0xD7FF, 0xE000)
  else
    (cutAfter? 0x7F low high).or <| (cutAfter? 0x7FF low high).or <|
      (cutAfter? 0xFFFF low high).or <|
        if high ≤ 0x7F then none
        else
          (cutAtBlocks? 64 low high).or <| (cutAtBlocks? 4096 low high).or <|
            cutAtBlocks? 262144 low high

theorem cutAtBlocks?_inside {block low high a b : Nat} (positive : 0 < block) (proper : low ≤ high)
    (h : cutAtBlocks? block low high = some (a, b)) : a < high ∧ low < b := by
  have hlow := Nat.div_add_mod low block
  have hhigh := Nat.div_add_mod high block
  have hlowMod := Nat.mod_lt low positive
  have hhighMod := Nat.mod_lt high positive
  have hle : low / block ≤ high / block := Nat.div_le_div_right proper
  unfold cutAtBlocks? at h
  split at h
  · cases h
  · next hne =>
      have hstep : block * (low / block) + block ≤ block * (high / block) := by
        have : low / block + 1 ≤ high / block := by omega
        have := Nat.mul_le_mul_left block this
        rwa [Nat.mul_add, Nat.mul_one] at this
      split at h
      · cases h; omega
      · split at h
        · cases h; omega
        · cases h

theorem cutAfter?_inside {last low high a b : Nat} (h : cutAfter? last low high = some (a, b)) :
    a < high ∧ low < b := by
  unfold cutAfter? at h
  split at h
  · cases h; omega
  · cases h

/-- Both parts of a range that is cut are shorter than the range. -/
theorem cut?_inside {low high a b : Nat} (proper : low ≤ high) (h : cut? low high = some (a, b)) :
    a < high ∧ low < b := by
  unfold cut? at h
  split at h
  · cases h; omega
  · simp only [Option.or_eq_some_iff] at h
    rcases h with h | ⟨-, h | ⟨-, h | ⟨-, h⟩⟩⟩
    · exact cutAfter?_inside h
    · exact cutAfter?_inside h
    · exact cutAfter?_inside h
    · split at h
      · cases h
      · simp only [Option.or_eq_some_iff] at h
        rcases h with h | ⟨-, h | ⟨-, h⟩⟩
        · exact cutAtBlocks?_inside (by decide) proper h
        · exact cutAtBlocks?_inside (by decide) proper h
        · exact cutAtBlocks?_inside (by decide) proper h

/-- The parts that a range falls into. -/
def cuts (low high : Nat) : List (Nat × Nat) :=
  if proper : low ≤ high then
    match h : cut? low high with
    | none => [(low, high)]
    | some (a, b) =>
        have := cut?_inside proper h
        cuts low a ++ cuts b high
  else []
termination_by high + 1 - low

/-- The bytes of the character with a code point. -/
def bytes (code : Nat) : List Nat := (String.utf8EncodeChar (Char.ofNat code)).map UInt8.toNat

/-- A set as sequences of ranges of bytes. -/
def sequences (s : CharSet) : List ByteRanges :=
  (s.ranges.flatMap fun r => cuts r.1 r.2).map fun r => (bytes r.1).zip (bytes r.2)

end Encoded

end Gridscript.Pattern
