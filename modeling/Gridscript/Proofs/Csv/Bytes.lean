/-
  Grids from bytes.

  Bytes are read as the text that they stand for. If they stand for none, the first byte that
  belongs to no character is reported by its line and by the field around it
  (`readBytes_exact`). That the field is cut out of the bytes rather than out of a text does no
  harm: separators are ASCII, so they are no part of other characters, and what stands before the
  first bad byte is text from the last separator on.
-/
import Gridscript.Csv.Table
import Gridscript.Proofs.Text.Pieces

namespace Gridscript.Csv

variable {bytes before run after good : List UInt8} {k : Nat}

/-! ## The longest text -/

/-- `good` is the longest beginning of the bytes that is text. -/
structure IsLongestText (bytes good : List UInt8) : Prop where
  begins : good <+: bytes
  isText : ∃ text, good = Utf8.encode text
  longest : ∀ other, other <+: bytes → (∃ text, other = Utf8.encode text) → other <+: good

theorem IsLongestText.unique {good' : List UInt8} (h : IsLongestText bytes good)
    (h' : IsLongestText bytes good') : good' = good :=
  (h.longest good' h'.begins h'.isText).eq_of_length_le
    (h'.longest good h.begins h.isText).length_le

theorem validLength_eq (text : List Char) {rest : List UInt8} (hrest : Utf8.BeginsNoChar rest) :
    Utf8.validLength (Utf8.encode text ++ rest) = (Utf8.encode text).length := by
  rw [Utf8.validLength_encode_append, Utf8.validLength_of_beginsNoChar hrest, Nat.add_zero]

theorem isLongestText_encode (text : List Char) {rest : List UInt8}
    (hrest : Utf8.BeginsNoChar rest) :
    IsLongestText (Utf8.encode text ++ rest) (Utf8.encode text) := by
  refine ⟨List.prefix_append _ _, ⟨text, rfl⟩, fun other hother htext => ?_⟩
  have hle := Utf8.prefix_take_validLength hother htext
  rwa [validLength_eq text hrest, List.take_left] at hle

/-! ## Runs without separators -/

/-- The bytes of `run` stand between `before` and `after`. They hold the place `k` and no
    separator. -/
structure IsRun (bytes : List UInt8) (k : Nat) (before run after : List UInt8) : Prop where
  parts : bytes = before ++ (run ++ after)
  clean : ∀ b ∈ run, isSeparator b = false
  holds : before.length ≤ k ∧ k < before.length + run.length

/-- No run that holds the place begins before this one or ends after it. -/
structure IsWidestRun (bytes : List UInt8) (k : Nat) (before run after : List UInt8) : Prop
    extends IsRun bytes k before run after where
  widest : ∀ before' run' after', IsRun bytes k before' run' after' →
    before.length ≤ before'.length ∧ after.length ≤ after'.length

theorem IsWidestRun.unique {before' run' after' : List UInt8}
    (h : IsWidestRun bytes k before run after) (h' : IsWidestRun bytes k before' run' after') :
    run' = run := by
  have hle := h.widest _ _ _ h'.toIsRun
  have hle' := h'.widest _ _ _ h.toIsRun
  have hparts := h'.parts.symm.trans h.parts
  have hrest := (List.append_inj hparts (Nat.le_antisymm hle'.1 hle.1)).2
  exact (List.append_inj' hrest (Nat.le_antisymm hle'.2 hle.2)).1

theorem IsRun.not_separator (h : IsRun bytes k before run after) {i : Nat} {b : UInt8}
    (hi : before.length ≤ i) (hi' : i < before.length + run.length) (hb : bytes[i]? = some b) :
    isSeparator b = false := by
  rw [h.parts, List.getElem?_append_right hi, List.getElem?_append_left (by omega)] at hb
  exact h.clean b (List.mem_of_getElem? hb)

/-- A run between separators, or the ends of the bytes, is the widest. -/
theorem IsRun.isWidestRun (h : IsRun bytes k before run after)
    (hbefore : ∀ b ∈ before.getLast?, isSeparator b = true)
    (hafter : ∀ b ∈ after.head?, isSeparator b = true) :
    IsWidestRun bytes k before run after := by
  refine ⟨h, fun before' run' after' h' => ?_⟩
  have hk := h.holds
  have hk' := h'.holds
  have hlength := congrArg List.length (h.parts.symm.trans h'.parts)
  simp only [List.length_append] at hlength
  constructor
  · -- A run that begins earlier would hold the last byte before this one.
    refine Nat.le_of_not_lt fun hlt => ?_
    have hlast : bytes[before.length - 1]? = before.getLast? := by
      rw [h.parts, List.getElem?_append_left (by omega), List.getLast?_eq_getElem?]
    obtain ⟨b, hb⟩ : ∃ b, before.getLast? = some b :=
      ⟨_, List.getLast?_eq_some_getLast (List.ne_nil_of_length_pos (by omega))⟩
    have hclean := h'.not_separator (by omega) (by omega) (hlast.trans hb)
    rw [hbefore b hb] at hclean
    cases hclean
  · -- A run that ends later would hold the first byte after this one.
    refine Nat.le_of_not_lt fun hlt => ?_
    have hfirst : bytes[before.length + run.length]? = after.head? := by
      rw [h.parts, ← List.append_assoc, ← List.length_append, List.getElem?_append_right
        (Nat.le_refl _), Nat.sub_self, List.head?_eq_getElem?]
    obtain ⟨b, hb⟩ : ∃ b, after.head? = some b :=
      ⟨_, List.head?_eq_some_head (List.ne_nil_of_length_pos (by omega))⟩
    have hclean := h'.not_separator (by omega) (by omega) (hfirst.trans hb)
    rw [hafter b hb] at hclean
    cases hclean

/-! ## The field around a byte -/

/-- The bytes from the last separator on. -/
def lastPart (bytes : List UInt8) : List UInt8 :=
  (bytes.reverse.takeWhile fun b => !isSeparator b).reverse

theorem exists_lastPart (bytes : List UInt8) :
    ∃ before, bytes = before ++ lastPart bytes ∧ (∀ b ∈ lastPart bytes, isSeparator b = false) ∧
      ∀ b ∈ before.getLast?, isSeparator b = true := by
  refine ⟨(bytes.reverse.dropWhile fun b => !isSeparator b).reverse, ?_, fun b hb => ?_,
    fun b hb => ?_⟩
  · rw [lastPart, ← List.reverse_append, List.takeWhile_append_dropWhile, List.reverse_reverse]
  · have hclean := List.all_eq_true.1 List.all_takeWhile b (List.mem_reverse.1 hb)
    simpa using hclean
  · rw [List.getLast?_reverse] at hb
    have hhead := List.head?_dropWhile_not (fun b => !isSeparator b) bytes.reverse
    rw [Option.mem_def.1 hb] at hhead
    simpa using hhead

/-- Separators are ASCII. -/
theorem lt_of_isSeparator {b : UInt8} (h : isSeparator b = true) : b.toNat < 0x80 := by
  unfold isSeparator at h
  simp only [Bool.or_eq_true, beq_iff_eq] at h
  rcases h with (rfl | rfl) | rfl <;> decide

/-- What is shown for bytes without separators has none. -/
theorem not_separator_of_mem_lossy (hclean : ∀ b ∈ run, isSeparator b = false) {c : Char}
    (hc : c ∈ Utf8.lossy run) : c ≠ ',' ∧ c ≠ '\n' ∧ c ≠ '\r' := by
  refine ⟨?_, ?_, ?_⟩
  all_goals
    rintro rfl
    have hb := hclean _ (Utf8.mem_of_mem_lossy hc (by decide))
    exact absurd hb (by decide)

/-- The field that a byte begins in, if it is the first of `rest` and `good` stands before it. -/
def fieldAround (good rest : List UInt8) : List UInt8 :=
  lastPart good ++ rest.takeWhile fun b => !isSeparator b

section FieldAround

variable {b : UInt8} {tail : List UInt8}

/-- The byte that stops a text is no separator. -/
theorem not_separator_of_beginsNoChar (h : Utf8.BeginsNoChar (b :: tail)) :
    isSeparator b = false :=
  Bool.eq_false_iff.2 fun hb => Utf8.not_beginsNoChar_of_lt tail (lt_of_isSeparator hb) h

theorem takeWhile_of_not_separator (hb : isSeparator b = false) (tail : List UInt8) :
    ((b :: tail).takeWhile fun b => !isSeparator b) =
      b :: tail.takeWhile fun b => !isSeparator b := by
  rw [List.takeWhile_cons, hb]
  rfl

/-- The field around a byte is the widest run that holds it. -/
theorem exists_isWidestRun (good : List UInt8) (hb : isSeparator b = false) :
    ∃ before after, IsWidestRun (good ++ b :: tail) good.length before
      (fieldAround good (b :: tail)) after := by
  obtain ⟨before, hgood, hclean, hbefore⟩ := exists_lastPart good
  refine ⟨before, (b :: tail).dropWhile fun b => !isSeparator b,
    IsRun.isWidestRun ⟨?_, ?_, ?_⟩ hbefore ?_⟩
  · rw [fieldAround, List.append_assoc, List.takeWhile_append_dropWhile, ← List.append_assoc,
      ← hgood]
  · intro x hx
    rcases List.mem_append.1 hx with hx | hx
    · exact hclean x hx
    · have hx := List.all_eq_true.1 List.all_takeWhile x hx
      simpa using hx
  · have hlength := congrArg List.length hgood
    rw [fieldAround, takeWhile_of_not_separator hb tail]
    simp only [List.length_append, List.length_cons] at hlength ⊢
    omega
  · intro x hx
    have hhead := List.head?_dropWhile_not (fun b => !isSeparator b) (b :: tail)
    rw [Option.mem_def.1 hx] at hhead
    simpa using hhead

/-- What is shown for the field around the byte that stops a text is text up to that byte, and then
    U+FFFD. -/
theorem replacement_mem_fieldAround (text : List Char) (hrest : Utf8.BeginsNoChar (b :: tail)) :
    '\uFFFD' ∈ Utf8.lossy (fieldAround (Utf8.encode text) (b :: tail)) := by
  have htake := takeWhile_of_not_separator (not_separator_of_beginsNoChar hrest) tail
  obtain ⟨before, htext, -, hbefore⟩ := exists_lastPart (Utf8.encode text)
  obtain ⟨last, hlast⟩ := Utf8.exists_encode_of_append htext
    fun x hx => lt_of_isSeparator (hbefore x hx)
  rw [← List.takeWhile_append_dropWhile (p := fun b => !isSeparator b) (l := b :: tail),
    htake] at hrest
  rw [fieldAround, htake, hlast, Utf8.lossy_encode_append]
  exact List.mem_append_right _ (Utf8.replacement_mem_lossy hrest.of_append)

end FieldAround

theorem decode_encode (text : List Char) : decode (Utf8.encode text) = .ok text := by
  unfold decode
  rw [Utf8.decode?_encode]

theorem decode_of_beginsNoChar (text : List Char) {b : UInt8} {tail : List UInt8}
    (hrest : Utf8.BeginsNoChar (b :: tail)) :
    decode (Utf8.encode text ++ b :: tail) =
      .error (.csv ((Utf8.encode text).count 0x0A + 1)
        (.notInteger (String.ofList
          (Utf8.lossy (fieldAround (Utf8.encode text) (b :: tail)))))) := by
  have hnone : Utf8.decode? (Utf8.encode text ++ b :: tail) = none := by
    rw [Utf8.decode?_encode_append, Utf8.decode?_of_beginsNoChar hrest]
    rfl
  unfold decode
  rw [hnone]
  dsimp only
  rw [validLength_eq text hrest, List.take_left, List.drop_left]
  rfl

/-- Bytes of a text are read as the text. Other bytes are refused: the fault is on the line of the
    first byte after the longest text that they begin with, and names what is shown for the one
    widest run without separators around that byte. That has U+FFFD in it, and no separator. -/
theorem readBytes_exact (τ : IntType) (bytes : List UInt8) :
    (∀ text, bytes = Utf8.encode text → readBytes τ bytes = read τ text) ∧
    ((∀ text, bytes ≠ Utf8.encode text) →
      ∃ good before run after,
        IsLongestText bytes good ∧ (∀ good', IsLongestText bytes good' → good' = good) ∧
        IsWidestRun bytes good.length before run after ∧
        (∀ before' run' after', IsWidestRun bytes good.length before' run' after' → run' = run) ∧
        readBytes τ bytes = .error (.csv (1 + good.count 0x0A)
          (.notInteger (String.ofList (Utf8.lossy run)))) ∧
        '\uFFFD' ∈ Utf8.lossy run ∧
        ∀ c ∈ Utf8.lossy run, c ≠ ',' ∧ c ≠ '\n' ∧ c ≠ '\r') := by
  refine ⟨?_, fun hbytes => ?_⟩
  · rintro text rfl
    unfold readBytes
    rw [decode_encode]
    rfl
  · obtain ⟨text, rest, rfl, hrest⟩ := Utf8.exists_encode_append bytes
    cases rest with
    | nil => exact absurd (List.append_nil _) (hbytes text)
    | cons b tail =>
        have hlongest := isLongestText_encode text hrest
        obtain ⟨before, after, hwidest⟩ :=
          exists_isWidestRun (Utf8.encode text) (not_separator_of_beginsNoChar hrest)
        refine ⟨_, before, _, after, hlongest, fun _ => hlongest.unique, hwidest,
          fun _ _ _ => hwidest.unique, ?_, replacement_mem_fieldAround text hrest,
          fun c hc => not_separator_of_mem_lossy hwidest.clean hc⟩
        unfold readBytes
        rw [decode_of_beginsNoChar text hrest, Nat.add_comm]
        rfl

end Gridscript.Csv
