import CodeIndex.Proofs.Encoding

/-!
Text is read back from its bytes.

The first byte of a character tells how many follow, and none of the forms that the reader refuses
is ever written: no overlong one, no surrogate, and none beyond the last code point. So the bytes of
a character are read as that character, whatever comes after them. Bytes that are a text are read in
the same way with more bytes behind them.
-/

namespace CodeIndex.Text.Utf8

section Forms

variable {b₀ b₁ b₂ b₃ : UInt8}

private theorem isContinuation_iff :
    isContinuation b₀ = true ↔ 128 ≤ b₀.toNat ∧ b₀.toNat < 192 := by
  simp [isContinuation, UInt8.le_iff_toNat_le, UInt8.lt_iff_toNat_lt]

private theorem secondAllowed_iff :
    secondAllowed b₀ b₁ = true ↔ isContinuation b₁ = true ∧
      (b₀.toNat = 224 → 160 ≤ b₁.toNat) ∧ (b₀.toNat = 237 → b₁.toNat < 160) ∧
      (b₀.toNat = 240 → 144 ≤ b₁.toNat) ∧ (b₀.toNat = 244 → b₁.toNat < 144) := by
  simp only [secondAllowed, Bool.and_eq_true, beq_iff_eq, UInt8.le_iff_toNat_le,
    UInt8.lt_iff_toNat_lt, ← UInt8.toNat_inj, and_congr_right_iff]
  intro _
  repeat' split
  all_goals simp_all

variable (start : Nat) (done : List Char) (rest : List UInt8)

private theorem decodeFrom_one (hone : b₀ < 0x80) :
    decodeFrom start done (b₀ :: rest) =
      decodeFrom (start + 1) (Char.ofNat b₀.toNat :: done) rest := by
  rw [decodeFrom.eq_def]
  simp [hone]

private theorem decodeFrom_two (hone : ¬b₀ < 0x80)
    (hrange : ¬(decide (b₀ < 0xC2) || decide (0xF5 ≤ b₀)))
    (htwo : b₀ < 0xE0) (h₁ : isContinuation b₁) :
    decodeFrom start done (b₀ :: b₁ :: rest) =
      decodeFrom (start + 2) (Char.ofNat (bits b₀ 32 * 64 + bits b₁ 64) :: done) rest := by
  rw [decodeFrom.eq_def]
  simp [hone, hrange, htwo, h₁]

private theorem decodeFrom_three (hone : ¬b₀ < 0x80)
    (hrange : ¬(decide (b₀ < 0xC2) || decide (0xF5 ≤ b₀)))
    (htwo : ¬b₀ < 0xE0) (hthree : b₀ < 0xF0) (h₁ : secondAllowed b₀ b₁) (h₂ : isContinuation b₂) :
    decodeFrom start done (b₀ :: b₁ :: b₂ :: rest) =
      decodeFrom (start + 3)
        (Char.ofNat ((bits b₀ 16 * 64 + bits b₁ 64) * 64 + bits b₂ 64) :: done) rest := by
  rw [decodeFrom.eq_def]
  simp [hone, hrange, htwo, hthree, h₁, h₂]

private theorem decodeFrom_four (hone : ¬b₀ < 0x80)
    (hrange : ¬(decide (b₀ < 0xC2) || decide (0xF5 ≤ b₀)))
    (htwo : ¬b₀ < 0xE0) (hthree : ¬b₀ < 0xF0) (h₁ : secondAllowed b₀ b₁) (h₂ : isContinuation b₂)
    (h₃ : isContinuation b₃) :
    decodeFrom start done (b₀ :: b₁ :: b₂ :: b₃ :: rest) =
      decodeFrom (start + 4)
        (Char.ofNat (((bits b₀ 8 * 64 + bits b₁ 64) * 64 + bits b₂ 64) * 64 + bits b₃ 64) :: done)
        rest := by
  rw [decodeFrom.eq_def]
  simp [hone, hrange, htwo, hthree, h₁, h₂, h₃]

end Forms

section Characters

/-- The number of a character lies below those of the surrogates, or between them and the end. -/
private theorem toNat_cases (c : Char) : c.toNat < 55296 ∨ 57343 < c.toNat ∧ c.toNat < 1114112 :=
  c.valid

/-- The bytes of a character are read as the character. -/
private theorem decodeFrom_encodeChar (start : Nat) (done : List Char) (c : Char)
    (rest : List UInt8) :
    decodeFrom start done (String.utf8EncodeChar c ++ rest) =
      decodeFrom (start + (String.utf8EncodeChar c).length) (c :: done) rest := by
  have hvalid := toNat_cases c
  have hread {n : Nat} (h : n = c.toNat) : Char.ofNat n = c := by rw [h, Char.ofNat_toNat]
  have hval : c.val.toNat = c.toNat := rfl
  -- One case for each number of bytes. What is left is that the bytes have the form that the reader
  -- asks for, and that their bits are those of the number.
  simp only [String.utf8EncodeChar, hval]
  split
  · rw [List.singleton_append, decodeFrom_one, hread, List.length_singleton]
    all_goals simp only [UInt8.lt_iff_toNat_lt, UInt8.toNat_ofNat', UInt8.reduceToNat]
    all_goals omega
  · split
    · simp only [List.cons_append, List.nil_append, List.length_cons, List.length_nil]
      rw [decodeFrom_two, hread]
      all_goals simp only [bits, isContinuation_iff, Bool.or_eq_true, decide_eq_true_eq,
        UInt8.lt_iff_toNat_lt, UInt8.le_iff_toNat_le, UInt8.toNat_ofNat', UInt8.reduceToNat]
      all_goals omega
    · split
      · simp only [List.cons_append, List.nil_append, List.length_cons, List.length_nil]
        rw [decodeFrom_three, hread]
        all_goals simp only [bits, secondAllowed_iff, isContinuation_iff, Bool.or_eq_true,
          decide_eq_true_eq, UInt8.lt_iff_toNat_lt, UInt8.le_iff_toNat_le, UInt8.toNat_ofNat',
          UInt8.reduceToNat]
        all_goals omega
      · simp only [List.cons_append, List.nil_append, List.length_cons, List.length_nil]
        rw [decodeFrom_four, hread]
        all_goals simp only [bits, secondAllowed_iff, isContinuation_iff, Bool.or_eq_true,
          decide_eq_true_eq, UInt8.lt_iff_toNat_lt, UInt8.le_iff_toNat_le, UInt8.toNat_ofNat',
          UInt8.reduceToNat]
        all_goals omega

end Characters

section Texts

variable {bytes : List UInt8} {text : List Char}

theorem encode_append (s t : List Char) : encode (s ++ t) = encode s ++ encode t :=
  List.flatMap_append

private theorem decodeFrom_encode (start : Nat) (done s : List Char) (rest : List UInt8) :
    decodeFrom start done (encode s ++ rest) =
      decodeFrom (start + (encode s).length) (s.reverse ++ done) rest := by
  induction s generalizing start done with
  | nil => rfl
  | cons c s ih =>
      have hcons : encode (c :: s) = String.utf8EncodeChar c ++ encode s := List.flatMap_cons
      rw [hcons, List.append_assoc, decodeFrom_encodeChar, ih, List.length_append, Nat.add_assoc,
        List.reverse_cons, List.append_assoc, List.singleton_append]

/-- A text is read back from its bytes. -/
theorem decode_encode (s : List Char) : decode (encode s) = .ok s := by
  have h := decodeFrom_encode 0 [] s []
  rw [List.append_nil, List.append_nil] at h
  rw [decode, h, decodeFrom, List.reverse_reverse]

/-- Bytes that are read as a text are read so in front of others. -/
private theorem decodeFrom_append {start : Nat} {done : List Char}
    (h : decodeFrom start done bytes = .ok text) (more : List UInt8) :
    decodeFrom start done (bytes ++ more) =
      decodeFrom (start + bytes.length) text.reverse more := by
  -- All exits but the five below are failures.
  fun_induction decodeFrom start done bytes with
  | case1 start done =>
      cases h
      simp
  | case2 start done b₀ rest hone ih =>
      rw [List.cons_append, decodeFrom_one _ _ _ hone, ih h, List.length_cons]
      congr 1
      omega
  | case5 start done b₀ hone hrange htwo b₁ rest h₁ ih =>
      rw [List.cons_append, List.cons_append, decodeFrom_two _ _ _ hone hrange htwo h₁, ih h,
        List.length_cons, List.length_cons]
      congr 1
      omega
  | case12 start done b₀ hone hrange htwo hthree b₁ b₂ rest h₁ h₂ ih =>
      rw [List.cons_append, List.cons_append, List.cons_append,
        decodeFrom_three _ _ _ hone hrange htwo hthree (by simpa using h₁) (by simpa using h₂),
        ih h, List.length_cons, List.length_cons, List.length_cons]
      congr 1
      omega
  | case22 start done b₀ hone hrange htwo hthree b₁ b₂ b₃ rest h₁ h₂ h₃ ih =>
      rw [List.cons_append, List.cons_append, List.cons_append, List.cons_append,
        decodeFrom_four _ _ _ hone hrange htwo hthree (by simpa using h₁) (by simpa using h₂)
          (by simpa using h₃), ih h, List.length_cons, List.length_cons, List.length_cons,
        List.length_cons]
      congr 1
      omega
  | _ => cases h

theorem decode_append_encode (h : decode bytes = .ok text) (s : List Char) :
    decode (bytes ++ encode s) = .ok (text ++ s) := by
  have hmore := decodeFrom_append h (encode s)
  have htext := decodeFrom_encode (0 + bytes.length) text.reverse s []
  rw [List.append_nil] at htext
  rw [decode, hmore, htext, decodeFrom, List.reverse_append, List.reverse_reverse,
    List.reverse_reverse]

end Texts

end CodeIndex.Text.Utf8
