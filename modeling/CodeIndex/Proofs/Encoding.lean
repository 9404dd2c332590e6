import CodeIndex.Text.Utf8

/-!
The bytes of a text and its ASCII characters.

A character below 128 is written as the byte of that number, and all bytes of other characters are
from 128 on. So an ASCII character is found in the bytes as often as in the text, and a text of
ASCII characters alone has one byte for each of them and is read back from any stretch of its bytes.
-/

namespace CodeIndex.Text.Utf8

def asciiByte (c : Char) : UInt8 :=
  UInt8.ofNat c.toNat

variable {c d : Char} {s : List Char}

private theorem toNat_asciiByte (h : c.toNat < 128) : (asciiByte c).toNat = c.toNat := by
  have hsize : c.toNat < UInt8.size := Nat.lt_trans h (by decide)
  exact UInt8.toNat_ofNat_of_lt' hsize

private theorem asciiByte_inj (hc : c.toNat < 128) (hd : d.toNat < 128) :
    asciiByte c = asciiByte d ↔ c = d := by
  constructor
  · intro heq
    have htoNat : c.toNat = d.toNat := by
      rw [← toNat_asciiByte hc, ← toNat_asciiByte hd, heq]
    exact Char.toNat_inj.mp htoNat
  · intro heq
    rw [heq]

private theorem encodeChar_of_ascii (h : c.toNat < 128) :
    String.utf8EncodeChar c = [asciiByte c] := by
  have hsmall : c.val.toNat ≤ 127 := Nat.le_of_lt_succ h
  simp only [String.utf8EncodeChar, if_pos hsmall]
  rfl

private theorem le_of_mem_encodeChar (h : 128 ≤ c.toNat) {b : UInt8}
    (member : b ∈ String.utf8EncodeChar c) : 128 ≤ b.toNat := by
  have hlarge : ¬c.val.toNat ≤ 127 := Nat.not_le.mpr h
  simp only [String.utf8EncodeChar, if_neg hlarge] at member
  -- Each byte is a remainder below 64, 32, 16 or 8 on top of a mark of at least 128.
  split at member
  · simp only [List.mem_cons, List.not_mem_nil, or_false] at member
    rcases member with rfl | rfl <;> simp only [UInt8.toNat_ofNat'] <;> omega
  · split at member
    · simp only [List.mem_cons, List.not_mem_nil, or_false] at member
      rcases member with rfl | rfl | rfl <;> simp only [UInt8.toNat_ofNat'] <;> omega
    · simp only [List.mem_cons, List.not_mem_nil, or_false] at member
      rcases member with rfl | rfl | rfl | rfl <;> simp only [UInt8.toNat_ofNat'] <;> omega

private theorem count_encodeChar (hc : c.toNat < 128) (d : Char) :
    (String.utf8EncodeChar d).count (asciiByte c) = if d = c then 1 else 0 := by
  by_cases hd : d.toNat < 128
  · rw [encodeChar_of_ascii hd, List.count_singleton]
    simp only [beq_iff_eq, asciiByte_inj hd hc]
  · have hne : d ≠ c := by
      intro heq
      exact hd (heq ▸ hc)
    rw [if_neg hne]
    apply List.count_eq_zero_of_not_mem
    intro member
    have hlarge := le_of_mem_encodeChar (Nat.not_lt.mp hd) member
    rw [toNat_asciiByte hc] at hlarge
    omega

/-- The byte of an ASCII character occurs as often as the character. -/
theorem count_encode (hc : c.toNat < 128) (s : List Char) :
    (encode s).count (asciiByte c) = s.count c := by
  induction s with
  | nil => rfl
  | cons d rest ih =>
      have hcons : encode (d :: rest) = String.utf8EncodeChar d ++ encode rest :=
        List.flatMap_cons
      rw [hcons, List.count_append, count_encodeChar hc, ih, List.count_cons, Nat.add_comm]
      simp only [beq_iff_eq]

def IsAscii (s : List Char) : Prop :=
  ∀ c ∈ s, c.toNat < 128

theorem IsAscii.slice (h : IsAscii s) (start stop : Nat) :
    IsAscii ((s.take stop).drop start) :=
  fun c member => h c (List.mem_of_mem_take (List.mem_of_mem_drop member))

theorem IsAscii.encode_eq (h : IsAscii s) : encode s = s.map asciiByte := by
  induction s with
  | nil => rfl
  | cons c rest ih =>
      obtain ⟨hfirst, hrest⟩ := List.forall_mem_cons.mp h
      have hcons : encode (c :: rest) = String.utf8EncodeChar c ++ encode rest :=
        List.flatMap_cons
      rw [hcons, encodeChar_of_ascii hfirst, ih hrest, List.map_cons]
      rfl

private theorem IsAscii.decodeFrom_map (h : IsAscii s) (start : Nat) (done : List Char) :
    decodeFrom start done (s.map asciiByte) = .ok (done.reverse ++ s) := by
  induction s generalizing start done with
  | nil => simp [decodeFrom]
  | cons c rest ih =>
      obtain ⟨hfirst, hrest⟩ := List.forall_mem_cons.mp h
      have hbyte : asciiByte c < 0x80 := by
        rw [UInt8.lt_iff_toNat_lt, toNat_asciiByte hfirst]
        exact hfirst
      have hread : Char.ofNat (asciiByte c).toNat = c := by
        rw [toNat_asciiByte hfirst, Char.ofNat_toNat]
      rw [List.map_cons, decodeFrom.eq_def]
      simp only [if_pos hbyte, hread]
      rw [ih hrest, List.reverse_cons, List.append_assoc, List.singleton_append]

/-- A text of ASCII characters is read back from its bytes. -/
theorem IsAscii.decode_map (h : IsAscii s) : decode (s.map asciiByte) = .ok s :=
  h.decodeFrom_map 0 []

end CodeIndex.Text.Utf8
