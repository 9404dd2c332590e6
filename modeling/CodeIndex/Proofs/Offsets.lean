import CodeIndex.Concrete.Extractor
import CodeIndex.Concrete.Script
import CodeIndex.Proofs.Decoding

/-!
Offsets of bytes taken for positions of characters.

The offsets of a node count bytes. The extraction cuts the bytes of the text by them, the analysis
of scripts its characters. Between two characters the former gives the characters between them,
whatever the text is. The latter gives the same as long as every offset, cut to the length of the
text, is the number of characters before it, and that is so exactly if nothing follows a character
of more than one byte.
-/

namespace CodeIndex

namespace Text.Utf8

variable {content : List Char}

def offsetOf (content : List Char) (k : Nat) : Nat :=
  (encode (content.take k)).length

/-- An offset in the bytes of a text that lies between two characters, or at an end. -/
def IsBoundary (content : List Char) (offset : Nat) : Prop :=
  ∃ k ≤ content.length, offset = offsetOf content k

section Bytes

private theorem length_le_encode (s : List Char) : s.length ≤ (encode s).length := by
  induction s with
  | nil => exact Nat.le_refl 0
  | cons c rest ih =>
      have hcons : encode (c :: rest) = String.utf8EncodeChar c ++ encode rest :=
        List.flatMap_cons
      have hpos := Char.utf8Size_pos c
      rw [hcons, List.length_append, String.length_utf8EncodeChar, List.length_cons]
      omega

private theorem encode_take {k l : Nat} (h : k ≤ l) (content : List Char) :
    encode (content.take l) = encode (content.take k) ++ encode ((content.take l).drop k) := by
  have hfirst : (content.take l).take k = content.take k := by
    rw [List.take_take, Nat.min_eq_left h]
  rw [← encode_append, ← hfirst, List.take_append_drop]

/-- The bytes between two boundaries are those of the characters between them. -/
private theorem slice_encode (content : List Char) (k l : Nat) :
    ((encode content).take (offsetOf content l)).drop (offsetOf content k) =
      encode ((content.take l).drop k) := by
  have hparts : encode content = encode (content.take l) ++ encode (content.drop l) := by
    rw [← encode_append, List.take_append_drop]
  have hstop : (encode content).take (offsetOf content l) = encode (content.take l) := by
    rw [hparts, offsetOf, List.take_left]
  rw [hstop]
  by_cases hle : k ≤ l
  · rw [encode_take hle content, offsetOf, List.drop_left]
  · -- The end lies in front of the start: there is nothing between them.
    have hshort : (encode (content.take l)).length ≤ offsetOf content k := by
      rw [offsetOf, encode_take (Nat.le_of_not_le hle) content, List.length_append]
      exact Nat.le_add_right _ _
    have hchars : (content.take l).length ≤ k := by
      rw [List.length_take]
      omega
    rw [List.drop_eq_nil_of_le hshort, List.drop_eq_nil_of_le hchars]
    rfl

private theorem two_le_length_encodeChar {c : Char} (h : 128 ≤ c.toNat) :
    2 ≤ (String.utf8EncodeChar c).length := by
  have hpos := Char.utf8Size_pos c
  have hone : c.utf8Size ≠ 1 := by
    intro hone
    have hsmall : c.toNat ≤ 127 := Char.utf8Size_eq_one_iff.mp hone
    omega
  rw [String.length_utf8EncodeChar]
  omega

/-- Behind a character of more than one byte the offset is larger than the number of characters. -/
private theorem lt_offsetOf {c : Char} (h : 128 ≤ c.toNat) (before rest : List Char) :
    before.length + 1 < offsetOf (before ++ c :: rest) (before.length + 1) := by
  have htake : (before ++ c :: rest).take (before.length + 1) = before ++ [c] := by
    rw [List.append_cons]
    exact List.take_left' (by simp)
  have hbefore := length_le_encode before
  have hwide := two_le_length_encodeChar h
  have hlast : encode [c] = String.utf8EncodeChar c := by simp [encode]
  rw [offsetOf, htake, encode_append, hlast, List.length_append]
  omega

end Bytes

def AsciiButLast (content : List Char) : Prop :=
  ∀ before c next rest, content = before ++ c :: next :: rest → c.toNat < 128

private theorem AsciiButLast.take (h : AsciiButLast content) {k : Nat} (hk : k < content.length) :
    IsAscii (content.take k) := by
  intro c member
  obtain ⟨before, later, hsplit⟩ := List.append_of_mem member
  have hcontent : content = before ++ c :: (later ++ content.drop k) := by
    rw [← List.cons_append, ← List.append_assoc, ← hsplit, List.take_append_drop]
  cases hnext : later ++ content.drop k with
  | nil =>
      have hrest : (content.drop k).length = 0 := by
        rw [(List.append_eq_nil_iff.mp hnext).2, List.length_nil]
      rw [List.length_drop] at hrest
      omega
  | cons next rest => exact h before c next rest (hnext ▸ hcontent)

/-- Cut to the length of the text, the offset of a boundary is the number of characters before
it. -/
private theorem AsciiButLast.min_offsetOf (h : AsciiButLast content) {k : Nat}
    (hk : k ≤ content.length) :
    min (offsetOf content k) content.length = k := by
  rcases Nat.lt_or_eq_of_le hk with hlt | rfl
  · have hoffset : offsetOf content k = k := by
      rw [offsetOf, (h.take hlt).encode_eq, List.length_map, List.length_take,
        Nat.min_eq_left hk]
    rw [hoffset, Nat.min_eq_left hk]
  · have hlong := length_le_encode content
    rw [offsetOf, List.take_length]
    exact Nat.min_eq_right hlong

end Text.Utf8

namespace Concrete

open CodeIndex.Text

variable {content : List Char} {t : Tree} {k l : Nat}

/-- Between two boundaries the extraction reads the characters between them. -/
private theorem Extractor.text_of_boundaries (hstart : t.start = Utf8.offsetOf content k)
    (hstop : t.stop = Utf8.offsetOf content l) :
    Extractor.text (Utf8.encode content) t =
      .ok (String.ofList ((content.take l).drop k)) := by
  rw [Extractor.text, Tree.bytesIn, hstart, hstop, Utf8.slice_encode, Utf8.decode_encode]

/-- Where positions and offsets are the same up to the length of the text, so does the analysis of
scripts. -/
private theorem Tree.charsIn_of_boundaries (h : Utf8.AsciiButLast content) (hk : k ≤ content.length)
    (hl : l ≤ content.length) (hstart : t.start = Utf8.offsetOf content k)
    (hstop : t.stop = Utf8.offsetOf content l) :
    t.charsIn content = (content.take l).drop k := by
  have htake : content.take t.stop = content.take l := by
    rw [List.take_eq_take_iff, hstop, h.min_offsetOf hl, Nat.min_eq_left hl]
  have hclip := h.min_offsetOf hk
  rw [Tree.charsIn, htake, List.drop_eq_drop_iff, hstart, List.length_take]
  omega

/-- The analysis of scripts and the extraction read the same text of every node that starts and ends
between characters exactly if no character of more than one byte has another one behind it. -/
theorem node_texts_agree_iff (content : String) :
    (∀ t : Tree, Utf8.IsBoundary content.toList t.start → Utf8.IsBoundary content.toList t.stop →
      Extractor.text (Utf8.encode content.toList) t = .ok (Script.text content.toList t)) ↔
    ∀ before c next rest, content.toList = before ++ c :: next :: rest → c.toNat < 128 := by
  constructor
  · intro h before c next rest hcontent
    apply Decidable.byContradiction
    intro hwide
    -- From behind the wide character to the end there are more characters than positions are left.
    let k := before.length + 1
    let t : Tree := .node "identifier" (Utf8.offsetOf content.toList k)
      (Utf8.offsetOf content.toList content.toList.length) none []
    have hlength : content.toList.length = before.length + rest.length + 2 := by
      rw [hcontent]
      simp only [List.length_append, List.length_cons]
      omega
    have hoffset : k < t.start := by
      have hbehind := Utf8.lt_offsetOf (Nat.le_of_not_lt hwide) before (next :: rest)
      rw [← hcontent] at hbehind
      exact hbehind
    have hagree := h t ⟨k, by omega, rfl⟩ ⟨content.toList.length, Nat.le_refl _, rfl⟩
    rw [Extractor.text_of_boundaries (k := k) rfl rfl, List.take_length] at hagree
    have hchars : content.toList.drop k = t.charsIn content.toList :=
      String.ofList_injective (Except.ok.inj hagree)
    have hcount := congrArg List.length hchars
    rw [Tree.charsIn, List.length_drop, List.length_drop, List.length_take] at hcount
    omega
  · intro h t hstart hstop
    obtain ⟨k, hk, hstart⟩ := hstart
    obtain ⟨l, hl, hstop⟩ := hstop
    rw [Extractor.text_of_boundaries hstart hstop, Script.text,
      Tree.charsIn_of_boundaries h hk hl hstart hstop]

/-- The first letter behind an accented one is read as the second by its position. -/
example :
    let t : Tree := .node "identifier" 2 3 none []
    (Extractor.text (Utf8.encode "éab".toList) t).toOption = some "a" ∧
      Script.text "éab".toList t = "b" := by
  decide +kernel

end Concrete

end CodeIndex
