import CodeIndex.Chunk.Window
import CodeIndex.Proofs.Lines

/-!
The lines of chunks.

A chunk is placed where its text first occurs in the file. Its lines hold its text from the first of
them to the last, and the text begins on no line before. But they are the lines that it was cut from
only if that holds of those lines too: a text that stands in a file twice is placed on the lines of
its first copy, wherever it was cut.
-/

namespace CodeIndex

namespace Text

section Find

variable {pattern s : List Char}

/-- The first occurrence is one, and there is none before it. -/
theorem find?_least {i : Nat} (h : find? pattern s = some i) :
    pattern <+: s.drop i ∧ ∀ j, pattern <+: s.drop j → i ≤ j := by
  induction s generalizing i with
  | nil =>
      rw [find?] at h
      split at h
      · next hempty =>
          obtain rfl := Option.some.inj h
          rw [List.isEmpty_iff.mp hempty]
          exact ⟨List.nil_prefix, fun j _ => Nat.zero_le j⟩
      · cases h
  | cons c rest ih =>
      rw [find?] at h
      split at h
      · next hhere =>
          obtain rfl := Option.some.inj h
          exact ⟨List.isPrefixOf_iff_prefix.mp hhere, fun j _ => Nat.zero_le j⟩
      · next hhere =>
          obtain ⟨i, hi, rfl⟩ := Option.map_eq_some_iff.mp h
          obtain ⟨hat, hleast⟩ := ih hi
          refine ⟨hat, ?_⟩
          intro j hj
          cases j with
          | zero => exact absurd (List.isPrefixOf_iff_prefix.mpr hj) hhere
          | succ j => exact Nat.succ_le_succ (hleast j hj)

theorem exists_find?_eq_some {j : Nat} (h : pattern <+: s.drop j) :
    ∃ i, find? pattern s = some i := by
  induction s generalizing j with
  | nil =>
      rw [List.drop_nil, List.prefix_nil] at h
      exact ⟨0, by rw [find?, h]; rfl⟩
  | cons c rest ih =>
      rw [find?]
      split
      · exact ⟨0, rfl⟩
      · next hhere =>
          cases j with
          | zero => exact absurd (List.isPrefixOf_iff_prefix.mpr h) hhere
          | succ j =>
              obtain ⟨i, hi⟩ := ih h
              exact ⟨i + 1, by rw [hi]; rfl⟩

end Find

section Lines

variable (sep : Char)

/-- What stands in front of a text are whole pieces and the start of one. -/
private theorem exists_fields_append (before : List Char) :
    ∃ whole lead, sep ∉ lead ∧ whole.length = before.count sep ∧
      ∀ s, fields sep (before ++ s) = whole ++ fields sep (lead ++ s) := by
  by_cases hsep : sep ∈ before
  · -- The last separator is the first one of the reversed text.
    obtain ⟨lead, initial, hreverse, hlead⟩ :=
      List.eq_append_cons_of_mem (List.mem_reverse.mpr hsep)
    have hbefore : before = initial.reverse ++ sep :: lead.reverse := by
      rw [← List.reverse_reverse before, hreverse]
      simp
    have hlead : sep ∉ lead.reverse := fun member => hlead (List.mem_reverse.mp member)
    refine ⟨fields sep initial.reverse, lead.reverse, hlead, ?_, ?_⟩
    · rw [length_fields, hbefore, List.count_append, List.count_cons_self,
        List.count_eq_zero.mpr hlead]
    · intro s
      rw [hbefore, List.append_assoc, List.cons_append, fields_append_cons]
  · refine ⟨[], before, hsep, ?_, fun s => rfl⟩
    rw [List.count_eq_zero.mpr hsep]
    rfl

/-- What stands behind a text is the end of a piece and whole ones. -/
private theorem exists_append_fields (after : List Char) :
    ∃ rest whole, sep ∉ rest ∧
      ∀ s, fields sep (s ++ after) = fields sep (s ++ rest) ++ whole := by
  by_cases hsep : sep ∈ after
  · obtain ⟨rest, others, rfl, hrest⟩ := List.eq_append_cons_of_mem hsep
    refine ⟨rest, fields sep others, hrest, ?_⟩
    intro s
    rw [← List.append_assoc, fields_append_cons]
  · exact ⟨after, [], hsep, fun s => (List.append_nil _).symm⟩

end Lines

def linesBetween (first last : Nat) (text : List Char) : List (List Char) :=
  ((fields '\n' text).take last).drop (first - 1)

/-- A piece occurs in a text behind so many lines, the one that it begins on included. -/
def BeginsOn (text piece : List Char) (line : Nat) : Prop :=
  ∃ before after, text = before ++ piece ++ after ∧ (fields '\n' before).length = line

/-- A piece stands on lines of a text: it begins on the first of them and ends on the last. -/
structure StandsOn (text piece : List Char) (first last : Nat) : Prop where
  pos : 1 ≤ first
  ordered : first ≤ last
  within : last ≤ (fields '\n' text).length
  held : ∃ lead rest, '\n' ∉ lead ∧ '\n' ∉ rest ∧
    join ['\n'] (linesBetween first last text) = lead ++ piece ++ rest

section Standing

variable {text piece : List Char}

private theorem count_take_mono {i j : Nat} (h : i ≤ j) (text : List Char) :
    (text.take i).count '\n' ≤ (text.take j).count '\n' :=
  (List.take_prefix_take_left h).sublist.count_le '\n'

/-- Every occurrence stands on the lines that the line feeds before it and in it tell. -/
private theorem standsOn_append (before piece after : List Char) :
    StandsOn (before ++ piece ++ after) piece (before.count '\n' + 1)
      (before.count '\n' + 1 + piece.count '\n') := by
  -- The piece shares its first and its last line with what stands around it; the lines above and
  -- those below are whole.
  obtain ⟨above, lead, hlead, habove, hbefore⟩ := exists_fields_append '\n' before
  obtain ⟨rest, below, hrest, hafter⟩ := exists_append_fields '\n' after
  have hmiddle : (fields '\n' (lead ++ piece ++ rest)).length = piece.count '\n' + 1 := by
    rw [length_fields, List.count_append, List.count_append, List.count_eq_zero.mpr hlead,
      List.count_eq_zero.mpr hrest]
    omega
  have htext : fields '\n' (before ++ piece ++ after) =
      above ++ fields '\n' (lead ++ piece ++ rest) ++ below := by
    rw [hafter, List.append_assoc before, hbefore, List.append_assoc lead]
  have hbetween : linesBetween (before.count '\n' + 1) (before.count '\n' + 1 + piece.count '\n')
      (before ++ piece ++ after) = fields '\n' (lead ++ piece ++ rest) := by
    rw [linesBetween, htext, Nat.add_sub_cancel, ← habove]
    rw [List.take_left' (by rw [List.length_append, hmiddle]; omega), List.drop_left]
  refine ⟨by omega, by omega, ?_, lead, rest, hlead, hrest, ?_⟩
  · rw [length_fields, List.count_append, List.count_append]
    omega
  · rw [hbetween, join_fields]

private theorem beginsOn_iff {line : Nat} :
    BeginsOn text piece line ↔
      ∃ offset, piece <+: text.drop offset ∧ (text.take offset).count '\n' + 1 = line := by
  constructor
  · rintro ⟨before, after, rfl, hline⟩
    refine ⟨before.length, ?_, ?_⟩
    · rw [List.append_assoc, List.drop_left]
      exact List.prefix_append piece after
    · rw [List.append_assoc, List.take_left, ← length_fields, hline]
  · rintro ⟨offset, ⟨after, hafter⟩, hline⟩
    refine ⟨text.take offset, after, ?_, ?_⟩
    · rw [List.append_assoc, hafter, List.take_append_drop]
    · rw [length_fields, hline]

end Standing

/-- So many characters of a text from an offset on, as far as the text goes. -/
structure Slice where
  offset : Nat
  length : Nat
  deriving DecidableEq, Repr

namespace Slice

variable (slice : Slice) (text : List Char)

def of : List Char :=
  (text.drop slice.offset).take slice.length

def line : Nat :=
  (text.take slice.offset).count '\n' + 1

def IsFirst : Prop :=
  ∀ line, BeginsOn text (slice.of text) line → slice.line text ≤ line

def Ascending (slices : List Slice) : Prop :=
  slices.Pairwise fun earlier later => earlier.offset < later.offset

private theorem beginsOn_line : BeginsOn text (slice.of text) (slice.line text) :=
  beginsOn_iff.mpr ⟨slice.offset, List.take_prefix _ _, rfl⟩

private theorem of_infix : slice.of text <:+: text :=
  (List.take_prefix _ _).isInfix.trans (List.drop_suffix _ _).isInfix

/-- Slices at ascending offsets are cut from lines that never decrease. -/
private theorem Ascending.lines_pairwise {slices : List Slice} (h : Ascending slices)
    (text : List Char) :
    (slices.map fun slice => slice.line text).Pairwise (· ≤ ·) := by
  rw [List.pairwise_map]
  apply h.imp
  intro earlier later hbefore
  have hcount := count_take_mono (Nat.le_of_lt hbefore) text
  unfold line
  omega

end Slice

end Text

open CodeIndex.Text

namespace Window

variable {w : Window}

private theorem take_reach_eq (hsize : 0 ≤ w.size) (text : List Char) (start : Nat) :
    (text.drop start).take (w.reach text.length start) = Slice.of ⟨start, w.size.toNat⟩ text := by
  have hstop : ¬((start : Int) + w.size < 0) := by omega
  have hend : ((start : Int) + w.size).toNat = start + w.size.toNat := by omega
  simp only [reach, Slice.of, if_neg hstop, hend, Nat.add_sub_cancel_left]

def slices (w : Window) (count : Nat) : List Slice :=
  (List.range' 0 count w.step).map fun offset => ⟨offset, w.size.toNat⟩

private theorem slices_ascending (w : Window) (count : Nat) : Slice.Ascending (w.slices count) := by
  have hstep : 0 < w.step := Nat.lt_of_lt_of_le Nat.zero_lt_one (Nat.le_max_left _ _)
  unfold Slice.Ascending slices
  rw [List.pairwise_map]
  exact List.pairwise_lt_range' w.step hstep

private theorem exists_viewsFrom_eq (hsize : 0 ≤ w.size) (text : List Char) (fuel start : Nat) :
    ∃ count, w.viewsFrom text.length fuel start (text.drop start) =
      (List.range' start count w.step).map fun offset =>
        Slice.of ⟨offset, w.size.toNat⟩ text := by
  induction fuel generalizing start with
  | zero => exact ⟨0, rfl⟩
  | succ fuel ih =>
      have hfirst := take_reach_eq hsize text start
      rw [viewsFrom, List.drop_drop]
      split
      · split
        · exact ⟨1, by simp [hfirst]⟩
        · obtain ⟨count, heq⟩ := ih (start + w.step)
          exact ⟨count + 1, by rw [List.range'_succ, List.map_cons, hfirst, heq]⟩
      · exact ⟨0, rfl⟩

/-- A window that is larger than its overlap cuts every text into slices. -/
private theorem exists_splitter_eq (hoverlap : 0 ≤ w.overlap) (hsize : w.overlap < w.size)
    (language : Option Language) (text : List Char) :
    ∃ count, w.splitter none language text =
      .ok ((w.slices count).map fun slice => slice.of text) := by
  have hpos : 0 ≤ w.size := by omega
  have hlarge : ¬w.size < w.overlap := by omega
  obtain ⟨count, heq⟩ := exists_viewsFrom_eq hpos text text.length 0
  refine ⟨count, ?_⟩
  rw [splitter, if_neg hlarge, slices, List.map_map]
  exact congrArg Except.ok heq

end Window

namespace Chunk

variable {content piece : List Char}

/-- A piece that occurs is placed on an occurrence of it. -/
private theorem exists_lineOf_eq (h : piece <:+: content) :
    ∃ before after, content = before ++ piece ++ after ∧
      lineOf content piece = before.count '\n' + 1 := by
  obtain ⟨before, after, hcontent⟩ := h
  have hoffset : piece <+: content.drop before.length := by
    rw [← hcontent, List.append_assoc, List.drop_left]
    exact List.prefix_append piece after
  obtain ⟨i, hfind⟩ := exists_find?_eq_some hoffset
  obtain ⟨⟨rest, hrest⟩, -⟩ := find?_least hfind
  refine ⟨content.take i, rest, ?_, ?_⟩
  · rw [List.append_assoc, hrest, List.take_append_drop]
  · rw [lineOf, hfind]

private theorem beginsOn_lineOf (h : piece <:+: content) :
    BeginsOn content piece (lineOf content piece) := by
  obtain ⟨before, after, hcontent, hline⟩ := exists_lineOf_eq h
  refine ⟨before, after, hcontent, ?_⟩
  rw [length_fields, hline]

/-- A piece begins on no line before the one that it is placed on. -/
private theorem lineOf_le {line : Nat} (h : BeginsOn content piece line) :
    lineOf content piece ≤ line := by
  obtain ⟨offset, hat, rfl⟩ := beginsOn_iff.mp h
  obtain ⟨i, hfind⟩ := exists_find?_eq_some hat
  obtain ⟨-, hleast⟩ := find?_least hfind
  have hcount := count_take_mono (hleast offset hat) content
  rw [lineOf, hfind]
  show (content.take i).count '\n' + 1 ≤ (content.take offset).count '\n' + 1
  omega

private theorem standsOn_lineOf (h : piece <:+: content) :
    StandsOn content piece (lineOf content piece)
      (lineOf content piece + piece.count '\n') := by
  obtain ⟨before, after, hcontent, hline⟩ := exists_lineOf_eq h
  rw [hline, hcontent]
  exact standsOn_append before piece after

/-- A slice is placed on the line that it is cut from exactly if it stands on none before. -/
private theorem lineOf_eq_line_iff (slice : Slice) (content : List Char) :
    lineOf content (slice.of content) = slice.line content ↔ slice.IsFirst content := by
  constructor
  · intro heq line hbegins
    rw [← heq]
    exact lineOf_le hbegins
  · intro hfirst
    apply Nat.le_antisymm
    · exact lineOf_le (slice.beginsOn_line content)
    · exact hfirst _ (beginsOn_lineOf (slice.of_infix content))

private theorem ofFile_of_cut {splitter : Splitter} {path : String} {pieces : List (List Char)}
    (hcut : splitter (Language.ofPath? path) content = .ok pieces) :
    ofFile splitter path content = .ok (pieces.map (ofPiece path content)) := by
  rw [ofFile, hcut]
  rfl

/-- The chunks of a file are its pieces, in order. A piece that occurs in the file stands on the
lines of its chunk, from the first to the last, and it begins on no line before them. -/
theorem pieces_stand_on_their_lines (splitter : Splitter) (path : String) (content : List Char)
    (pieces : List (List Char)) (hcut : splitter (Language.ofPath? path) content = .ok pieces) :
    ∃ chunks, ofFile splitter path content = .ok chunks ∧
      chunks.map (fun chunk => chunk.content.toList) = pieces ∧
      ∀ chunk ∈ chunks, chunk.content.toList <:+: content →
        StandsOn content chunk.content.toList chunk.startLine chunk.endLine ∧
        BeginsOn content chunk.content.toList chunk.startLine ∧
        ∀ line, BeginsOn content chunk.content.toList line → chunk.startLine ≤ line := by
  refine ⟨_, ofFile_of_cut hcut, ?_, ?_⟩
  · simp [ofPiece, Function.comp_def]
  · intro chunk member
    obtain ⟨piece, -, rfl⟩ := List.mem_map.mp member
    have htext : (ofPiece path content piece).content.toList = piece := String.toList_ofList
    rw [htext]
    intro hoccurs
    exact ⟨standsOn_lineOf hoccurs, beginsOn_lineOf hoccurs, fun line => lineOf_le⟩

/-- The first piece stands in the file twice, the second begins and ends with the end of a line and
reaches to the end of the file, and the last one is empty. -/
theorem pieces_of_repeated_lines_stand_on_their_lines :
    let content := "a\nb\na\nb\n".toList
    let pieces := ["b\n".toList, "\na\nb\n".toList, []]
    let splitter := Window.splitter ⟨1000, 200⟩ (some pieces)
    splitter (Language.ofPath? "c.txt") content = .ok pieces ∧
      ∃ chunks, ofFile splitter "c.txt" content = .ok chunks ∧
        chunks.map (fun chunk => (chunk.startLine, chunk.endLine)) = [(2, 3), (2, 5), (1, 1)] ∧
        StandsOn content "\na\nb\n".toList 2 5 ∧ ¬BeginsOn content "\na\nb\n".toList 1 := by
  intro content pieces splitter
  have hcut : splitter (Language.ofPath? "c.txt") content = .ok pieces := rfl
  obtain ⟨chunks, hchunks, -, hlines⟩ :=
    pieces_stand_on_their_lines splitter "c.txt" content pieces hcut
  obtain rfl := Except.ok.inj (hchunks.symm.trans (ofFile_of_cut hcut))
  have hmember : ofPiece "c.txt" content "\na\nb\n".toList ∈
      pieces.map (ofPiece "c.txt" content) := List.mem_map_of_mem (by simp [pieces])
  obtain ⟨hstands, -, hleast⟩ := hlines _ hmember ⟨"a\nb".toList, [], by decide⟩
  refine ⟨hcut, _, hchunks, by decide +kernel, hstands, ?_⟩
  intro hbegins
  exact absurd (hleast 1 hbegins) (by decide +kernel)

/-- A chunk is on the line that it was cut from if and only if its text stands on no line before;
else it is on an earlier one. If this holds of all chunks, their lines never decrease. The pieces of
a window that is larger than its overlap are cut in this way. -/
theorem chunk_lines_are_lines_of_cuts_iff (splitter : Splitter) (path : String)
    (content : List Char) (slices : List Slice) (hascending : Slice.Ascending slices)
    (hcut : splitter (Language.ofPath? path) content =
      .ok (slices.map fun slice => slice.of content)) :
    (∃ chunks, ofFile splitter path content = .ok chunks ∧ chunks.length = slices.length ∧
      (∀ (k : Nat) (slice : Slice) (chunk : Chunk),
        slices[k]? = some slice → chunks[k]? = some chunk →
        chunk.content.toList = slice.of content ∧ chunk.startLine ≤ slice.line content ∧
        (chunk.startLine = slice.line content ↔ slice.IsFirst content)) ∧
      ((∀ slice ∈ slices, slice.IsFirst content) →
        (chunks.map Chunk.startLine).Pairwise (· ≤ ·))) ∧
    ∀ w : Window, 0 ≤ w.overlap → w.overlap < w.size →
      ∃ count, Slice.Ascending (w.slices count) ∧
        w.splitter none (Language.ofPath? path) content =
          .ok ((w.slices count).map fun slice => slice.of content) := by
  constructor
  · refine ⟨_, ofFile_of_cut hcut, by simp, ?_, ?_⟩
    · intro k slice chunk hslice hchunk
      rw [List.getElem?_map, List.getElem?_map, hslice] at hchunk
      obtain rfl := Option.some.inj hchunk
      exact ⟨String.toList_ofList, lineOf_le (slice.beginsOn_line content),
        lineOf_eq_line_iff slice content⟩
    · intro hfirst
      have hlines : ((slices.map fun slice => slice.of content).map
          (ofPiece path content)).map Chunk.startLine =
          slices.map fun slice => slice.line content := by
        rw [List.map_map, List.map_map]
        apply List.map_congr_left
        intro slice member
        exact (lineOf_eq_line_iff slice content).mpr (hfirst slice member)
      rw [hlines]
      exact hascending.lines_pairwise content
  · intro w hoverlap hsize
    obtain ⟨count, heq⟩ :=
      Window.exists_splitter_eq hoverlap hsize (Language.ofPath? path) content
    exact ⟨count, w.slices_ascending count, heq⟩

/-- A text that stands on one line twice is placed rightly both times. -/
theorem chunk_lines_of_repeated_words_are_lines_of_cuts :
    let content := "abab\ncd".toList
    let slices : List Slice := [⟨0, 2⟩, ⟨2, 2⟩, ⟨4, 2⟩, ⟨6, 2⟩]
    let splitter := Window.splitter ⟨2, 0⟩
    Slice.Ascending slices ∧
      splitter (Language.ofPath? "c.txt") content =
        .ok (slices.map fun slice => slice.of content) ∧
      ∃ chunks, ofFile splitter "c.txt" content = .ok chunks ∧
        chunks.map Chunk.startLine = [1, 1, 1, 2] ∧ Slice.IsFirst ⟨2, 2⟩ content := by
  intro content slices splitter
  have hascending : Slice.Ascending slices := by simp [Slice.Ascending, slices]
  have hcut : splitter (Language.ofPath? "c.txt") content =
      .ok (slices.map fun slice => slice.of content) := rfl
  obtain ⟨⟨chunks, hchunks, -, hlines, -⟩, -⟩ :=
    chunk_lines_are_lines_of_cuts_iff splitter "c.txt" content slices hascending hcut
  obtain rfl := Except.ok.inj (hchunks.symm.trans (ofFile_of_cut hcut))
  refine ⟨hascending, hcut, _, hchunks, by decide +kernel, ?_⟩
  exact (hlines 1 ⟨2, 2⟩ _ rfl rfl).2.2.mp (by decide +kernel)

/-- The third chunk is cut from the third line, but its text is that of the first one: it is placed
on the first line, and so before the second chunk. -/
theorem repeated_piece_is_placed_on_first_copy :
    let content := "a\nb\na\n".toList
    let slices : List Slice := [⟨0, 2⟩, ⟨2, 2⟩, ⟨4, 2⟩]
    let splitter := Window.splitter ⟨2, 0⟩
    Slice.Ascending slices ∧
      splitter (Language.ofPath? "c.txt") content =
        .ok (slices.map fun slice => slice.of content) ∧
      ∃ chunks, ofFile splitter "c.txt" content = .ok chunks ∧
        chunks.map Chunk.startLine = [1, 2, 1] ∧
        slices.map (fun slice => slice.line content) = [1, 2, 3] ∧
        ¬(chunks.map Chunk.startLine).Pairwise (· ≤ ·) := by
  intro content slices splitter
  have hascending : Slice.Ascending slices := by simp [Slice.Ascending, slices]
  have hcut : splitter (Language.ofPath? "c.txt") content =
      .ok (slices.map fun slice => slice.of content) := rfl
  have hlines : (((slices.map fun slice => slice.of content).map
      (ofPiece "c.txt" content)).map Chunk.startLine) = [1, 2, 1] := by decide +kernel
  refine ⟨hascending, hcut, _, ofFile_of_cut hcut, hlines, by decide +kernel, ?_⟩
  rw [hlines]
  decide

end Chunk

end CodeIndex
