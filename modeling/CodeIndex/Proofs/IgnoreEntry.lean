import CodeIndex.Project.IgnoreFile
import CodeIndex.Proofs.Decoding
import CodeIndex.Proofs.Files
import CodeIndex.Proofs.Lines

/-!
The entry in the ignore file, from the line that is written to the paths that are ignored.

What is put at the end of a text leaves its lines as they are, so all patterns stay and the entry's
own comes last. It names a directory and ignores what is inside; such a pattern overrules all
before it, the closest one included. So the index is ignored whatever else the file says. The line
is found again when the file is read, so the entry is added once however often it is asked for.
-/

namespace CodeIndex

namespace Text

section Lines

variable {c : Char}

private theorem linesFrom_of_isLineEnd (hend : isLineEnd c = true) {rest : List Char}
    (hbreak : ∀ later, c = '\r' → rest ≠ '\n' :: later) (line : List Char) :
    linesFrom line (c :: rest) = line.reverse :: lines rest := by
  rw [linesFrom.eq_3 _ _ _ hbreak, if_pos hend, lines]

private theorem linesFrom_of_not_isLineEnd (hend : isLineEnd c = false) (line rest : List Char) :
    linesFrom line (c :: rest) = linesFrom (c :: line) rest := by
  have hreturn : c ≠ '\r' := by
    rintro rfl
    cases hend
  rw [linesFrom.eq_3 _ _ _ fun _ h _ => hreturn h, hend]
  rfl

private theorem linesFrom_newline (line rest : List Char) :
    linesFrom line ('\n' :: rest) = line.reverse :: lines rest :=
  linesFrom_of_isLineEnd (by decide) (by simp) line

private theorem linesFrom_unixLines (line s : List Char) :
    linesFrom line (unixLines s) = linesFrom line s := by
  fun_induction unixLines s generalizing line with
  | case1 => rfl
  | case2 rest ih =>
      rw [linesFrom_newline, lines, ih]
      rfl
  | case3 rest hbreak ih =>
      rw [linesFrom_newline, linesFrom_of_isLineEnd (by decide) fun later _ => hbreak later,
        lines, ih, lines]
  | case4 c rest _ hreturn ih =>
      cases hend : isLineEnd c with
      | true =>
          have hbreak (s later : List Char) (h : c = '\r') : s ≠ '\n' :: later := (hreturn h).elim
          rw [linesFrom_of_isLineEnd hend (hbreak _), linesFrom_of_isLineEnd hend (hbreak _),
            lines, ih, lines]
      | false => rw [linesFrom_of_not_isLineEnd hend, linesFrom_of_not_isLineEnd hend, ih]

/-- A text has the same lines in whatever way they end. -/
private theorem lines_unixLines (s : List Char) : lines (unixLines s) = lines s :=
  linesFrom_unixLines [] s

/-- A line feed at the end of a text ends its last line, or is an empty line of its own. -/
private theorem linesFrom_append_newline (line s t : List Char) :
    ∃ blanks : List (List Char), (∀ blank ∈ blanks, blank = []) ∧
      linesFrom line (s ++ '\n' :: t) = linesFrom line s ++ blanks ++ lines t := by
  fun_induction linesFrom line s with
  | case1 line hempty =>
      refine ⟨[[]], by simp, ?_⟩
      rw [List.nil_append, linesFrom_newline, List.isEmpty_iff.mp hempty]
      rfl
  | case2 line _ => exact ⟨[], by simp, by simp [linesFrom_newline]⟩
  | case3 line rest ih =>
      obtain ⟨blanks, hblanks, heq⟩ := ih
      refine ⟨blanks, hblanks, ?_⟩
      rw [List.cons_append, List.cons_append, List.cons_append, List.cons_append, ← heq]
      rfl
  | case4 line c rest hbreak hend ih =>
      by_cases hopen : c = '\r' ∧ rest = []
      · -- The line feed belongs to the carriage return before it.
        obtain ⟨rfl, rfl⟩ := hopen
        exact ⟨[], by simp, rfl⟩
      · obtain ⟨blanks, hblanks, heq⟩ := ih
        refine ⟨blanks, hblanks, ?_⟩
        have hlater : ∀ later, c = '\r' → rest ++ '\n' :: t ≠ '\n' :: later := by
          intro later hreturn happend
          cases rest with
          | nil => exact hopen ⟨hreturn, rfl⟩
          | cons next rest => exact hbreak rest hreturn (by rw [(List.cons.inj happend).1])
        rw [List.cons_append, linesFrom_of_isLineEnd hend hlater, lines, heq]
        rfl
  | case5 line c rest _ hend ih =>
      obtain ⟨blanks, hblanks, heq⟩ := ih
      refine ⟨blanks, hblanks, ?_⟩
      rw [List.cons_append, linesFrom_of_not_isLineEnd (by simpa using hend), heq]

end Lines

end Text

namespace Ignore

open CodeIndex.Text

section Matching

/-- A way to take a piece is a match if the pieces after it match what is left. -/
private theorem isSome_matchPieces?_of_mem {piece : Piece} {pieces : List Piece} {text : List Char}
    {entered : Bool} {way : Bool × List Char} (hway : way ∈ piece.ways text)
    (hlater : (matchPieces? pieces (entered || way.1) way.2).isSome = true) :
    (matchPieces? (piece :: pieces) entered text).isSome = true :=
  List.findSome?_isSome_iff.mpr ⟨way, hway, hlater⟩

private theorem isSome_matchPieces?_literals {pieces : List Piece} {entered : Bool}
    {rest : List Char} (h : (matchPieces? pieces entered rest).isSome = true) (name : List Char) :
    (matchPieces? (name.map .literal ++ pieces) entered (name ++ rest)).isSome = true := by
  induction name with
  | nil => exact h
  | cons c name ih =>
      have hway : (false, name ++ rest) ∈ (Piece.literal c).ways (c :: name ++ rest) := by
        simp [Piece.ways, restOfOne]
      exact isSome_matchPieces?_of_mem hway (by simpa using ih)

private theorem nil_mem_rests {p : Char → Bool} {text : List Char} (h : ∀ c ∈ text, p c = true) :
    [] ∈ rests p text := by
  induction text with
  | nil => exact List.mem_singleton_self []
  | cons c text ih =>
      rw [List.forall_mem_cons] at h
      rw [rests, if_pos h.1]
      exact List.mem_append_left _ (ih h.2)

/-- A match that ends inside of a directory has entered it. -/
private theorem matchPieces?_inside_ne_some_false (pieces : List Piece) (entered : Bool)
    (text : List Char) : matchPieces? (pieces ++ [.inside]) entered text ≠ some false := by
  induction pieces generalizing entered text with
  | nil =>
      intro hmatch
      obtain ⟨way, hway, hend⟩ := List.exists_of_findSome?_eq_some hmatch
      obtain ⟨rest, -, rfl⟩ := List.mem_map.mp hway
      simp [matchPieces?] at hend
  | cons piece pieces ih =>
      intro hmatch
      obtain ⟨way, -, hlater⟩ := List.exists_of_findSome?_eq_some hmatch
      exact ih _ _ hlater

/-- What lies in the directories of a name, wherever they are. -/
def Pattern.directory (name : List Char) : Pattern :=
  ⟨true, .above :: name.map .literal ++ [.inside]⟩

private theorem Pattern.match?_directory (name : List Char) {rest : List Char}
    (hrest : '\n' ∉ rest) :
    (Pattern.directory name).match? (name ++ '/' :: rest) = some true := by
  have hinside : (matchPieces? [.inside] false ('/' :: rest)).isSome = true := by
    have hline : ∀ c ∈ rest, isLineChar c = true := by
      intro c member
      exact bne_iff_ne.mpr fun h => hrest (h ▸ member)
    exact isSome_matchPieces?_of_mem (List.mem_map_of_mem (nil_mem_rests hline)) rfl
  have habove : (false, name ++ '/' :: rest) ∈ Piece.above.ways (name ++ '/' :: rest) := by
    simp [Piece.ways]
  have hsome : ((Pattern.directory name).match? (name ++ '/' :: rest)).isSome = true :=
    isSome_matchPieces?_of_mem habove (isSome_matchPieces?_literals hinside name)
  obtain ⟨entered, hmatch⟩ := Option.isSome_iff_exists.mp hsome
  cases entered with
  | false =>
      exact absurd hmatch (matchPieces?_inside_ne_some_false (.above :: name.map .literal) _ _)
  | true => exact hmatch

/-- A pattern that ignores what lies in a directory has the last word, whatever stood before. -/
private theorem Verdict.ignored_after {p : Pattern} (hignores : p.ignores = true) {path : List Char}
    (hmatch : p.match? path = some true) (v : Verdict) : (v.after path p).ignored = true := by
  simp [Verdict.after, hmatch, hignores]

end Matching

section Reading

def entryPattern : Pattern :=
  .directory ".mcp-code-search".toList

private theorem ofLine_nil : Pattern.ofLine [] = .ok none :=
  rfl

def remarkLine : List Char :=
  "# MCP Code Search database".toList

private theorem ofLine_remarkLine : Pattern.ofLine remarkLine = .ok none :=
  rfl

private theorem ofLine_entry : Pattern.ofLine entry = .ok (some entryPattern) :=
  rfl

private theorem ofText_eq_ok_iff {text : List Char} {rules : Rules} :
    Rules.ofText text = .ok rules ↔
      ∃ found, (lines text).mapM Pattern.ofLine = .ok found ∧ ⟨found.filterMap id⟩ = rules := by
  rw [Rules.ofText, lines_unixLines]
  cases (lines text).mapM Pattern.ofLine with
  | error failure => simp [Except.map]
  | ok found => simp [Except.map]

/-- The line ends do not matter to the rules. -/
private theorem ofText_unixLines (text : List Char) :
    Rules.ofText (unixLines text) = Rules.ofText text := by
  rw [Rules.ofText, Rules.ofText, lines_unixLines]

/-- A text that has no entry gets the remark and the entry behind its own lines. -/
private theorem lines_withEntry {text : List Char} (hnew : hasEntry (lines text) = false) :
    ∃ blanks : List (List Char), (∀ blank ∈ blanks, blank = []) ∧
      lines (withEntry text) = lines text ++ (blanks ++ [remarkLine, entry]) := by
  let added := remarkLine ++ '\n' :: entry ++ ['\n']
  have hadded : entryRemark ++ entry ++ ['\n'] = '\n' :: added := by decide +kernel
  have hlines : lines added = [remarkLine, entry] := by decide +kernel
  rw [← lines_unixLines] at hnew
  simp only [withEntry, entryAddition, hnew, Bool.false_eq_true, ↓reduceIte]
  split
  · obtain ⟨blanks, hblanks, heq⟩ := linesFrom_append_newline [] text added
    refine ⟨blanks, hblanks, ?_⟩
    rw [List.nil_append, hadded, lines, heq, hlines, List.append_assoc, lines]
  · obtain ⟨blanks, hblanks, heq⟩ := linesFrom_append_newline [] text ('\n' :: added)
    refine ⟨blanks ++ [[]], by simpa [or_imp, forall_and] using hblanks, ?_⟩
    rw [List.append_assoc ['\n'], List.append_assoc ['\n'], hadded, List.singleton_append, lines,
      heq, lines, linesFrom_newline, hlines]
    simp [lines]

private theorem entryAddition_of_hasEntry {text : List Char} (h : hasEntry (lines text) = true) :
    entryAddition text = [] := by
  rw [← lines_unixLines] at h
  rw [entryAddition, if_pos h]

private theorem withEntry_of_hasEntry {text : List Char} (h : hasEntry (lines text) = true) :
    withEntry text = text := by
  rw [withEntry, entryAddition_of_hasEntry h, List.append_nil]

/-- All lines of a text stay in front of what is added. -/
private theorem lines_prefix_withEntry (text : List Char) :
    lines text <+: lines (withEntry text) := by
  cases hentry : hasEntry (lines text) with
  | true => exact ⟨[], by rw [withEntry_of_hasEntry hentry, List.append_nil]⟩
  | false =>
      obtain ⟨blanks, -, hlines⟩ := lines_withEntry hentry
      exact ⟨_, hlines.symm⟩

private theorem hasEntry_withEntry (text : List Char) :
    hasEntry (lines (withEntry text)) = true := by
  cases hentry : hasEntry (lines text) with
  | true => rwa [withEntry_of_hasEntry hentry]
  | false =>
      obtain ⟨blanks, -, hlines⟩ := lines_withEntry hentry
      have htrim : trim entry = entry := by decide
      simp [hasEntry, hlines, htrim]

/-- The entry adds its pattern behind the patterns that are there. -/
private theorem ofText_withEntry {text : List Char} {rules : Rules}
    (hload : Rules.ofText text = .ok rules) (hnew : hasEntry (lines text) = false) :
    Rules.ofText (withEntry text) = .ok ⟨rules.patterns ++ [entryPattern]⟩ := by
  obtain ⟨found, hfound, rfl⟩ := ofText_eq_ok_iff.mp hload
  obtain ⟨blanks, hblanks, hlines⟩ := lines_withEntry hnew
  have hblank : blanks.mapM Pattern.ofLine = .ok (blanks.map fun _ => none) := by
    clear hlines
    induction blanks with
    | nil => rfl
    | cons blank blanks ih =>
        rw [List.forall_mem_cons] at hblanks
        rw [List.mapM_cons, hblanks.1, ofLine_nil, ih hblanks.2]
        rfl
  have hadded : [remarkLine, entry].mapM Pattern.ofLine = .ok [none, some entryPattern] := by
    rw [List.mapM_cons, List.mapM_cons, ofLine_remarkLine, ofLine_entry]
    rfl
  refine ofText_eq_ok_iff.mpr
    ⟨found ++ (blanks.map (fun _ => none) ++ [none, some entryPattern]), ?_, ?_⟩
  · rw [hlines, List.mapM_append, hfound, List.mapM_append, hblank, hadded]
    rfl
  · simp [List.filterMap_append]

/-- A path in the directory of the entry is matched as one. -/
private theorem exists_relativePath {path : List Char} (hentry : entry <+: path)
    (hline : '\n' ∉ path) :
    ∃ rest, '\n' ∉ rest ∧ relativePath path = ".mcp-code-search".toList ++ '/' :: rest := by
  obtain ⟨rest, rfl⟩ := hentry
  refine ⟨rest.map fun c => if c == '\\' then '/' else c, ?_, rfl⟩
  intro member
  obtain ⟨c, hc, hmap⟩ := List.mem_map.mp member
  split at hmap
  · cases hmap
  · exact hline (List.mem_append_right _ (hmap ▸ hc))

/-- Behind any patterns the one of the entry ignores all that lies in the directory. -/
private theorem ignores_append_entryPattern (patterns : List Pattern) {path : String}
    (hentry : entry <+: path.toList) (hline : '\n' ∉ path.toList) :
    Rules.ignores ⟨patterns ++ [entryPattern]⟩ path = true := by
  obtain ⟨rest, hrest, hpath⟩ := exists_relativePath hentry hline
  simp only [Rules.ignores, hpath, List.foldl_append, List.foldl_cons, List.foldl_nil]
  exact Verdict.ignored_after rfl (Pattern.match?_directory _ hrest) _

end Reading

end Ignore

namespace IgnoreFile

open CodeIndex.Text CodeIndex.Ignore

/-- The ignore file has these bytes, and they are this text. No file counts as one without any. -/
inductive Holds : IgnoreFile → List UInt8 → List Char → Prop where
  | missing : Holds .missing [] []
  | file {bytes : List UInt8} {text : List Char} (htext : Utf8.decode bytes = .ok text) :
      Holds (.file bytes) bytes text

variable {file : IgnoreFile} {bytes : List UInt8} {text : List Char}

private theorem Holds.decode (h : file.Holds bytes text) : Utf8.decode bytes = .ok text := by
  cases h with
  | missing => rfl
  | file htext => exact htext

private theorem Holds.addEntry_eq (h : file.Holds bytes text) :
    file.addEntry = .ok (.file (bytes ++ Utf8.encode (entryAddition text))) := by
  cases h with
  | missing => rfl
  | file htext => rw [addEntry, htext]

end IgnoreFile

namespace Files

open CodeIndex.Text CodeIndex.Ignore

variable {f : Files}

/-- Rules that can be loaded are those of a text, or there is no ignore file. -/
private theorem rules_eq_ok {rules : Option Rules} (hload : f.rules = .ok rules) :
    f.entry IgnoreFile.path = .missing ∧ rules = none ∨
      ∃ bytes text old, f.entry IgnoreFile.path = .file bytes ∧ Utf8.decode bytes = .ok text ∧
        Rules.ofText text = .ok old ∧ rules = some old := by
  unfold Files.rules exists? readText at hload
  cases hentry : f.entry IgnoreFile.path with
  | missing =>
      simp only [hentry, bne_self_eq_false, Bool.false_eq_true, ↓reduceIte] at hload
      exact .inl ⟨rfl, (Except.ok.inj hload).symm⟩
  | directory =>
      rw [hentry] at hload
      cases hload
  | file bytes =>
      cases htext : Utf8.decode bytes with
      | error failure =>
          simp only [hentry, htext] at hload
          cases hload
      | ok text =>
          cases hrules : Rules.ofText text with
          | error failure =>
              simp only [hentry, htext, ofText_unixLines, hrules] at hload
              cases hload
          | ok old =>
              simp only [hentry, htext, ofText_unixLines, hrules] at hload
              exact .inr ⟨bytes, text, old, rfl, htext, hrules, (Except.ok.inj hload).symm⟩

private theorem rules_write {bytes : List UInt8} {text : List Char} {rules : Rules}
    (htext : Utf8.decode bytes = .ok text) (hrules : Rules.ofText text = .ok rules) :
    (f.write IgnoreFile.path bytes).rules = .ok (some rules) := by
  have hentry := f.entry_write IgnoreFile.path (by decide +kernel) bytes
  simp only [Files.rules, exists?, readText, hentry, htext, ofText_unixLines, hrules]
  rfl

private theorem addEntry_eq_write {bytes : List UInt8} {text : List Char}
    (h : f.ignoreFile.Holds bytes text) :
    f.addEntry = .ok (f.write IgnoreFile.path (bytes ++ Utf8.encode (entryAddition text))) := by
  rw [addEntry, h.addEntry_eq]

private theorem ignoreFile_write (f : Files) (bytes : List UInt8) :
    (f.write IgnoreFile.path bytes).ignoreFile = .file bytes := by
  rw [ignoreFile, f.entry_write IgnoreFile.path (by decide +kernel) bytes]

/-- The entry is added to an ignore file without it, and made into one where there is none. The
rules that are loaded next are those of before and the entry's own. -/
private theorem exists_addEntry {rules : Option Rules} (hload : f.rules = .ok rules)
    (hnew : ∀ text, f.readText IgnoreFile.path = .ok text → hasEntry (lines text) = false) :
    ∃ after, f.addEntry = .ok after ∧
      after.rules = .ok (some ⟨rules.elim [] Rules.patterns ++ [entryPattern]⟩) := by
  obtain ⟨hentry, rfl⟩ | ⟨bytes, text, old, hentry, htext, hrules, rfl⟩ := rules_eq_ok hload
  · have hheld : f.ignoreFile.Holds [] [] := by
      rw [ignoreFile, hentry]
      exact .missing
    have hempty : Rules.ofText [] = .ok ⟨[]⟩ := rfl
    refine ⟨_, addEntry_eq_write hheld, ?_⟩
    exact rules_write (Utf8.decode_append_encode hheld.decode _) (ofText_withEntry hempty rfl)
  · have hheld : f.ignoreFile.Holds bytes text := by
      rw [ignoreFile, hentry]
      exact .file htext
    have hread : f.readText IgnoreFile.path = .ok (unixLines text) := by
      simp only [readText, hentry, htext]
    have hlines := hnew _ hread
    rw [lines_unixLines] at hlines
    refine ⟨_, addEntry_eq_write hheld, ?_⟩
    exact rules_write (Utf8.decode_append_encode htext _) (ofText_withEntry hrules hlines)

/-- Once the entry is added, the rules that are loaded ignore all that lies in the directory of the
index, whatever the lines before it say. -/
theorem addEntry_ignores_index (f : Files) (rules : Option Rules) (hload : f.rules = .ok rules)
    (hnew : ∀ text, f.readText IgnoreFile.path = .ok text →
      ∀ line ∈ lines text, trim line ≠ Ignore.entry) :
    ∃ after loaded, f.addEntry = .ok after ∧ after.rules = .ok (some loaded) ∧
      rules.elim [] Rules.patterns <+: loaded.patterns ∧
      ∀ path : String, Ignore.entry <+: path.toList → '\n' ∉ path.toList →
        isIgnored (some loaded) path = true := by
  have hnone : ∀ text, f.readText IgnoreFile.path = .ok text → hasEntry (lines text) = false := by
    intro text htext
    rw [hasEntry, List.any_eq_false]
    intro line member
    exact fun h => hnew text htext line member (eq_of_beq h)
  obtain ⟨after, hafter, hloaded⟩ := exists_addEntry hload hnone
  refine ⟨after, _, hafter, hloaded, List.prefix_append _ _, ?_⟩
  intro path hentry hline
  exact ignores_append_entryPattern _ hentry hline

/-- The entry holds against a line that takes the directory out again and against one that takes
out a file in it, and at the end of a line without an end. -/
theorem addEntry_ignores_index_negated :
    let f : Files :=
      { contents := [(".gitignore", Utf8.encode "!.mcp-code-search/\r\n!*.db".toList)] }
    let old : Rules := ⟨[
      { Pattern.directory ".mcp-code-search".toList with ignores := false },
      ⟨false, [.above, .namePart, .literal '.', .literal 'd', .literal 'b', .maybeInside]⟩]⟩
    f.rules = .ok (some old) ∧ isIgnored (some old) ".mcp-code-search/index.db" = false ∧
      ∃ after loaded, f.addEntry = .ok after ∧ after.rules = .ok (some loaded) ∧
        old.patterns <+: loaded.patterns ∧
        isIgnored (some loaded) ".mcp-code-search/index.db" = true := by
  intro f old
  have hload : f.rules = .ok (some old) := eq_ok_of_toOption (by decide +kernel)
  have hread : f.readText IgnoreFile.path = .ok "!.mcp-code-search/\n!*.db".toList :=
    eq_ok_of_toOption (by decide +kernel)
  have hnew : ∀ text, f.readText IgnoreFile.path = .ok text →
      ∀ line ∈ lines text, trim line ≠ Ignore.entry := by
    intro text htext
    obtain rfl := Except.ok.inj (hread.symm.trans htext)
    decide +kernel
  obtain ⟨after, loaded, hafter, hloaded, hold, hignored⟩ :=
    addEntry_ignores_index f (some old) hload hnew
  exact ⟨hload, by decide +kernel, after, loaded, hafter, hloaded, hold,
    hignored _ (by decide +kernel) (by decide +kernel)⟩

section Repetition

variable {after : Files} {bytes : List UInt8} {text : List Char}

/-- The ignore file with the entry is added nothing more. -/
private theorem addEntry_again (h : f.ignoreFile.Holds bytes text)
    (hafter : f.addEntry = .ok after) :
    after.addEntry = .ok after := by
  rw [addEntry_eq_write h] at hafter
  obtain rfl := Except.ok.inj hafter
  have hholds : (f.write IgnoreFile.path
      (bytes ++ Utf8.encode (entryAddition text))).ignoreFile.Holds
      (bytes ++ Utf8.encode (entryAddition text)) (withEntry text) := by
    rw [ignoreFile_write]
    exact .file (Utf8.decode_append_encode h.decode _)
  have hnothing : entryAddition (withEntry text) = [] :=
    entryAddition_of_hasEntry (hasEntry_withEntry text)
  rw [addEntry_eq_write hholds, hnothing]
  simp only [Utf8.encode, List.flatMap_nil, List.append_nil]
  rw [write_write]

def addEntryTimes (f : Files) : Nat → Except ReadFailure Files
  | 0 => .ok f
  | n + 1 => (f.addEntryTimes n).bind addEntry

private theorem addEntryTimes_succ (h : f.ignoreFile.Holds bytes text)
    (hafter : f.addEntry = .ok after) (n : Nat) : f.addEntryTimes (n + 1) = .ok after := by
  induction n with
  | zero => exact hafter
  | succ n ih =>
      rw [addEntryTimes, ih]
      exact addEntry_again h hafter

/-- Adding the entry many times is adding it once. All that was there stays in front, byte for byte
and line for line, and one of the lines is the entry, however the text ends and its lines are
parted. -/
theorem addEntry_appends_once (f : Files) (bytes : List UInt8) (text : List Char)
    (hheld : f.ignoreFile.Holds bytes text) (n : Nat) (hn : 1 ≤ n) :
    ∃ after bytesAfter textAfter, f.addEntry = .ok after ∧ f.addEntryTimes n = .ok after ∧
      after.ignoreFile = .file bytesAfter ∧ Utf8.decode bytesAfter = .ok textAfter ∧
      bytes <+: bytesAfter ∧ text <+: textAfter ∧
      (∃ line ∈ lines (unixLines textAfter), trim line = Ignore.entry) ∧
      lines (unixLines text) <+: lines (unixLines textAfter) := by
  have hadded := addEntry_eq_write hheld
  refine ⟨_, bytes ++ Utf8.encode (entryAddition text), withEntry text, hadded, ?_,
    ignoreFile_write f _, Utf8.decode_append_encode hheld.decode _, List.prefix_append _ _,
    List.prefix_append _ _, ?_, ?_⟩
  · obtain ⟨m, rfl⟩ := Nat.exists_eq_add_of_le' hn
    exact addEntryTimes_succ hheld hadded m
  · rw [lines_unixLines]
    obtain ⟨line, member, htrim⟩ := List.any_eq_true.mp (hasEntry_withEntry text)
    exact ⟨line, member, eq_of_beq htrim⟩
  · rw [lines_unixLines, lines_unixLines]
    exact lines_prefix_withEntry text

/-- The last line ends in a carriage return, to which the line feed of the addition is joined, and a
form feed parts two lines. -/
theorem addEntry_appends_once_after_carriage_return :
    let text := "build/\x0c*.o\r".toList
    let f : Files := { contents := [(".gitignore", Utf8.encode text)] }
    f.ignoreFile.Holds (Utf8.encode text) text ∧ 1 ≤ 3 ∧
      ∃ after bytesAfter textAfter, f.addEntryTimes 3 = .ok after ∧
        after.ignoreFile = .file bytesAfter ∧ Utf8.decode bytesAfter = .ok textAfter ∧
        text <+: textAfter ∧ (∃ line ∈ lines (unixLines textAfter), trim line = Ignore.entry) ∧
        ["build/".toList, "*.o".toList] <+: lines (unixLines textAfter) := by
  intro text f
  have hfile : f.ignoreFile = .file (Utf8.encode text) := by decide +kernel
  have hheld : f.ignoreFile.Holds (Utf8.encode text) text := by
    rw [hfile]
    exact .file (Utf8.decode_encode text)
  have hlines : lines (unixLines text) = ["build/".toList, "*.o".toList] := by decide +kernel
  obtain ⟨after, bytesAfter, textAfter, -, htimes, hafter, hdecode, -, htext, hentry, hkept⟩ :=
    addEntry_appends_once f (Utf8.encode text) text hheld 3 (by decide)
  rw [hlines] at hkept
  exact ⟨hheld, by decide, after, bytesAfter, textAfter, htimes, hafter, hdecode, htext, hentry,
    hkept⟩

end Repetition

end Files

end CodeIndex
