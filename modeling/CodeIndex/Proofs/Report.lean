import CodeIndex.Project.Git
import CodeIndex.Proofs.Lines
import CodeIndex.Proofs.Transaction

/-!
The report that version control prints of changes, and what is read back from it.

A report has one line for each entry: a status, a tabulator and the path. A carriage return is read
as a line feed, so a path that has one is not read back. The text is trimmed as a whole before it is
cut into lines, so the end of its last path is the one place where a blank is lost. All else is read
as it was printed, and changes whose paths have no carriage return and do not end in a blank are
read back as the same changes.
-/

namespace CodeIndex

open CodeIndex.Text

namespace Git

/-- A status that a line can start with: it has a character, and no blank. -/
def isToken (status : List Char) : Bool :=
  !status.isEmpty && status.all fun c => !isBlank c

private theorem isToken_iff {status : List Char} :
    isToken status = true ↔ status ≠ [] ∧ ∀ c ∈ status, isBlank c = false := by
  simp [isToken]

/-- A path that a line can show: it has no line feed, and it is not blank. -/
def isShown (path : String) : Bool :=
  !path.toList.contains '\n' && path.toList.any fun c => !isBlank c

theorem isShown_iff {path : String} :
    isShown path = true ↔ '\n' ∉ path.toList ∧ ∃ c ∈ path.toList, isBlank c = false := by
  simp [isShown]

@[ext]
structure Entry where
  status : List Char
  path : String
  token : isToken status = true
  shown : isShown path = true

namespace Entry

variable (e : Entry)

def line : List Char :=
  e.status ++ '\t' :: e.path.toList

def change : Change :=
  ⟨e.path, .ofLetter e.status⟩

private theorem not_mem_status {c : Char} (h : isBlank c = true) : c ∉ e.status := by
  intro member
  rw [(isToken_iff.mp e.token).2 c member] at h
  cases h

private theorem line_break_not_mem : '\n' ∉ e.line := by
  have hstatus : '\n' ∉ e.status := e.not_mem_status (by decide)
  simp [line, hstatus, (isShown_iff.mp e.shown).1]

private theorem changeOfLine_line : changeOfLine e.line = .ok e.change := by
  have hstatus : '\t' ∉ e.status := e.not_mem_status (by decide)
  simp [changeOfLine, line, before_append_cons hstatus, after?_append_cons hstatus, change]

def trimmed : Entry where
  status := e.status
  path := String.ofList (trimEnd e.path.toList)
  token := e.token
  shown := by
    obtain ⟨hline, c, member, hc⟩ := isShown_iff.mp e.shown
    rw [isShown_iff, String.toList_ofList]
    refine ⟨fun hbreak => hline ((List.rdropWhile_prefix isBlank _).subset hbreak), ?_⟩
    have hkept : c ∈ (trimEnd e.path.toList).filter fun c => !isBlank c := by
      rw [trimEnd, filter_dropEndWhile]
      simp [member, hc]
    exact ⟨c, (List.mem_filter.mp hkept).1, hc⟩

private theorem dropEndWhile_line : dropEndWhile isBlank e.line = e.trimmed.line := by
  obtain ⟨-, c, member, -⟩ := isShown_iff.mp e.trimmed.shown
  have hpath : dropEndWhile isBlank e.path.toList = e.trimmed.path.toList := by
    rw [trimmed, String.toList_ofList, trimEnd]
  have hne : (dropEndWhile isBlank e.path.toList).isEmpty = false := by
    rw [hpath, List.isEmpty_eq_false_iff]
    exact List.ne_nil_of_mem member
  rw [line, List.append_cons, dropEndWhile_append, hne, hpath]
  simp [line, trimmed]

private theorem trimmed_eq_self (h : e.path.toList.getLast?.any isBlank = false) :
    e.trimmed = e := by
  refine Entry.ext rfl ?_
  simp only [trimmed, trimEnd, dropEndWhile_eq_self_iff.mpr h, String.ofList_toList]

end Entry

def nameStatus (entries : List Entry) : List Char :=
  entries.flatMap fun e => e.line ++ ['\n']

def trimLast : List Entry → List Entry
  | [] => []
  | [e] => [e.trimmed]
  | e :: rest => e :: trimLast rest

theorem trimLast_append_cons (before : List Entry) (e : Entry) (after : List Entry) :
    trimLast (before ++ e :: after) = before ++ trimLast (e :: after) := by
  induction before with
  | nil => rfl
  | cons first before ih => cases before <;> simp_all [trimLast]

variable {entries : List Entry}

private theorem trimLast_ne_nil (h : entries ≠ []) : trimLast entries ≠ [] := by
  fun_cases trimLast entries <;> simp_all

private theorem trimLast_eq_self (h : ∀ e ∈ entries, e.trimmed = e) :
    trimLast entries = entries := by
  fun_induction trimLast entries with
  | case1 => rfl
  | case2 e => rw [h e (by simp)]
  | case3 e rest _ ih => rw [ih fun later member => h later (List.mem_cons_of_mem _ member)]

/-- Only the last line feed and the blanks in front of it are trimmed. -/
private theorem dropEndWhile_nameStatus (entries : List Entry) :
    dropEndWhile isBlank (nameStatus entries) =
      join ['\n'] ((trimLast entries).map Entry.line) := by
  fun_induction trimLast entries with
  | case1 => rfl
  | case2 e =>
      have hend : dropEndWhile isBlank ['\n'] = [] := by decide
      simp only [nameStatus, List.flatMap_cons, List.flatMap_nil, List.append_nil]
      rw [dropEndWhile_append, hend]
      exact e.dropEndWhile_line
  | case3 e rest hrest ih =>
      have hsplit : nameStatus (e :: rest) = (e.line ++ ['\n']) ++ nameStatus rest := by
        simp [nameStatus]
      rw [hsplit, dropEndWhile_append, ih]
      cases hlast : trimLast rest with
      | nil => exact absurd hlast (trimLast_ne_nil hrest)
      | cons second others =>
          have hfull : (join ['\n'] ((second :: others).map Entry.line)).isEmpty = false := by
            cases others <;> simp [join, Entry.line]
          rw [hfull]
          rfl

/-- A report is read back as it was printed, but for the blanks at its end. -/
theorem changesOf_nameStatus (entries : List Entry) :
    changesOf (nameStatus entries) = .ok ((trimLast entries).map Entry.change) := by
  cases entries with
  | nil => rfl
  | cons first rest =>
      have hstart : (nameStatus (first :: rest)).dropWhile isBlank =
          nameStatus (first :: rest) := by
        obtain ⟨hne, hblank⟩ := isToken_iff.mp first.token
        obtain ⟨c, status, hstatus⟩ := List.exists_cons_of_ne_nil hne
        have hc : isBlank c = false := hblank c (by simp [hstatus])
        simp [nameStatus, Entry.line, hstatus, hc]
      have htrim : trim (nameStatus (first :: rest)) =
          join ['\n'] ((trimLast (first :: rest)).map Entry.line) := by
        rw [trim, trimWhile, hstart]
        exact dropEndWhile_nameStatus _
      have hfields : fields '\n' (join ['\n'] ((trimLast (first :: rest)).map Entry.line)) =
          (trimLast (first :: rest)).map Entry.line := by
        refine fields_join ?_ ?_
        · simpa using trimLast_ne_nil (List.cons_ne_nil first rest)
        · intro piece member
          obtain ⟨e, -, rfl⟩ := List.mem_map.mp member
          exact e.line_break_not_mem
      rw [changesOf, htrim, hfields]
      generalize trimLast (first :: rest) = entries
      have hfilter : (entries.map Entry.line).filter (fun line => !line.isEmpty) =
          entries.map Entry.line := by
        apply List.filter_eq_self.mpr
        intro piece member
        obtain ⟨e, -, rfl⟩ := List.mem_map.mp member
        simp [Entry.line]
      rw [hfilter]
      clear hstart htrim hfields hfilter
      induction entries with
      | nil => rfl
      | cons e entries ih =>
          rw [List.map_cons, List.mapM_cons, e.changeOfLine_line, ih]
          rfl

/-! ### Carriage returns -/

private theorem return_not_mem_line {e : Entry} (h : '\r' ∉ e.path.toList) : '\r' ∉ e.line := by
  have hstatus : '\r' ∉ e.status := e.not_mem_status (by decide)
  simp [Entry.line, hstatus, h]

/-- Without a carriage return in what is kept of the paths, the lines are read as they are. -/
private theorem changesOf_unixLines_nameStatus (h : ∀ e ∈ trimLast entries, '\r' ∉ e.path.toList) :
    changesOf (unixLines (nameStatus entries)) = .ok ((trimLast entries).map Entry.change) := by
  obtain ⟨blanks, hblanks, hprinted⟩ :=
    exists_eq_dropEndWhile_append isBlank (nameStatus entries)
  rw [dropEndWhile_nameStatus] at hprinted
  have hkept : '\r' ∉ join ['\n'] ((trimLast entries).map Entry.line) := by
    have hall : (join ['\n'] ((trimLast entries).map Entry.line)).all (· != '\r') = true := by
      rw [all_join (by decide), List.all_map, List.all_eq_true]
      intro e member
      simpa using fun c hc => ne_of_mem_of_not_mem hc (return_not_mem_line (h e member))
    intro member
    simpa using List.all_eq_true.mp hall _ member
  rw [← changesOf_nameStatus, hprinted, unixLines_append hkept, changesOf, changesOf,
    trim_append_of_blank _ hblanks, trim_append_of_blank _ (isBlank_of_mem_unixLines hblanks)]

/-- No carriage return is ever read. -/
private theorem return_not_mem_of_changesOf {printed : List Char} {changes : List Change}
    (h : changesOf (unixLines printed) = .ok changes) :
    ∀ change ∈ changes, '\r' ∉ change.path.toList := by
  refine forall_mem_of_mapM ?_ h
  intro line hline change hchange hreturn
  have hfield := (List.mem_filter.mp hline).1
  unfold changeOfLine at hchange
  split at hchange
  · next path hpath =>
      cases hchange
      rw [String.toList_ofList] at hreturn
      have hread := mem_of_mem_fields hfield ((sublist_of_after? hpath).subset hreturn)
      exact carriage_return_not_mem_unixLines printed ((trim_sublist _).subset hread)
  · cases hchange

end Git

def ChangeStatus.letter : ChangeStatus → Char
  | .added => 'A'
  | .modified => 'M'
  | .deleted => 'D'

private theorem ChangeStatus.ofLetter_letter (status : ChangeStatus) :
    ofLetter [status.letter] = status := by
  cases status <;> rfl

namespace Git

def line (change : Change) : List Char :=
  change.status.letter :: '\t' :: change.path.toList

def report (changes : List Change) : List Char :=
  changes.flatMap fun change => line change ++ ['\n']

/-- A path without a line feed or carriage return, and without a blank at its end. -/
def isPlain (path : String) : Bool :=
  !path.toList.contains '\n' && !path.toList.contains '\r' && !path.toList.getLast?.any isBlank

private theorem isPlain_iff {path : String} :
    isPlain path = true ↔ '\n' ∉ path.toList ∧ '\r' ∉ path.toList ∧
      path.toList.getLast?.any isBlank = false := by
  simp [isPlain, and_assoc]

private theorem isShown_of_isPlain {path : String} (h : isPlain path = true) (hne : path ≠ "") :
    isShown path = true := by
  obtain ⟨hline, -, hlast⟩ := isPlain_iff.mp h
  have hchars : path.toList ≠ [] := fun hnil => hne (String.toList_eq_nil_iff.mp hnil)
  rw [List.getLast?_eq_some_getLast hchars, Option.any_some] at hlast
  exact isShown_iff.mpr ⟨hline, _, List.getLast_mem hchars, hlast⟩

def Entry.ofChange (change : Change) (h : isPlain change.path = true ∧ change.path ≠ "") :
    Entry where
  status := [change.status.letter]
  path := change.path
  token := by cases change.status <;> decide
  shown := isShown_of_isPlain h.1 h.2

private theorem Entry.change_ofChange (change : Change)
    (h : isPlain change.path = true ∧ change.path ≠ "") :
    (Entry.ofChange change h).change = change := by
  simp [Entry.ofChange, Entry.change, ChangeStatus.ofLetter_letter]

/-- What is printed of changes is read as these changes. -/
theorem changesOf_unixLines_report {changes : List Change}
    (h : ∀ change ∈ changes, isPlain change.path = true ∧ change.path ≠ "") :
    changesOf (unixLines (report changes)) = .ok changes := by
  let entries := changes.pmap Entry.ofChange h
  have hprinted : report changes = nameStatus entries := by
    simp only [entries, nameStatus, report, List.flatMap_def, List.map_pmap]
    change _ = (changes.pmap (fun change _ => line change ++ ['\n']) h).flatten
    rw [List.pmap_eq_map]
  have htrimmed : trimLast entries = entries := by
    refine trimLast_eq_self fun e member => e.trimmed_eq_self ?_
    obtain ⟨change, hchange, rfl⟩ := List.mem_pmap.mp member
    exact (isPlain_iff.mp (h change hchange).1).2.2
  rw [hprinted, changesOf_unixLines_nameStatus, htrimmed]
  · simp only [entries, List.map_pmap, Entry.change_ofChange, List.pmap_eq_map, List.map_id']
  · rw [htrimmed]
    intro e member
    obtain ⟨change, hchange, rfl⟩ := List.mem_pmap.mp member
    exact (isPlain_iff.mp (h change hchange).1).2.1

namespace Entry

variable (e : Entry)

/-- What the status says of the file: what its letter stands for, and a modification if it is no
such letter. -/
def meaning : ChangeStatus :=
  ([.added, .modified, .deleted].find? fun status => [status.letter] == e.status).getD .modified

private theorem ofLetter_status : ChangeStatus.ofLetter e.status = e.meaning := by
  unfold ChangeStatus.ofLetter meaning
  by_cases hadded : e.status = ['A']
  · rw [hadded]
    rfl
  · by_cases hdeleted : e.status = ['D']
    · rw [hdeleted]
      rfl
    · by_cases hmodified : e.status = ['M']
      · rw [hmodified]
        rfl
      · simp [ChangeStatus.letter, hadded, hdeleted, Ne.symm hadded, Ne.symm hdeleted,
          Ne.symm hmodified]

def endsBlank : Bool :=
  e.path.toList.getLast?.any isBlank

/-- Only the blanks at the end of a path are trimmed. -/
private theorem exists_path_eq_trimmed_append :
    ∃ blanks, (∀ c ∈ blanks, isBlank c = true) ∧
      e.path.toList = e.trimmed.path.toList ++ blanks := by
  obtain ⟨blanks, hblanks, heq⟩ := exists_eq_dropEndWhile_append isBlank e.path.toList
  refine ⟨blanks, hblanks, ?_⟩
  rw [trimmed, String.toList_ofList, trimEnd]
  exact heq

private theorem endsBlank_trimmed : e.trimmed.endsBlank = false := by
  rw [endsBlank, trimmed, String.toList_ofList, trimEnd]
  exact getLast?_dropEndWhile e.path.toList

private theorem path_trimmed_eq_iff : e.trimmed.path = e.path ↔ e.endsBlank = false := by
  constructor
  · intro hpath
    have htrimmed := e.endsBlank_trimmed
    rwa [endsBlank, hpath] at htrimmed
  · intro hplain
    rw [e.trimmed_eq_self hplain]

end Entry

/-- What is kept of a path is the path without the blanks at its end, however these are cut off. -/
private theorem path_trimmed_of_append (e : Entry) {kept blanks : List Char}
    (hpath : e.path.toList = kept ++ blanks) (hblanks : ∀ c ∈ blanks, isBlank c = true)
    (hkept : kept.getLast?.any isBlank = false) : e.trimmed.path = String.ofList kept := by
  have hend : dropEndWhile isBlank blanks = [] := List.rdropWhile_eq_nil_iff.mpr hblanks
  have htrim : trimEnd e.path.toList = kept := by
    rw [trimEnd, hpath, dropEndWhile_append, hend]
    exact dropEndWhile_eq_self_iff.mpr hkept
  exact congrArg String.ofList htrim

private theorem map_path_trimLast (initial : List Entry) (last : Entry) :
    (trimLast (initial ++ [last])).map Entry.path =
      initial.map Entry.path ++ [last.trimmed.path] := by
  rw [trimLast_append_cons, List.map_append]
  rfl

/-- A report of a comparison is read back entry by entry, if and only if no path has a carriage
return, the blanks at the end of the last path apart. The paths are then as they were printed if and
only if the last of them does not end in a blank. If it does, that path alone differs, by the blanks
at its end. -/
theorem report_is_read_back_iff (files : List String) (since : String) (hsince : since ≠ "")
    (entries : List Entry) :
    (∃ changes,
      changesSince files (some since) (.read 0 (nameStatus entries)) = .ok changes ∧
      changes.map Change.status = entries.map Entry.meaning ∧
      (changes.map Change.path = entries.map Entry.path ↔
        ∀ last, entries.getLast? = some last → last.endsBlank = false) ∧
      ∀ initial last, entries = initial ++ [last] → last.endsBlank = true →
        ∃ kept blanks, last.path.toList = kept ++ blanks ∧ blanks ≠ [] ∧
          (∀ c ∈ blanks, isBlank c = true) ∧ kept.getLast?.any isBlank = false ∧
          changes.map Change.path = initial.map Entry.path ++ [String.ofList kept]) ↔
    ∀ e ∈ trimLast entries, '\r' ∉ e.path.toList := by
  have hread : changesSince files (some since) (.read 0 (nameStatus entries)) =
      changesOf (unixLines (nameStatus entries)) := by
    have hbase : base? (some since) = some since := by simp [base?, hsince]
    simp only [changesSince, hbase, Answer.read, ↓reduceIte, String.toList_ofList]
  rw [hread]
  constructor
  · rintro ⟨changes, hchanges, -, hplain, hblank⟩
    -- The paths that are read have no carriage return, and they are those of the trimmed entries.
    have hpaths : changes.map Change.path = (trimLast entries).map Entry.path := by
      rcases List.eq_nil_or_concat entries with rfl | ⟨initial, last, rfl⟩
      · exact hplain.mpr (by simp)
      · rw [List.concat_eq_append] at hplain hblank ⊢
        rw [map_path_trimLast]
        cases hlast : last.endsBlank with
        | false =>
            rw [hplain.mpr (by simp [hlast]), last.path_trimmed_eq_iff.mpr hlast]
            simp
        | true =>
            obtain ⟨kept, blanks, hpath, -, hblanks, hkept, hpaths⟩ := hblank initial last rfl hlast
            rw [hpaths, path_trimmed_of_append last hpath hblanks hkept]
    intro e member
    have hmem : e.path ∈ changes.map Change.path := hpaths ▸ List.mem_map_of_mem member
    obtain ⟨change, hchange, hpath⟩ := List.mem_map.mp hmem
    exact hpath ▸ return_not_mem_of_changesOf hchanges change hchange
  · intro hreturn
    refine ⟨_, changesOf_unixLines_nameStatus hreturn, ?_⟩
    -- All but the last entry are read as they are, so the rest is about the last one.
    rcases List.eq_nil_or_concat entries with rfl | ⟨initial, last, rfl⟩
    · simp [trimLast]
    · rw [List.concat_eq_append]
      have hpaths : ((trimLast (initial ++ [last])).map Entry.change).map Change.path =
          initial.map Entry.path ++ [last.trimmed.path] := by
        rw [List.map_map, ← map_path_trimLast]
        rfl
      refine ⟨?_, ?_, ?_⟩
      · rw [trimLast_append_cons]
        simp [trimLast, Entry.change, Entry.ofLetter_status, Entry.trimmed, Entry.meaning]
      · rw [hpaths]
        simp [last.path_trimmed_eq_iff]
      · intro start final hentries hblank
        obtain ⟨rfl, hlast⟩ := List.append_inj' hentries rfl
        obtain rfl := List.singleton_inj.mp hlast
        obtain ⟨blanks, hblanks, hpath⟩ := last.exists_path_eq_trimmed_append
        refine ⟨last.trimmed.path.toList, blanks, hpath, ?_, hblanks, last.endsBlank_trimmed, ?_⟩
        · rintro rfl
          rw [List.append_nil] at hpath
          have hkept := last.path_trimmed_eq_iff.mp (String.toList_inj.mp hpath).symm
          rw [hkept] at hblank
          cases hblank
        · rw [hpaths, String.ofList_toList]

/-- Blanks and tabulators inside of the paths stay, and so do those at the end of every path but the
last, where a carriage return is lost with the other blanks. A score behind the letter of a rename
makes it a modification. -/
theorem report_is_read_back_but_last_blank :
    let moved : Entry := ⟨"R100".toList, "a b.py\tc.py ", rfl, rfl⟩
    let added : Entry := ⟨"A".toList, " d.py\r\u00a0", rfl, rfl⟩
    "HEAD~1" ≠ "" ∧ added.endsBlank = true ∧
      ∃ changes kept,
        changesSince [] (some "HEAD~1") (.read 0 (nameStatus [moved, added])) = .ok changes ∧
        changes.map Change.status = [.modified, .added] ∧
        changes.map Change.path = [moved.path, String.ofList kept] ∧
        kept <+: added.path.toList ∧ kept.getLast?.any isBlank = false := by
  intro moved added
  have hsince : "HEAD~1" ≠ "" := by decide
  have hblank : added.endsBlank = true := by decide
  obtain ⟨changes, hread, hstatus, -, hlast⟩ :=
    (report_is_read_back_iff [] "HEAD~1" hsince [moved, added]).mpr (by decide +kernel)
  obtain ⟨kept, blanks, hpath, -, -, hkept, hpaths⟩ := hlast [moved] added rfl hblank
  exact ⟨hsince, hblank, changes, kept, hread, hstatus, hpaths, ⟨blanks, hpath.symm⟩, hkept⟩

/-- The path of a modified file has a carriage return. What stands behind it is read as a line of
its own, which has no tabulator. -/
theorem report_with_carriage_return_is_not_read :
    let modified : Entry := ⟨"M".toList, "a\rb.py", rfl, rfl⟩
    changesSince [] (some "HEAD~1") (.read 0 (nameStatus [modified])) = .error .noTab := by
  decide +kernel

end Git

end CodeIndex
