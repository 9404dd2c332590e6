import CodeIndex.Proofs.Changes
import CodeIndex.Proofs.Incremental

/-!
Version control as the program sees it: a sequence of commits that grows, and the two commands that
are answered from it.

A commit is spoken of by its number, the first one being one; before it there are no files. The name
of the last commit is printed with a line feed and read back without it. A comparison prints how the
files of the last commit differ from those of a commit that is known by name.
-/

namespace CodeIndex

/-- A commit: its name, which holds no blank, and its files, whose paths are printed as they are. -/
structure Commit where
  name : String
  files : Files
  name_ne_empty : name ≠ ""
  name_not_blank : name.toList.any Text.isBlank = false
  paths_plain : ∀ path ∈ files.paths, Git.isPlain path = true ∧ path ≠ ""

structure CommitLog where
  commits : List Commit
  distinct : (commits.map Commit.name).Nodup

/-- A file with the same bytes in two trees does not differ. -/
private theorem Files.changeAt_of_lookup_eq {old new : Files} {path : String}
    (h : old.contents.lookup path = new.contents.lookup path) : changeAt old new path = none := by
  unfold changeAt
  rw [h]
  cases new.contents.lookup path with
  | none => rfl
  | some bytes => simp

namespace CommitLog

variable {log : CommitLog} {n : Nat} {path : String}

def size (log : CommitLog) : Nat :=
  log.commits.length

def add (c : Commit) (log : CommitLog) : CommitLog :=
  if hnew : c.name ∈ log.commits.map Commit.name then log
  else
    { commits := log.commits ++ [c]
      distinct := by
        rw [List.map_append, List.nodup_append]
        refine ⟨log.distinct, by simp, ?_⟩
        intro name hname other hother heq
        rw [List.map_singleton, List.mem_singleton] at hother
        exact hnew (hother ▸ heq ▸ hname) }

def nameAt (log : CommitLog) : Nat → Option String
  | 0 => none
  | n + 1 => log.commits[n]?.map Commit.name

def number? (log : CommitLog) (name : String) : Option Nat :=
  (log.commits.findIdx? fun c => c.name == name).map (· + 1)

def filesAt (log : CommitLog) : Nat → Files
  | 0 => {}
  | n + 1 => (log.commits[n]?.map Commit.files).getD {}

def textAt (log : CommitLog) (n : Nat) (path : String) : Option (List UInt8) :=
  (log.filesAt n).contents.lookup path

def Changes (log : CommitLog) (n : Nat) (path : String) : Prop :=
  log.textAt (n - 1) path ≠ log.textAt n path

instance (log : CommitLog) (n : Nat) (path : String) : Decidable (log.Changes n path) :=
  inferInstanceAs (Decidable (log.textAt (n - 1) path ≠ log.textAt n path))

section Growth

private theorem add_eq (c : Commit) (log : CommitLog) :
    ∃ later, (log.add c).commits = log.commits ++ later := by
  unfold add
  split
  · exact ⟨[], (List.append_nil _).symm⟩
  · exact ⟨[c], rfl⟩

theorem size_le_add (c : Commit) (log : CommitLog) : log.size ≤ (log.add c).size := by
  obtain ⟨later, heq⟩ := log.add_eq c
  simp [size, heq]

private theorem commits_add (c : Commit) (h : n < log.size) :
    (log.add c).commits[n]? = log.commits[n]? := by
  obtain ⟨later, heq⟩ := log.add_eq c
  rw [heq, List.getElem?_append_left h]

theorem nameAt_add (c : Commit) (h : n ≤ log.size) : (log.add c).nameAt n = log.nameAt n := by
  cases n with
  | zero => rfl
  | succ n => rw [nameAt, commits_add c h, nameAt]

theorem textAt_add (c : Commit) (h : n ≤ log.size) (path : String) :
    (log.add c).textAt n path = log.textAt n path := by
  cases n with
  | zero => rfl
  | succ n => rw [textAt, filesAt, commits_add c h, textAt, filesAt]

end Growth

/-- Where no commit changes a file, its text stays. -/
theorem textAt_eq_of_unchanged {start stop : Nat} (hle : start ≤ stop)
    (h : ∀ n, start < n → n ≤ stop → ¬log.Changes n path) :
    log.textAt start path = log.textAt stop path := by
  induction stop with
  | zero => rw [Nat.le_zero.mp hle]
  | succ stop ih =>
      rcases Nat.lt_or_eq_of_le hle with hlt | heq
      · have hlast : log.textAt stop path = log.textAt (stop + 1) path :=
          Decidable.not_not.mp (h (stop + 1) hlt (Nat.le_refl _))
        rw [← hlast]
        exact ih (by omega) fun n hn hstop => h n hn (by omega)
      · rw [heq]

/-- A file whose text stays but for one commit has another text after it. -/
theorem textAt_ne_of_changes {start stop : Nat} (hstart : start < n) (hstop : n ≤ stop)
    (hchanges : log.Changes n path)
    (h : ∀ m, start < m → m ≤ stop → m ≠ n → ¬log.Changes m path) :
    log.textAt start path ≠ log.textAt stop path := by
  have hbefore : log.textAt start path = log.textAt (n - 1) path :=
    textAt_eq_of_unchanged (by omega) fun m hm hn => h m hm (by omega) (by omega)
  have hafter : log.textAt n path = log.textAt stop path :=
    textAt_eq_of_unchanged hstop fun m hm hn => h m (by omega) hn (by omega)
  rw [hbefore, ← hafter]
  exact hchanges

section Names

theorem base?_nameAt (log : CommitLog) (n : Nat) : Git.base? (log.nameAt n) = log.nameAt n := by
  cases hname : log.nameAt n with
  | none => rfl
  | some name =>
      have hne : name ≠ "" := by
        cases n with
        | zero => cases hname
        | succ n =>
            obtain ⟨c, -, rfl⟩ := Option.map_eq_some_iff.mp hname
            exact c.name_ne_empty
      simp [Git.base?, hne]

/-- A commit is found by its name, since no other one has it. -/
theorem number?_nameAt {name : String} (h : log.nameAt n = some name) :
    log.number? name = some n := by
  cases n with
  | zero => cases h
  | succ n =>
      obtain ⟨c, hc, rfl⟩ := Option.map_eq_some_iff.mp h
      obtain ⟨hn, hget⟩ := List.getElem?_eq_some_iff.mp hc
      have hfound : (log.commits.findIdx? fun other => other.name == c.name) = some n := by
        rw [List.findIdx?_eq_some_iff_getElem]
        refine ⟨hn, by simp [hget], ?_⟩
        intro earlier hearlier hsame
        have hapart := List.pairwise_iff_getElem.mp (List.pairwise_map.mp log.distinct) earlier n
          (by omega) hn hearlier
        rw [hget] at hapart
        exact hapart (eq_of_beq hsame)
      rw [number?, hfound]
      rfl

end Names

section Head

def headAnswer (log : CommitLog) : Git.Answer :=
  match log.nameAt log.size with
  | some name => .read 0 (name.toList ++ ['\n'])
  | none => { code := 128 }

private theorem Commit.trim_name (c : Commit) :
    Text.trim (c.name.toList ++ ['\n']) = c.name.toList := by
  cases hname : c.name.toList with
  | nil => exact absurd (String.toList_eq_nil_iff.mp hname) c.name_ne_empty
  | cons first rest =>
      have hplain : ∀ d ∈ first :: rest, Text.isBlank d = false := by
        simpa [hname] using c.name_not_blank
      have hfirst := hplain first List.mem_cons_self
      have hend : Text.dropEndWhile Text.isBlank ['\n'] = [] := by decide
      have hlast : (first :: rest).getLast? = some ((first :: rest).getLast (by simp)) :=
        List.getLast?_eq_some_getLast (by simp)
      rw [Text.trim, Text.trimWhile, List.cons_append,
        List.dropWhile_cons_of_neg (by simp [hfirst]), ← List.cons_append,
        Text.dropEndWhile_append, hend]
      exact Text.dropEndWhile_eq_self_iff.mpr (by simpa [hlast] using hplain _ (List.getLast_mem _))

/-- A name has no blank, and so no carriage return. -/
private theorem Commit.unixLines_name (c : Commit) :
    Text.unixLines (c.name.toList ++ ['\n']) = c.name.toList ++ ['\n'] := by
  have hreturn : '\r' ∉ c.name.toList := by
    intro member
    have hplain : ∀ d ∈ c.name.toList, Text.isBlank d = false := by simpa using c.name_not_blank
    exact absurd (hplain _ member) (by decide)
  rw [Text.unixLines_append hreturn]
  rfl

/-- The name of the last commit is read as it was printed. -/
theorem currentCommit_headAnswer (log : CommitLog) :
    Git.currentCommit log.headAnswer = log.nameAt log.size := by
  unfold headAnswer
  cases hname : log.nameAt log.size with
  | none => rfl
  | some name =>
      have htrim : Text.trim (Text.unixLines (name.toList ++ ['\n'])) = name.toList := by
        cases hsize : log.size with
        | zero =>
            rw [hsize] at hname
            cases hname
        | succ n =>
            rw [hsize] at hname
            obtain ⟨c, -, rfl⟩ := Option.map_eq_some_iff.mp hname
            rw [Commit.unixLines_name, Commit.trim_name]
      simp [Git.currentCommit, Git.Answer.read, htrim]

end Head

end CommitLog

private theorem Git.eq_of_base? {since : Option String} {name : String}
    (h : Git.base? since = some name) : since = some name := by
  cases since with
  | none => cases h
  | some commit =>
      cases hempty : commit.isEmpty with
      | true => simp [base?, hempty] at h
      | false => simpa [base?, hempty] using h

/-- How version control compares two trees: it gives each file that differs with its status, in an
order of its own. -/
structure VersionControl where
  differences : Files → Files → List Change
  mem_differences_iff : ∀ old new change,
    change ∈ differences old new ↔ Files.changeAt old new change.path = some change.status

namespace VersionControl

def byPath : VersionControl where
  differences old new :=
    (new.paths ++ old.paths.filter fun path => !new.paths.contains path).filterMap fun path =>
      (Files.changeAt old new path).map fun status => ⟨path, status⟩
  mem_differences_iff := by
    intro old new change
    rw [List.mem_filterMap]
    constructor
    · rintro ⟨path, -, hpath⟩
      obtain ⟨status, hstatus, rfl⟩ := Option.map_eq_some_iff.mp hpath
      exact hstatus
    · intro hstatus
      refine ⟨change.path, ?_, by rw [hstatus]; rfl⟩
      by_cases hnew : change.path ∈ new.paths
      · exact List.mem_append_left _ hnew
      · have hold := (Files.mem_paths_or_of_changeAt hstatus).resolve_right hnew
        refine List.mem_append_right _ (List.mem_filter.mpr ⟨hold, ?_⟩)
        simpa using hnew

variable {vc : VersionControl} {log : CommitLog} {since : Option String} {n : Nat}

/-- What is printed when the last commit is compared with one that is given by its name. -/
def diffAnswer (vc : VersionControl) (log : CommitLog) (since : Option String) : Git.Answer :=
  match since.bind log.number? with
  | some n => .read 0 (Git.report (vc.differences (log.filesAt n) (log.filesAt log.size)))
  | none => { code := 128 }

theorem mem_map_path_differences_iff (vc : VersionControl) (log : CommitLog) (start stop : Nat)
    (path : String) :
    path ∈ (vc.differences (log.filesAt start) (log.filesAt stop)).map Change.path ↔
      log.textAt start path ≠ log.textAt stop path := by
  rw [List.mem_map]
  constructor
  · rintro ⟨change, member, rfl⟩ hsame
    have hstatus := (vc.mem_differences_iff _ _ change).mp member
    rw [Files.changeAt_of_lookup_eq hsame] at hstatus
    cases hstatus
  · intro hne
    cases hstatus : Files.changeAt (log.filesAt start) (log.filesAt stop) path with
    | none => exact absurd (Files.lookup_eq_of_changeAt hstatus) hne
    | some status => exact ⟨⟨path, status⟩, (vc.mem_differences_iff _ _ _).mpr hstatus, rfl⟩

private theorem paths_plain (log : CommitLog) (n : Nat) (path : String)
    (h : path ∈ (log.filesAt n).paths) : Git.isPlain path = true ∧ path ≠ "" := by
  cases n with
  | zero => cases h
  | succ n =>
      cases hc : log.commits[n]? with
      | none => simp [CommitLog.filesAt, hc, Files.paths] at h
      | some c =>
          simp only [CommitLog.filesAt, hc, Option.map_some, Option.getD_some] at h
          exact c.paths_plain path h

/-- The changes since a known commit are the differences from its files. -/
theorem changesSince_diffAnswer (h : (Git.base? since).bind log.number? = some n)
    (files : List String) :
    Git.changesSince files since (vc.diffAnswer log since) =
      .ok (vc.differences (log.filesAt n) (log.filesAt log.size)) := by
  cases hbase : Git.base? since with
  | none =>
      rw [hbase] at h
      cases h
  | some name =>
      rw [hbase, ← Git.eq_of_base? hbase] at h
      have hplain : ∀ change ∈ vc.differences (log.filesAt n) (log.filesAt log.size),
          Git.isPlain change.path = true ∧ change.path ≠ "" := by
        intro change member
        have hstatus := (vc.mem_differences_iff _ _ change).mp member
        rcases Files.mem_paths_or_of_changeAt hstatus with hold | hnew
        · exact paths_plain log n change.path hold
        · exact paths_plain log log.size change.path hnew
      simp only [Git.changesSince, hbase, diffAnswer, h, Git.Answer.read, String.toList_ofList,
        ↓reduceIte]
      exact Git.changesOf_unixLines_report hplain

/-- Where the commit is not known, all files are scanned. -/
theorem scans_diffAnswer (h : (Git.base? since).bind log.number? = none) :
    Git.Scans since (vc.diffAnswer log since) := by
  cases hbase : Git.base? since with
  | none => exact Or.inl hbase
  | some name =>
      rw [hbase, ← Git.eq_of_base? hbase] at h
      refine Or.inr ?_
      simp [diffAnswer, h]

end VersionControl

end CodeIndex
