import CodeIndex.Proofs.CommitLog

/-!
Commits that are made while a cycle is at work.

A cycle asks for its changes when it starts, and for the current commit when all of them are taken
up. The next cycle compares with that commit. What is committed between the two questions lies
behind the list of the one cycle, and before the commit from which the other one compares. So the
ranges of consecutive comparisons do not overlap, but there may be a gap between them, and a change
that was committed there is listed by neither.

The steps of a cycle are those of `Workspace.cycle`, taken apart so that anything can happen between
two of them. A cycle that a failing deletion ends leaves the worker as it was, and its list does not
count.
-/

namespace CodeIndex

/-- The changes that a cycle has asked for. -/
structure Listing where
  /-- The number of commits when the changes were asked for. -/
  size : Nat
  /-- The number of the commit they are compared with, unless it was a scan. -/
  since : Option Nat
  paths : List String
  /-- The number of commits when the cycle asked for the current one, once it has. -/
  asked : Option Nat := none
  deriving DecidableEq, Repr

inductive Phase where
  /-- No cycle is at work. -/
  | idle
  /-- It takes up changes, and has collected files to summarize. -/
  | taking (changes : List Change) (tasks : List SummaryTask)
  /-- It asks for the current commit. -/
  | asking
  /-- It remembers the commit for the next cycle. -/
  | remembering (commit : Option String)

inductive Event where
  | commit (c : Commit)
  /-- The files change, or anything else around the index. -/
  | surroundings (after : Workspace)
  /-- The ignore file is read again. -/
  | reload
  /-- A cycle starts, unless one is at work. -/
  | start (full : Bool)
  /-- The cycle at work makes its next step. -/
  | work

structure Course where
  commits : CommitLog
  workspace : Workspace
  worker : Worker
  phase : Phase := .idle
  /-- What the cycles have listed, the newest first, but for those that a failing deletion ended. -/
  listings : List Listing := []

namespace Course

def initial (commits : CommitLog) (workspace : Workspace) (rules : Option Ignore.Rules)
    (suffixes : List String) : Course :=
  { commits, workspace, worker := { rules, suffixes } }

section Steps

variable (vc : VersionControl) (c : Course)

def base (full : Bool) : Option String :=
  if full then none else c.worker.lastCommit

def answered (full : Bool) : Workspace :=
  c.workspace.answering (vc.diffAnswer c.commits (c.base full)) c.commits.headAnswer

def start (full : Bool) : Course :=
  let w := c.answered vc full
  let asked := { c with workspace := w.asked full c.worker }
  match w.learned full c.worker with
  | .error _ => asked
  | .ok changes =>
    { asked with
      phase := .taking changes []
      listings :=
        { size := c.commits.size
          since := (Git.base? (c.base full)).bind c.commits.number?
          paths := changes.map Change.path } :: c.listings }

def work : Course :=
  match c.phase with
  | .idle => c
  | .taking (change :: later) tasks =>
    match c.workspace.refusal? change with
    | some _ => { c with phase := .idle, listings := c.listings.tail }
    | none =>
      let (workspace, tasks) := Workspace.takeChange c.worker (c.workspace, tasks) change
      { c with workspace, phase := .taking later tasks }
  | .taking [] tasks =>
    { c with
      workspace := if tasks.isEmpty then c.workspace else c.workspace.summarizeFiles tasks
      phase := .asking }
  | .asking =>
    let head := c.commits.headAnswer
    { c with
      workspace := ({ c.workspace with head }).note [Git.headCommand]
      phase := .remembering (Git.currentCommit head)
      listings := c.listings.modifyHead fun last => { last with asked := some c.commits.size } }
  | .remembering commit =>
    { c with worker := { c.worker with lastCommit := commit }, phase := .idle }

def step : Event → Course
  | .commit commit => { c with commits := c.commits.add commit }
  | .surroundings after => { c with workspace := { after with index := c.workspace.index } }
  | .reload =>
    match c.worker.reload c.workspace.files with
    | .ok worker => { c with worker }
    | .error _ => c
  | .start full =>
    match c.phase with
    | .idle => c.start vc full
    | _ => c
  | .work => c.work

def run (events : List Event) : Course :=
  events.foldl (fun c event => c.step vc event) c

end Steps

section Cycle

variable {vc : VersionControl} {c : Course} {changes : List Change} {full : Bool}

private theorem run_idle (vc : VersionControl) (hphase : c.phase = .idle) (count : Nat) :
    c.run vc (List.replicate count .work) = c := by
  have hwork : c.work = c := by simp [work, hphase]
  induction count with
  | zero => rfl
  | succ count ih =>
      rw [List.replicate_succ, run, List.foldl_cons, step, hwork]
      exact ih

/-- The steps in which changes are taken up are those of a cycle. -/
private theorem run_taking (vc : VersionControl) (c : Course) (changes : List Change)
    (tasks : List SummaryTask) (hphase : c.phase = .taking changes tasks) :
    c.run vc (List.replicate (changes.length + 1) .work) =
      match Workspace.takeEach c.worker changes (c.workspace, tasks) with
      | (some _, last) =>
        { c with workspace := last.1, phase := .idle, listings := c.listings.tail }
      | (none, last) =>
        { c with
          workspace := if last.2.isEmpty then last.1 else last.1.summarizeFiles last.2
          phase := .asking } := by
  induction changes generalizing c tasks with
  | nil => simp [run, step, work, hphase, Workspace.takeEach]
  | cons change later ih =>
      rw [List.length_cons, List.replicate_succ, run, List.foldl_cons, Workspace.takeEach]
      cases hrefusal : c.workspace.refusal? change with
      | some failure =>
          have hstep : c.step vc .work =
              { c with phase := .idle, listings := c.listings.tail } := by
            simp [step, work, hphase, hrefusal]
          rw [hstep]
          exact run_idle vc rfl _
      | none =>
          have hstep : c.step vc .work =
              let next := Workspace.takeChange c.worker (c.workspace, tasks) change
              { c with workspace := next.1, phase := .taking later next.2 } := by
            simp [step, work, hphase, hrefusal]
          rw [hstep]
          exact ih _ _ rfl

/-- A cycle that starts and is not interrupted does what `Workspace.cycle` does. -/
theorem run_uninterrupted (hphase : c.phase = .idle)
    (hlearned : (c.answered vc full).learned full c.worker = .ok changes) :
    let last := c.run vc (.start full :: List.replicate (changes.length + 3) .work)
    (c.answered vc full).cycle full c.worker = (.ok last.worker, last.workspace) ∨
      ∃ failure, (c.answered vc full).cycle full c.worker =
        (.error (.deletion failure), last.workspace) ∧ last.worker = c.worker := by
  intro last
  let asked := (c.answered vc full).asked full c.worker
  have hstart : c.step vc (.start full) =
      { c with
        workspace := asked
        phase := .taking changes []
        listings :=
          { size := c.commits.size
            since := (Git.base? (c.base full)).bind c.commits.number?
            paths := changes.map Change.path } :: c.listings } := by
    simp only [step, hphase, start, hlearned]
    rfl
  have hlast : last = ((c.step vc (.start full)).run vc
      (List.replicate (changes.length + 1) .work)).work.work := by
    have hevents : List.replicate (changes.length + 3) Event.work =
        List.replicate (changes.length + 1) .work ++ [.work, .work] :=
      (List.replicate_append_replicate (n := changes.length + 1) (m := 2)).symm
    simp only [last, run, hevents, List.foldl_cons, List.foldl_append, List.foldl_nil]
    rfl
  have htaken := run_taking vc (c.step vc (.start full)) changes [] (by rw [hstart])
  rw [hstart] at htaken hlast
  rw [Workspace.cycle_of_learned hlearned, hlast, htaken]
  have hcontinues := Workspace.takeChanges_continues c.worker changes asked
  unfold Workspace.takeChanges at hcontinues ⊢
  cases heach : Workspace.takeEach c.worker changes (asked, []) with
  | mk refusal taken =>
      cases refusal with
      | some failure => exact Or.inr ⟨failure, rfl, rfl⟩
      | none =>
          -- No commit comes between, so the current commit is asked for as it was at the start.
          rw [heach] at hcontinues
          let after := if taken.2.isEmpty then taken.1 else taken.1.summarizeFiles taken.2
          have hhead : after.head = c.commits.headAnswer := hcontinues.head
          have hafter : { after with head := c.commits.headAnswer } = after := by rw [← hhead]
          refine Or.inl (Prod.ext ?_ ?_)
          · let remember (head : Git.Answer) : Except CycleFailure Worker :=
              .ok { c.worker with lastCommit := Git.currentCommit head }
            exact congrArg remember hhead
          · exact congrArg (Workspace.note [Git.headCommand]) hafter.symm

end Cycle

end Course

namespace Listing

variable {earlier later last : Listing} {before : List Listing} {commits : CommitLog} {n : Nat}

/-- One cycle is followed by another. The second one starts after the first one has asked for the
current commit, and if it compares, it compares with that commit. -/
def Precedes (earlier later : Listing) : Prop :=
  ∃ n, earlier.asked = some n ∧ earlier.size ≤ n ∧ n ≤ later.size ∧
    ∀ start, later.since = some start → start = n

def Linked : List Listing → Prop
  | [] => True
  | [first] => first.since = none
  | later :: earlier :: rest => earlier.Precedes later ∧ Linked (earlier :: rest)

private theorem Linked.tail {listings : List Listing} (h : Linked listings) :
    Linked listings.tail := by
  match listings with
  | [] => trivial
  | [_] => trivial
  | _ :: _ :: _ => exact h.2

private theorem Linked.of_append {newer : List Listing} (h : Linked (newer ++ before)) :
    Linked before := by
  induction newer with
  | nil => exact h
  | cons _ _ ih => exact ih h.tail

private theorem Linked.size_le (h : Linked (last :: before)) (earlier : Listing)
    (member : earlier ∈ before) : earlier.size ≤ last.size := by
  induction before generalizing last with
  | nil => cases member
  | cons next rest ih =>
      obtain ⟨⟨n, -, hn, hlast, -⟩, hrest⟩ := h
      rcases List.mem_cons.mp member with rfl | hmember
      · omega
      · have hnext := ih hrest hmember
        omega

/-- The commit that a cycle compares with is the one that the cycle before it asked for. -/
theorem Linked.since (h : Linked (last :: before)) (hsince : last.since = some n) :
    ∃ earlier rest, before = earlier :: rest ∧ earlier.asked = some n ∧ earlier.size ≤ n ∧
      n ≤ last.size := by
  cases before with
  | nil =>
      have hnone : last.since = none := h
      rw [hsince] at hnone
      cases hnone
  | cons earlier rest =>
      obtain ⟨⟨m, hasked, hsize, hlast, hstart⟩, -⟩ := h
      rw [← hstart n hsince] at hasked hsize hlast
      exact ⟨earlier, rest, rfl, hasked, hsize, hlast⟩

/-- No comparison reaches back behind what was listed before. -/
private theorem Linked.size_le_since (h : Linked (last :: before)) (hsince : last.since = some n)
    (member : earlier ∈ before) : earlier.size ≤ n := by
  obtain ⟨next, rest, rfl, -, hnext, -⟩ := h.since hsince
  rcases List.mem_cons.mp member with rfl | hmember
  · exact hnext
  · exact Nat.le_trans (h.tail.size_le earlier hmember) hnext

/-- The list is of commits that were there, and a comparison names the files whose text is another
one in the last of them. -/
structure Tells (commits : CommitLog) (listing : Listing) : Prop where
  size_le : listing.size ≤ commits.size
  paths : ∀ n, listing.since = some n → n ≤ listing.size ∧
    ∀ path, path ∈ listing.paths ↔ commits.textAt n path ≠ commits.textAt listing.size path

/-- What is listed stays true of the commits that were there. -/
theorem Tells.add (h : last.Tells commits) (commit : Commit) : last.Tells (commits.add commit) := by
  refine ⟨Nat.le_trans h.size_le (commits.size_le_add commit), ?_⟩
  intro n hn
  obtain ⟨hle, hpaths⟩ := h.paths n hn
  refine ⟨hle, ?_⟩
  intro path
  rw [CommitLog.textAt_add commit (Nat.le_trans hle h.size_le),
    CommitLog.textAt_add commit h.size_le]
  exact hpaths path

/-- A comparison does not name a file that no commit in its range changes. -/
private theorem Tells.not_mem_paths (h : last.Tells commits) (hsince : last.since = some n)
    {path : String} (hunchanged : ∀ i, n < i → i ≤ last.size → ¬commits.Changes i path) :
    path ∉ last.paths := by
  obtain ⟨hle, hpaths⟩ := h.paths n hsince
  rw [hpaths, Decidable.not_not]
  exact CommitLog.textAt_eq_of_unchanged hle hunchanged

end Listing

namespace Course

section Invariant

variable {vc : VersionControl} {c : Course}

/-- The name of a commit is that of the current commit when the newest cycle asked for it. -/
def Recalls (commits : CommitLog) (commit : Option String) : List Listing → Prop
  | [] => commit = none
  | last :: _ => ∃ n, last.asked = some n ∧ last.size ≤ n ∧ n ≤ commits.size ∧
    commit = commits.nameAt n

private theorem Recalls.add {commits : CommitLog} {commit : Option String} {listings : List Listing}
    (h : Recalls commits commit listings) (new : Commit) :
    Recalls (commits.add new) commit listings := by
  cases listings with
  | nil => exact h
  | cons last rest =>
      obtain ⟨n, hasked, hlast, hn, hname⟩ := h
      refine ⟨n, hasked, hlast, Nat.le_trans hn (commits.size_le_add new), ?_⟩
      rw [hname, CommitLog.nameAt_add new hn]

/-- What holds between any two steps of a cycle. -/
structure Inv (c : Course) : Prop where
  linked : Listing.Linked c.listings
  tells : ∀ listing ∈ c.listings, listing.Tells c.commits
  phase : match c.phase with
    | .idle => Recalls c.commits c.worker.lastCommit c.listings
    | .taking _ _ | .asking =>
      c.listings ≠ [] ∧ Recalls c.commits c.worker.lastCommit c.listings.tail
    | .remembering commit => Recalls c.commits commit c.listings

private theorem inv_initial (commits : CommitLog) (workspace : Workspace)
    (rules : Option Ignore.Rules) (suffixes : List String) :
    (initial commits workspace rules suffixes).Inv where
  linked := trivial
  tells _ member := by cases member
  phase := rfl

/-- A commit at any time does not disturb what the cycles have listed. -/
theorem Inv.commit (h : c.Inv) (new : Commit) : ({ c with commits := c.commits.add new }).Inv where
  linked := h.linked
  tells listing member := (h.tells listing member).add new
  phase := by
    have hphase := h.phase
    cases hcase : c.phase with
    | idle =>
        simp only [hcase] at hphase ⊢
        exact hphase.add new
    | taking changes tasks =>
        simp only [hcase] at hphase ⊢
        exact ⟨hphase.1, hphase.2.add new⟩
    | asking =>
        simp only [hcase] at hphase ⊢
        exact ⟨hphase.1, hphase.2.add new⟩
    | remembering commit =>
        simp only [hcase] at hphase ⊢
        exact hphase.add new

/-- The commit that a cycle compares with is the one that the cycle before it asked for. -/
private theorem Inv.since_eq (h : c.Inv) (hphase : c.phase = .idle) (full : Bool) {n : Nat}
    (hsince : (Git.base? (c.base full)).bind c.commits.number? = some n) :
    n ≤ c.commits.size ∧ ∃ last rest, c.listings = last :: rest ∧ last.asked = some n := by
  have hrecalls := h.phase
  simp only [hphase] at hrecalls
  cases full with
  | true => cases hsince
  | false =>
      have hbase : c.base false = c.worker.lastCommit := rfl
      rw [hbase] at hsince
      cases hlistings : c.listings with
      | nil =>
          rw [hlistings] at hrecalls
          rw [hrecalls] at hsince
          cases hsince
      | cons last rest =>
          rw [hlistings] at hrecalls
          obtain ⟨m, hasked, -, hm, hname⟩ := hrecalls
          rw [hname, CommitLog.base?_nameAt] at hsince
          obtain ⟨name, hfound, hnumber⟩ := Option.bind_eq_some_iff.mp hsince
          rw [CommitLog.number?_nameAt hfound] at hnumber
          cases hnumber
          exact ⟨hm, last, rest, rfl, hasked⟩

private theorem Inv.linked_cons (h : c.Inv) (hphase : c.phase = .idle) (full : Bool)
    (listing : Listing) (hsize : listing.size = c.commits.size)
    (hsince : listing.since = (Git.base? (c.base full)).bind c.commits.number?) :
    Listing.Linked (listing :: c.listings) := by
  have hrecalls := h.phase
  simp only [hphase] at hrecalls
  have hcompares (n : Nat) (hn : listing.since = some n) :
      n ≤ c.commits.size ∧ ∃ last rest, c.listings = last :: rest ∧ last.asked = some n :=
    h.since_eq hphase full (hsince.symm.trans hn)
  have hlinked := h.linked
  cases hlistings : c.listings with
  | nil =>
      cases hn : listing.since with
      | none => exact hn
      | some n =>
          obtain ⟨-, last, rest, heq, -⟩ := hcompares n hn
          rw [hlistings] at heq
          cases heq
  | cons last rest =>
      rw [hlistings] at hrecalls hlinked
      obtain ⟨m, hasked, hlast, hm, -⟩ := hrecalls
      refine ⟨⟨m, hasked, hlast, hsize ▸ hm, ?_⟩, hlinked⟩
      intro n hn
      obtain ⟨-, _, _, heq, hagain⟩ := hcompares n hn
      rw [hlistings] at heq
      cases heq
      exact Option.some.inj (hagain.symm.trans hasked)

/-- A cycle that starts compares with the commit that the one before it has asked for. -/
theorem Inv.start (h : c.Inv) (hphase : c.phase = .idle) (full : Bool) :
    (c.start vc full).Inv := by
  have hrecalls := h.phase
  simp only [hphase] at hrecalls
  have hlearned : (c.answered vc full).learned full c.worker =
      Git.changesSince c.workspace.files.paths (c.base full)
        (vc.diffAnswer c.commits (c.base full)) := rfl
  have hlinked (paths : List String) := h.linked_cons hphase full
    { size := c.commits.size
      since := (Git.base? (c.base full)).bind c.commits.number?
      paths } rfl rfl
  cases hsince : (Git.base? (c.base full)).bind c.commits.number? with
  | none =>
      rw [(VersionControl.scans_diffAnswer hsince).changesSince] at hlearned
      unfold Course.start
      simp only [hlearned]
      refine ⟨hlinked _, ?_, List.cons_ne_nil _ _, hrecalls⟩
      intro listing member
      rcases List.mem_cons.mp member with rfl | hmember
      · refine ⟨Nat.le_refl _, ?_⟩
        intro n hn
        rw [hsince] at hn
        cases hn
      · exact h.tells listing hmember
  | some n =>
      rw [VersionControl.changesSince_diffAnswer hsince] at hlearned
      unfold Course.start
      simp only [hlearned]
      refine ⟨hlinked _, ?_, List.cons_ne_nil _ _, hrecalls⟩
      intro listing member
      rcases List.mem_cons.mp member with rfl | hmember
      · refine ⟨Nat.le_refl _, ?_⟩
        intro m hm
        rw [hsince] at hm
        cases hm
        exact ⟨(h.since_eq hphase full hsince).1,
          vc.mem_map_path_differences_iff c.commits n c.commits.size⟩
      · exact h.tells listing hmember

private theorem Inv.work (h : c.Inv) : c.work.Inv := by
  have hphase := h.phase
  unfold Course.work
  split
  next => exact h
  next change later tasks hcase =>
    simp only [hcase] at hphase
    cases c.workspace.refusal? change with
    | some failure =>
        exact ⟨h.linked.tail, fun listing member => h.tells listing (List.mem_of_mem_tail member),
          hphase.2⟩
    | none => exact ⟨h.linked, h.tells, hphase⟩
  next tasks hcase =>
    simp only [hcase] at hphase
    exact ⟨h.linked, h.tells, hphase⟩
  next hcase =>
    simp only [hcase] at hphase
    have hlinked := h.linked
    have htells := h.tells
    cases hlistings : c.listings with
    | nil => exact absurd hlistings hphase.1
    | cons last rest =>
        rw [hlistings] at hlinked htells
        have hlast := htells last List.mem_cons_self
        refine ⟨?_, ?_, ?_⟩
        · cases rest with
          | nil => exact hlinked
          | cons earlier others => exact ⟨hlinked.1, hlinked.2⟩
        · intro listing member
          rcases List.mem_cons.mp member with rfl | hmember
          · exact ⟨hlast.size_le, hlast.paths⟩
          · exact htells listing (List.mem_cons_of_mem _ hmember)
        · exact ⟨c.commits.size, rfl, hlast.size_le, Nat.le_refl _,
            c.commits.currentCommit_headAnswer⟩
  next commit hcase =>
    simp only [hcase] at hphase
    exact ⟨h.linked, h.tells, hphase⟩

/-- Each event keeps the invariant, in the middle of a cycle or between two. -/
theorem Inv.step (h : c.Inv) (event : Event) : (c.step vc event).Inv := by
  cases event with
  | commit new => exact h.commit new
  | surroundings after => exact ⟨h.linked, h.tells, h.phase⟩
  | reload =>
      unfold Course.step Worker.reload
      cases c.workspace.files.rules with
      | error failure => exact h
      | ok rules => exact ⟨h.linked, h.tells, h.phase⟩
  | start full =>
      unfold Course.step
      cases hphase : c.phase with
      | idle => exact h.start hphase full
      | taking changes tasks => exact h
      | asking => exact h
      | remembering commit => exact h
  | work => exact h.work

private theorem Inv.run (h : c.Inv) (events : List Event) : (c.run vc events).Inv :=
  List.foldlRecOn (motive := Inv) events (fun c event => c.step vc event) h
    fun _ hlast event _ => hlast.step event

end Invariant

/-- Some time in a course that begins with a worker which has not run before, whatever happens in
it and in whatever order. -/
def Arises (vc : VersionControl) (c : Course) : Prop :=
  ∃ commits w rules suffixes events, c = (initial commits w rules suffixes).run vc events

private theorem Arises.inv {vc : VersionControl} {c : Course} (h : c.Arises vc) : c.Inv := by
  obtain ⟨commits, w, rules, suffixes, events, rfl⟩ := h
  exact (inv_initial commits w rules suffixes).run events

/-- In every interleaving, a comparison names the files whose text in its last commit differs from
that in the commit which the cycle before it asked for at its end. So a change that is committed
after all earlier lists, and not undone, is listed if and only if it comes after that commit. A
change that was committed while the cycle before was at work, between its list and its question for
the current commit, is listed neither by that cycle nor by this one; and by no later comparison, as
long as the file is not changed again. -/
theorem committed_change_is_listed_iff {vc : VersionControl} {c : Course} (h : c.Arises vc)
    {newer before : List Listing} {last : Listing} {n : Nat}
    (hlistings : c.listings = newer ++ last :: before) (hsince : last.since = some n) :
    (∃ earlier rest, before = earlier :: rest ∧ earlier.asked = some n ∧ earlier.size ≤ n) ∧
    n ≤ last.size ∧
    (∀ path, path ∈ last.paths ↔ c.commits.textAt n path ≠ c.commits.textAt last.size path) ∧
    ∀ (i : Nat) (path : String), c.commits.Changes i path → i ≤ last.size →
      (∀ j, n < j → j ≤ last.size → j ≠ i → ¬c.commits.Changes j path) →
      (∀ listing ∈ before, listing.size < i) →
      ((∃ listing ∈ last :: before, i ≤ listing.size ∧ path ∈ listing.paths) ↔ n < i) ∧
      (i ≤ n → (∀ j, last.size < j → j ≤ c.commits.size → ¬c.commits.Changes j path) →
        ∀ listing ∈ newer ++ [last], listing.since ≠ none → path ∉ listing.paths) := by
  have hinv := h.inv
  have hlinked := hinv.linked
  rw [hlistings] at hlinked
  have htells : ∀ listing ∈ newer ++ last :: before, listing.Tells c.commits := by
    rw [← hlistings]
    exact hinv.tells
  have hlast := htells last (by simp)
  obtain ⟨hle, hpaths⟩ := hlast.paths n hsince
  obtain ⟨earlier, rest, hbefore, hasked, hsize, -⟩ := hlinked.of_append.since hsince
  refine ⟨⟨earlier, rest, hbefore, hasked, hsize⟩, hle, hpaths, ?_⟩
  intro i path hchanges hi honly hlate
  have hmissed (hn : i ≤ n) : path ∉ last.paths :=
    hlast.not_mem_paths hsince fun j hj hjlast => honly j hj hjlast (by omega)
  refine ⟨⟨?_, ?_⟩, ?_⟩
  · rintro ⟨listing, member, hafter, hlisted⟩
    rcases List.mem_cons.mp member with rfl | hmember
    · exact Nat.lt_of_not_le fun hn => hmissed hn hlisted
    · have hbehind := hlate listing hmember
      omega
  · intro hn
    refine ⟨last, List.mem_cons_self, hi, (hpaths path).mpr ?_⟩
    exact CommitLog.textAt_ne_of_changes hn hi hchanges honly
  · intro hn hagain listing member hcompares
    rcases List.mem_append.mp member with hnewer | hmember
    · obtain ⟨front, back, rfl⟩ := List.append_of_mem hnewer
      obtain ⟨m, hm⟩ := Option.ne_none_iff_exists'.mp hcompares
      rw [List.append_assoc, List.cons_append] at hlinked
      have hstart : last.size ≤ m := hlinked.of_append.size_le_since hm (by simp)
      have hlisting := htells listing (by simp)
      have hend := hlisting.size_le
      exact hlisting.not_mem_paths hm fun j hj hjlast => hagain j (by omega) (by omega)
    · rw [List.mem_singleton.mp hmember]
      exact hmissed hn

/-- A file is changed and committed after a full cycle. The next cycle compares with the commit that
the first one asked for, and lists the change. -/
theorem commit_between_cycles_is_listed :
    let first : Commit := ⟨"c", { contents := [("a.py", [120])] }, by decide, by decide, by decide⟩
    let second : Commit := ⟨"d", { contents := [("a.py", [121])] }, by decide, by decide, by decide⟩
    let w : Workspace :=
      { files := first.files, window := ⟨40, 10⟩, analyzer := none, summarizes := false }
    let course := (initial ⟨[first], by decide⟩ w none [".py"]).run .byPath
      [.start true, .work, .work, .work, .work, .surroundings { w with files := second.files },
        .commit second, .start false]
    course.listings = [⟨2, some 1, ["a.py"], none⟩, ⟨1, none, ["a.py"], some 1⟩] ∧
      ∃ listing ∈ course.listings, 2 ≤ listing.size ∧ "a.py" ∈ listing.paths := by
  intro first second w course
  have harises : course.Arises .byPath := ⟨_, _, _, _, _, rfl⟩
  have hlistings : course.listings =
      [] ++ ⟨2, some 1, ["a.py"], none⟩ :: [⟨1, none, ["a.py"], some 1⟩] := by
    decide +kernel
  have hchanges : course.commits.Changes 2 "a.py" := by decide +kernel
  have hlisted := (committed_change_is_listed_iff harises hlistings rfl).2.2.2 2 "a.py" hchanges
    (Nat.le_refl 2) (fun j hj (hjlast : j ≤ 2) hne => by omega) (by simp)
  refine ⟨hlistings, ?_⟩
  rw [hlistings]
  exact hlisted.1.mpr (by decide)

/-- A second cycle finds no changes. Before it asks for the current commit, a change is committed.
The third cycle compares with that commit and finds no changes either. The change is in none of the
lists that were taken after it, and the index still has the old text. -/
theorem commit_during_cycle_is_not_listed :
    let first : Commit := ⟨"c", { contents := [("a.py", [120])] }, by decide, by decide, by decide⟩
    let second : Commit := ⟨"d", { contents := [("a.py", [121])] }, by decide, by decide, by decide⟩
    let w : Workspace :=
      { files := first.files, window := ⟨40, 10⟩, analyzer := none, summarizes := false }
    let course := (initial ⟨[first], by decide⟩ w none [".py"]).run .byPath
      [.start true, .work, .work, .work, .work, .start false,
        .surroundings { w with files := second.files }, .commit second, .work, .work, .work,
        .start false]
    course.commits.Changes 2 "a.py" ∧
      course.listings = [⟨2, some 2, [], none⟩, ⟨1, some 1, [], some 2⟩,
        ⟨1, none, ["a.py"], some 1⟩] ∧
      (¬∃ listing ∈ course.listings, 2 ≤ listing.size ∧ "a.py" ∈ listing.paths) ∧
      course.workspace.index.chunkStore.chunks.values.map Chunk.content = ["x"] := by
  decide +kernel

end Course

end CodeIndex
