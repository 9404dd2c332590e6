import CodeIndex.Worker.Workspace

/-!
Cycles of the worker.

A cycle asks what has changed, takes deleted files out of the index, indexes the other changed files
that the worker takes, summarizes those that were indexed, and remembers the current commit. It ends
where a file cannot be taken out. A full cycle counts every file as changed. After each pause the
ignore file is read again.
-/

namespace CodeIndex

/-- Why a cycle is not run, or not to its end. -/
inductive CycleFailure where
  | changes (failure : Git.ChangeFailure)
  | rules (failure : RulesFailure)
  | deletion (failure : StoreFailure)
  deriving DecidableEq, Repr

namespace Workspace

/-- The summary task for a file that was indexed, if summaries are wanted, the file can still be
read and its language is known. -/
def summaryTask? (path : String) (w : Workspace) : Option SummaryTask :=
  if w.settings.enableSummaries then
    match w.files.readText path, Language.ofPath? path with
    | .ok content, some language => some ⟨path, content, some language.name⟩
    | _, _ => none
  else none

/-- Why a change cannot be taken up, if the deletion that it asks for fails. -/
def refusal? (w : Workspace) (change : Change) : Option StoreFailure :=
  if change.status = .deleted then
    match (w.deleteFile change.path).1 with
    | .error failure => some failure
    | .ok () => none
  else none

/-- Takes up a change, and collects what is to be summarized. -/
def takeChange (worker : Worker) (state : Workspace × List SummaryTask) (change : Change) :
    Workspace × List SummaryTask :=
  let (w, tasks) := state
  if change.status = .deleted then ((w.deleteFile change.path).2, tasks)
  else if worker.accepts w.settings change.path then
    match w.indexFile change.path with
    | (true, w) => (w, tasks ++ (w.summaryTask? change.path).toList)
    | (false, w) => (w, tasks)
  else (w, tasks)

/-- Takes up changes one after the other, up to one that cannot be taken up. -/
def takeEach (worker : Worker) :
    List Change → Workspace × List SummaryTask →
      Option StoreFailure × Workspace × List SummaryTask
  | [], state => (none, state)
  | change :: later, state =>
    match state.1.refusal? change with
    | some failure => (some failure, state)
    | none => takeEach worker later (takeChange worker state change)

/-- Takes up changes, and if all of them could be taken up, summarizes the files that were
indexed. -/
def takeChanges (worker : Worker) (changes : List Change) (w : Workspace) :
    Option StoreFailure × Workspace :=
  match takeEach worker changes (w, []) with
  | (some failure, w, _) => (some failure, w)
  | (none, w, tasks) => (none, if tasks.isEmpty then w else w.summarizeFiles tasks)

/-- Notes a command. -/
def note (commands : List Git.Command) (w : Workspace) : Workspace :=
  { w with commands := w.commands ++ commands }

/-- A cycle, full or from the commit of the last one on. A cycle that does not learn the changes
does nothing but ask for them, and one that cannot take up a change ends there. -/
def cycle (full : Bool) (worker : Worker) (w : Workspace) :
    Except CycleFailure Worker × Workspace :=
  let since := if full then none else worker.lastCommit
  let w := w.note (Git.changeCommands since)
  match Git.changesSince w.files.paths since w.diff with
  | .error failure => (.error (.changes failure), w)
  | .ok changes =>
    match w.takeChanges worker changes with
    | (some failure, w) => (.error (.deletion failure), w)
    | (none, w) =>
      (.ok { worker with lastCommit := Git.currentCommit w.head }, w.note [Git.headCommand])

/-- What follows a pause: the ignore file is read again and a cycle run. Whatever fails, the worker
goes on as it was. -/
def wake (worker : Worker) (w : Workspace) : Worker × Workspace :=
  match worker.reload w.files with
  | .error _ => (worker, w)
  | .ok worker =>
    match w.cycle false worker with
    | (.ok worker, w) => (worker, w)
    | (.error _, w) => (worker, w)

/-- The pauses of a worker, in each of which something happens, and the cycle after each of them: the
seconds of every pause with what came of it. -/
def pauses {α : Type} :
    List (Worker × Workspace → α × Worker × Workspace) → Worker → Workspace →
      List (Int × α) × Worker × Workspace
  | [], worker, w => ([], worker, w)
  | event :: events, worker, w =>
    let seconds := w.settings.indexInterval
    let (outcome, worker, w) := event (worker, w)
    let (worker, w) := w.wake worker
    let (later, worker, w) := pauses events worker w
    ((seconds, outcome) :: later, worker, w)

/-- The run of a worker: a full cycle, then the pauses. -/
def run {α : Type} (events : List (Worker × Workspace → α × Worker × Workspace)) (worker : Worker)
    (w : Workspace) : Except CycleFailure (List (Int × α) × Worker) × Workspace :=
  match w.cycle true worker with
  | (.error failure, w) => (.error failure, w)
  | (.ok worker, w) =>
    let (outcomes, worker, w) := pauses events worker w
    (.ok (outcomes, worker), w)

end Workspace

end CodeIndex
