import CodeIndex.Embedding.Embedder
import CodeIndex.Worker.Cycle

/-!
The start of the server: the project is looked at, the parts are put together, and a first full
cycle is run.
-/

namespace CodeIndex.Server

/-- Why the server does not start. -/
inductive StartFailure where
  | notRepository
  | entry (failure : ReadFailure)
  | embedder (failure : UnknownEmbedder)
  | rules (failure : RulesFailure)
  | cycle (failure : CycleFailure)
  deriving DecidableEq, Repr

/-- What the server is started on. -/
structure Surroundings where
  files : Files
  settings : Settings
  /-- The answer to the question whether there is a repository. -/
  repository : Git.Answer
  diff : Git.Answer
  head : Git.Answer

/-- The parts of the server that the settings ask for. -/
def workspace (s : Surroundings) : Workspace :=
  { files := s.files
    settings := s.settings
    window := ⟨s.settings.chunkSize, s.settings.chunkOverlap⟩
    analyzer := if s.settings.enableAnalysis then some .tree else none
    summarizes := s.settings.enableSummaries
    faults := { nameable := some rowsNameable }
    diff := s.diff
    head := s.head }

/-- Starts the server up to its first pause. The files are those that the attempt leaves. -/
def start (s : Surroundings) : Except StartFailure Worker × Workspace :=
  if s.repository.code ≠ 0 then (.error .notRepository, workspace s)
  else
    match s.files.addEntry with
    | .error failure => (.error (.entry failure), workspace s)
    | .ok files =>
      let w := workspace { s with files }
      match Embedder.load s.settings.embedderType s.settings.embedderModel (.best false false) with
      | .error failure => (.error (.embedder failure), w)
      | .ok _ =>
        match Worker.create s.settings files with
        | .error failure => (.error (.rules failure), w)
        | .ok worker =>
          match w.cycle true worker with
          | (.error failure, w) => (.error (.cycle failure), w)
          | (.ok worker, w) => (.ok worker, w)

end CodeIndex.Server
