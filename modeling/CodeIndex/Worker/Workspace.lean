import CodeIndex.Chunk.Window
import CodeIndex.Index.Update
import CodeIndex.Language.Grammar
import CodeIndex.Project.Git
import CodeIndex.Source.Outline
import CodeIndex.Worker.Basic

/-!
A project with its index, and all that the index is built with: the settings, the answers of version
control, the trees that a parser gives, and what goes wrong.
-/

namespace CodeIndex

/-- How files are analysed. -/
inductive AnalyzerKind where
  /-- By the text of Python files. -/
  | source
  /-- By concrete trees. -/
  | tree
  /-- Not at all, since the analysis breaks. -/
  | broken
  deriving DecidableEq, Repr

/-- What goes wrong, with the messages of those who fail. -/
structure Faults where
  split : Option String := none
  insert : Option String := none
  search : Option String := none
  parse : Option String := none
  /-- A file that is lost as soon as a text of it is stored. -/
  lost : Option String := none
  /-- How the tables of texts answer when they do not fail. -/
  answer : Insertion := .listed
  /-- The most rows that a command can name, if there is a limit. -/
  nameable : Option Nat := none
  deriving DecidableEq, Repr

structure Workspace where
  files : Files := {}
  settings : Settings := {}
  /-- The window that texts are cut by, unless there is another splitter. -/
  window : Window
  splitter : Splitter := window.splitter
  analyzer : Option AnalyzerKind
  summarizes : Bool := true
  /-- The order in which this run of the program lists sets of names. -/
  order : Summary.SetOrder := .ascending
  /-- The trees of texts, the newest first. -/
  trees : List (String × Concrete.Tree) := []
  faults : Faults := {}
  /-- The answer to the comparison with a commit. -/
  diff : Git.Answer := {}
  /-- The answer to the question for the current commit. -/
  head : Git.Answer := {}
  index : Index := {}
  /-- The commands given to version control, the first one first. -/
  commands : List Git.Command := []

namespace Workspace

/-- The answer of the parser to a text. -/
def parse (w : Workspace) (content : String) : Except String Concrete.Tree :=
  match w.faults.parse with
  | some message => .error message
  | none =>
    match w.trees.lookup content with
    | some tree => .ok tree
    | none => .error "no tree"

def analyze (w : Workspace) (kind : AnalyzerKind) (path content : String) :
    Except String Analysis :=
  match kind with
  | .source => .ok (Source.analyze path content)
  | .tree => .ok (Concrete.analyze path content (w.parse content))
  | .broken => .error "broken"

def insertion (w : Workspace) : Insertion :=
  match w.faults.insert with
  | some message => .fails message
  | none => w.faults.answer

/-- What the files of the project are indexed with. -/
def indexer (w : Workspace) : Indexer :=
  { settings := w.settings
    splitter :=
      match w.faults.split with
      | some message => w.splitter.failing message
      | none => w.splitter
    analyzer := w.analyzer.map w.analyze
    insertion := w.insertion
    nameable := w.faults.nameable
    summarizes := w.summarizes
    order := w.order }

/-- Loses the file that is lost when a text of it is stored. -/
def stored (path : String) (w : Workspace) : Workspace :=
  if w.insertion matches .fails _ then w
  else if w.faults.lost == some path then { w with files := w.files.remove path }
  else w

def indexFile (path : String) (w : Workspace) : Bool × Workspace :=
  let outcome := w.index.indexFile w.indexer w.files path
  let w := { w with index := outcome.index }
  (outcome.success, if outcome.stored then w.stored path else w)

/-- Takes a file out of the index. A deletion that fails changes nothing. -/
def deleteFile (path : String) (w : Workspace) : Except StoreFailure Unit × Workspace :=
  match w.index.deleteFile w.faults.nameable path with
  | .ok index => (.ok (), { w with index })
  | .error failure => (.error failure, w)

/-- Stores the summary of a file. -/
def storeSummary (path : String) (summary language : Option String) (lineCount : Int)
    (w : Workspace) : Except IndexFailure Workspace :=
  (w.index.storeSummary w.indexer path summary language lineCount).map fun index =>
    let w := { w with index }
    if w.summarizes then w.stored path else w

def summarizeFiles (tasks : List SummaryTask) (w : Workspace) : Workspace :=
  let summarized := { w with index := w.index.summarizeFiles w.indexer tasks }
  if w.settings.enableSummaries && w.summarizes then
    tasks.foldl (fun last task =>
      match Summary.ofFile w.order task.content task.language with
      | .ok _ => last.stored task.path
      | .error _ => last) summarized
  else summarized

/-- Stores chunks, and gives the numbers of their rows. -/
def addChunks (chunks : List Chunk) (w : Workspace) : Except StoreFailure (List Nat × Workspace) :=
  (w.index.chunkStore.add w.insertion chunks).map fun (ids, chunkStore) =>
    let w := { w with index := { w.index with chunkStore } }
    (ids, match chunks with
      | [] => w
      | first :: _ => w.stored first.filePath)

/-- Stores the summary of a file for search, and gives the number of its row. -/
def addSummary (path summary : String) (w : Workspace) : Option Nat × Workspace :=
  let (id, summaryStore) := w.index.summaryStore.add w.insertion path summary
  (id, ({ w with index := { w.index with summaryStore } }).stored path)

end Workspace

end CodeIndex
