import CodeIndex.Analysis.Analyzer
import CodeIndex.Analysis.Basic
import CodeIndex.Analysis.Overview
import CodeIndex.Chunk.Basic
import CodeIndex.Chunk.Window
import CodeIndex.Concrete.Extractor
import CodeIndex.Concrete.Script
import CodeIndex.Concrete.Tree
import CodeIndex.Concrete.Walk
import CodeIndex.Embedding.Device
import CodeIndex.Embedding.Embedder
import CodeIndex.Ignore.Entry
import CodeIndex.Ignore.Line
import CodeIndex.Ignore.Pattern
import CodeIndex.Ignore.Rules
import CodeIndex.Index.Analysis
import CodeIndex.Index.Basic
import CodeIndex.Index.Query
import CodeIndex.Index.Stores
import CodeIndex.Index.Table
import CodeIndex.Index.Update
import CodeIndex.Language.Basic
import CodeIndex.Language.Grammar
import CodeIndex.Project.Files
import CodeIndex.Project.Git
import CodeIndex.Project.IgnoreFile
import CodeIndex.Proofs.Admission
import CodeIndex.Proofs.Agreement
import CodeIndex.Proofs.Attribution
import CodeIndex.Proofs.CallGraph
import CodeIndex.Proofs.CallQueries
import CodeIndex.Proofs.Changes
import CodeIndex.Proofs.ChunkCount
import CodeIndex.Proofs.ChunkLines
import CodeIndex.Proofs.ChunkStore
import CodeIndex.Proofs.Coherence
import CodeIndex.Proofs.CommitLog
import CodeIndex.Proofs.Cycle
import CodeIndex.Proofs.Decoding
import CodeIndex.Proofs.DefinitionCount
import CodeIndex.Proofs.Deletion
import CodeIndex.Proofs.Dependencies
import CodeIndex.Proofs.Encoding
import CodeIndex.Proofs.Extraction
import CodeIndex.Proofs.FileSearch
import CodeIndex.Proofs.Files
import CodeIndex.Proofs.Frame
import CodeIndex.Proofs.Idempotence
import CodeIndex.Proofs.IgnoreEntry
import CodeIndex.Proofs.ImportedModules
import CodeIndex.Proofs.Incremental
import CodeIndex.Proofs.Indexing
import CodeIndex.Proofs.Interleaving
import CodeIndex.Proofs.Journal
import CodeIndex.Proofs.LanguageNames
import CodeIndex.Proofs.Lines
import CodeIndex.Proofs.Locality
import CodeIndex.Proofs.Methods
import CodeIndex.Proofs.ModuleDoc
import CodeIndex.Proofs.Nesting
import CodeIndex.Proofs.Offsets
import CodeIndex.Proofs.Order
import CodeIndex.Proofs.Outline
import CodeIndex.Proofs.Ownership
import CodeIndex.Proofs.Preorder
import CodeIndex.Proofs.Rebuild
import CodeIndex.Proofs.Rename
import CodeIndex.Proofs.Report
import CodeIndex.Proofs.Retry
import CodeIndex.Proofs.Run
import CodeIndex.Proofs.Scan
import CodeIndex.Proofs.Script
import CodeIndex.Proofs.Summaries
import CodeIndex.Proofs.SummaryTotal
import CodeIndex.Proofs.Table
import CodeIndex.Proofs.Transaction
import CodeIndex.Proofs.TreeWalk
import CodeIndex.Proofs.Views
import CodeIndex.Proofs.Wildcards
import CodeIndex.Server
import CodeIndex.Settings
import CodeIndex.Source.DocText
import CodeIndex.Source.Expression
import CodeIndex.Source.Grammar
import CodeIndex.Source.Literal
import CodeIndex.Source.Node
import CodeIndex.Source.Outline
import CodeIndex.Source.Parser
import CodeIndex.Source.Pattern
import CodeIndex.Source.Scan
import CodeIndex.Source.Statement
import CodeIndex.Source.Token
import CodeIndex.Summary.Basic
import CodeIndex.Summary.Model
import CodeIndex.Text.Blank
import CodeIndex.Text.Case
import CodeIndex.Text.CodePoint
import CodeIndex.Text.Composition
import CodeIndex.Text.Decomposition
import CodeIndex.Text.Digest
import CodeIndex.Text.Find
import CodeIndex.Text.Identifier
import CodeIndex.Text.Like
import CodeIndex.Text.Lines
import CodeIndex.Text.NormalForm
import CodeIndex.Text.PathName
import CodeIndex.Text.Printable
import CodeIndex.Text.Quoted
import CodeIndex.Text.Ranges
import CodeIndex.Text.Utf8
import CodeIndex.Worker.Basic
import CodeIndex.Worker.Cycle
import CodeIndex.Worker.Workspace
