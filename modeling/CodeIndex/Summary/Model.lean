import CodeIndex.Embedding.Device
import CodeIndex.Text.Blank
import CodeIndex.Text.Find

/-!
Summaries of files by a language model: what the model is asked, and what is kept of its answer.
-/

namespace CodeIndex.Summary

open CodeIndex.Text

/-- How many characters of a file the model sees. -/
def promptLength : Nat := 2000

/-- What the model is asked about a file. -/
def prompt (path content language : String) : String :=
  "Summarize this " ++ language ++ " code file in 2-3 sentences.\n" ++
  "Focus on: main purpose, key functions/classes, and dependencies.\n\n" ++
  "File: " ++ path ++ "\nCode:\n" ++ String.ofList (content.toList.take promptLength) ++
  "\n\nSummary:"

/-- The part of an answer after the last mark, or all of an answer without one. -/
def reply (answer : String) : String :=
  let mark := "Summary:".toList
  if contains mark answer.toList then String.ofList (trim (afterLast mark answer.toList))
  else answer

/-- What a summarizer by a model is built on. -/
inductive Requirement where
  | tensors
  | models
  | tokenizer
  deriving DecidableEq, Repr

/-- Why a model gives no summary. -/
inductive ModelFailure where
  | notInstalled
  | notLoaded
  deriving DecidableEq, Repr

def ModelFailure.message : ModelFailure → String
  | .notInstalled =>
    "Ministral dependencies not installed. Run: pip install transformers mistral-common"
  | .notLoaded => "'NoneType' object has no attribute 'encode_chat_completion'"

/-- A summarizer by a model, which is held only between its loading and its unloading. -/
structure ModelSummarizer where
  device : Device
  loaded : Bool := false
  deriving DecidableEq, Repr

namespace ModelSummarizer

/-- A summarizer by a model is on offer at all. -/
def isOffered (missing : List Requirement) : Bool :=
  !missing.contains .tensors

def create (missing : List Requirement) (device : Device) : Except ModelFailure ModelSummarizer :=
  if missing.isEmpty then .ok { device } else .error .notInstalled

def load (s : ModelSummarizer) : ModelSummarizer :=
  { s with loaded := true }

def unload (s : ModelSummarizer) : ModelSummarizer :=
  { s with loaded := false }

/-- The summary of a file, where `model` answers a prompt. -/
def summarize (s : ModelSummarizer) (model : String → String) (path content language : String) :
    Except ModelFailure String :=
  if s.loaded then .ok (reply (model (prompt path content language))) else .error .notLoaded

end ModelSummarizer

end CodeIndex.Summary
