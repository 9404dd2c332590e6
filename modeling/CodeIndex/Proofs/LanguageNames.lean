import CodeIndex.Proofs.Order
import CodeIndex.Proofs.Retry
import CodeIndex.Proofs.Summaries
import CodeIndex.Proofs.SummaryTotal

/-!
The summaries that a cycle stores, and the names by which they are made.

A cycle hands a file on to be summarized with the name that its language has for the cutting of
text. The rules for summaries know the two languages of scripts by longer names, so they take a
script for a file in a language without rules and describe it by that name alone, whatever its text.
The same comes of the longer name only if the comment at the top says just that and there is nothing
else to tell.
-/

namespace CodeIndex

open CodeIndex.Text

/-- The name by which the rules for summaries know a language of scripts. -/
def Language.scriptName? : Language → Option String
  | .js => some "javascript"
  | .ts => some "typescript"
  | _ => none

namespace Summary

def label (language : String) : String :=
  capitalize language ++ " module"

private theorem ofFile_of_other (order : SetOrder) {language : String}
    (h : Style.ofLanguage (some language) = .other) (content : List Char) :
    ofFile order content (some language) = .ok (label language) := by
  simp [ofFile, h, imports, doc?, definitions, sentences, Except.map, label]

section Sentences

variable {order : SetOrder} {text : String}

/-- A text without a full stop is no more than one sentence. -/
private theorem eq_singleton_of_joinStrings {parts : List String} (hparts : parts ≠ [])
    (hstop : '.' ∉ text.toList) (h : joinStrings ". " parts = text) : parts = [text] := by
  match parts, hparts with
  | [part], _ => rw [← h, joinStrings]
  | first :: second :: rest, _ =>
      refine absurd ?_ hstop
      rw [← h]
      simp [joinStrings]

def openings : List String :=
  ["Defines ", "Contains ", "Imports: "]

def Unlike (text : String) : Prop :=
  ∀ start ∈ openings, ¬ start.toList <+: text.toList

instance (text : String) : Decidable (Unlike text) :=
  inferInstanceAs (Decidable (∀ start ∈ _, _))

private theorem Unlike.ne {start : String} (h : Unlike text) (hstart : start ∈ openings)
    (rest : String) :
    start ++ rest ≠ text := by
  rintro rfl
  exact h start hstart (by simp)

/-- Only the comment at the top gives a sentence that is unlike the others. -/
private theorem sentences_eq_singleton_iff (hunlike : Unlike text) (hne : text ≠ "")
    {doc : Option String} {classes functions : Nat} {imports : List String} :
    sentences doc classes functions imports = [text] ↔
      doc = some text ∧ classes = 0 ∧ functions = 0 ∧ imports = [] := by
  constructor
  · intro h
    have hsame {sentence : String} (member : sentence ∈ sentences doc classes functions imports) :
        sentence = text := by
      rw [h] at member
      exact List.mem_singleton.mp member
    have habsent (start rest : String) (hstart : start ∈ openings) :
        start ++ rest ∉ sentences doc classes functions imports :=
      fun member => hunlike.ne hstart rest (hsame member)
    have hclasses : classes = 0 := by
      refine Nat.eq_zero_of_not_pos fun hpos => ?_
      refine habsent "Defines " (toString classes ++ " class(es)") (by simp [openings]) ?_
      simp [sentences, hpos, String.append_assoc]
    have hfunctions : functions = 0 := by
      refine Nat.eq_zero_of_not_pos fun hpos => ?_
      refine habsent "Contains " (toString functions ++ " function(s)") (by simp [openings]) ?_
      simp [sentences, hpos, String.append_assoc]
    have himports : imports = [] := by
      refine Decidable.byContradiction fun hsome => ?_
      refine habsent "Imports: " (joinStrings ", " (imports.take importsListed))
        (by simp [openings]) ?_
      simp [sentences, hsome]
    subst hclasses hfunctions himports
    refine ⟨?_, rfl, rfl, rfl⟩
    cases doc with
    | none => simp [sentences] at h
    | some doc =>
        refine congrArg some (hsame ?_)
        cases hempty : doc.isEmpty with
        | true => simp [sentences, hempty] at h
        | false => simp [sentences, hempty]
  · rintro ⟨rfl, rfl, rfl, rfl⟩
    simp [sentences, hne]

/-- What makes the summary of a script a text that is unlike the sentences about definitions and
imports, and not the name of its language. -/
private theorem ofFile_script_eq_iff {language : String}
    (h : Style.ofLanguage (some language) = .script)
    (hunlike : Unlike text) (hne : text ≠ "") (hstop : '.' ∉ text.toList)
    (hlabel : label language ≠ text) (content : List Char) :
    ofFile order content (some language) = .ok text ↔
      doc? .script (fields '\n' content) = some text.toList ∧
        definitions .script .classDef content = 0 ∧ definitions .script .function content = 0 ∧
        imports order .script (fields '\n' content) = .ok [] := by
  let lines := fields '\n' content
  obtain ⟨names, hnames⟩ : ∃ names, imports order .script lines = .ok names := ⟨_, rfl⟩
  let parts := sentences ((doc? .script lines).map String.ofList)
    (definitions .script .classDef content) (definitions .script .function content) names
  have hmade : ofFile order content (some language) =
      .ok (if parts.isEmpty then label language else joinStrings ". " parts) := by
    have hfound := ofFile_of_imports (h ▸ hnames)
    rwa [h] at hfound
  have hparts : ofFile order content (some language) = .ok text ↔ parts = [text] := by
    rw [hmade, Except.ok.injEq]
    constructor
    · intro hjoined
      split at hjoined
      next => exact absurd hjoined hlabel
      next hsome => exact eq_singleton_of_joinStrings (by simpa using hsome) hstop hjoined
    · intro hsingle
      simp [hsingle, joinStrings]
  have hdoc : (doc? .script lines).map String.ofList = some text ↔
      doc? .script lines = some text.toList := by
    rw [Option.map_eq_some_iff]
    constructor
    · rintro ⟨doc, hdoc, rfl⟩
      rw [hdoc, String.toList_ofList]
    · exact fun hdoc => ⟨_, hdoc, String.ofList_toList⟩
  rw [hparts, sentences_eq_singleton_iff hunlike hne, hdoc, hnames, Except.ok.injEq]

end Sentences

/-- A language of scripts has no rules under its own name. -/
private theorem style_of_scriptName? {language : Language} {known : String}
    (h : language.scriptName? = some known) :
    Style.ofLanguage (some language.name) = .other ∧ Style.ofLanguage (some known) = .script := by
  cases language <;> cases h <;> exact ⟨rfl, rfl⟩

/-- The label of a script is the summary of its text only by a comment that says so. -/
private theorem ofFile_eq_label_iff (order : SetOrder) {language : Language} {known : String}
    (h : language.scriptName? = some known) (content : List Char) :
    ofFile order content (some known) = .ok (label language.name) ↔
      doc? .script (fields '\n' content) = some (label language.name).toList ∧
        definitions .script .classDef content = 0 ∧ definitions .script .function content = 0 ∧
        imports order .script (fields '\n' content) = .ok [] := by
  have hstyle := (style_of_scriptName? h).2
  have hlabels : Unlike (label language.name) ∧ label language.name ≠ "" ∧
      '.' ∉ (label language.name).toList ∧ label known ≠ label language.name := by
    cases language <;> cases h <;> decide +kernel
  obtain ⟨hunlike, hne, hstop, hlabel⟩ := hlabels
  exact ofFile_script_eq_iff hstyle hunlike hne hstop hlabel content

end Summary

namespace Index

/-- The index has summaries of a file, and they are all the same. -/
def Tells (path text : String) (language : Option String) (idx : Index) : Prop :=
  idx.summariesOf path ≠ [] ∧
    ∀ s ∈ idx.summariesOf path, s.summary = text ∧ s.language = language

variable {indexer : Indexer} {task : SummaryTask} {path text : String} {idx : Index}

private theorem tells_summarizeFile (hsummarizes : indexer.summarizes = true)
    (htext : Summary.ofFile indexer.order task.content task.language = .ok text)
    (hlimit : isLimit (Text.lines task.content).length = true) (idx : Index) :
    (idx.summarizeFile indexer task).Tells task.path text task.language := by
  have hput := summariesOf_putSummary task.path text task.language
    (Text.lines task.content).length idx
  have hsummaries : (idx.summarizeFile indexer task).summariesOf task.path =
      (idx.putSummary task.path text task.language
        (Text.lines task.content).length).summariesOf task.path := by
    rw [summarizeFile_eq_describe hsummarizes htext hlimit]
    rfl
  rw [Tells, hsummaries, hput]
  cases hold : idx.summariesOf task.path with
  | nil => simp
  | cons first rest => simp

private theorem summariesOf_summarizeFile_of_ne (hsummarizes : indexer.summarizes = true)
    (hne : task.path ≠ path) (idx : Index) :
    (idx.summarizeFile indexer task).summariesOf path = idx.summariesOf path := by
  rcases summarizeFile_cases_of_summarizes hsummarizes task idx with heq | ⟨text, heq⟩
  · rw [heq]
  · have hexcludes (s : FileSummary) (hpath : (s.path == path) = true) :
        (s.path == task.path) = false := by
      rw [eq_of_beq hpath]
      exact beq_eq_false_iff_ne.mpr (Ne.symm hne)
    have hkept := putSummary_eraseWhere task.path text task.language
      (Text.lines task.content).length idx
    rw [heq]
    change (idx.putSummary _ _ _ _).summaries.values.filter _ = idx.summaries.values.filter _
    rw [← Table.filter_values_eraseWhere _ _ _ hexcludes, hkept,
      Table.filter_values_eraseWhere _ _ _ hexcludes]

/-- The tasks of a batch that concern a file are one and the same, so it does not matter how many
there are. -/
private theorem tells_foldl_summarizeFile (hsummarizes : indexer.summarizes = true)
    (htext : Summary.ofFile indexer.order task.content task.language = .ok text)
    (hlimit : isLimit (Text.lines task.content).length = true) {tasks : List SummaryTask}
    (hsame : ∀ other ∈ tasks, other.path = task.path → other = task)
    (h : idx.Tells task.path text task.language ∨ task ∈ tasks) :
    (tasks.foldl (summarizeFile indexer) idx).Tells task.path text task.language := by
  induction tasks generalizing idx with
  | nil => exact h.resolve_right (by simp)
  | cons first rest ih =>
      rw [List.forall_mem_cons] at hsame
      refine ih hsame.2 ?_
      by_cases hpath : first.path = task.path
      · rw [hsame.1 hpath]
        exact Or.inl (tells_summarizeFile hsummarizes htext hlimit idx)
      · refine h.imp ?_ ?_
        · intro htells
          rwa [Tells, summariesOf_summarizeFile_of_ne hsummarizes hpath]
        · intro member
          refine (List.mem_cons.mp member).resolve_left ?_
          rintro rfl
          exact hpath rfl

private theorem tells_summarizeFiles (henabled : indexer.settings.enableSummaries = true)
    (hsummarizes : indexer.summarizes = true)
    (htext : Summary.ofFile indexer.order task.content task.language = .ok text)
    (hlimit : isLimit (Text.lines task.content).length = true) {tasks : List SummaryTask}
    (hsame : ∀ other ∈ tasks, other.path = task.path → other = task) (h : task ∈ tasks)
    (idx : Index) :
    (idx.summarizeFiles indexer tasks).Tells task.path text task.language := by
  rw [summarizeFiles, henabled, hsummarizes]
  exact tells_foldl_summarizeFile hsummarizes htext hlimit hsame (Or.inr h)

end Index

namespace Workspace

variable {w : Workspace} {worker : Worker} {path : String} {content : List Char}
  {changes : List Change} {task : SummaryTask}

private theorem succeeds_of_stores (hfaults : w.faults = {})
    (hread : w.files.readText path = .ok content)
    (hstores : w.indexer.Stores path content) : w.succeeds path = true := by
  have hexists := Files.exists?_of_readText hread
  have hstored : (w.index.indexText w.indexer path content).success = true :=
    Index.indexText_success_iff.mpr ⟨(indexer_faultless hfaults).isNameable _, hstores⟩
  simp only [succeeds, Index.indexFile, hexists, hread, ↓reduceIte]
  split
  · rfl
  · exact hstored

section Tasks

variable (hfaults : w.faults = {}) (tasks : List SummaryTask)

include hfaults

/-- Without faults the files stay, so all tasks of a file are the one that it gives at the start. -/
private theorem foldl_takeChange_tasks
    (htasks : ∀ task ∈ tasks, w.summaryTask? task.path = some task) :
    ∀ task ∈ (changes.foldl (takeChange worker) (w, tasks)).2,
      w.summaryTask? task.path = some task := by
  induction changes generalizing w tasks with
  | nil => exact htasks
  | cons change rest ih =>
      rw [List.foldl_cons, takeChange_eq_of_faultless hfaults]
      let next : Workspace :=
        { w with
          index := w.index.applyChange w.indexer w.files (worker.accepts w.settings) change }
      have hnext : next.faults = {} := hfaults
      refine ih hnext _ ?_
      intro task member
      rcases List.mem_append.mp member with hold | hnew
      · exact htasks task hold
      · have htask := Option.mem_toList.mp hnew
        rw [path_of_task? htask]
        unfold task? at htask
        split at htask
        · exact htask
        · cases htask

/-- A file that is taken up and can be indexed is to be summarized in the end. -/
private theorem mem_foldl_takeChange_tasks (hread : w.files.readText task.path = .ok content)
    (hstores : w.indexer.Stores task.path content)
    (haccepts : worker.accepts w.settings task.path = true)
    (htask : w.summaryTask? task.path = some task)
    (h : task ∈ tasks ∨ ∃ change ∈ changes, change.path = task.path ∧ change.status ≠ .deleted) :
    task ∈ (changes.foldl (takeChange worker) (w, tasks)).2 := by
  induction changes generalizing w tasks with
  | nil => exact h.resolve_right (by simp)
  | cons change rest ih =>
      rw [List.foldl_cons, takeChange_eq_of_faultless hfaults]
      let next : Workspace :=
        { w with
          index := w.index.applyChange w.indexer w.files (worker.accepts w.settings) change }
      have hnext : next.faults = {} := hfaults
      refine ih hnext _ hread hstores haccepts htask ?_
      rcases h with hold | ⟨taken, member, hpath, hkept⟩
      · exact Or.inl (List.mem_append_left _ hold)
      · rcases List.mem_cons.mp member with rfl | hlater
        · have hgiven : w.task? worker w.succeeds taken = some task := by
            simp only [task?, hpath, hkept, haccepts, succeeds_of_stores hfaults hread hstores, htask,
              ne_eq, not_false_eq_true, and_self, ↓reduceIte]
          exact Or.inl (List.mem_append_right _ (Option.mem_toList.mpr hgiven))
        · exact Or.inr ⟨taken, hlater, hpath, hkept⟩

end Tasks

/-- Changes without faults tell of a file that is taken up what the rules for the name of its
language make of its text. -/
private theorem takeChanges_tells (hfaults : w.faults = {})
    (henabled : w.settings.enableSummaries = true) (hsummarizes : w.summarizes = true)
    (hchange : ∃ change ∈ changes, change.path = path ∧ change.status ≠ .deleted)
    (haccepts : worker.accepts w.settings path = true)
    (hread : w.files.readText path = .ok content) (hstores : w.indexer.Stores path content)
    {language : Language} (hlanguage : Language.ofPath? path = some language) {text : String}
    (htext : Summary.ofFile w.order content (some language.name) = .ok text)
    (hlimit : isLimit (Text.lines content).length = true) :
    (w.takeChanges worker changes).2.index.Tells path text (some language.name) := by
  let task : SummaryTask := ⟨path, content, some language.name⟩
  have htask : w.summaryTask? path = some task := by
    simp only [summaryTask?, henabled, hread, hlanguage, ↓reduceIte, task]
  have hmem : task ∈ (changes.foldl (takeChange worker) (w, [])).2 :=
    mem_foldl_takeChange_tasks hfaults [] hread hstores haccepts htask (Or.inr hchange)
  have hsame : ∀ other ∈ (changes.foldl (takeChange worker) (w, [])).2,
      other.path = task.path → other = task := by
    intro other member hpath
    have hother := foldl_takeChange_tasks hfaults [] (by simp) other member
    rw [hpath] at hother
    exact Option.some.inj (hother.symm.trans htask)
  have hlast := foldl_takeChange_of_faultless hfaults worker changes []
  rw [takeChanges_of_unrefused (unrefused_of_faultless hfaults worker changes)]
  cases hstate : changes.foldl (takeChange worker) (w, []) with
  | mk last tasks =>
      rw [hstate] at hmem hsame hlast
      subst hlast
      have hwork : tasks.isEmpty = false := List.isEmpty_eq_false_iff.mpr (List.ne_nil_of_mem hmem)
      simp only [hwork, Bool.false_eq_true, ↓reduceIte]
      rw [summarizeFiles_index]
      exact Index.tells_summarizeFiles henabled hsummarizes htext hlimit hsame hmem _

/-- A script is summarized by the name of its language, whatever its text: no rules for summaries go
by that name. Those for the language itself make the same of it only if the comment at the top says
just that, and no definitions or imports are found. -/
theorem stored_script_summary_agrees_iff (w : Workspace) (hfaults : w.faults = {})
    (henabled : w.settings.enableSummaries = true) (hsummarizes : w.summarizes = true)
    (full : Bool) (worker : Worker) (changes : List Change)
    (hlearned : w.learned full worker = .ok changes) (change : Change) (hchange : change ∈ changes)
    (hkept : change.status ≠ .deleted)
    (haccepts : worker.accepts w.settings change.path = true) (language : Language)
    (hlanguage : Language.ofPath? change.path = some language) (known : String)
    (hknown : language.scriptName? = some known) (content : List Char)
    (hread : w.files.readText change.path = .ok content) (chunks : List Chunk)
    (hcut : Chunk.ofFile w.splitter change.path content = .ok chunks)
    (hlimit : isLimit (Text.lines content).length = true) :
    let stored := (w.cycle full worker).2.index.summariesOf change.path
    stored ≠ [] ∧ ∀ s ∈ stored,
      s.language = some language.name ∧ s.summary = Summary.label language.name ∧
      (Summary.ofFile w.order content (some known) = .ok s.summary ↔
        Summary.doc? .script (fields '\n' content) = some s.summary.toList ∧
          Summary.definitions .script .classDef content = 0 ∧
          Summary.definitions .script .function content = 0 ∧
          Summary.imports w.order .script (fields '\n' content) = .ok []) := by
  intro stored
  have hstores : w.indexer.Stores change.path content := by
    rw [Indexer.Stores, splitter_of_faultless hfaults, insertion_of_faultless hfaults]
    exact ⟨chunks, hcut, fun ⟨_, hfails⟩ => Insertion.noConfusion hfails⟩
  have htext :
      Summary.ofFile w.order content (some language.name) = .ok (Summary.label language.name) :=
    Summary.ofFile_of_other w.order (Summary.style_of_scriptName? hknown).1 content
  have htells : (w.cycle full worker).2.index.Tells change.path (Summary.label language.name)
      (some language.name) := by
    rw [cycle_index_of_learned hlearned]
    let asked := w.asked full worker
    have hasked : asked.faults = {} := hfaults
    exact takeChanges_tells hasked henabled hsummarizes ⟨change, hchange, rfl, hkept⟩ haccepts hread
      hstores hlanguage htext hlimit
  refine ⟨htells.1, fun s member => ?_⟩
  obtain ⟨hsummary, hname⟩ := htells.2 s member
  rw [hsummary]
  exact ⟨hname, rfl, Summary.ofFile_eq_label_iff w.order hknown content⟩

/-- A script whose comment says no more than what is stored. -/
theorem stored_script_summary_agrees_with_comment :
    let text := "/** Js module */".toList
    let w : Workspace :=
      { files := { contents := [("a.JSX", Utf8.encode text)] }
        window := ⟨20, 0⟩
        analyzer := none }
    let stored := (w.cycle true { rules := none, suffixes := [".jsx"] }).2.index.summariesOf "a.JSX"
    stored ≠ [] ∧ ∀ s ∈ stored, s.summary = "Js module" ∧
      Summary.ofFile w.order text (some "javascript") = .ok s.summary := by
  intro text w stored
  have hread : w.files.readText "a.JSX" = .ok text :=
    eq_ok_of_toOption (by decide +kernel)
  obtain ⟨hstored, htold⟩ := stored_script_summary_agrees_iff w rfl rfl rfl true
    { rules := none, suffixes := [".jsx"] } [⟨"a.JSX", .added⟩] rfl ⟨"a.JSX", .added⟩ (by simp)
    (by decide) (by decide +kernel) .js (by decide +kernel) "javascript" rfl text hread _ rfl
    (by decide +kernel)
  refine ⟨hstored, fun s member => ?_⟩
  obtain ⟨-, hsummary, hagrees⟩ := htold s member
  have hlabel : Summary.label Language.js.name = "Js module" := by decide +kernel
  rw [hlabel] at hsummary
  rw [hsummary] at hagrees ⊢
  exact ⟨rfl, hagrees.mpr ⟨by decide +kernel, by decide +kernel, by decide +kernel,
    eq_ok_of_toOption (by decide +kernel)⟩⟩

/-- Of a script with a class no more is stored than the name of its language. -/
theorem stored_script_summary_leaves_class_out :
    let text := "class A{}".toList
    let w : Workspace :=
      { files := { contents := [("a.js", Utf8.encode text)] }
        window := ⟨20, 0⟩
        analyzer := none }
    let stored := (w.cycle true { rules := none, suffixes := [".js"] }).2.index.summariesOf "a.js"
    stored.map FileSummary.summary = ["Js module"] ∧
      (Summary.ofFile w.order text (some "javascript")).toOption = some "Defines 1 class(es)" := by
  decide +kernel

end Workspace

end CodeIndex
