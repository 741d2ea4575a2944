import CallIndex.FileTree
import CallIndex.Language
import CallIndex.Query
import CallIndex.Settings
import CallIndex.Text.Glob
import CallIndex.Trace.Walk

/-!
# Workspaces

A workspace is an index together with the sources it is made from, the settings, and the working directory. Actions on
it may fail, and keep what they have changed until then; warnings go to its log, and reports on the files of a directory
to its progress.

* `Workspace.analyze` reads one file into the index.
* `Workspace.indexDirectory` reads all recognised files below a directory, leaving out excluded and unchanged ones.
-/

namespace CallIndex

open Call (CallSite)

/-- The file that has just been dealt with, its place in the run, and the number of files. -/
structure Progress where
  file : String
  current : Nat
  total : Nat
  deriving DecidableEq, Repr

/-- An index and what it is made from, the warnings, and the reports on the files of directories. -/
structure Workspace where
  settings : Settings := {}
  dir : List String := []
  sources : Sources := .texts []
  index : Index := {}
  log : List String := []
  progress : List Progress := []

/-- The settings of a record, of which the settings file of a directory supplies the missing fields. -/
def Sources.settings (src : Sources) (dir : List String) (record : List (String × JsonValue) := []) :
    Except SettingsFault Settings :=
  Settings.ofSources record ((src.fileTree.file? (dir ++ [".env"])).map (·.data.toList))

/-- An action on a workspace, which may fail. -/
abbrev Action := ExceptT Fault (StateM Workspace)

/-- What indexing a directory did. -/
structure IndexReport where
  files : Nat := 0
  symbols : Nat := 0
  calls : Nat := 0
  skipped : Nat := 0
  unchanged : Nat := 0
  errors : List String := []
  deriving DecidableEq, Repr

/-- The report on one line. -/
def IndexReport.summary (r : IndexReport) : String :=
  s!"IndexStats(files={r.files}, symbols={r.symbols}, calls={r.calls}, skipped={r.skipped}, " ++
    s!"unchanged={r.unchanged}, errors={r.errors.length})"

/-- Patterns of directories and files that are never indexed. -/
def defaultExcludes : List String :=
  ["__pycache__", "*.egg-info", "node_modules", "vendor", "build", "dist", "venv", ".venv", "*.min.js"]

/-- Is a path left out by patterns that are texts? Yes when a component is hidden or matches a pattern. -/
def isExcluded (patterns : List String) (parts : List String) : Bool :=
  parts.any fun part => part.toList.head? = some '.' || patterns.any fun p => Text.Glob.matchesText p part

/-- What stands in the place of a pattern: a text, or something of another type. -/
inductive Pattern where
  | text (pattern : String)
  | other (type : String)
  deriving DecidableEq, Repr

namespace Pattern

/-- Does a component match a pattern? They are tried in order up to the first that matches, and one that is no text
cannot be tried. -/
def anyMatches (part : String) : List Pattern → Except Fault Bool
  | [] => .ok false
  | text p :: rest => if Text.Glob.matchesText p part then .ok true else anyMatches part rest
  | other type :: _ => .error (.patternOfType type)

/-- Is a path left out? Its components are looked at in order, up to the first that is hidden or matches a pattern. -/
def exclude (patterns : List Pattern) : List String → Except Fault Bool
  | [] => .ok false
  | part :: rest =>
    if part.toList.head? = some '.' then .ok true
    else do
      if ← anyMatches part patterns then return true
      exclude patterns rest

end Pattern

namespace Workspace

/-- Adds a warning to the log. -/
def warn (message : String) : Action Unit :=
  modify fun ws => { ws with log := ws.log ++ [message] }

/-- Reports that a file of a directory has been dealt with. -/
def announce (p : Progress) : Action Unit :=
  modify fun ws => { ws with progress := ws.progress ++ [p] }

/-- The canonical form of a path, under which its file is indexed. -/
def keyOf (ws : Workspace) (path : String) : Except Fault String :=
  if hasZero path then .error .zeroInPath else .ok (canonicalPath ws.dir path)

/-- Runs an operation of the index. -/
def onIndex {α : Type} (f : Index → Index × Except Fault α) : Action α := do
  let ws ← get
  let (index, outcome) := f ws.index
  set { ws with index := index }
  match outcome with
  | .ok a => return a
  | .error e => throw e

/-- Asks the index. -/
def ask {α : Type} (f : Workspace → Except Fault α) : Action α := do
  match f (← get) with
  | .ok a => return a
  | .error e => throw e

/-- Reads a source by its canonical path. -/
def readSource (key : String) : Action String := do
  let ws ← get
  match ws.sources.read ws.settings.maxFileSize key with
  | .error cause => throw (.source cause)
  | .ok text =>
    if text.isRepaired then warn (key ++ ": undecodable bytes replaced")
    return text.content

/-- Stores a summary under a path. -/
def put (path : String) (s : FileSummary) : Action Unit := do
  let ws ← get
  onIndex fun ix => ix.put ws.dir path s

/-- Summarises a text and stores the summary. -/
def analyzeContent (key content : String) : Action FileSummary := do
  let (summary, warnings) := summarize (languageOf key) key content
  modify fun ws => { ws with log := ws.log ++ warnings }
  put key summary
  return summary

/-- Reads a file into the index, in place of what was known of it. -/
def analyze (path : String) : Action FileSummary := do
  let key ← ask fun ws => ws.keyOf path
  let content ← readSource key
  analyzeContent key content

/-- Forgets a file, or everything. -/
def forget (path : Option String) : Action Unit := do
  match path with
  | none => modify fun ws => { ws with index := ws.index.clear }
  | some p =>
    let key ← ask fun ws => ws.keyOf p
    let _ ← onIndex (·.delete key)

/-- Indexes one file that is not excluded. -/
def indexFile (key : String) (force : Bool) (report : IndexReport) : Action IndexReport := do
  let ws ← get
  match ws.sources.read ws.settings.maxFileSize key with
  | .error cause =>
    warn ("Skipping " ++ key ++ ": " ++ cause.message)
    return { report with errors := report.errors ++ [cause.message] }
  | .ok _ =>
    let content ← readSource key
    if !force && !ws.index.isStale key (digestOf content) then
      return { report with unchanged := report.unchanged + 1 }
    else
      let summary ← analyzeContent key content
      let entries ← ask fun ws => (ws.index.symbols.inFile key).mapError Fault.dangling
      return { report with
        files := report.files + 1
        symbols := report.symbols + entries.length
        calls := report.calls + summary.calls.length }

/-- Deals with the file at the place `parts` below the directory `base`. -/
def indexPlace (base : Path) (patterns : List Pattern) (force : Bool) (report : IndexReport) (parts : List String) :
    Action IndexReport := do
  if ← ask fun _ => Pattern.exclude patterns parts then return { report with skipped := report.skipped + 1 }
  let file : Path := { base with parts := base.parts ++ parts }
  indexFile (file.resolve (← get).dir).toString force report

/-- Deals with the files at some places below the directory `base`, and reports on one after the other: `number` is that
of the first, of `total` files. -/
def indexFiles (base : Path) (patterns : List Pattern) (force : Bool) (total number : Nat) (report : IndexReport) :
    List (List String) → Action IndexReport
  | [] => return report
  | parts :: rest => do
    let report ← indexPlace base patterns force report parts
    announce ⟨Path.toString { base with parts := base.parts ++ parts }, number, total⟩
    indexFiles base patterns force total (number + 1) report rest

/-- The recognised files below a directory, relative to it, in order. -/
def recognisedFiles (ws : Workspace) (base : Path) : Except Fault (List (List String)) :=
  match ws.sources.fileTree.directoryAt ws.dir base with
  | .missing => .error (.notADirectory base.toString)
  | .nameTooLong => .error (.directoryNameTooLong base.toString)
  | .found dir =>
    .ok ((ws.sources.fileTree.filesBelow dir).filter fun parts =>
      languageOf (Path.toString ⟨.relative, parts⟩) ≠ unknownLanguage)

/-- Indexes a directory. Unless forced, files whose digest has not changed are left alone. -/
def indexDirectoryBy (path : String) (exclude : List Pattern) (force : Bool) : Action IndexReport := do
  let base := Path.ofString path
  let files ← ask fun ws => ws.recognisedFiles base
  let patterns := (defaultExcludes ++ (← get).settings.exclude).map Pattern.text ++ exclude
  indexFiles base patterns force files.length 1 {} files

/-- Indexes a directory, with texts as patterns, and gives what has been reported meanwhile. -/
def indexDirectory (path : String) (exclude : List String) (force : Bool) :
    Action (IndexReport × List Progress) := do
  let before := (← get).progress
  let report ← indexDirectoryBy path (exclude.map .text) force
  return (report, (← get).progress.drop before.length)

/-- Traces what an entry calls; without a depth, to the depth of the settings. -/
def trace (ws : Workspace) (entry : String) (maxDepth : Option Int) (withArguments : Bool) :
    Except Fault Trace.ExecutionTrace :=
  Trace.trace ws.index ws.settings.externalObjects entry (maxDepth.getD ws.settings.traceDepth) withArguments

/-- The calls of a method or function. -/
def callsFrom (ws : Workspace) (className : Option String) (method : String) : Except Fault (List CallSite) :=
  ws.index.callsFrom ws.settings.externalObjects className method

/-- Checks the calls that a file makes to a method; the names are looked at before the path. -/
def checkSignature (ws : Workspace) (file className method : String) : Except Fault SignatureCheck :=
  match ws.index.checkSignature ws.settings.externalObjects (canonicalPath ws.dir file) className method with
  | .error .emptyClassOrMethodName => .error .emptyClassOrMethodName
  | outcome => do
    let _ ← ws.keyOf file
    outcome

/-- The entries that a query names. -/
def find (ws : Workspace) (query : String) (kind : Option SymbolKind) : Except Fault (List SymbolEntry) :=
  (ws.index.symbols.find query kind).mapError Fault.dangling

/-- The files that import a file. -/
def importersOf (ws : Workspace) (path : String) : Except Fault (List String) := do
  ws.index.importersOf (← ws.keyOf path)

/-- The relations of a file. -/
def relationsOf (ws : Workspace) (path : String) : Except Fault (List Relation) := do
  return ws.index.relationsOf (← ws.keyOf path)

/-- What is known of a file. -/
def summaryOf (ws : Workspace) (path : String) : Except Fault (Option FileSummary) := do
  return ws.index.files.get? (← ws.keyOf path)

end Workspace

end CallIndex
