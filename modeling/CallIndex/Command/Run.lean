import CallIndex.Command.Basic
import CallIndex.Console.Markup
import CallIndex.Report
import CallIndex.Trace.Tree

/-!
# Running commands

A command writes lines to the console and ends with an exit code: 0 when it was carried out, 1 when it failed, 2 when
the command line could not be understood. What was written before a failure stays written.
-/

namespace CallIndex.Command

/-- What a command has written: lines of output, lines on errors, and warnings. -/
structure Terminal where
  output : List String := []
  errors : List String := []
  log : List String := []
  deriving DecidableEq, Repr

/-- A command at work on a console; it may end early. -/
abbrev Work := ReaderT Console (ExceptT Unit (StateM Terminal))

/-- Where commands run: the sources, the working directory and the console. -/
structure Surroundings where
  sources : Sources
  dir : List String
  console : Console := .standard

/-- The settings that hold there. -/
def Surroundings.settings (env : Surroundings) : Except SettingsFault Settings :=
  env.sources.settings env.dir

/-- Ends the command. -/
def stop {α : Type} : Work α :=
  throw ()

/-- Writes a line as it is. -/
def write (line : String) : Work Unit :=
  modify fun t => { t with output := t.output ++ [line] }

/-- Writes a line that may hold markup; faulty markup ends the command. -/
def say (markup : String) : Work Unit := do
  match (← read).render markup with
  | some line => write line
  | none => stop

/-- Reports an error and ends the command. -/
def fail {α : Type} (message : String) : Work α := do
  match (← read).render ("[red]Error:[/red] " ++ message) with
  | some line => modify fun t => { t with errors := t.errors ++ [line] }
  | none => pure ()
  stop

/-- The outcome of a query, of which faults in the request are reported. -/
def orFail {α : Type} : Except Fault α → Work α
  | .ok a => return a
  | .error (.dangling _) | .error (.unnamedPath _) | .error (.directoryNameTooLong _) | .error .zeroInPath
  | .error (.indent _) | .error (.patternOfType _) => stop
  | .error e => fail e.message

/-- The directory that a scope names. -/
def Surroundings.rootOf (env : Surroundings) (scope : Scope) : Path :=
  (Path.ofString scope.path).resolve env.dir

/-- A workspace with a directory indexed, and how the indexing went. -/
structure Opened where
  workspace : Workspace
  root : Path
  report : IndexReport
  progress : List Progress

/-- Indexes a directory into a new workspace. -/
def openIndex (env : Surroundings) (scope : Scope) (force : Bool) : Work Opened := do
  match env.settings with
  | .error _ => stop
  | .ok settings =>
    let root := env.rootOf scope
    let ws : Workspace := { settings := settings, dir := env.dir, sources := env.sources }
    let (outcome, ws) := (Workspace.indexDirectory root.toString scope.exclude force).run ws
    modify fun t => { t with log := t.log ++ ws.log }
    let (report, progress) ← orFail outcome
    return ⟨ws, root, report, progress⟩

/-- A file as it is shown: relative to the root, or else its name. -/
def shownFile (root : Path) (file : String) : String :=
  match (Path.ofString file).below? root with
  | some parts => Path.toString ⟨.relative, parts⟩
  | none => (Path.ofString file).name

/-- A number at the right end of a field. -/
def padLeft (width : Nat) (n : Int) : String :=
  let s := toString n
  Text.repeated (width - s.length) " " ++ s

/-! ### The commands -/

/-- Shows how far the indexing has come. The display is gone when the command ends, so only its faults matter. -/
def describe (markup : String) : Work Unit := do
  if ((← read).render ("[progress.description]" ++ markup)).isNone then stop

/-- Reports on the indexing of a directory. The directory is described at the start and the last file at the end. -/
def runIndex (env : Surroundings) (scope : Scope) (force : Bool) : Work Unit := do
  describe ("Indexing [cyan]" ++ (env.rootOf scope).name ++ "[/]")
  let ⟨_, root, report, progress⟩ ← openIndex env scope force
  progress.getLast?.forM fun last => describe ("[cyan]" ++ shownFile root last.file ++ "[/]")
  say "[green]Done![/green]"
  say s!"  Files analyzed: {report.files}"
  say s!"  Symbols found: {report.symbols}"
  say s!"  Call sites: {report.calls}"
  if report.skipped ≠ 0 then say s!"  [dim]Skipped: {report.skipped}[/]"
  if report.unchanged ≠ 0 then say s!"  [dim]Unchanged: {report.unchanged}[/]"
  if !report.errors.isEmpty then
    say s!"  [red]Errors: {report.errors.length}[/red]"
    report.errors.forM fun error => say ("    " ++ error)

/-- Counts what is in the index. -/
def runStats (env : Surroundings) (scope : Scope) (asJson : Bool) : Work Unit := do
  let ⟨ws, _, _, _⟩ ← openIndex env scope false
  let totals := ws.index.totals
  if asJson then write totals.toJson.compact
  else
    say s!"Files analyzed: {totals.files}"
    say s!"Symbols: {totals.symbols}"
    say s!"Call sites: {totals.calls}"
    if totals.lastStamp.isSome then say ("Last analyzed: " ++ timeMark)

/-- Says that nothing was found. -/
def sayNoMatch (query : String) : Work Unit :=
  say ("No matches for '[cyan]" ++ query ++ "[/cyan]'")

/-- Finds symbols. -/
def runFind (env : Surroundings) (query : String) (kind : Option String) (scope : Scope) (asJson : Bool) :
    Work Unit := do
  let kind ← match kind.filter (· ≠ "") with
    | none => pure none
    | some word =>
      match SymbolKind.ofWord? word with
      | some k => pure (some k)
      | none => fail ("Unknown symbol type '" ++ word ++ "'")
  let ⟨ws, root, _, _⟩ ← openIndex env scope false
  let entries ← orFail (ws.find query kind)
  if asJson then write (JsonValue.ofList SymbolEntry.toJson entries).compact
  else if entries.isEmpty then sayNoMatch query
  else entries.forM fun e => do
    say ("[cyan]" ++ e.qualifiedName ++ "[/cyan] (" ++ e.kind.word ++ ")")
    say ("  " ++ shownFile root e.path ++ ":" ++ toString e.line)

/-- Lists the calls of a method or function. -/
def runCalls (env : Surroundings) (method : String) (className : Option String) (scope : Scope) (asJson : Bool) :
    Work Unit := do
  let ⟨ws, _, _, _⟩ ← openIndex env scope false
  let sites ← orFail (ws.callsFrom className method)
  if asJson then write (JsonValue.ofList Call.CallSite.toJson sites).compact
  else
    let label := match className.filter (· ≠ "") with
      | some c => c ++ "::" ++ method
      | none => method
    if sites.isEmpty then say ("No calls found from '[cyan]" ++ label ++ "[/cyan]'")
    else
      say ("[bold cyan]" ++ label ++ "[/] [green]calls:[/]")
      sites.forM fun c => do
        let written := if c.raw = c.callee then "" else " [dim](was " ++ c.raw ++ ")[/]"
        say ("  [cyan]" ++ c.callee ++ "[/] [dim](line " ++ toString c.line ++ ")[/]" ++ written)

/-- The label of a node of a trace tree. The arguments are those of the first call of the parent with this target. -/
def label (escape : String → String) (withArguments : Bool) (row : Trace.Tree.Row) : String :=
  let symbol := row.step.symbol
  match row.parent with
  | none => "[bold yellow]" ++ symbol ++ "[/]"
  | some parent =>
    let name :=
      if row.step.isBack then "[dim]" ++ symbol ++ " (cycle)[/]"
      else if row.step.isResolved then "[cyan]" ++ symbol ++ "[/]"
      else "[blue]" ++ symbol ++ "[/] [dim](unresolved)[/]"
    let arguments := if withArguments then
        (parent.calls.find? fun c => c.target = symbol).bind (·.arguments)
      else none
    match arguments with
    | some a => name ++ "[dim](" ++ escape a ++ ")[/]"
    | none => name

mutual

/-- The guide lines drawn before the rows below a node, whose outer guide lines are `outer`. -/
def guidesBelow (outer : String) : Trace.Tree → List String
  | .node _ ts => guidesAmong outer ts

/-- The guide lines before the rows of the children of a node. -/
def guidesAmong (outer : String) : List Trace.Tree → List String
  | [] => []
  | t :: ts =>
    (outer ++ if ts.isEmpty then "└── " else "├── ") ::
      guidesBelow (outer ++ if ts.isEmpty then "    " else "│   ") t ++ guidesAmong outer ts

end

/-- The drawing of a trace tree; there is none when a label is faulty. -/
def drawing? (console : Console) (withArguments : Bool) (tree : Trace.Tree) : Option (List String) :=
  (("" :: guidesBelow "" tree).zip tree.rows).mapM fun (guides, row) =>
    (console.render (label console.escape withArguments row)).map (guides ++ ·)

/-- Traces what an entry calls. -/
def runTrace (env : Surroundings) (entry : String) (depth : Option Nat) (withArguments : Bool) (scope : Scope)
    (asJson : Bool) : Work Unit := do
  let ⟨ws, _, _, _⟩ ← openIndex env scope false
  let t ← orFail (ws.trace entry (depth.map Int.ofNat) withArguments)
  if asJson then write t.toJson.compact
  else match t.tree? with
    | none => sayNoMatch entry
    | some tree =>
      match drawing? (← read) withArguments tree with
      | none => stop
      | some lines =>
        lines.forM write
        write ""
        say s!"[dim]Visited: {t.symbols.length} | Depth: {t.maxDepth}[/]"

/-- Lists the files that import a file. -/
def runImporters (env : Surroundings) (file : String) (scope : Scope) (asJson : Bool) : Work Unit := do
  let ⟨ws, root, _, _⟩ ← openIndex env scope false
  let importers ← orFail (ws.importersOf file)
  if asJson then write (JsonValue.ofStrings importers).compact
  else if importers.isEmpty then
    say ("No files import '[cyan]" ++ (Path.ofString file).toString ++ "[/cyan]'")
  else importers.forM fun importer => say (shownFile root importer)

/-- Lists all calls. -/
def runGraph (env : Surroundings) (scope : Scope) (asJson : Bool) : Work Unit := do
  let ⟨ws, root, _, _⟩ ← openIndex env scope false
  if asJson then write ws.index.callGraphJson.compact
  else ws.index.calls.pairs.forM fun (file, sites) => do
    say ("[bold]" ++ shownFile root file ++ "[/] [dim](" ++ toString sites.length ++ " calls)[/]")
    sites.forM fun c => say ("  " ++ padLeft 5 c.line ++ "  [cyan]" ++ c.callee ++ "[/]")

/-- Carries out a command. -/
def run (env : Surroundings) : Command → Work Unit
  | index scope force => runIndex env scope force
  | stats scope asJson => runStats env scope asJson
  | find query kind scope asJson => runFind env query kind scope asJson
  | calls method className scope asJson => runCalls env method className scope asJson
  | trace entry depth withArguments scope asJson => runTrace env entry depth withArguments scope asJson
  | importers file scope asJson => runImporters env file scope asJson
  | graph scope asJson => runGraph env scope asJson

/-! ### Command lines -/

/-- How a command line ended, and what was written. -/
structure Outcome where
  exitCode : Nat
  terminal : Terminal := {}
  deriving DecidableEq, Repr

/-- The capital form of a letter where it is one of the letters from A to Z, which a dotless i and a long s have too. -/
def capital (c : Char) : Char :=
  if c = 'ı' then 'I' else if c = 'ſ' then 'S' else c.toUpper

/-- Levels of the log that can be set, in any case of letters. -/
def logLevels : List String :=
  ["CRITICAL", "FATAL", "ERROR", "WARN", "WARNING", "INFO", "DEBUG", "NOTSET"]

/-- Can commands run under these settings? The level of the log counts only when none is asked for. -/
def areUsable (verbose : Bool) (settings : Except SettingsFault Settings) : Bool :=
  verbose || match settings with
    | .ok s => logLevels.contains (String.ofList (s.logLevel.toList.map capital))
    | .error _ => false

/-- The directory that a command line asks to index; the working directory when it asks for none. -/
def requestedDirectory (words : List String) : String :=
  let command := do
    let leading ← Words.read? leadingSwitches true words
    let name ← leading.operands.head?
    ofWords? name (← Words.read? (← switches? name) false leading.operands.tail)
  (command.map (·.scope.path)).getD "."

/-- Runs a command line. The name of the command is looked at first, then the settings, then its other words. -/
def runLine (env : Surroundings) (words : List String) : Outcome :=
  match Words.read? leadingSwitches true words with
  | none => { exitCode := 2 }
  | some leading =>
    if leading.has "help" then { exitCode := 0 }
    else match leading.operands with
      | [] => { exitCode := 2 }
      | name :: rest =>
        match switches? name with
        | none => { exitCode := 2 }
        | some switches =>
          if !areUsable (leading.has "verbose") env.settings then { exitCode := 1 }
          else match Words.read? switches false rest with
            | none => { exitCode := 2 }
            | some words =>
              if words.has "help" then { exitCode := 0 }
              else match ofWords? name words with
                | none => { exitCode := 2 }
                | some command =>
                  let (outcome, terminal) := ((run env command).run env.console).run {}
                  { exitCode := if outcome.isOk then 0 else 1, terminal := terminal }

end CallIndex.Command
