import CallIndex.Report
import CallIndex.Tool.Argument

/-!
# Calling tools

A tool is called by name with JSON arguments on a workspace, and always answers with one text: the result as indented
JSON, or the reason of the failure as JSON on one line.
-/

namespace CallIndex.Tool

/-- What a tool does: it may fail, and keeps the workspace as it is then. -/
abbrev Job := ExceptT CallFault (StateM Workspace)

/-- An action of the workspace as part of a tool. -/
def act {α : Type} (action : Action α) : Job α :=
  ExceptT.mk do
    match ← action.run with
    | .ok a => return .ok a
    | .error e => return .error (.fault e)

/-- A question to the workspace as part of a tool. -/
def ask {α : Type} (question : Workspace → Except Fault α) : Job α :=
  act (Workspace.ask question)

/-- A list of results. -/
def results {α : Type} (f : α → JsonValue) (xs : List α) : JsonValue :=
  .object [("results", .ofList f xs)]

/-! ### The tools -/

/-- Analyses one file. -/
def analyze (args : JsonValue) : Job JsonValue := do
  let path ← pathOf (← require args "path")
  return (← act (Workspace.analyze path)).toJson

/-- An item of a list as a pattern of what is left out. -/
def patternOf : JsonValue → Pattern
  | .string p => .text p
  | v => .other v.typeName

/-- The patterns given to exclude files. -/
def excludeOf : Option JsonValue → Except CallFault (List Pattern)
  | none => .ok []
  | some (.array items) => .ok (items.map patternOf)
  | some v => .error (.misuse (.concatenating v.typeName))

/-- Indexes a directory. That there is one is looked at before the patterns are. -/
def index (args : JsonValue) : Job JsonValue := do
  let path ← require args "path"
  let exclude ← given? args "exclude"
  let force ← given? args "force"
  let path ← pathOf path
  let _ ← ask fun ws => ws.recognisedFiles (Path.ofString path)
  let exclude ← excludeOf exclude
  return (← act (Workspace.indexDirectoryBy path exclude force.isSome)).toJson

/-- Finds symbols. -/
def find (args : JsonValue) : Job JsonValue := do
  let query ← require args "query"
  let kind ← given? args "type"
  match kind.map fun v => (v, SymbolKind.ofWord? v.plain) with
  | some (v, none) =>
    return .object [("error", .string ("Unknown symbol type '" ++ v.plain ++ "'")), ("results", .array [])]
  | other =>
    let query ← textOf query
    return results SymbolEntry.toJson (← ask fun ws => ws.find query (other.bind (·.2)))

/-- Lists the calls of a method or function. -/
def calls (args : JsonValue) : Job JsonValue := do
  let className ← given? args "class_name"
  let method ← nonBlankText .emptyMethodName (← require args "method")
  let className ← className.mapM fun v => (textOf v : Job String)
  return results Call.CallSite.toJson (← ask fun ws => ws.callsFrom className method)

/-- The depth of a trace that an argument asks for, and how it is shown. A fraction goes as deep as the next whole
number. -/
def depthOf (standing : Nat) : Option JsonValue → Except CallFault (Int × JsonValue)
  | none => .ok (standing, .int standing)
  | some (.int n) => .ok (n, .int n)
  | some (.bool b) => .ok (if b then 1 else 0, .bool b)
  | some (.real x) =>
    if x.isNegative then .error (.fault (.negativeDepth (JsonValue.real x).plain))
    else .ok (x.ceiling, .real x)
  | some v => .error (.misuse (.comparing v.typeName))

/-- Traces what an entry calls. -/
def trace (args : JsonValue) : Job JsonValue := do
  let entry ← require args "entry"
  let depth ← value? args "max_depth"
  let withArguments ← given? args "include_parameters"
  let entry ← nonBlankText .emptyEntry entry
  let (depth, shown) ← depthOf (← get).settings.traceDepth depth
  let t ← ask fun ws => ws.trace entry (some depth) withArguments.isSome
  match shown with
  | .real _ => if !t.steps.isEmpty then throw (.misuse .indenting)
  | _ => pure ()
  let rendered ← t.render.mapError fun cause => CallFault.fault (.indent cause)
  return .object (t.fields shown ++ [("rendered", .string rendered)])

/-- Lists the relations of a file. -/
def relations (args : JsonValue) : Job JsonValue := do
  let path ← pathOf (← require args "path")
  return results Relation.toJson (← ask fun ws => ws.relationsOf path)

/-- Lists the files that import a file. -/
def importers (args : JsonValue) : Job JsonValue := do
  let path ← pathOf (← require args "path")
  return results .string (← ask fun ws => ws.importersOf path)

/-- Checks calls against a signature. -/
def signature (args : JsonValue) : Job JsonValue := do
  let file ← require args "file"
  let className ← require args "class_name"
  let method ← require args "method"
  let className ← nonBlankText .emptyClassOrMethodName className
  let method ← nonBlankText .emptyClassOrMethodName method
  let file ← pathOf file
  return (← ask fun ws => ws.checkSignature file className method).toJson

/-- Lists all calls. -/
def graph (_ : JsonValue) : Job JsonValue :=
  return (← get).index.callGraphJson

/-- Forgets a file, or everything. -/
def clear (args : JsonValue) : Job JsonValue := do
  match ← value? args "path" with
  | none =>
    act (Workspace.forget none)
    return .object [("cleared", .string "all")]
  | some v =>
    let path ← pathOf v
    act (Workspace.forget (some path))
    return .object [("cleared", .string path)]

/-- Counts what is in the index. -/
def stats (_ : JsonValue) : Job JsonValue :=
  return (← get).index.totals.toJson

/-! ### Calls by name -/

/-- The tools by name. -/
def jobs : List (String × (JsonValue → Job JsonValue)) := [
  ("callmap_analyze", analyze), ("callmap_index", index), ("callmap_find", find), ("callmap_calls", calls),
  ("callmap_trace", trace), ("callmap_relationships", relations), ("callmap_dependents", importers),
  ("callmap_signature", signature), ("callmap_graph", graph), ("callmap_clear", clear), ("callmap_stats", stats)]

/-- What the tool of a name does; a name without a tool is answered with an error. -/
def job (name : String) (args : JsonValue) : Job JsonValue :=
  match jobs.lookup name with
  | some run => run args
  | none => return .object [("error", .string ("Unknown tool: " ++ name))]

/-- Calls a tool. -/
def call (name : String) (args : JsonValue) : StateM Workspace String := do
  match ← (job name args).run with
  | .ok result => return result.pretty
  | .error fault =>
    if fault.isUnforeseen then
      modify fun ws => { ws with log := ws.log ++ ["Tool " ++ name ++ " failed"] }
    return (JsonValue.object [("error", .string fault.message)]).compact

end CallIndex.Tool
