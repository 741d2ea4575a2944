import CallIndex.Json.Value
import CallIndex.Workspace

/-!
# Reports

The JSON form of what the index answers with: symbols, calls, relations, summaries, traces and totals.
-/

namespace CallIndex

/-- What stands in a report in the place of a time. -/
def timeMark : String := "<time>"

/-- A symbol in a report. -/
def SymbolEntry.toJson (e : SymbolEntry) : JsonValue := .object [
  ("key", .string e.key),
  ("name", .string e.name),
  ("qualified_name", .string e.qualifiedName),
  ("type", .string e.kind.word),
  ("file", .string e.path),
  ("line", .int e.line)]

/-- A call in a report. -/
def Call.CallSite.toJson (c : Call.CallSite) : JsonValue := .object [
  ("caller", .string c.caller),
  ("callee", .string c.callee),
  ("raw", .string c.raw),
  ("line", .int c.line),
  ("arguments", .ofOption .string c.arguments)]

/-- A relation in a report. -/
def Relation.toJson (r : Relation) : JsonValue := .object [
  ("source", .string r.source),
  ("target", .string r.target),
  ("type", .string r.kind.word)]

/-- A summary in a report: calls are counted, not listed. -/
def FileSummary.toJson (s : FileSummary) : JsonValue := .object [
  ("path", .string s.path),
  ("language", .string s.language),
  ("classes", .ofList (fun c => .object [
    ("name", .string c.name),
    ("line", .int c.line),
    ("methods", .ofStrings c.methodNames),
    ("properties", .ofStrings c.propertyNames),
    ("bases", .ofStrings c.bases)]) s.classes),
  ("functions", .ofList (fun f => .object [
    ("name", .string f.name),
    ("line", .int f.line),
    ("parameters", .ofStrings f.parameters)]) s.functions),
  ("methods", .ofList (fun m => .object [
    ("class", .string m.className),
    ("name", .string m.name),
    ("line", .int m.line),
    ("parameters", .ofStrings m.parameters)]) s.methods),
  ("imports", .ofStrings s.imports),
  ("exports", .ofStrings s.exports),
  ("calls", .int s.calls.length)]

/-- A report on the indexing of a directory. -/
def IndexReport.toJson (r : IndexReport) : JsonValue := .object [
  ("files", .int r.files),
  ("symbols", .int r.symbols),
  ("calls", .int r.calls),
  ("skipped", .int r.skipped),
  ("unchanged", .int r.unchanged),
  ("errors", .ofStrings r.errors)]

/-- The totals of an index in a report. -/
def Index.Totals.toJson (t : Index.Totals) : JsonValue := .object [
  ("files", .int t.files),
  ("symbols", .int t.symbols),
  ("calls", .int t.calls),
  ("relationships", .int t.relations),
  ("last_analyzed", .ofOption (fun _ => .string timeMark) t.lastStamp)]

/-- The calls of every file in a report. -/
def Index.callGraphJson (ix : Index) : JsonValue :=
  .object (ix.calls.pairs.map fun (path, calls) => (path, .ofList Call.CallSite.toJson calls))

/-- The check of a signature in a report. -/
def SignatureCheck.toJson (c : SignatureCheck) : JsonValue := .object [
  ("match", .bool c.isMatch),
  ("expected", .ofOption (fun m => .object [
    ("name", .string m.qualifiedName),
    ("line", .int m.line),
    ("parameters", .ofStrings m.parameters)]) c.expected),
  ("calls", .ofList Call.CallSite.toJson c.calls),
  ("issues", .ofStrings c.issues)]

namespace Trace

/-- A call of a trace in a report; arguments are there only when they were asked for. -/
def TraceCall.toJson (c : TraceCall) : JsonValue := .object ([
  ("target", .string c.target),
  ("line", .int c.line),
  ("raw", .string c.raw),
  ("back_reference", .bool c.isBack)] ++ (c.arguments.map fun a => ("arguments", .string a)).toList)

/-- A step in a report, with its depth as it is to be shown. -/
def Step.toJson (s : Step) (shownDepth : JsonValue) : JsonValue := .object [
  ("symbol", .string s.symbol),
  ("depth", shownDepth),
  ("resolved", .bool s.isResolved),
  ("back_reference", .bool s.isBack),
  ("calls", .ofList TraceCall.toJson s.calls)]

/-- The fields of a trace in a report. The depth of the trace, which is also that of its first step, is shown as
`shownDepth`. -/
def ExecutionTrace.fields (t : ExecutionTrace) (shownDepth : JsonValue) : List (String × JsonValue) :=
  let steps := match t.steps with
    | [] => []
    | first :: rest => first.toJson shownDepth :: rest.map fun s => s.toJson (.int s.depth)
  [("entry", .string t.entry),
    ("max_depth", shownDepth),
    ("visited", .int t.symbols.length),
    ("steps", .array steps)]

/-- A trace in a report. -/
def ExecutionTrace.toJson (t : ExecutionTrace) : JsonValue :=
  .object (t.fields (.int t.maxDepth))

end Trace

end CallIndex
