import CallIndex.Call.Target
import CallIndex.Index
import CallIndex.Trace.Step

/-!
# Tracing

The walk goes from a symbol to the targets of the calls in its declarations, depth first, down to a given depth. Each
symbol is expanded once: a call of a symbol that was met before is kept as a back-reference of its caller, and the
first such call of a symbol also becomes a step.
-/

namespace CallIndex.Trace

open Call (CallSite)

/-- The calls out of one entry that have a target, with their targets. -/
def targetedCalls (ix : Index) (externals : List String) (e : SymbolEntry) : List (String × CallSite) :=
  (ix.bodyCalls e).filterMap fun c => (Call.target? externals c.raw e.ownerClass?).map fun t => (t, c)

/-- The calls out of a symbol, over all its entries. -/
def outgoing (ix : Index) (externals : List String) (symbol : String) :
    Except DanglingKey (List (String × CallSite)) :=
  (ix.symbols.resolve symbol).map (·.flatMap (targetedCalls ix externals))

/-- Symbols met so far, and symbols for which a back-reference has been listed. -/
structure Seen where
  visited : List String
  backed : List String := []

/-- What the expansion of a step yields: its calls, the steps below it, and what has been seen. -/
structure Expansion where
  calls : List TraceCall := []
  steps : List Step := []
  seen : Seen

/-- Follows one call out of a step whose calls lead to depth `depth`; `expand` expands a symbol at that depth. -/
def follow (ix : Index) (withArguments : Bool) (depth : Nat)
    (expand : String → Seen → Except DanglingKey Expansion) (x : Expansion) (call : String × CallSite) :
    Except DanglingKey Expansion := do
  let (target, site) := call
  let isBack := x.seen.visited.contains target
  let calls := x.calls ++ [{
    target := target, line := site.line, raw := site.raw
    arguments := if withArguments then site.arguments else none, isBack := isBack }]
  if isBack then
    if x.seen.backed.contains target then return { x with calls := calls }
    else return {
      calls := calls
      steps := x.steps ++ [{ symbol := target, depth := depth, isBack := true }]
      seen := { x.seen with backed := x.seen.backed ++ [target] } }
  else
    let seen := { x.seen with visited := x.seen.visited ++ [target] }
    let isResolved := !(← ix.symbols.resolve target).isEmpty
    let below ← if isResolved then expand target seen else pure { seen := seen }
    return {
      calls := calls
      steps := x.steps ++ { symbol := target, depth := depth, isResolved := isResolved, calls := below.calls } ::
        below.steps
      seen := below.seen }

/-- Expands a symbol that stands at a given depth. -/
def expand (ix : Index) (externals : List String) (withArguments : Bool) :
    Nat → String → Seen → Except DanglingKey Expansion
  | 0, _, seen => .ok { seen := seen }
  | depth + 1, symbol, seen => do
    let calls ← outgoing ix externals symbol
    calls.foldlM (follow ix withArguments depth (expand ix externals withArguments depth)) { seen := seen }

/-- Traces what a trimmed entry calls, down to `maxDepth` calls; nothing when the entry is not known. -/
def walk (ix : Index) (externals : List String) (entry : String) (maxDepth : Nat) (withArguments : Bool) :
    Except DanglingKey ExecutionTrace := do
  let entries ← ix.symbols.resolve entry
  if entries.isEmpty then return { entry := entry, maxDepth := maxDepth }
  let seen : Seen := { visited := entry :: entries.map (·.qualifiedName) }
  let x ← expand ix externals withArguments maxDepth entry seen
  return {
    entry := entry, maxDepth := maxDepth
    steps := { symbol := entry, depth := maxDepth, calls := x.calls } :: x.steps }

/-- Traces what an entry calls. The entry must not be blank and the depth not negative. -/
def trace (ix : Index) (externals : List String) (entry : String) (maxDepth : Int) (withArguments : Bool) :
    Except Fault ExecutionTrace :=
  let entry := Text.trimmed entry
  if entry = "" then .error .emptyEntry
  else if maxDepth < 0 then .error (.negativeDepth (toString maxDepth))
  else (walk ix externals entry maxDepth.toNat withArguments).mapError .dangling

end CallIndex.Trace
