import CallIndex.Trace.Step

/-!
# Trace trees

The steps of a trace come in pre-order, and a step lies less deep than the steps below it. So the tree is built from the
left with a branch of open nodes: a step closes the nodes that do not lie above it, and hangs under the innermost node
that is left. All steps are below the first one, which stays open to the end.

* `Branch.hang` puts one step into a tree, and `Tree.build` all of them.
* `Tree.preorder` gives back the steps of a tree.
* `Tree.rows` lists the nodes, each with the step it hangs under.
-/

namespace CallIndex.Trace

/-- A step and the steps below it. -/
inductive Tree where
  | node (step : Step) (children : List Tree)
  deriving Repr

/-- A node that is still open: its step, and the trees that are finished below it. -/
structure OpenNode where
  step : Step
  children : List Tree := []
  deriving Repr

namespace OpenNode

/-- The tree of a node that is closed. -/
def tree (n : OpenNode) : Tree :=
  .node n.step n.children

/-- Adds a finished tree below the node. -/
def add (n : OpenNode) (t : Tree) : OpenNode :=
  { n with children := n.children ++ [t] }

end OpenNode

/-- The open nodes of a tree that is built: the innermost one, and those around it from the inside to the root. -/
structure Branch where
  inner : OpenNode
  outer : List OpenNode := []
  deriving Repr

namespace Branch

/-- Closes open nodes from the inside as long as they lie at the depth or lower. The root stays open. -/
def closeTo (depth : Int) (inner : OpenNode) : List OpenNode → Branch
  | [] => ⟨inner, []⟩
  | next :: outer =>
    if inner.step.depth ≤ depth then closeTo depth (next.add inner.tree) outer else ⟨inner, next :: outer⟩

/-- Hangs a step under the innermost node that lies above it, and opens it. -/
def hang (b : Branch) (s : Step) : Branch :=
  let b := closeTo s.depth b.inner b.outer
  ⟨{ step := s }, b.inner :: b.outer⟩

/-- The tree, when all nodes are closed. -/
def tree (b : Branch) : Tree :=
  (b.outer.foldl (fun inner next => next.add inner.tree) b.inner).tree

end Branch

namespace Tree

/-- The step at the root. -/
def step : Tree → Step
  | node s _ => s

/-- The trees below the root. -/
def children : Tree → List Tree
  | node _ ts => ts

/-- The tree of a first step and the steps behind it. -/
def build (first : Step) (steps : List Step) : Tree :=
  (steps.foldl Branch.hang ⟨{ step := first }, []⟩).tree

mutual

/-- The steps of a tree in pre-order. -/
def preorder : Tree → List Step
  | node s ts => s :: preorderAll ts

/-- The steps of a forest in pre-order. -/
def preorderAll : List Tree → List Step
  | [] => []
  | t :: ts => t.preorder ++ preorderAll ts

end

/-- A node of a tree: the step it hangs under, and its step. -/
structure Row where
  parent : Option Step
  step : Step
  deriving DecidableEq, Repr

mutual

/-- The rows below a node. -/
def rowsBelow : Tree → List Row
  | node s ts => rowsAmong s ts

/-- The rows of the children of a step. -/
def rowsAmong (parent : Step) : List Tree → List Row
  | [] => []
  | t :: ts => ⟨some parent, t.step⟩ :: t.rowsBelow ++ rowsAmong parent ts

end

/-- The rows of a tree. -/
def rows (t : Tree) : List Row :=
  ⟨none, t.step⟩ :: t.rowsBelow

end Tree

/-- The tree of a trace; an empty trace has none. -/
def ExecutionTrace.tree? (t : ExecutionTrace) : Option Tree :=
  match t.steps with
  | [] => none
  | first :: rest => some (.build first rest)

end CallIndex.Trace
