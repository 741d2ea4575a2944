import CallIndex.Proofs.TraceShape
import CallIndex.Trace.Tree

/-!
# The tree of a trace

While a trace is walked, every step is appended by the expansion of another one.  So the walk grows a tree: the children
of a step are the steps that its own calls produce, in the order of the calls (`CallForest`, `CallTree`).  The trace keeps
the steps of this tree in pre-order, with their depths, and from these the tree is found again: the children of a step lie
one depth lower, and its siblings and those of the steps above it do not lie lower than itself.

The loop that finds it goes through the steps with a branch of open nodes.  What it builds is told from the right: a step
takes as its children the trees behind it whose steps have a smaller depth (`Tree.forest`).

* `CallForest.unique`: the tree is determined by the index, the entry and the depth.
* `Tree.build_eq`: the loop builds the forest of the steps below the first one.
* `CallForest.forest_append`: steps in pre-order are put together to the trees they come from.
* `trace_tree_is_call_tree`: the tree of a trace is the tree of its calls.
-/

namespace CallIndex.Trace

open Call (CallSite)

variable {ix : Index} {externals : List String} {withArguments : Bool}

/-! ### Growing a tree -/

/-- The trees that the calls out of a step produce, one call after the other, where `depth` is the depth below the step.
Beside them, the calls as the step lists them, the call sites that produce the nodes of the trees in pre-order, and what
has been seen in the end. -/
inductive CallForest (ix : Index) (externals : List String) (withArguments : Bool) :
    Nat → Seen → List (String × CallSite) → List TraceCall → List Tree → List CallSite → Seen → Prop
  | nil {depth : Nat} {seen : Seen} : CallForest ix externals withArguments depth seen [] [] [] [] seen
  /-- A further call of a symbol that has a back-reference produces nothing. -/
  | again {depth : Nat} {seen last : Seen} {target : String} {site : CallSite} {calls : List (String × CallSite)}
      {listing : List TraceCall} {trees : List Tree} {sites : List CallSite} (hv : target ∈ seen.visited)
      (hb : target ∈ seen.backed)
      (rest : CallForest ix externals withArguments depth seen calls listing trees sites last) :
      CallForest ix externals withArguments depth seen ((target, site) :: calls)
        (listed withArguments true target site :: listing) trees sites last
  /-- The first call that finds a symbol visited produces a leaf. -/
  | back {depth : Nat} {seen last : Seen} {target : String} {site : CallSite} {calls : List (String × CallSite)}
      {listing : List TraceCall} {trees : List Tree} {sites : List CallSite} (hv : target ∈ seen.visited)
      (hb : target ∉ seen.backed)
      (rest : CallForest ix externals withArguments depth { seen with backed := seen.backed ++ [target] } calls listing
        trees sites last) :
      CallForest ix externals withArguments depth seen ((target, site) :: calls)
        (listed withArguments true target site :: listing)
        (.node { symbol := target, depth := depth, isBack := true } [] :: trees) (site :: sites) last
  /-- The call of a new symbol produces a node, whose children are produced by the calls out of that symbol. -/
  | fresh {depth : Nat} {seen between last : Seen} {target : String} {site : CallSite}
      {calls inner : List (String × CallSite)} {entries : List SymbolEntry} {listing inside : List TraceCall}
      {trees children : List Tree} {sites within : List CallSite} (hv : target ∉ seen.visited)
      (hr : ix.symbols.resolve target = .ok entries) (hp : pending ix externals depth target = .ok inner)
      (below : CallForest ix externals withArguments (depth - 1) { seen with visited := seen.visited ++ [target] } inner
        inside children within between)
      (rest : CallForest ix externals withArguments depth between calls listing trees sites last) :
      CallForest ix externals withArguments depth seen ((target, site) :: calls)
        (listed withArguments false target site :: listing)
        (.node { symbol := target, depth := depth, isResolved := !entries.isEmpty, calls := inside } children :: trees)
        (site :: (within ++ sites)) last

/-- The tree of the calls from a known entry, down to `maxDepth` calls, and the call sites that produce its nodes below
the root, in pre-order. -/
def GrownTree (ix : Index) (externals : List String) (withArguments : Bool) (entry : String) (maxDepth : Nat)
    (tree : Tree) (sites : List CallSite) : Prop :=
  ∃ entries inner listing children last, ix.symbols.resolve entry = .ok entries ∧ entries ≠ [] ∧
    pending ix externals maxDepth entry = .ok inner ∧
    CallForest ix externals withArguments (maxDepth - 1) { visited := entry :: entries.map (·.qualifiedName) } inner
      listing children sites last ∧
    tree = .node { symbol := entry, depth := maxDepth, calls := listing } children

/-- The tree of the calls from a known entry, down to `maxDepth` calls. -/
def CallTree (ix : Index) (externals : List String) (withArguments : Bool) (entry : String) (maxDepth : Nat)
    (tree : Tree) : Prop :=
  ∃ sites, GrownTree ix externals withArguments entry maxDepth tree sites

namespace CallForest

variable {depth : Nat} {seen last : Seen} {calls : List (String × CallSite)} {listing : List TraceCall}
  {trees : List Tree} {sites : List CallSite}

theorem unique (h : CallForest ix externals withArguments depth seen calls listing trees sites last)
    {listing' : List TraceCall} {trees' : List Tree} {sites' : List CallSite} {last' : Seen}
    (h' : CallForest ix externals withArguments depth seen calls listing' trees' sites' last') :
    listing' = listing ∧ trees' = trees ∧ sites' = sites ∧ last' = last := by
  induction h generalizing listing' trees' sites' last' with
  | nil =>
    cases h'
    exact ⟨rfl, rfl, rfl, rfl⟩
  | again hv hb _ ih =>
    cases h' with
    | again _ _ rest' =>
      obtain ⟨rfl, rfl, rfl, rfl⟩ := ih rest'
      exact ⟨rfl, rfl, rfl, rfl⟩
    | back _ hb' _ => exact absurd hb hb'
    | fresh hv' _ _ _ _ => exact absurd hv hv'
  | back hv hb _ ih =>
    cases h' with
    | again _ hb' _ => exact absurd hb' hb
    | back _ _ rest' =>
      obtain ⟨rfl, rfl, rfl, rfl⟩ := ih rest'
      exact ⟨rfl, rfl, rfl, rfl⟩
    | fresh hv' _ _ _ _ => exact absurd hv hv'
  | fresh hv hr hp _ _ ihBelow ihRest =>
    cases h' with
    | again hv' _ _ => exact absurd hv' hv
    | back hv' _ _ => exact absurd hv' hv
    | fresh _ hr' hp' below' rest' =>
      cases hr.symm.trans hr'
      cases hp.symm.trans hp'
      obtain ⟨rfl, rfl, rfl, rfl⟩ := ihBelow below'
      obtain ⟨rfl, rfl, rfl, rfl⟩ := ihRest rest'
      exact ⟨rfl, rfl, rfl, rfl⟩

private theorem depth_root (h : CallForest ix externals withArguments depth seen calls listing trees sites last)
    {t : Tree} (ht : t ∈ trees) : t.step.depth = depth := by
  induction h with
  | nil => cases ht
  | again _ _ _ ih => exact ih ht
  | back _ _ _ ih =>
    rcases List.mem_cons.1 ht with rfl | ht
    · rfl
    · exact ih ht
  | fresh _ _ _ _ _ _ ih =>
    rcases List.mem_cons.1 ht with rfl | ht
    · rfl
    · exact ih ht

end CallForest

/-- An exploration grows trees, and lists their steps in pre-order. -/
private theorem Explored.exists_callForest {depth : Nat} {seen : Seen} {calls : List (String × CallSite)}
    {x : Expansion} (h : Explored ix externals withArguments depth seen calls x) :
    ∃ trees sites, CallForest ix externals withArguments depth seen calls x.calls trees sites x.seen ∧
      Tree.preorderAll trees = x.steps := by
  induction h with
  | nil => exact ⟨[], [], .nil, rfl⟩
  | again hv hb _ ih =>
    obtain ⟨trees, sites, hgrown, hsteps⟩ := ih
    exact ⟨trees, sites, .again hv hb hgrown, hsteps⟩
  | back hv hb _ ih =>
    obtain ⟨trees, sites, hgrown, hsteps⟩ := ih
    refine ⟨_, _, .back hv hb hgrown, ?_⟩
    rw [Tree.preorderAll, hsteps]
    rfl
  | fresh hv hr hp _ _ ihBelow ihRest =>
    obtain ⟨children, within, hbelow, hchildren⟩ := ihBelow
    obtain ⟨trees, sites, hgrown, hsteps⟩ := ihRest
    refine ⟨_, _, .fresh hv hr hp hbelow hgrown, ?_⟩
    rw [Tree.preorderAll, Tree.preorder, hchildren, hsteps]
    rfl

/-! ### The loop -/

namespace Tree

/-- The tree lies below a step. -/
def isBelow (s : Step) (t : Tree) : Bool :=
  t.step.depth < s.depth

/-- Puts a step in front of a forest: it takes the first trees whose steps have a smaller depth. -/
def adopt (s : Step) (forest : List Tree) : List Tree :=
  node s (forest.takeWhile (isBelow s)) :: forest.dropWhile (isBelow s)

/-- The forest of steps in pre-order. -/
def forest (steps : List Step) : List Tree :=
  steps.foldr adopt []

private theorem forest_nil : forest [] = [] :=
  rfl

private theorem forest_cons (s : Step) (steps : List Step) : forest (s :: steps) = adopt s (forest steps) :=
  rfl

/-- A step takes the trees that lie lower, up to the first one that does not. -/
private theorem adopt_append {s : Step} {below behind : List Tree} (hbelow : ∀ t ∈ below, t.step.depth < s.depth)
    (hbehind : ∀ t ∈ behind.head?, s.depth ≤ t.step.depth) :
    adopt s (below ++ behind) = .node s below :: behind := by
  have hall : ∀ t ∈ below, isBelow s t = true := fun t ht => decide_eq_true (hbelow t ht)
  unfold adopt
  rw [List.takeWhile_append_of_pos hall, List.dropWhile_append_of_pos hall]
  cases behind with
  | nil => simp
  | cons t behind =>
    have ht : isBelow s t = false := decide_eq_false (Int.not_lt.2 (hbehind t rfl))
    simp [ht]

end Tree

namespace Branch

/-- The tree of a branch when a forest comes behind it: from the inside, each open node takes the trees that lie lower
than itself, and the root takes all that are left. -/
def fill (inner : OpenNode) (forest : List Tree) : List OpenNode → Tree
  | [] => .node inner.step (inner.children ++ forest)
  | next :: outer =>
    fill (next.add (.node inner.step (inner.children ++ forest.takeWhile (Tree.isBelow inner.step))))
      (forest.dropWhile (Tree.isBelow inner.step)) outer

private theorem fill_nil (inner : OpenNode) (outer : List OpenNode) :
    fill inner [] outer = Branch.tree ⟨inner, outer⟩ := by
  induction outer generalizing inner with
  | nil =>
    rw [fill, List.append_nil]
    rfl
  | cons next outer ih =>
    rw [fill, List.takeWhile_nil, List.dropWhile_nil, List.append_nil, ih]
    rfl

/-- The first tree of the forest hangs under the innermost node that is left when the others are closed. -/
private theorem fill_cons (inner : OpenNode) (t : Tree) (forest : List Tree) (outer : List OpenNode) :
    fill inner (t :: forest) outer =
      fill ((closeTo t.step.depth inner outer).inner.add t) forest (closeTo t.step.depth inner outer).outer := by
  induction outer generalizing inner with
  | nil =>
    rw [closeTo, fill, fill, OpenNode.add, List.append_assoc]
    rfl
  | cons next outer ih =>
    rw [closeTo]
    by_cases hclosed : inner.step.depth ≤ t.step.depth
    · -- the tree does not lie below the node, which therefore takes nothing
      have ht : ¬ Tree.isBelow inner.step t = true := fun h => absurd (of_decide_eq_true h) (Int.not_lt.2 hclosed)
      rw [if_pos hclosed, fill, List.takeWhile_cons_of_neg ht, List.dropWhile_cons_of_neg ht, List.append_nil, ih]
      rfl
    · have ht : Tree.isBelow inner.step t = true := decide_eq_true (Int.not_le.1 hclosed)
      have hadd : (inner.add t).children ++ forest.takeWhile (Tree.isBelow inner.step) =
          inner.children ++ t :: forest.takeWhile (Tree.isBelow inner.step) := by
        rw [OpenNode.add, List.append_assoc]
        rfl
      rw [if_neg hclosed, fill, List.takeWhile_cons_of_pos ht, List.dropWhile_cons_of_pos ht, ← hadd, fill]
      rfl

/-- One step of the loop does not change what the branch and the steps to come make. -/
private theorem fill_hang (b : Branch) (s : Step) (steps : List Step) :
    fill (b.hang s).inner (Tree.forest steps) (b.hang s).outer = fill b.inner (Tree.forest (s :: steps)) b.outer := by
  rw [Tree.forest_cons, Tree.adopt, fill_cons]
  rfl

private theorem tree_foldl_hang (b : Branch) (steps : List Step) :
    (steps.foldl hang b).tree = fill b.inner (Tree.forest steps) b.outer := by
  induction steps generalizing b with
  | nil => exact (fill_nil b.inner b.outer).symm
  | cons s steps ih => rw [List.foldl_cons, ih, fill_hang]

end Branch

/-- The loop builds the forest of the steps below the first one. -/
theorem Tree.build_eq (first : Step) (steps : List Step) : build first steps = .node first (forest steps) := by
  rw [build, Branch.tree_foldl_hang, Branch.fill]
  rfl

/-! ### Finding the tree again -/

namespace CallForest

variable {depth : Nat} {seen last : Seen} {calls : List (String × CallSite)} {listing : List TraceCall}
  {trees : List Tree} {sites : List CallSite}

/-- The trees below a step lie lower than it: at depth zero there are none. -/
private theorem depth_lt {target : String} {inner : List (String × CallSite)}
    (hp : pending ix externals depth target = .ok inner)
    (h : CallForest ix externals withArguments (depth - 1) seen inner listing trees sites last) {t : Tree}
    (ht : t ∈ trees) : t.step.depth < depth := by
  cases depth with
  | zero =>
    cases hp
    cases h
    cases ht
  | succ depth =>
    have := h.depth_root ht
    omega

/-- The first tree does not lie lower than the trees that are grown, if the first one behind them does not. -/
private theorem le_depth_head (h : CallForest ix externals withArguments depth seen calls listing trees sites last)
    {behind : List Tree} (hbehind : ∀ t ∈ behind.head?, (depth : Int) ≤ t.step.depth) :
    ∀ t ∈ (trees ++ behind).head?, (depth : Int) ≤ t.step.depth := by
  cases trees with
  | nil => exact hbehind
  | cons first trees =>
    intro t ht
    obtain rfl : first = t := by simpa using ht
    exact Int.le_of_eq (h.depth_root (List.mem_cons_self ..)).symm

/-- Steps in pre-order are put together to the trees they come from. -/
theorem forest_append (h : CallForest ix externals withArguments depth seen calls listing trees sites last)
    {steps : List Step} (hsteps : ∀ t ∈ (Tree.forest steps).head?, (depth : Int) ≤ t.step.depth) :
    Tree.forest (Tree.preorderAll trees ++ steps) = trees ++ Tree.forest steps := by
  induction h generalizing steps with
  | nil => rfl
  | again _ _ _ ih => exact ih hsteps
  | back _ _ rest ih =>
    rw [Tree.preorderAll, Tree.preorder, Tree.preorderAll, List.append_assoc, List.singleton_append, Tree.forest_cons,
      ih hsteps]
    exact Tree.adopt_append (fun t ht => absurd ht List.not_mem_nil) (rest.le_depth_head hsteps)
  | fresh _ _ hp below rest ihBelow ihRest =>
    have hbehind := rest.le_depth_head hsteps
    rw [Tree.preorderAll, Tree.preorder, List.cons_append, List.cons_append, List.append_assoc, Tree.forest_cons, ihBelow,
      ihRest hsteps]
    · exact Tree.adopt_append (fun t ht => below.depth_lt hp ht) hbehind
    · -- what stands behind the children lies at least one depth above them
      rw [ihRest hsteps]
      intro t ht
      have := hbehind t ht
      omega

private theorem forest_preorderAll
    (h : CallForest ix externals withArguments depth seen calls listing trees sites last) :
    Tree.forest (Tree.preorderAll trees) = trees := by
  have hnil : ∀ t ∈ (Tree.forest []).head?, (depth : Int) ≤ t.step.depth := fun t ht => nomatch ht
  have := h.forest_append hnil
  rwa [List.append_nil, Tree.forest_nil, List.append_nil] at this

end CallForest

namespace Tree

mutual

private theorem map_step_rowsBelow : ∀ t : Tree, t.rowsBelow.map Row.step = preorderAll t.children
  | node s ts => by
    rw [rowsBelow, map_step_rowsAmong, children]

theorem map_step_rowsAmong (parent : Step) : ∀ ts : List Tree, (rowsAmong parent ts).map Row.step = preorderAll ts
  | [] => rfl
  | node s ts :: rest => by
    rw [rowsAmong, List.map_append, List.map_cons, map_step_rowsBelow, map_step_rowsAmong]
    rfl

end

/-- The rows of a tree show its steps in pre-order. -/
theorem map_step_rows (t : Tree) : t.rows.map Row.step = t.preorder := by
  obtain ⟨s, ts⟩ := t
  rw [rows, List.map_cons, map_step_rowsBelow]
  rfl

end Tree

/-! ### The tree of a trace -/

/-- Only the trace of a known symbol has steps. -/
theorem exists_entries_of_walk {entry : String} {maxDepth : Nat} {t : ExecutionTrace}
    (h : walk ix externals entry maxDepth withArguments = .ok t) (hne : t.steps ≠ []) :
    ∃ entries, ix.symbols.resolve entry = .ok entries ∧ entries ≠ [] := by
  obtain ⟨entries, hr, h⟩ := bind_eq_ok h
  refine ⟨entries, hr, ?_⟩
  rintro rfl
  cases h
  exact hne rfl

theorem walk_of_trace_ok {entry : String} {maxDepth : Int} {t : ExecutionTrace}
    (h : trace ix externals entry maxDepth withArguments = .ok t) :
    walk ix externals (Text.trimmed entry) maxDepth.toNat withArguments = .ok t := by
  simp only [trace] at h
  by_cases hentry : Text.trimmed entry = ""
  · rw [if_pos hentry] at h
    cases h
  by_cases hdepth : maxDepth < 0
  · rw [if_neg hentry, if_pos hdepth] at h
    cases h
  rw [if_neg hentry, if_neg hdepth] at h
  exact mapError_eq_ok h

theorem GrownTree.unique {entry : String} {maxDepth : Nat} {tree tree' : Tree} {sites sites' : List CallSite}
    (h : GrownTree ix externals withArguments entry maxDepth tree sites)
    (h' : GrownTree ix externals withArguments entry maxDepth tree' sites') : tree' = tree ∧ sites' = sites := by
  obtain ⟨entries, inner, listing, children, last, hr, -, hp, hgrown, rfl⟩ := h
  obtain ⟨entries', inner', listing', children', last', hr', -, hp', hgrown', rfl⟩ := h'
  cases hr.symm.trans hr'
  cases hp.symm.trans hp'
  obtain ⟨rfl, rfl, rfl, -⟩ := hgrown.unique hgrown'
  exact ⟨rfl, rfl⟩

/-- The walk grows the tree that is found from its steps. -/
theorem grownTree_of_walk {entry : String} {maxDepth : Nat} {t : ExecutionTrace}
    (h : walk ix externals entry maxDepth withArguments = .ok t) (hne : t.steps ≠ []) :
    ∃ tree sites, t.tree? = some tree ∧ tree.preorder = t.steps ∧
      GrownTree ix externals withArguments entry maxDepth tree sites := by
  obtain ⟨entries, hr, hentries⟩ := exists_entries_of_walk h hne
  obtain ⟨inner, x, hp, hx, hsteps⟩ := explored_of_walk hr hentries h
  obtain ⟨children, sites, hgrown, hchildren⟩ := hx.exists_callForest
  refine ⟨.node { symbol := entry, depth := maxDepth, calls := x.calls } children, sites, ?_, ?_,
    entries, inner, x.calls, children, x.seen, hr, hentries, hp, hgrown, rfl⟩
  · rw [ExecutionTrace.tree?, hsteps]
    dsimp only
    rw [Tree.build_eq, ← hchildren, hgrown.forest_preorderAll]
  · rw [Tree.preorder, hchildren, hsteps]

/-- The tree of a trace that has steps is the tree of its calls: a node for every step, in pre-order, and each one below
the step whose calls produce it. -/
theorem trace_tree_is_call_tree (ix : Index) (externals : List String) (withArguments : Bool) {entry : String}
    {maxDepth : Int} {t : ExecutionTrace} (ht : trace ix externals entry maxDepth withArguments = .ok t)
    (hne : t.steps ≠ []) :
    ∃ tree, t.tree? = some tree ∧ tree.preorder = t.steps ∧ tree.rows.map Tree.Row.step = t.steps ∧
      ∀ tree', CallTree ix externals withArguments (Text.trimmed entry) maxDepth.toNat tree' ↔ tree' = tree := by
  obtain ⟨tree, sites, htree, hsteps, hgrown⟩ := grownTree_of_walk (walk_of_trace_ok ht) hne
  refine ⟨tree, htree, hsteps, by rw [Tree.map_step_rows, hsteps], fun tree' => ⟨?_, ?_⟩⟩
  · rintro ⟨sites', hgrown'⟩
    exact (hgrown.unique hgrown').1
  · rintro rfl
    exact ⟨sites, hgrown⟩

/-- In this trace `last` is met on two ways, and `main` once more. -/
theorem diamond_tree_is_call_tree :
    ∃ t, trace diamondIndex [] " main" 3 false = .ok t ∧ t.steps ≠ [] ∧
      ∃ tree, t.tree? = some tree ∧ tree.preorder = t.steps ∧ tree.rows.map Tree.Row.step = t.steps ∧
        ∀ tree', CallTree diamondIndex [] false (Text.trimmed " main") (3 : Int).toNat tree' ↔ tree' = tree := by
  have hr : diamondIndex.symbols.resolve (Text.trimmed " main") = .ok [diamondEntry "main" 1] := rfl
  obtain ⟨t, ht⟩ : ∃ t, trace diamondIndex [] " main" 3 false = .ok t := trace_ok hr (by simp) (by decide) diamond_closed
  obtain ⟨inner, x, -, -, hsteps⟩ := explored_of_walk hr (by simp) (walk_of_trace_ok ht)
  have hne : t.steps ≠ [] := hsteps ▸ List.cons_ne_nil _ _
  exact ⟨t, ht, hne, trace_tree_is_call_tree diamondIndex [] false ht hne⟩

end CallIndex.Trace
