import CallIndex.Command.Run
import CallIndex.Proofs.ResolvedFlags

/-!
# The arguments shown in a trace tree

Every step of a trace but the first is appended by a call out of another step.  The label of the step shows the arguments
of a call that is looked up again, by its target, among the calls that the step above lists.  The call that is found is
the one that appended the step, unless the step above made the symbol known itself and then refers back to it
(`Tree.Row.Repeats`): then it is the call that made the symbol known.

How a console escapes texts is left open, as long as the text is kept (`Command.KeepsText`).

* `Markup.keepsText_escape`: the standard console keeps the text.
* `CallForest.fromCalls`: the rows of a tree come from the calls that append the steps.
* `labels_show_appending_calls`: the labels of the tree of a trace.
-/

namespace CallIndex

open Call (CallSite)

/-! ### Labels -/

namespace Command

/-- The second text is the first one with backslashes put into it. -/
inductive WithBackslashes : List Char → List Char → Prop
  | nil : WithBackslashes [] []
  | keep {s s' : List Char} (c : Char) (h : WithBackslashes s s') : WithBackslashes (c :: s) (c :: s')
  | add {s s' : List Char} (h : WithBackslashes s s') : WithBackslashes s ('\\' :: s')

/-- What is relied on of the escaping of a console: backslashes are put into a text, and nothing else is changed. -/
def KeepsText (escape : String → String) : Prop :=
  ∀ s, WithBackslashes s.toList (escape s).toList

/-- The label of a step without arguments. -/
def plainLabel (s : Trace.Step) : String :=
  if s.isBack then "[dim]" ++ s.symbol ++ " (cycle)[/]"
  else if s.isResolved then "[cyan]" ++ s.symbol ++ "[/]"
  else "[blue]" ++ s.symbol ++ "[/] [dim](unresolved)[/]"

/-- The label shows the arguments behind the step, in parentheses and with backslashes put into them; without arguments
it is the plain one. -/
def Shows (s : Trace.Step) (arguments : Option String) (label : String) : Prop :=
  match arguments with
  | some text =>
    ∃ shown, label = plainLabel s ++ "[dim](" ++ shown ++ ")[/]" ∧ WithBackslashes text.toList shown.toList
  | none => label = plainLabel s

private theorem label_below (escape : String → String) (parent s : Trace.Step) :
    label escape true ⟨some parent, s⟩ =
      match (parent.calls.find? fun c => c.target = s.symbol).bind (·.arguments) with
      | some text => plainLabel s ++ "[dim](" ++ escape text ++ ")[/]"
      | none => plainLabel s := by
  unfold label
  dsimp only
  cases (parent.calls.find? fun c => c.target = s.symbol).bind (·.arguments) <;> rfl

/-- The label shows the arguments of the call that is found. -/
private theorem shows_label {escape : String → String} (hescape : KeepsText escape) {parent s : Trace.Step}
    {c : Trace.TraceCall} (h : (parent.calls.find? fun c => c.target = s.symbol) = some c) :
    Shows s c.arguments (label escape true ⟨some parent, s⟩) := by
  rw [label_below, h, Option.bind_some]
  cases c.arguments with
  | none => exact rfl
  | some text => exact ⟨escape text, rfl, hescape text⟩

end Command

/-! ### The escaping of the standard console -/

namespace Command.WithBackslashes

private theorem refl (s : List Char) : WithBackslashes s s := by
  induction s with
  | nil => exact .nil
  | cons c s ih => exact .keep c ih

private theorem append {a a' b b' : List Char} (ha : WithBackslashes a a') (hb : WithBackslashes b b') :
    WithBackslashes (a ++ b) (a' ++ b') := by
  induction ha with
  | nil => exact hb
  | keep c _ ih => exact .keep c ih
  | add _ ih => exact .add ih

private theorem replicate {n m : Nat} (h : n ≤ m) :
    WithBackslashes (List.replicate n '\\') (List.replicate m '\\') := by
  induction h with
  | refl => exact refl _
  | step _ ih => exact .add ih

end Command.WithBackslashes

namespace Markup

open Command (WithBackslashes)

private theorem tagBody?_eq_some {s body behind : List Char} (h : tagBody? s = some (body, behind)) :
    s = body ++ ']' :: behind := by
  cases s with
  | nil => cases h
  | cons c rest =>
    simp only [tagBody?] at h
    split at h
    · split at h
      · rename_i tail hrest
        cases h
        rw [List.cons_append, ← hrest, List.takeWhile_append_dropWhile]
      · cases h
    · cases h

private theorem tag?_eq_some {s body behind : List Char} {slashes : Nat} (h : tag? s = some (slashes, body, behind)) :
    s = List.replicate slashes '\\' ++ ('[' :: body ++ [']']) ++ behind := by
  unfold tag? at h
  split at h
  · rename_i rest hrest
    obtain ⟨⟨body', behind'⟩, hbody, heq⟩ := Option.map_eq_some_iff.1 h
    cases heq
    have hslashes : s.takeWhile (· = '\\') = List.replicate (s.takeWhile (· = '\\')).length '\\' :=
      List.eq_replicate_of_mem fun c hc => of_decide_eq_true (List.all_eq_true.1 List.all_takeWhile c hc)
    rw [← hslashes]
    conv_lhs => rw [← List.takeWhile_append_dropWhile (p := (· = '\\')) (l := s), hrest, tagBody?_eq_some hbody]
    simp
  · cases h

private theorem withBackslashes_escapeFrom (s : List Char) : WithBackslashes s (escapeFrom s) := by
  fun_induction escapeFrom s with
  | case1 => exact .nil
  | case2 c tail _ ih => exact .keep c ih
  | case3 c tail slashes body behind htag here _ ih =>
    have hslashes : WithBackslashes (List.replicate slashes '\\') (List.replicate (2 * slashes + 1) '\\') :=
      .replicate (by omega)
    have hhere : here = List.replicate (2 * slashes + 1) '\\' ++ ('[' :: body ++ [']']) := List.append_assoc ..
    rw [tag?_eq_some htag, hhere]
    exact (hslashes.append (.refl _)).append ih
  | case4 c tail slashes body behind htag here hlonger =>
    -- what follows a tag is shorter than the text
    have hlength := congrArg List.length (tag?_eq_some htag)
    simp only [List.length_cons, List.length_append, List.length_replicate] at hlength
    omega

/-- The standard console keeps the text. -/
theorem keepsText_escape : Command.KeepsText escape := by
  intro s
  have hkept := withBackslashes_escapeFrom s.toList
  unfold escape
  dsimp only
  split
  · rwa [String.toList_ofList]
  · rw [String.toList_ofList]
    have hend := hkept.append (WithBackslashes.add .nil)
    rwa [List.append_nil] at hend
  · rwa [String.toList_ofList]

end Markup

namespace Trace

variable {ix : Index} {externals : List String} {withArguments : Bool} {depth : Nat} {seen last : Seen}
  {calls : List (String × CallSite)} {listing : List TraceCall} {sites : List CallSite} {escape : String → String}

/-! ### What has been seen -/

namespace CallForest

variable {trees : List Tree}

/-- What has been seen stays seen. -/
private theorem seen_subset (h : CallForest ix externals withArguments depth seen calls listing trees sites last) :
    seen.visited ⊆ last.visited ∧ seen.backed ⊆ last.backed := by
  induction h with
  | nil => exact ⟨List.Subset.refl _, List.Subset.refl _⟩
  | again _ _ _ ih => exact ih
  | back _ _ _ ih => exact ⟨ih.1, fun u hu => ih.2 (List.mem_append_left _ hu)⟩
  | fresh _ _ _ _ _ ihBelow ihRest =>
    exact ⟨fun u hu => ihRest.1 (ihBelow.1 (List.mem_append_left _ hu)), fun u hu => ihRest.2 (ihBelow.2 hu)⟩

/-- A call of a symbol that was visited before is listed as a back-reference. -/
private theorem isBack_of_visited
    (h : CallForest ix externals withArguments depth seen calls listing trees sites last) {c : TraceCall}
    (hc : c ∈ listing) (hv : c.target ∈ seen.visited) : c.isBack = true := by
  induction h with
  | nil => cases hc
  | again _ _ _ ih =>
    rcases List.mem_cons.1 hc with rfl | hc
    · rfl
    · exact ih hc hv
  | back _ _ _ ih =>
    rcases List.mem_cons.1 hc with rfl | hc
    · rfl
    · exact ih hc hv
  | fresh hnew _ _ below _ _ ihRest =>
    rcases List.mem_cons.1 hc with rfl | hc
    · exact absurd hv hnew
    · exact ihRest hc (below.seen_subset.1 (List.mem_append_left _ hv))

end CallForest

/-! ### Rows and calls -/

/-- The step is a back-reference to a symbol that the step above it was the first to call. -/
def Tree.Row.Repeats (row : Tree.Row) : Prop :=
  row.step.isBack = true ∧
    ∃ parent, row.parent = some parent ∧ ∃ c ∈ parent.calls, c.target = row.step.symbol ∧ c.isBack = false

/-- The row is that of a step which a call site appended.  The label shows the arguments of that call or, where the step
repeats a symbol, those of the call that made the symbol known. -/
structure Tree.Row.FromCall (escape : String → String) (row : Tree.Row) (site : CallSite) : Prop where
  isListed : ∃ parent, row.parent = some parent ∧ listed true row.step.isBack row.step.symbol site ∈ parent.calls
  shows : ¬ row.Repeats → Command.Shows row.step site.arguments (Command.label escape true row)
  shows_first : row.Repeats → ∃ parent c, row.parent = some parent ∧ c ∈ parent.calls ∧ c.target = row.step.symbol ∧
    c.isBack = false ∧ Command.Shows row.step c.arguments (Command.label escape true row)

/-- The call that is found by its target is the first one with that target. -/
private theorem find?_listed {front rest : List TraceCall} {isBack : Bool} {symbol : String} {site : CallSite}
    (h : ∀ x ∈ front, x.target ≠ symbol) :
    ((front ++ listed true isBack symbol site :: rest).find? fun x => x.target = symbol) =
      some (listed true isBack symbol site) := by
  have hfront : (front.find? fun x => x.target = symbol) = none := by
    rw [List.find?_eq_none]
    intro x hx
    simpa using h x hx
  rw [List.find?_append, hfront]
  simp [listed]

/-- The row of a new step: no call of the symbol is listed before the one that appended the step. -/
private theorem fromCall_fresh (hescape : Command.KeepsText escape) {parent : Step} {front rest : List TraceCall}
    {s : Step} {site : CallSite} (hparent : parent.calls = front ++ listed true false s.symbol site :: rest)
    (hfront : ∀ c ∈ front, c.target ≠ s.symbol) (hb : s.isBack = false) :
    Tree.Row.FromCall escape ⟨some parent, s⟩ site where
  isListed := ⟨parent, rfl, by rw [hparent, hb]; simp⟩
  shows _ := Command.shows_label hescape (by rw [hparent, find?_listed hfront])
  shows_first h := absurd (hb.symm.trans h.1) Bool.false_ne_true

/-- The row of a back-reference.  The calls listed before are of visited symbols, and those among them that are flagged
have a back-reference already. -/
private theorem fromCall_back (hescape : Command.KeepsText escape) {parent : Step} {front rest : List TraceCall}
    {s : Step} {site : CallSite} (hparent : parent.calls = front ++ listed true true s.symbol site :: rest)
    (hfront : ∀ c ∈ front, c.isBack = true → c.target ≠ s.symbol)
    (hrest : ∀ c ∈ rest, c.target = s.symbol → c.isBack = true) (hb : s.isBack = true) :
    Tree.Row.FromCall escape ⟨some parent, s⟩ site where
  isListed := ⟨parent, rfl, by rw [hparent, hb]; simp⟩
  shows h := by
    have hnone : ∀ c ∈ front, c.target ≠ s.symbol := by
      intro c hc htarget
      cases hflag : c.isBack with
      | true => exact hfront c hc hflag htarget
      | false => exact h ⟨hb, parent, rfl, c, hparent ▸ List.mem_append_left _ hc, htarget, hflag⟩
    exact Command.shows_label hescape (by rw [hparent, find?_listed hnone])
  shows_first h := by
    obtain ⟨-, parent', hparent', known, hknown, htarget, hflag⟩ := h
    cases hparent'
    -- the call that made the symbol known stands before the one that appended the step
    have hbefore : known ∈ front := by
      rw [hparent] at hknown
      rcases List.mem_append.1 hknown with hknown | hknown
      · exact hknown
      · rcases List.mem_cons.1 hknown with rfl | hknown
        · cases hflag
        · rw [hrest known hknown htarget] at hflag
          cases hflag
    obtain ⟨c, hc⟩ : ∃ c, (front.find? fun x => x.target = s.symbol) = some c :=
      Option.isSome_iff_exists.1 (List.find?_isSome.2 ⟨known, hbefore, by simpa using htarget⟩)
    have hcmem := List.mem_of_find?_eq_some hc
    have hctarget : c.target = s.symbol := by simpa using List.find?_some hc
    refine ⟨parent, c, rfl, hparent ▸ List.mem_append_left _ hcmem, hctarget, ?_, ?_⟩
    · cases hcflag : c.isBack with
      | false => rfl
      | true => exact absurd hctarget (hfront c hcmem hcflag)
    · apply Command.shows_label hescape
      rw [hparent, List.find?_append, hc]
      rfl

/-- The rows below a step come from the calls that append the steps.  The calls `front` are those that the step lists
before the calls of the forest: their targets have been visited, and the flagged ones have back-references. -/
theorem CallForest.fromCalls (hescape : Command.KeepsText escape) {trees : List Tree}
    (h : CallForest ix externals true depth seen calls listing trees sites last) {parent : Step} {front : List TraceCall}
    (hparent : parent.calls = front ++ listing) (hvisited : ∀ c ∈ front, c.target ∈ seen.visited)
    (hbacked : ∀ c ∈ front, c.isBack = true → c.target ∈ seen.backed) :
    List.Forall₂ (Tree.Row.FromCall escape) (Tree.rowsAmong parent trees) sites := by
  induction h generalizing parent front with
  | nil => exact .nil
  | @again depth seen last target site calls listing trees sites hv hb rest ih =>
    have hparent' : parent.calls = front ++ [listed true true target site] ++ listing := by simpa using hparent
    exact ih hparent' (List.forall_mem_append.2 ⟨hvisited, List.forall_mem_singleton.2 hv⟩)
      (List.forall_mem_append.2 ⟨hbacked, List.forall_mem_singleton.2 fun _ => hb⟩)
  | @back depth seen last target site calls listing trees sites hv hb rest ih =>
    have hparent' : parent.calls = front ++ [listed true true target site] ++ listing := by simpa using hparent
    have hbacked' : ∀ c ∈ front, c.isBack = true → c.target ∈ seen.backed ++ [target] :=
      fun c hc hflag => List.mem_append_left _ (hbacked c hc hflag)
    have hrows := ih hparent' (List.forall_mem_append.2 ⟨hvisited, List.forall_mem_singleton.2 hv⟩)
      (List.forall_mem_append.2 ⟨hbacked', by simp [listed]⟩)
    refine .cons (fromCall_back hescape hparent ?_ ?_ rfl) hrows
    · rintro c hc hflag rfl
      exact hb (hbacked c hc hflag)
    · rintro c hc rfl
      exact rest.isBack_of_visited hc hv
  | @fresh depth seen between last target site calls inner entries listing inside trees children sites within hv hr hp
      below rest ihBelow ihRest =>
    have hs : ({ symbol := target, depth := depth, isResolved := !entries.isEmpty, calls := inside } : Step).calls =
        [] ++ inside := rfl
    have hrowsBelow := ihBelow hs (List.forall_mem_nil _) (List.forall_mem_nil _)
    have hparent' : parent.calls = front ++ [listed true false target site] ++ listing := by simpa using hparent
    obtain ⟨hvisited', hbacked'⟩ := below.seen_subset
    have hfront : ∀ c ∈ front, c.target ∈ between.visited :=
      fun c hc => hvisited' (List.mem_append_left _ (hvisited c hc))
    have htarget : target ∈ between.visited := hvisited' (List.mem_append_right _ (List.mem_singleton_self _))
    have hrows := ihRest hparent' (List.forall_mem_append.2 ⟨hfront, List.forall_mem_singleton.2 htarget⟩)
      (List.forall_mem_append.2 ⟨fun c hc hflag => hbacked' (hbacked c hc hflag), by simp [listed]⟩)
    refine .cons (fromCall_fresh hescape hparent ?_ rfl) (List.rel_append hrowsBelow hrows)
    rintro c hc rfl
    exact hv (hvisited c hc)

/-- The labels of the tree of a trace show the arguments of the calls that appended the steps, except that a
back-reference to a symbol that the step above was the first to call shows the arguments of that first call. -/
theorem labels_show_appending_calls (ix : Index) (externals : List String) {escape : String → String}
    (hescape : Command.KeepsText escape) {entry : String} {maxDepth : Int} {t : ExecutionTrace}
    (ht : trace ix externals entry maxDepth true = .ok t) (hne : t.steps ≠ []) :
    ∃ tree sites, t.tree? = some tree ∧ tree.rows.map Tree.Row.step = t.steps ∧
      (∀ tree' sites', GrownTree ix externals true (Text.trimmed entry) maxDepth.toNat tree' sites' ↔
        tree' = tree ∧ sites' = sites) ∧
      List.Forall₂ (Tree.Row.FromCall escape) tree.rows.tail sites := by
  obtain ⟨tree, sites, htree, hsteps, hgrown⟩ := grownTree_of_walk (walk_of_trace_ok ht) hne
  refine ⟨tree, sites, htree, by rw [Tree.map_step_rows, hsteps], fun tree' sites' => ⟨hgrown.unique, ?_⟩, ?_⟩
  · rintro ⟨rfl, rfl⟩
    exact hgrown
  · obtain ⟨entries, inner, listing, children, last, -, -, -, hforest, rfl⟩ := hgrown
    exact hforest.fromCalls hescape (List.nil_append listing).symm (List.forall_mem_nil _) (List.forall_mem_nil _)

/-- The tree in which `main` calls `emit` twice. -/
def twiceTree : Tree :=
  .node { symbol := "main", depth := 1,
          calls := [⟨"emit", 2, "emit", some "1", false⟩, ⟨"emit", 3, "emit", some "2", true⟩] }
    [.node { symbol := "emit", depth := 0, isResolved := false } [],
      .node { symbol := "emit", depth := 0, isBack := true } []]

private theorem labels_twiceTree : twiceTree.rows.tail.map (Command.label Markup.escape true) =
    ["[blue]emit[/] [dim](unresolved)[/][dim](1)[/]", "[dim]emit (cycle)[/][dim](1)[/]"] := by
  decide +kernel

private theorem arguments_of_listed {isBack : Bool} {site : CallSite}
    (h : listed true isBack "emit" site ∈ twiceTree.step.calls) :
    site.arguments = some (if isBack then "2" else "1") := by
  rcases List.mem_pair.1 h with h | h
  · obtain rfl : isBack = false := congrArg TraceCall.isBack h
    exact congrArg TraceCall.arguments h
  · obtain rfl : isBack = true := congrArg TraceCall.isBack h
    exact congrArg TraceCall.arguments h

/-- The label with the argument 1 does not show the argument 2. -/
private theorem not_shows_second :
    ¬ Command.Shows { symbol := "emit", depth := 0, isBack := true } (some "2") "[dim]emit (cycle)[/][dim](1)[/]" := by
  rintro ⟨shown, hlabel, hshown⟩
  have hone : "[dim]emit (cycle)[/][dim](" ++ "1" ++ ")[/]" = "[dim]emit (cycle)[/][dim](" ++ shown ++ ")[/]" := hlabel
  rw [String.append_left_inj, String.append_right_inj] at hone
  rw [← hone] at hshown
  cases hshown

/-- The second call has the argument 2, but the label of its back-reference shows that of the first one. -/
theorem twice_labels_show_calls :
    Command.KeepsText Markup.escape ∧ trace twiceIndex [] "main" 1 true = .ok ⟨"main", 1, twiceSteps true⟩ ∧
    ∃ sites, ExecutionTrace.tree? ⟨"main", 1, twiceSteps true⟩ = some twiceTree ∧
      (∀ tree' sites', GrownTree twiceIndex [] true (Text.trimmed "main") (1 : Int).toNat tree' sites' ↔
        tree' = twiceTree ∧ sites' = sites) ∧
      List.Forall₂ (Tree.Row.FromCall Markup.escape) twiceTree.rows.tail sites ∧
      sites.map (·.arguments) = [some "1", some "2"] ∧
      twiceTree.rows.tail.map (Command.label Markup.escape true) =
        ["[blue]emit[/] [dim](unresolved)[/][dim](1)[/]", "[dim]emit (cycle)[/][dim](1)[/]"] ∧
      ¬ Command.Shows { symbol := "emit", depth := 0, isBack := true } (some "2") "[dim]emit (cycle)[/][dim](1)[/]" := by
  have ht := twice_trace true
  have hne : twiceSteps true ≠ [] := List.cons_ne_nil _ _
  have htree : ExecutionTrace.tree? ⟨"main", 1, twiceSteps true⟩ = some twiceTree := rfl
  obtain ⟨tree, sites, htree', -, hgrown, hrows⟩ :=
    labels_show_appending_calls twiceIndex [] Markup.keepsText_escape ht hne
  cases htree.symm.trans htree'
  refine ⟨Markup.keepsText_escape, ht, sites, htree, hgrown, hrows, ?_, labels_twiceTree, not_shows_second⟩
  have hpair : twiceTree.rows.tail = [⟨some twiceTree.step, { symbol := "emit", depth := 0, isResolved := false }⟩,
      ⟨some twiceTree.step, { symbol := "emit", depth := 0, isBack := true }⟩] := rfl
  rw [hpair] at hrows
  rcases hrows with _ | ⟨hfirst, _ | ⟨hsecond, _ | _⟩⟩
  obtain ⟨parent, hparent, hlisted⟩ := hfirst.isListed
  obtain ⟨parent', hparent', hlisted'⟩ := hsecond.isListed
  cases hparent
  cases hparent'
  rw [List.map_cons, List.map_cons, arguments_of_listed hlisted, arguments_of_listed hlisted']
  rfl

end Trace

end CallIndex
