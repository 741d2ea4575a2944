import CallIndex.Proofs.TraceCoverage

/-!
# Deep traces

Along a chain of expansions every symbol is new, and all but the first are targets of calls in the index.  So a walk that
may go deeper than there are targets never comes to depth zero with a symbol that is to be expanded, and a greater depth
changes nothing but the depths that are noted.

* `unmet`: how many targets have not been met yet; less than what is left of the depth, in a walk that is deep enough.
* `expand_deeper`: the expansion of a symbol at a greater depth.
* `traces_saturate`: traces of all greater depths agree, and in them all known symbols are expanded.
-/

namespace CallIndex.Trace

open Call (CallSite)

/-- A step that stands `k` calls higher. -/
def Step.deeper (k : Nat) (s : Step) : Step :=
  { s with depth := s.depth + k }

/-- An expansion with all its steps `k` calls higher. -/
def Expansion.deeper (k : Nat) (x : Expansion) : Expansion :=
  { x with steps := x.steps.map (Step.deeper k) }

/-- The trace with `k` calls more to go from every step. -/
def ExecutionTrace.deeper (k : Nat) (t : ExecutionTrace) : ExecutionTrace :=
  { t with maxDepth := t.maxDepth + k, steps := t.steps.map (Step.deeper k) }

variable {ix : Index} {externals : List String} {withArguments : Bool}

/-! ### Targets that have not been met -/

/-- How many targets of calls have not been met. -/
def unmet (ix : Index) (externals : List String) (visited : List String) : Nat :=
  ((callTargets ix externals).filter fun t => t ∉ visited).length

private theorem unmet_le (visited : List String) : unmet ix externals visited ≤ (callTargets ix externals).length :=
  List.length_filter_le _ _

private theorem unmet_append_le (visited more : List String) :
    unmet ix externals (visited ++ more) ≤ unmet ix externals visited := by
  apply List.Sublist.length_le
  apply List.monotone_filter_right
  intro t ht
  simp only [decide_eq_true_eq, List.mem_append, not_or] at ht ⊢
  exact ht.1

/-- Meeting a target leaves fewer. -/
private theorem unmet_append_lt {visited : List String} {target : String} (ht : target ∈ callTargets ix externals)
    (hv : target ∉ visited) : unmet ix externals (visited ++ [target]) < unmet ix externals visited := by
  have hsplit : (callTargets ix externals).filter (fun t => t ∉ visited ++ [target]) =
      ((callTargets ix externals).filter (fun t => t ∉ visited)).filter (fun t => t ≠ target) := by
    rw [List.filter_filter]
    apply List.filter_congr
    intro t _
    simp [not_or, and_comm]
  unfold unmet
  rw [hsplit]
  apply List.length_filter_lt_length_iff_exists.2
  exact ⟨target, List.mem_filter.2 ⟨ht, by simpa using hv⟩, by simp⟩

private theorem Explored.unmet_le {depth : Nat} {seen : Seen} {calls : List (String × CallSite)} {x : Expansion}
    (h : Explored ix externals withArguments depth seen calls x) :
    unmet ix externals x.seen.visited ≤ unmet ix externals seen.visited := by
  rw [h.visited_eq]
  exact unmet_append_le _ _

/-! ### Expansions at a greater depth -/

/-- Following a call at a greater depth, where the expansion at that depth differs in its depths only. -/
private theorem follow_deeper {depth k : Nat} {expand expand' : String → Seen → Except DanglingKey Expansion}
    {x : Expansion} {target : String} {site : CallSite}
    (hexp : target ∉ x.seen.visited →
      expand' target { x.seen with visited := x.seen.visited ++ [target] } =
        (expand target { x.seen with visited := x.seen.visited ++ [target] }).map (Expansion.deeper k)) :
    follow ix withArguments (depth + k) expand' (x.deeper k) (target, site) =
      (follow ix withArguments depth expand x (target, site)).map (Expansion.deeper k) := by
  unfold follow
  by_cases hv : target ∈ x.seen.visited
  · have hc : x.seen.visited.contains target = true := by simpa using hv
    by_cases hb : target ∈ x.seen.backed
    · have hbc : x.seen.backed.contains target = true := by simpa using hb
      simp only [Expansion.deeper, hc, hbc, ↓reduceIte]
      rfl
    · have hbc : x.seen.backed.contains target = false := by simpa using hb
      simp only [Expansion.deeper, hc, hbc, ↓reduceIte, Bool.false_eq_true]
      simp [pure, Except.pure, Except.map, Expansion.deeper, Step.deeper]
  · have hc : x.seen.visited.contains target = false := by simpa using hv
    simp only [Expansion.deeper, hc, ↓reduceIte, Bool.false_eq_true]
    rw [hexp hv]
    cases hr : ix.symbols.resolve target with
    | error e => rfl
    | ok entries =>
      cases expand target { x.seen with visited := x.seen.visited ++ [target] } with
      | error e =>
        cases entries <;> simp [bind, Except.bind, pure, Except.pure, Except.map, Expansion.deeper, Step.deeper]
      | ok y => cases entries <;> simp [bind, Except.bind, pure, Except.pure, Except.map, Expansion.deeper, Step.deeper]

private theorem unmet_le_of_follow {depth : Nat} {x z : Expansion} {call : String × CallSite}
    (h : follow ix withArguments depth (expand ix externals withArguments depth) x call = .ok z) :
    unmet ix externals z.seen.visited ≤ unmet ix externals x.seen.visited := by
  obtain ⟨target, site⟩ := call
  rcases follow_cases h with ⟨-, -, rfl⟩ | ⟨-, -, rfl⟩ | ⟨-, entries, y, -, hy, rfl⟩
  · exact Nat.le_refl _
  · exact Nat.le_refl _
  · split at hy
    · cases hy
      exact unmet_append_le _ _
    · obtain ⟨inner, -, hexplored⟩ := explored_of_expand hy
      exact hexplored.unmet_le.trans (unmet_append_le _ _)

private theorem foldlM_deeper {depth k : Nat}
    (hexp : ∀ symbol seen, unmet ix externals seen.visited < depth →
      expand ix externals withArguments (depth + k) symbol seen =
        (expand ix externals withArguments depth symbol seen).map (Expansion.deeper k))
    {calls : List (String × CallSite)} (hcalls : ∀ c ∈ calls, c.1 ∈ callTargets ix externals) {x : Expansion}
    (hx : unmet ix externals x.seen.visited ≤ depth) :
    calls.foldlM (follow ix withArguments (depth + k) (expand ix externals withArguments (depth + k))) (x.deeper k) =
      (calls.foldlM (follow ix withArguments depth (expand ix externals withArguments depth)) x).map
        (Expansion.deeper k) := by
  induction calls generalizing x with
  | nil => rfl
  | cons call calls ih =>
    obtain ⟨target, site⟩ := call
    have htarget : target ∈ callTargets ix externals := hcalls _ (List.mem_cons_self ..)
    have hfollow : follow ix withArguments (depth + k) (expand ix externals withArguments (depth + k)) (x.deeper k)
        (target, site) = (follow ix withArguments depth (expand ix externals withArguments depth) x (target, site)).map
          (Expansion.deeper k) :=
      follow_deeper fun hv => hexp target _ (Nat.lt_of_lt_of_le (unmet_append_lt htarget hv) hx)
    rw [List.foldlM_cons, List.foldlM_cons, hfollow]
    cases hz : follow ix withArguments depth (expand ix externals withArguments depth) x (target, site) with
    | error e => rfl
    | ok z =>
      exact ih (fun c hc => hcalls c (List.mem_cons_of_mem _ hc)) ((unmet_le_of_follow hz).trans hx)

/-- Where more calls may be followed than targets are left, a greater depth changes the depths only. -/
theorem expand_deeper (k : Nat) {depth : Nat} {symbol : String} {seen : Seen}
    (h : unmet ix externals seen.visited < depth) :
    expand ix externals withArguments (depth + k) symbol seen =
      (expand ix externals withArguments depth symbol seen).map (Expansion.deeper k) := by
  induction depth generalizing symbol seen with
  | zero => omega
  | succ depth ih =>
    rw [Nat.succ_add, expand, expand]
    cases hout : outgoing ix externals symbol with
    | error e => rfl
    | ok calls =>
      have hcalls : ∀ c ∈ calls, c.1 ∈ callTargets ix externals := by
        have hpending : pending ix externals (depth + 1) symbol = .ok calls := hout
        exact fun c hc => mem_callTargets_of_pending hpending hc
      exact foldlM_deeper (fun symbol seen hseen => ih hseen) hcalls (x := { seen := seen }) (Nat.le_of_lt_succ h)

private theorem walk_deeper (entry : String) {maxDepth : Nat} (k : Nat)
    (h : (callTargets ix externals).length < maxDepth) : walk ix externals entry (maxDepth + k) withArguments =
      (walk ix externals entry maxDepth withArguments).map (ExecutionTrace.deeper k) := by
  unfold walk
  cases hr : ix.symbols.resolve entry with
  | error e => rfl
  | ok entries =>
    cases entries with
    | nil => simp [bind, Except.bind, pure, Except.pure, Except.map, ExecutionTrace.deeper]
    | cons e es =>
      simp only [bind, Except.bind, List.isEmpty_cons, Bool.false_eq_true, ↓reduceIte]
      rw [expand_deeper k (Nat.lt_of_le_of_lt (unmet_le _) h)]
      cases expand ix externals withArguments maxDepth entry { visited := entry :: (e :: es).map (·.qualifiedName) } with
      | error e => rfl
      | ok x => simp [pure, Except.pure, Except.map, ExecutionTrace.deeper, Expansion.deeper, Step.deeper]

/-! ### Every known symbol is expanded -/

/-- Where as many calls may be followed as targets are left, no symbol is met at depth zero. -/
private theorem Explored.depth_pos {depth : Nat} {seen : Seen} {calls : List (String × CallSite)} {x : Expansion}
    (h : Explored ix externals withArguments depth seen calls x) (hcalls : ∀ c ∈ calls, c.1 ∈ callTargets ix externals)
    (hdepth : unmet ix externals seen.visited ≤ depth) {s : Step} (hs : s ∈ x.steps) (hb : s.isBack = false) :
    0 < s.depth := by
  induction h with
  | nil => cases hs
  | again _ _ _ ih => exact ih (fun c hc => hcalls c (List.mem_cons_of_mem _ hc)) hdepth hs
  | back _ _ _ ih =>
    rcases List.mem_cons.1 hs with rfl | hs
    · cases hb
    · exact ih (fun c hc => hcalls c (List.mem_cons_of_mem _ hc)) hdepth hs
  | @fresh depth seen target site calls inner entries y x hv _ hp below _ ihBelow ihRest =>
    have hlt : unmet ix externals (seen.visited ++ [target]) < unmet ix externals seen.visited :=
      unmet_append_lt (hcalls _ (List.mem_cons_self ..)) hv
    rcases List.mem_cons.1 hs with rfl | hs
    · change (0 : Int) < depth
      omega
    · rcases List.mem_append.1 hs with hs | hs
      · apply ihBelow (fun c hc => mem_callTargets_of_pending hp hc) _ hs
        change unmet ix externals (seen.visited ++ [target]) ≤ depth - 1
        omega
      · apply ihRest (fun c hc => hcalls c (List.mem_cons_of_mem _ hc)) _ hs
        have := below.unmet_le
        dsimp only at this
        omega

/-- The step lists all calls out of the entries of its symbol, and all that they call is among the steps. -/
structure IsExpanded (ix : Index) (externals : List String) (withArguments : Bool) (steps : List Step) (s : Step) :
    Prop where
  depth_pos : 0 < s.depth
  calls_eq : ∃ entries, ix.symbols.resolve s.symbol = .ok entries ∧ entries ≠ [] ∧ s.calls.map unflagged =
    (entries.flatMap (targetedCalls ix externals)).map fun c => listed withArguments false c.1 c.2
  successors : ∀ target, Successor ix externals s.symbol target → target ∈ steps.map (·.symbol)

/-- Only a known entry has steps. -/
private theorem resolve_of_mem_walk {entry : String} {maxDepth : Nat} {t : ExecutionTrace}
    (h : walk ix externals entry maxDepth withArguments = .ok t) {s : Step} (hs : s ∈ t.steps) :
    ∃ entries, ix.symbols.resolve entry = .ok entries ∧ entries ≠ [] := by
  unfold walk at h
  obtain ⟨entries, hr, h⟩ := bind_eq_ok h
  refine ⟨entries, hr, ?_⟩
  rintro rfl
  cases h
  cases hs

private theorem walk_isExpanded {entry : String} {maxDepth : Nat} {t : ExecutionTrace}
    (hdepth : (callTargets ix externals).length < maxDepth) (h : walk ix externals entry maxDepth withArguments = .ok t)
    {s : Step} (hs : s ∈ t.steps) (hres : s.isResolved = true) (hb : s.isBack = false) :
    IsExpanded ix externals withArguments t.steps s := by
  obtain ⟨entries, hr, hne⟩ := resolve_of_mem_walk h hs
  obtain ⟨inner, x, root, hp, hx, hsteps, hsym, hroot, hcalls, -⟩ := rooted_of_walk hr hne h
  have hpending : ∀ {depth : Nat} {symbol : String} {found : List SymbolEntry} {inner : List (String × CallSite)},
      0 < depth → ix.symbols.resolve symbol = .ok found → pending ix externals depth symbol = .ok inner →
      inner = found.flatMap (targetedCalls ix externals) := by
    intro depth symbol found inner hpos hfound hinner
    cases depth with
    | zero => omega
    | succ depth =>
      rw [pending, outgoing_eq hfound] at hinner
      exact (Except.ok.inj hinner).symm
  have hpos : 0 < s.depth := by
    rw [hsteps] at hs
    rcases List.mem_cons.1 hs with rfl | hs
    · omega
    · refine hx.depth_pos (fun c hc => mem_callTargets_of_pending hp hc) ?_ hs hb
      have hall : unmet ix externals (entry :: entries.map (·.qualifiedName)) ≤ (callTargets ix externals).length :=
        unmet_le _
      dsimp only
      omega
  refine ⟨hpos, ?_, fun target ht => lists_successors hr hne h hs hb hpos ht⟩
  rw [hsteps] at hs
  rcases List.mem_cons.1 hs with rfl | hs
  · refine ⟨entries, hsym ▸ hr, hne, ?_⟩
    rw [hcalls, hx.calls_eq, hpending (by omega) hr hp]
  · obtain ⟨found, calls, hfound, hresolved, hp', hlisted⟩ := hx.calls_listed hs hb
    refine ⟨found, hfound, ?_, ?_⟩
    · rintro rfl
      rw [hresolved] at hres
      cases hres
    · rw [hlisted, hpending (by omega) hfound hp']

/-- Beyond the number of targets in the index, a greater depth changes nothing in a trace but the depths of its steps, and
every known symbol in it is expanded.  Without dangling keys there is a trace. -/
theorem traces_saturate (ix : Index) (externals : List String) (withArguments : Bool) (entry : String) {maxDepth : Int}
    (hdepth : (callTargets ix externals).length + 1 ≤ maxDepth) (k : Nat) :
    trace ix externals entry (maxDepth + k) withArguments =
      (trace ix externals entry maxDepth withArguments).map (ExecutionTrace.deeper k) ∧
    (∀ t, trace ix externals entry maxDepth withArguments = .ok t → ∀ s ∈ t.steps, s.isResolved = true →
      s.isBack = false → IsExpanded ix externals withArguments t.steps s) ∧
    (ix.symbols.Closed → Text.trimmed entry ≠ "" →
      ∃ t, trace ix externals entry maxDepth withArguments = .ok t) := by
  have htargets : (callTargets ix externals).length < maxDepth.toNat := by omega
  have htrace : ∀ depth : Int, 0 ≤ depth → trace ix externals entry depth withArguments =
      if Text.trimmed entry = "" then .error .emptyEntry
      else (walk ix externals (Text.trimmed entry) depth.toNat withArguments).mapError .dangling := by
    intro depth hnonneg
    unfold trace
    dsimp only
    rw [if_neg (by omega : ¬ depth < 0)]
  rw [htrace _ (by omega), htrace _ (by omega)]
  refine ⟨?_, ?_, ?_⟩
  · split
    · rfl
    · have htoNat : (maxDepth + k).toNat = maxDepth.toNat + k := by omega
      rw [htoNat, walk_deeper _ k htargets]
      cases walk ix externals (Text.trimmed entry) maxDepth.toNat withArguments <;> rfl
  · intro t ht s hs hres hb
    split at ht
    · cases ht
    · cases hw : walk ix externals (Text.trimmed entry) maxDepth.toNat withArguments with
      | error e =>
        rw [hw] at ht
        cases ht
      | ok t' =>
        rw [hw] at ht
        cases ht
        exact walk_isExpanded htargets hw hs hres hb
  · intro hclosed hentry
    obtain ⟨t, ht⟩ := walk_ok hclosed (Text.trimmed entry) maxDepth.toNat
    exact ⟨t, by rw [if_neg hentry, ht]; rfl⟩

private theorem diamond_targets : (callTargets diamondIndex []).length = 5 := by
  have hone : ∀ {name : String} {line : Int} {calls : List (String × CallSite)},
      diamondIndex.symbols.resolve name = .ok [diamondEntry name line] → outgoing diamondIndex [] name = .ok calls →
      targetedCalls diamondIndex [] (diamondEntry name line) = calls := by
    intro name line calls hr hcalls
    rw [outgoing_eq hr, List.flatMap_singleton] at hcalls
    exact Except.ok.inj hcalls
  obtain ⟨c₁, c₂, c₃, c₄, c₅⟩ := diamond_calls
  have hvalues : diamondIndex.symbols.entries.values = [diamondEntry "main" 1, diamondEntry "first" 4,
    diamondEntry "second" 6, diamondEntry "last" 9, diamondEntry "leaf" 11] := rfl
  rw [callTargets, hvalues]
  simp only [List.flatMap_cons, List.flatMap_nil, hone rfl c₁, hone rfl c₂, hone rfl c₃, hone rfl c₄, hone rfl c₅]
  rfl

/-- A trace of depth three misses `leaf`; from depth six on nothing is missed. -/
theorem diamond_saturates_at_six :
    (callTargets diamondIndex []).length + 1 ≤ (6 : Int) ∧
    ∃ t, trace diamondIndex [] "main" 6 false = .ok t ∧ trace diamondIndex [] "main" (6 + 10) false = .ok (t.deeper 10) ∧
      ∀ s ∈ t.steps, s.isResolved = true → s.isBack = false → IsExpanded diamondIndex [] false t.steps s := by
  have hdepth : (callTargets diamondIndex []).length + 1 ≤ (6 : Int) := by
    rw [diamond_targets]
    decide
  obtain ⟨hdeeper, hexpanded, hfound⟩ := traces_saturate diamondIndex [] false "main" hdepth 10
  obtain ⟨t, ht⟩ := hfound diamond_closed (by decide)
  refine ⟨hdepth, t, ht, ?_, hexpanded t ht⟩
  rw [ht] at hdeeper
  exact hdeeper

end CallIndex.Trace
