import CallIndex.Proofs.StepForest
import CallIndex.Proofs.SymbolTable

/-!
# The shape of a trace

Whatever the index and the call graph in it, the steps of a trace form a tree in pre-order with the entry at its root.
Every symbol is expanded once and has one back-reference at most, so the number of steps is bounded by the targets of
the calls in the index and not by the depth.

* `WellShaped` says what the steps of a trace look like.
* `trace_wellShaped`: every trace of a known entry is well-shaped.
-/

namespace CallIndex.Trace

open Call (CallSite)

/-- The distinct targets of the calls out of the entries of an index. -/
def callTargets (ix : Index) (externals : List String) : List String :=
  ((ix.symbols.entries.values.flatMap (targetedCalls ix externals)).map (·.1)).eraseDups

variable {ix : Index} {externals : List String} {withArguments : Bool}

theorem outgoing_eq {symbol : String} {entries : List SymbolEntry} (hr : ix.symbols.resolve symbol = .ok entries) :
    outgoing ix externals symbol = .ok (entries.flatMap (targetedCalls ix externals)) := by
  rw [outgoing, hr]
  rfl

/-- The calls out of an entry of a file in which every call names its target. -/
theorem targetedCalls_of_named {e : SymbolEntry} {s : FileSummary} {lines : List Int}
    (hf : ix.files.get? e.path = some s) (hc : ix.callsOf e.path = s.calls) (hl : s.declarationLines = lines)
    (ht : ∀ c ∈ s.calls, Call.target? externals c.raw e.ownerClass? = some c.callee) :
    targetedCalls ix externals e =
      (callsWithin s.calls e.line (lines.find? (e.line < ·))).map fun c => (c.callee, c) := by
  have hbody : ix.bodyCalls e = callsWithin s.calls e.line (lines.find? (e.line < ·)) := by
    rw [Index.bodyCalls, hf, hc, ← hl]
    rfl
  rw [targetedCalls, hbody, ← List.filterMap_eq_map]
  refine List.filterMap_congr fun c hc => ?_
  rw [ht c (List.mem_filter.1 hc).1]
  rfl

theorem mem_callTargets_of_pending {depth : Nat} {symbol : String} {inner : List (String × CallSite)}
    (h : pending ix externals depth symbol = .ok inner) {c : String × CallSite} (hc : c ∈ inner) :
    c.1 ∈ callTargets ix externals := by
  cases depth with
  | zero =>
    cases h
    cases hc
  | succ depth =>
    obtain ⟨entries, hr, rfl⟩ := map_eq_ok h
    obtain ⟨e, he, hce⟩ := List.mem_flatMap.1 hc
    rw [callTargets, List.mem_eraseDups]
    exact List.mem_map.2 ⟨c, List.mem_flatMap.2 ⟨e, SymbolTable.mem_values_of_resolve hr he, hce⟩, rfl⟩

/-- The steps of a trace of the symbol `entry`, which stands for `entries`, down to `maxDepth` calls. -/
structure WellShaped (ix : Index) (externals : List String) (entry : String) (entries : List SymbolEntry)
    (maxDepth : Int) (steps : List Step) : Prop where
  /-- The first step is the entry, and from it every step is reached by as many calls as the depths differ. -/
  root : ∃ root rest, steps = root :: rest ∧ root.symbol = entry ∧ root.depth = maxDepth ∧ root.isBack = false ∧
    ∀ s ∈ steps, ReachedBy root steps (maxDepth - s.depth).toNat s
  /-- Every symbol is expanded once, and has one back-reference. -/
  nodup_new : (newSymbols steps).Nodup
  nodup_back : (backSymbols steps).Nodup
  /-- A back-reference has no calls, and names what was met before it. -/
  back_spec : ∀ pre s post, steps = pre ++ s :: post → s.isBack = true → s.calls = [] ∧
    (s.symbol = entry ∨ s.symbol ∈ entries.map (·.qualifiedName) ∨ ∃ p ∈ pre, p.isBack = false ∧ p.symbol = s.symbol)
  depth_mem : ∀ s ∈ steps, 0 ≤ s.depth ∧ s.depth ≤ maxDepth
  /-- Every further step has its caller before it. -/
  hasCaller : ∀ pre s post, steps = pre ++ s :: post → pre ≠ [] → HasCaller pre s
  /-- There are no more steps than two for each target, and the first one. -/
  length_le : steps.length ≤ 1 + 2 * (callTargets ix externals).length

/-- An exploration has at most two steps for each target. -/
private theorem Explored.length_le {depth : Nat} {seen : Seen} {calls : List (String × CallSite)} {x : Expansion}
    (h : Explored ix externals withArguments depth seen calls x)
    (hcalls : ∀ c ∈ calls, c.1 ∈ callTargets ix externals) :
    x.steps.length ≤ 2 * (callTargets ix externals).length := by
  have hmem : ∀ s ∈ x.steps, s.symbol ∈ callTargets ix externals := fun s hs =>
    h.symbol_mem hcalls (fun _ _ _ hp c hc => mem_callTargets_of_pending hp hc) hs
  have hnew : newSymbols x.steps ⊆ callTargets ix externals := by
    intro symbol hsym
    obtain ⟨s, hs, -, rfl⟩ := mem_newSymbols.1 hsym
    exact hmem s hs
  have hback : backSymbols x.steps ⊆ callTargets ix externals := by
    intro symbol hsym
    obtain ⟨s, hs, -, rfl⟩ := mem_backSymbols.1 hsym
    exact hmem s hs
  have hn := h.nodup_new.1.length_le_of_subset hnew
  have hb := h.nodup_back.1.length_le_of_subset hback
  rw [length_eq_new_add_back]
  omega

theorem walk_wellShaped {entry : String} {maxDepth : Nat} {entries : List SymbolEntry} {t : ExecutionTrace}
    (hr : ix.symbols.resolve entry = .ok entries) (hne : entries ≠ [])
    (h : walk ix externals entry maxDepth withArguments = .ok t) :
    WellShaped ix externals entry entries maxDepth t.steps := by
  obtain ⟨inner, x, root, hp, hx, ht, hsym, hdepth, -, hroot⟩ := rooted_of_walk hr hne h
  have hback := hroot.isBack_eq
  rw [ht]
  refine ⟨⟨root, x.steps, rfl, hsym, hdepth, hback, fun s hs => hdepth ▸ hroot.reachedBy hs⟩, ?_, ?_, ?_,
    fun s hs => hdepth ▸ hroot.depth_mem hs, fun _ _ _ hs hpre => hroot.hasCaller hs hpre, ?_⟩
  · obtain ⟨hnd, hnew⟩ := hx.nodup_new
    rw [newSymbols_cons, hback, hsym]
    simp only [Bool.false_eq_true, ↓reduceIte, List.nodup_cons]
    exact ⟨fun hm => hnew entry hm (List.mem_cons_self ..), hnd⟩
  · rw [backSymbols_cons, hback]
    simpa using hx.nodup_back.1
  · intro pre s post hs hb
    cases pre with
    | nil =>
      obtain ⟨rfl, -⟩ := List.cons.inj hs
      rw [hback] at hb
      cases hb
    | cons p pre =>
      obtain ⟨rfl, htail⟩ := List.cons.inj hs
      obtain ⟨hc, hm⟩ := hx.back_spec htail hb
      refine ⟨hc, ?_⟩
      rcases List.mem_append.1 hm with hm | hm
      · rcases List.mem_cons.1 hm with hm | hm
        · exact Or.inl hm
        · exact Or.inr (Or.inl hm)
      · obtain ⟨q, hq, hqb, hqs⟩ := mem_newSymbols.1 hm
        exact Or.inr (Or.inr ⟨q, List.mem_cons_of_mem _ hq, hqb, hqs⟩)
  · have := hx.length_le fun c hc => mem_callTargets_of_pending hp hc
    rw [List.length_cons]
    omega

/-! ### A trace is found -/

private theorem follow_ok (h : ix.symbols.Closed) {depth : Nat} {expand : String → Seen → Except DanglingKey Expansion}
    (hexp : ∀ symbol seen, ∃ y, expand symbol seen = .ok y) (x : Expansion) (call : String × CallSite) :
    ∃ z, follow ix withArguments depth expand x call = .ok z := by
  unfold follow
  dsimp only
  split
  · split
    · exact ⟨_, rfl⟩
    · exact ⟨_, rfl⟩
  · refine exists_bind_ok (h.resolve_ok call.1) fun entries => ?_
    split
    · exact exists_bind_ok (hexp _ _) fun _ => ⟨_, rfl⟩
    · exact ⟨_, rfl⟩

private theorem foldlM_ok {f : Expansion → String × CallSite → Except DanglingKey Expansion}
    (hf : ∀ x call, ∃ z, f x call = .ok z) (calls : List (String × CallSite)) (x : Expansion) :
    ∃ z, calls.foldlM f x = .ok z := by
  induction calls generalizing x with
  | nil => exact ⟨x, rfl⟩
  | cons call calls ih =>
    rw [List.foldlM_cons]
    exact exists_bind_ok (hf x call) ih

private theorem expand_ok (h : ix.symbols.Closed) (depth : Nat) (symbol : String) (seen : Seen) :
    ∃ x, expand ix externals withArguments depth symbol seen = .ok x := by
  induction depth generalizing symbol seen with
  | zero => exact ⟨_, rfl⟩
  | succ depth ih =>
    rw [expand]
    refine exists_bind_ok ?_ fun calls => foldlM_ok (fun x call => follow_ok h ih x call) calls _
    obtain ⟨entries, hr⟩ := h.resolve_ok symbol
    exact ⟨_, outgoing_eq hr⟩

/-- Without dangling keys the walk comes to an end. -/
theorem walk_ok (h : ix.symbols.Closed) (entry : String) (maxDepth : Nat) :
    ∃ t, walk ix externals entry maxDepth withArguments = .ok t := by
  unfold walk
  refine exists_bind_ok (h.resolve_ok entry) fun entries => ?_
  split
  · exact ⟨_, rfl⟩
  · exact exists_bind_ok (expand_ok h maxDepth entry _) fun _ => ⟨_, rfl⟩

private theorem resolve_empty (t : SymbolTable) : t.resolve "" = .ok [] := by
  have hfind : ∀ kind, t.find "" kind = .ok [] := fun _ => rfl
  unfold SymbolTable.resolve
  rw [hfind, hfind]
  split <;> rfl

private theorem trace_eq_walk {entry : String} {maxDepth : Int} {entries : List SymbolEntry}
    (hr : ix.symbols.resolve (Text.trimmed entry) = .ok entries) (hne : entries ≠ []) (hd : 0 ≤ maxDepth) :
    trace ix externals entry maxDepth withArguments =
      (walk ix externals (Text.trimmed entry) maxDepth.toNat withArguments).mapError .dangling := by
  have hentry : Text.trimmed entry ≠ "" := by
    intro he
    rw [he, resolve_empty] at hr
    cases hr
    exact hne rfl
  unfold trace
  rw [if_neg hentry, if_neg (by omega)]

theorem walk_of_trace {entry : String} {maxDepth : Int} {entries : List SymbolEntry} {t : ExecutionTrace}
    (hr : ix.symbols.resolve (Text.trimmed entry) = .ok entries) (hne : entries ≠ []) (hd : 0 ≤ maxDepth)
    (ht : trace ix externals entry maxDepth withArguments = .ok t) :
    walk ix externals (Text.trimmed entry) maxDepth.toNat withArguments = .ok t := by
  rw [trace_eq_walk hr hne hd] at ht
  exact mapError_eq_ok ht

theorem trace_ok {entry : String} {maxDepth : Int} {entries : List SymbolEntry}
    (hr : ix.symbols.resolve (Text.trimmed entry) = .ok entries) (hne : entries ≠ []) (hd : 0 ≤ maxDepth)
    (hclosed : ix.symbols.Closed) : ∃ t, trace ix externals entry maxDepth withArguments = .ok t := by
  obtain ⟨t, ht⟩ := walk_ok hclosed (Text.trimmed entry) maxDepth.toNat
  exact ⟨t, by rw [trace_eq_walk hr hne hd, ht]; rfl⟩

/-- Every trace of a known entry is well-shaped, and without dangling keys there is a trace. -/
theorem trace_wellShaped (ix : Index) (externals : List String) (withArguments : Bool) {entry : String} {maxDepth : Int}
    {entries : List SymbolEntry} (hr : ix.symbols.resolve (Text.trimmed entry) = .ok entries) (hne : entries ≠ [])
    (hd : 0 ≤ maxDepth) :
    (∀ t, trace ix externals entry maxDepth withArguments = .ok t →
      WellShaped ix externals (Text.trimmed entry) entries maxDepth t.steps) ∧
    (ix.symbols.Closed → ∃ t, trace ix externals entry maxDepth withArguments = .ok t) := by
  refine ⟨fun t ht => ?_, trace_ok hr hne hd⟩
  have := walk_wellShaped hr hne (walk_of_trace hr hne hd ht)
  rwa [Int.toNat_of_nonneg hd] at this

/-- Two chains of different lengths lead from `main` to `last`, and one leads back to `main`. -/
def diamondFile : FileSummary :=
  { path := "/d.py"
    functions := [⟨"main", 1, [], false⟩, ⟨"first", 4, [], false⟩, ⟨"second", 6, [], false⟩, ⟨"last", 9, [], false⟩,
      ⟨"leaf", 11, [], false⟩]
    calls := [⟨"/d.py", "first", 2, none, none⟩, ⟨"/d.py", "last", 3, none, none⟩, ⟨"/d.py", "second", 5, none, none⟩,
      ⟨"/d.py", "last", 7, none, none⟩, ⟨"/d.py", "main", 8, none, none⟩, ⟨"/d.py", "leaf", 10, none, none⟩] }

def diamondIndex : Index :=
  (Index.put [] {} diamondFile.path diamondFile).1

def diamondEntry (name : String) (line : Int) : SymbolEntry :=
  ⟨"/d.py", .ofFunction ⟨name, line, [], false⟩⟩

theorem diamond_closed : diamondIndex.symbols.Closed := by decide +kernel

theorem diamond_trace_wellShaped :
    diamondIndex.symbols.resolve (Text.trimmed " main") = .ok [diamondEntry "main" 1] ∧ diamondIndex.symbols.Closed ∧
    ∃ t, trace diamondIndex [] " main" 3 false = .ok t ∧
      WellShaped diamondIndex [] (Text.trimmed " main") [diamondEntry "main" 1] 3 t.steps := by
  have hr : diamondIndex.symbols.resolve (Text.trimmed " main") = .ok [diamondEntry "main" 1] := rfl
  have hd : (0 : Int) ≤ 3 := by decide
  obtain ⟨hshape, hfound⟩ := trace_wellShaped diamondIndex [] false hr (by simp) hd
  obtain ⟨t, ht⟩ := hfound diamond_closed
  exact ⟨hr, diamond_closed, t, ht, hshape t ht⟩

end CallIndex.Trace
