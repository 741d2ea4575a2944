import CallIndex.Proofs.TraceShape
import Mathlib.Data.List.Permutation

/-!
# What a trace covers

A symbol follows another one when a declaration of the other calls it (`Successor`).  A trace lists all successors of
the symbols that it expands.  A symbol that is met for the first time at the end of the longest chain is listed at
depth zero and not expanded, also when a shorter chain leads to it later (`CutOff`).  So a trace covers every chain of
calls that it is deep enough for, unless the chain leads through such a symbol.

* `lists_successors`: the successors of an expanded symbol are listed.
* `trace_covers_uncut_chains`: a chain is covered unless a symbol on it is not expanded.
* `trace_misses_chains`: a greater depth can cut a symbol off that a smaller one expands.
-/

namespace CallIndex.Trace

open Call (CallSite)

/-- The declarations of `symbol` call `target`. -/
def Successor (ix : Index) (externals : List String) (symbol target : String) : Prop :=
  ∃ entries, ix.symbols.resolve symbol = .ok entries ∧ ∃ e ∈ entries, ∃ c ∈ ix.bodyCalls e,
    Call.target? externals c.raw e.ownerClass? = some target

/-- A chain of calls from `entry` to a symbol, with the symbols that come before it. -/
inductive CallChain (ix : Index) (externals : List String) (entry : String) : List String → String → Prop
  | refl : CallChain ix externals entry [] entry
  | step {via : List String} {symbol target : String} (h : CallChain ix externals entry via symbol)
      (hs : Successor ix externals symbol target) : CallChain ix externals entry (via ++ [symbol]) target

private theorem CallChain.exists_successor {ix : Index} {externals : List String} {entry symbol : String}
    {via : List String}
    (h : CallChain ix externals entry via symbol) {u : String} (hu : u ∈ via) : ∃ v, Successor ix externals u v := by
  induction h with
  | refl => cases hu
  | step _ hs ih =>
    rcases List.mem_append.1 hu with hu | hu
    · exact ih hu
    · cases List.mem_singleton.1 hu
      exact ⟨_, hs⟩

/-- The symbol is known and stands among the steps at depth zero, where it is not expanded. -/
def CutOff (steps : List Step) (symbol : String) : Prop :=
  ∃ s ∈ steps, s.symbol = symbol ∧ s.isBack = false ∧ s.isResolved = true ∧ s.depth = 0

/-- The symbol is a qualified name of one of the entries that a trace starts from, and stands for other entries too. -/
def Shadowed (ix : Index) (entries : List SymbolEntry) (symbol : String) : Prop :=
  symbol ∈ entries.map (·.qualifiedName) ∧
    ∃ found, ix.symbols.resolve symbol = .ok found ∧ ∃ e ∈ found, e ∉ entries

variable {ix : Index} {externals : List String} {withArguments : Bool}

private theorem mem_targetedCalls {e : SymbolEntry} {target : String} {site : CallSite} :
    (target, site) ∈ targetedCalls ix externals e ↔
      site ∈ ix.bodyCalls e ∧ Call.target? externals site.raw e.ownerClass? = some target := by
  simp only [targetedCalls, List.mem_filterMap, Option.map_eq_some_iff, Prod.mk.injEq]
  constructor
  · rintro ⟨c, hc, t, ht, rfl, rfl⟩
    exact ⟨hc, ht⟩
  · rintro ⟨hc, ht⟩
    exact ⟨site, hc, target, ht, rfl, rfl⟩

/-- The successors are the targets of the calls that the walk follows. -/
private theorem successor_iff {symbol target : String} :
    Successor ix externals symbol target ↔
      ∃ calls, outgoing ix externals symbol = .ok calls ∧ target ∈ calls.map (·.1) := by
  constructor
  · rintro ⟨entries, hr, e, he, c, hc, ht⟩
    refine ⟨_, outgoing_eq hr, List.mem_map.2 ⟨(target, c), ?_, rfl⟩⟩
    exact List.mem_flatMap.2 ⟨e, he, mem_targetedCalls.2 ⟨hc, ht⟩⟩
  · rintro ⟨calls, ho, hm⟩
    obtain ⟨⟨t, c⟩, hc, rfl⟩ := List.mem_map.1 hm
    obtain ⟨entries, hr, rfl⟩ := map_eq_ok ho
    obtain ⟨e, he, hce⟩ := List.mem_flatMap.1 hc
    obtain ⟨hcb, ht⟩ := mem_targetedCalls.1 hce
    exact ⟨entries, hr, e, he, c, hcb, ht⟩

/-! ### The successors of an expanded symbol -/

namespace Explored

variable {depth : Nat} {seen : Seen} {calls : List (String × CallSite)} {x : Expansion}

/-- Behind the steps `front`, a symbol that is listed or backed by then is listed on the whole. -/
private theorem listed_behind {backed backed' : List String} (front : List Step) {steps : List Step} {target : String}
    (hb : backed' = backed ++ backSymbols front) (h : target ∈ steps.map (·.symbol) ∨ target ∈ backed') :
    target ∈ (front ++ steps).map (·.symbol) ∨ target ∈ backed := by
  rw [List.map_append, List.mem_append]
  rcases h with h | h
  · exact Or.inl (Or.inr h)
  · rw [hb, List.mem_append, mem_backSymbols] at h
    rcases h with h | ⟨s, hs, -, rfl⟩
    · exact Or.inr h
    · exact Or.inl (Or.inl (List.mem_map.2 ⟨s, hs, rfl⟩))

/-- The target of an explored call is the symbol of a step, unless it was listed as a back-reference before. -/
private theorem target_listed (h : Explored ix externals withArguments depth seen calls x) {target : String}
    (ht : target ∈ calls.map (·.1)) : target ∈ x.steps.map (·.symbol) ∨ target ∈ seen.backed := by
  induction h with
  | nil => cases ht
  | again _ hb _ ih =>
    rcases List.mem_cons.1 ht with rfl | ht
    · exact Or.inr hb
    · exact ih ht
  | back _ _ _ ih =>
    rcases List.mem_cons.1 ht with rfl | ht
    · exact Or.inl (List.mem_cons_self ..)
    · exact listed_behind [_] rfl (ih ht)
  | fresh _ _ _ below _ _ ihRest =>
    rcases List.mem_cons.1 ht with rfl | ht
    · exact Or.inl (List.mem_cons_self ..)
    · exact listed_behind (_ :: _) below.backed_eq (ihRest ht)

/-- So is the target of every call that a step lists. -/
private theorem step_target_listed (h : Explored ix externals withArguments depth seen calls x) {s : Step}
    (hs : s ∈ x.steps) {target : String} (ht : target ∈ s.calls.map (·.target)) :
    target ∈ x.steps.map (·.symbol) ∨ target ∈ seen.backed := by
  induction h with
  | nil => cases hs
  | again _ _ _ ih => exact ih hs
  | back _ _ _ ih =>
    rcases List.mem_cons.1 hs with rfl | hs
    · cases ht
    · exact listed_behind [_] rfl (ih hs)
  | fresh _ _ _ below _ ihBelow ihRest =>
    rcases List.mem_cons.1 hs with rfl | hs
    · rcases below.target_listed (below.targets_eq ▸ ht) with h | hb
      · exact Or.inl (by simp [h])
      · exact Or.inr hb
    · rcases List.mem_append.1 hs with hs | hs
      · rcases ihBelow hs with h | hb
        · exact Or.inl (by simp [h])
        · exact Or.inr hb
      · exact listed_behind (_ :: _) below.backed_eq (ihRest hs)

end Explored

/-- The successors of every symbol that a trace expands are symbols of its steps. -/
theorem lists_successors {entry : String} {maxDepth : Nat} {entries : List SymbolEntry} {t : ExecutionTrace}
    (hr : ix.symbols.resolve entry = .ok entries) (hne : entries ≠ [])
    (h : walk ix externals entry maxDepth withArguments = .ok t) {s : Step} (hs : s ∈ t.steps) (hb : s.isBack = false)
    (hd : 0 < s.depth) {target : String} (ht : Successor ix externals s.symbol target) :
    target ∈ t.steps.map (·.symbol) := by
  obtain ⟨inner, x, root, hp, hx, hsteps, hsym, hdepth, hcalls, -⟩ := rooted_of_walk hr hne h
  obtain ⟨calls, ho, hm⟩ := successor_iff.1 ht
  have hpending : ∀ {depth : Nat} {symbol : String}, 0 < depth →
      pending ix externals depth symbol = outgoing ix externals symbol := by
    intro depth symbol hpos
    cases depth with
    | zero => omega
    | succ _ => rfl
  -- nothing is listed as a back-reference before the walk
  have hlisted : target ∈ x.steps.map (·.symbol) ∨ target ∈ ([] : List String) := by
    rw [hsteps] at hs
    rcases List.mem_cons.1 hs with rfl | hs
    · rw [hpending (by omega), ← hsym, ho] at hp
      cases hp
      exact hx.target_listed hm
    · obtain ⟨found, inner', -, -, hp', htargets⟩ := hx.calls_spec hs hb
      rw [hpending (by omega), ho] at hp'
      cases hp'
      exact hx.step_target_listed hs (htargets ▸ hm)
  rw [hsteps]
  exact List.mem_cons_of_mem _ (hlisted.resolve_right (by simp))

/-! ### Chains of calls -/

/-- A symbol among the steps is that of a step that is no back-reference, or a qualified name of the entry. -/
private theorem WellShaped.new_or_name {entry : String} {entries : List SymbolEntry} {maxDepth : Int}
    {steps : List Step} (h : WellShaped ix externals entry entries maxDepth steps) {symbol : String}
    (hsym : symbol ∈ steps.map (·.symbol)) :
    (∃ s ∈ steps, s.isBack = false ∧ s.symbol = symbol) ∨ symbol ∈ entries.map (·.qualifiedName) := by
  obtain ⟨s, hs, rfl⟩ := List.mem_map.1 hsym
  cases hb : s.isBack with
  | false => exact Or.inl ⟨s, hs, hb, rfl⟩
  | true =>
    obtain ⟨pre, post, hsplit⟩ := List.append_of_mem hs
    rcases (h.back_spec pre s post hsplit hb).2 with he | hq | ⟨p, hp, hpb, hps⟩
    · obtain ⟨root, rest, hroot, hentry, -, hrb, -⟩ := h.root
      exact Or.inl ⟨root, by simp [hroot], hrb, by rw [hentry, he]⟩
    · exact Or.inr hq
    · exact Or.inl ⟨p, by simp [hsplit, hp], hpb, hps⟩

/-- A step that is no back-reference and has successors is known. -/
private theorem isResolved_of_successor {entry : String} {maxDepth : Nat} {entries : List SymbolEntry}
    {t : ExecutionTrace} (hr : ix.symbols.resolve entry = .ok entries) (hne : entries ≠ [])
    (h : walk ix externals entry maxDepth withArguments = .ok t) {s : Step} (hs : s ∈ t.steps) (hb : s.isBack = false)
    {target : String} (ht : Successor ix externals s.symbol target) : s.isResolved = true := by
  obtain ⟨inner, x, -, hx, hsteps⟩ := explored_of_walk hr hne h
  rw [hsteps] at hs
  rcases List.mem_cons.1 hs with rfl | hs
  · rfl
  · obtain ⟨found, -, hfound, hres, -⟩ := hx.calls_spec hs hb
    obtain ⟨found', hfound', e, he, -⟩ := ht
    cases hfound.symm.trans hfound'
    rw [hres]
    cases found with
    | nil => cases he
    | cons => rfl

private theorem walk_covers {entry : String} {maxDepth : Nat} {entries : List SymbolEntry} {t : ExecutionTrace}
    (hr : ix.symbols.resolve entry = .ok entries) (hne : entries ≠ [])
    (h : walk ix externals entry maxDepth withArguments = .ok t) {via : List String} {symbol : String}
    (hchain : CallChain ix externals entry via symbol) (hlen : via.length ≤ maxDepth) :
    symbol ∈ t.steps.map (·.symbol) ∨ ∃ u ∈ via, CutOff t.steps u ∨ Shadowed ix entries u := by
  have hshape := walk_wellShaped hr hne h
  obtain ⟨root, rest, hroot, hsym, hdepth, hback, -⟩ := hshape.root
  have hmem : root ∈ t.steps := by simp [hroot]
  induction hchain with
  | refl => exact Or.inl (List.mem_map.2 ⟨root, hmem, hsym⟩)
  | @step via symbol target _ hs ih =>
    rw [List.length_append, List.length_singleton] at hlen
    rcases ih (by omega) with hlisted | ⟨u, hu, hcut⟩
    · rcases hshape.new_or_name hlisted with ⟨s, hmem', hb, rfl⟩ | hname
      · -- expanded, unless it stands at depth zero
        by_cases hd : s.depth = 0
        · exact Or.inr ⟨s.symbol, by simp,
            Or.inl ⟨s, hmem', rfl, hb, isResolved_of_successor hr hne h hmem' hb hs, hd⟩⟩
        · have := (hshape.depth_mem s hmem').1
          exact Or.inl (lists_successors hr hne h hmem' hb (by omega) hs)
      · obtain ⟨found, hfound, e, he, c, hc, ht⟩ := hs
        by_cases hin : e ∈ entries
        · -- the call is one of the entry itself
          have hentry : Successor ix externals root.symbol target := ⟨entries, hsym ▸ hr, e, hin, c, hc, ht⟩
          exact Or.inl (lists_successors hr hne h hmem hback (by omega) hentry)
        · exact Or.inr ⟨symbol, by simp, Or.inr ⟨hname, found, hfound, e, he, hin⟩⟩
    · exact Or.inr ⟨u, by simp [hu], hcut⟩

/-! ### Greater depths -/

private theorem successor_of_pending {depth : Nat} {symbol target : String} {inner : List (String × CallSite)}
    (h : pending ix externals depth symbol = .ok inner) (ht : target ∈ inner.map (·.1)) :
    Successor ix externals symbol target := by
  cases depth with
  | zero =>
    cases h
    cases ht
  | succ _ => exact successor_iff.2 ⟨inner, h, ht⟩

/-- The calls that a step lists lead to successors of its symbol. -/
private theorem successor_of_call {entry : String} {maxDepth : Nat} {entries : List SymbolEntry} {t : ExecutionTrace}
    (hr : ix.symbols.resolve entry = .ok entries) (hne : entries ≠ [])
    (h : walk ix externals entry maxDepth withArguments = .ok t) {s : Step} (hs : s ∈ t.steps) (hb : s.isBack = false)
    {c : TraceCall} (hc : c ∈ s.calls) : Successor ix externals s.symbol c.target := by
  obtain ⟨inner, x, root, hp, hx, hsteps, hsym, -, hcalls, -⟩ := rooted_of_walk hr hne h
  have hct : c.target ∈ s.calls.map (·.target) := List.mem_map.2 ⟨c, hc, rfl⟩
  rw [hsteps] at hs
  rcases List.mem_cons.1 hs with rfl | hs
  · rw [hcalls, hx.targets_eq] at hct
    exact successor_of_pending (hsym ▸ hp) hct
  · obtain ⟨-, inner', -, -, hp', htargets⟩ := hx.calls_spec hs hb
    exact successor_of_pending hp' (htargets ▸ hct)

/-- Every step is reached by a chain of calls that the trace is deep enough for. -/
private theorem callChain_of_mem {entry : String} {maxDepth : Nat} {entries : List SymbolEntry} {t : ExecutionTrace}
    (hr : ix.symbols.resolve entry = .ok entries) (hne : entries ≠ [])
    (h : walk ix externals entry maxDepth withArguments = .ok t) {s : Step} (hs : s ∈ t.steps) :
    ∃ via, CallChain ix externals entry via s.symbol ∧ via.length ≤ maxDepth := by
  have hshape := walk_wellShaped hr hne h
  obtain ⟨root, rest, hroot, hsym, -, -, hreached⟩ := hshape.root
  have hmem : root ∈ t.steps := by simp [hroot]
  have hchain : ∀ {n : Nat} {s : Step}, ReachedBy root t.steps n s →
      s ∈ t.steps ∧ ∃ via, CallChain ix externals entry via s.symbol ∧ via.length = n := by
    intro n s hn
    induction hn with
    | root => exact ⟨hmem, [], hsym ▸ .refl, rfl⟩
    | call _ hb hc ht hs ih =>
      obtain ⟨hp, via, hvia, hlen⟩ := ih
      refine ⟨hs, _, .step hvia (ht ▸ successor_of_call hr hne h hp hb hc), ?_⟩
      rw [List.length_append, hlen, List.length_singleton]
  obtain ⟨-, via, hvia, hlen⟩ := hchain (hreached s hs)
  have := hshape.depth_mem s hs
  exact ⟨via, hvia, by omega⟩

/-- A trace covers every chain of calls that it is deep enough for, unless a symbol on the chain is not expanded.  So a
trace that expands all of them has every symbol of the traces that are less deep. -/
theorem trace_covers_uncut_chains (ix : Index) (externals : List String) (withArguments : Bool) {entry : String}
    {maxDepth : Int} {entries : List SymbolEntry} (hr : ix.symbols.resolve (Text.trimmed entry) = .ok entries)
    (hne : entries ≠ []) (hd : 0 ≤ maxDepth) :
    (∀ t, trace ix externals entry maxDepth withArguments = .ok t →
      (∀ via symbol, CallChain ix externals (Text.trimmed entry) via symbol → via.length ≤ maxDepth →
        symbol ∈ t.steps.map (·.symbol) ∨ ∃ u ∈ via, CutOff t.steps u ∨ Shadowed ix entries u) ∧
      ∀ lower t', 0 ≤ lower → lower ≤ maxDepth → trace ix externals entry lower withArguments = .ok t' →
        (∀ u v, Successor ix externals u v → ¬ CutOff t.steps u ∧ ¬ Shadowed ix entries u) →
        ∀ s ∈ t'.steps, s.symbol ∈ t.steps.map (·.symbol)) ∧
    (ix.symbols.Closed → ∃ t, trace ix externals entry maxDepth withArguments = .ok t) := by
  refine ⟨fun t ht => ?_, trace_ok hr hne hd⟩
  have hw := walk_of_trace hr hne hd ht
  constructor
  · intro via symbol hchain hlen
    exact walk_covers hr hne hw hchain (by omega)
  · intro lower t' hl hle ht' hexpanded s hs
    obtain ⟨via, hvia, hlen⟩ := callChain_of_mem hr hne (walk_of_trace hr hne hl ht') hs
    rcases walk_covers hr hne hw hvia (by omega) with hlisted | ⟨u, hu, hcut⟩
    · exact hlisted
    · obtain ⟨v, hv⟩ := hvia.exists_successor hu
      exact absurd hcut (not_or.2 (hexpanded u v hv))

/-! ### Samples -/

private theorem diamond_outgoing (name : String) (line : Int)
    (hr : diamondIndex.symbols.resolve name = .ok [diamondEntry name line]) :
    outgoing diamondIndex [] name = .ok ((callsWithin diamondFile.calls line ([1, 4, 6, 9, 11].find? (line < ·))).map
      fun c => (c.callee, c)) := by
  have ht : ∀ c ∈ diamondFile.calls, Call.target? [] c.raw none = some c.callee := by
    simp only [diamondFile, List.forall_mem_cons]
    refine ⟨?_, ?_, ?_, ?_, ?_, ?_, by simp⟩ <;> cbv
  have hl : diamondFile.declarationLines = [1, 4, 6, 9, 11] := by cbv
  have htargeted : targetedCalls diamondIndex [] (diamondEntry name line) =
      (callsWithin diamondFile.calls line ([1, 4, 6, 9, 11].find? (line < ·))).map fun c => (c.callee, c) :=
    targetedCalls_of_named rfl rfl hl ht
  rw [outgoing_eq hr, List.flatMap_singleton, htargeted]

theorem diamond_calls :
    outgoing diamondIndex [] "main" =
      .ok [("first", ⟨"/d.py", "first", 2, none, none⟩), ("last", ⟨"/d.py", "last", 3, none, none⟩)] ∧
    outgoing diamondIndex [] "first" = .ok [("second", ⟨"/d.py", "second", 5, none, none⟩)] ∧
    outgoing diamondIndex [] "second" =
      .ok [("last", ⟨"/d.py", "last", 7, none, none⟩), ("main", ⟨"/d.py", "main", 8, none, none⟩)] ∧
    outgoing diamondIndex [] "last" = .ok [("leaf", ⟨"/d.py", "leaf", 10, none, none⟩)] ∧
    outgoing diamondIndex [] "leaf" = .ok [] :=
  ⟨diamond_outgoing "main" 1 rfl, diamond_outgoing "first" 4 rfl, diamond_outgoing "second" 6 rfl,
    diamond_outgoing "last" 9 rfl, diamond_outgoing "leaf" 11 rfl⟩

private theorem diamond_chain : CallChain diamondIndex [] "main" ["main", "last"] "leaf" := by
  obtain ⟨hmain, -, -, hlast, -⟩ := diamond_calls
  exact (CallChain.refl.step (successor_iff.2 ⟨_, hmain, by simp⟩)).step (successor_iff.2 ⟨_, hlast, by simp⟩)

/-- The symbols of a trace with their depths. -/
def outline (t : ExecutionTrace) : List (String × Int) :=
  t.steps.map fun s => (s.symbol, s.depth)

private theorem diamond_outlines :
    (∃ t, trace diamondIndex [] "main" 2 false = .ok t ∧
      outline t = [("main", 2), ("first", 1), ("second", 0), ("last", 1), ("leaf", 0)]) ∧
    (∃ t, trace diamondIndex [] "main" 3 false = .ok t ∧
      outline t = [("main", 3), ("first", 2), ("second", 1), ("last", 0), ("main", 0), ("last", 2)]) ∧
    ∃ t, trace diamondIndex [] "main" 4 false = .ok t ∧
      outline t = [("main", 4), ("first", 3), ("second", 2), ("last", 1), ("leaf", 0), ("main", 1), ("last", 3)] := by
  have r₁ : diamondIndex.symbols.resolve "main" = .ok [diamondEntry "main" 1] := rfl
  have r₂ : diamondIndex.symbols.resolve "first" = .ok [diamondEntry "first" 4] := rfl
  have r₃ : diamondIndex.symbols.resolve "second" = .ok [diamondEntry "second" 6] := rfl
  have r₄ : diamondIndex.symbols.resolve "last" = .ok [diamondEntry "last" 9] := rfl
  have r₅ : diamondIndex.symbols.resolve "leaf" = .ok [diamondEntry "leaf" 11] := rfl
  obtain ⟨c₁, c₂, c₃, c₄, -⟩ := diamond_calls
  have hentry : Text.trimmed "main" = "main" := rfl
  refine ⟨map_eq_ok ?_, map_eq_ok ?_, map_eq_ok ?_⟩
  all_goals
    simp [trace, hentry, walk, expand, follow, outline, r₁, r₂, r₃, r₄, r₅, c₁, c₂, c₃, c₄, bind, Except.bind, pure,
      Except.pure, Except.map, Except.mapError, diamondEntry, SymbolEntry.qualifiedName]

private theorem diamond_expanded {t : ExecutionTrace} {u v : String}
    (ho : outline t = [("main", 4), ("first", 3), ("second", 2), ("last", 1), ("leaf", 0), ("main", 1), ("last", 3)])
    (h : Successor diamondIndex [] u v) : ¬ CutOff t.steps u ∧ ¬ Shadowed diamondIndex [diamondEntry "main" 1] u := by
  constructor
  · rintro ⟨s, hs, rfl, -, -, hd⟩
    have hmem : (s.symbol, s.depth) ∈ outline t := List.mem_map.2 ⟨s, hs, rfl⟩
    have hleaf : s.symbol = "leaf" := by
      rw [ho, hd] at hmem
      simpa using hmem
    -- the calls stop at `leaf`
    obtain ⟨calls, hcalls, hv⟩ := successor_iff.1 h
    rw [hleaf, diamond_calls.2.2.2.2] at hcalls
    cases hcalls
    cases hv
  · rintro ⟨hu, found, hfound, e, he, hne⟩
    have hmain : u = "main" := by simpa [diamondEntry, SymbolEntry.qualifiedName] using hu
    have hr : diamondIndex.symbols.resolve "main" = .ok [diamondEntry "main" 1] := rfl
    rw [hmain, hr] at hfound
    cases hfound
    exact hne he

theorem diamond_covered_at_four :
    diamondIndex.symbols.resolve (Text.trimmed "main") = .ok [diamondEntry "main" 1] ∧
    CallChain diamondIndex [] "main" ["main", "last"] "leaf" ∧
    ∃ t t', trace diamondIndex [] "main" 4 false = .ok t ∧ trace diamondIndex [] "main" 2 false = .ok t' ∧
      (∀ u v, Successor diamondIndex [] u v → ¬ CutOff t.steps u ∧ ¬ Shadowed diamondIndex [diamondEntry "main" 1] u) ∧
      "leaf" ∈ t.steps.map (·.symbol) ∧ ∀ s ∈ t'.steps, s.symbol ∈ t.steps.map (·.symbol) := by
  have hr : diamondIndex.symbols.resolve (Text.trimmed "main") = .ok [diamondEntry "main" 1] := rfl
  have hd : (0 : Int) ≤ 4 := by decide
  obtain ⟨⟨t', ht', -⟩, -, t, ht, ho⟩ := diamond_outlines
  have hexpanded : ∀ u v, Successor diamondIndex [] u v →
      ¬ CutOff t.steps u ∧ ¬ Shadowed diamondIndex [diamondEntry "main" 1] u := fun _ _ => diamond_expanded ho
  obtain ⟨hcovers, hdeeper⟩ := (trace_covers_uncut_chains diamondIndex [] false hr (by simp) hd).1 t ht
  refine ⟨hr, diamond_chain, t, t', ht, ht', hexpanded, ?_, hdeeper 2 t' (by decide) (by decide) ht' hexpanded⟩
  rcases hcovers _ _ diamond_chain (by decide) with hleaf | ⟨u, hu, hcut⟩
  · exact hleaf
  · obtain ⟨v, hv⟩ := diamond_chain.exists_successor hu
    exact absurd hcut (not_or.2 (hexpanded u v hv))

/-- A method, and in another file a class that is named like it. -/
def methodFile : FileSummary :=
  { path := "/m.py", methods := [⟨"A", "run", 1, [], false, false⟩], calls := [⟨"/m.py", "A::run", 2, none, none⟩] }

def namesakeFile : FileSummary :=
  { path := "/n.py", classes := [⟨"A::run", 1, [], [], [], []⟩], calls := [⟨"/n.py", "tick", 2, none, none⟩] }

def namesakeIndex : Index :=
  (Index.put [] (Index.put [] {} methodFile.path methodFile).1 namesakeFile.path namesakeFile).1

def methodEntry : SymbolEntry :=
  ⟨"/m.py", .ofMethod ⟨"A", "run", 1, [], false, false⟩⟩

def namesakeEntry : SymbolEntry :=
  ⟨"/n.py", .ofClass ⟨"A::run", 1, [], [], [], []⟩⟩

private theorem namesake_calls :
    outgoing namesakeIndex [] "run" = .ok [("A::run", ⟨"/m.py", "A::run", 2, none, none⟩)] ∧
    Successor namesakeIndex [] "A::run" "tick" := by
  have hm : targetedCalls namesakeIndex [] methodEntry = [("A::run", ⟨"/m.py", "A::run", 2, none, none⟩)] := by
    have hl : methodFile.declarationLines = [1] := by cbv
    refine targetedCalls_of_named rfl rfl hl fun c hc => ?_
    cases List.mem_singleton.1 hc
    cbv
  have hn : targetedCalls namesakeIndex [] namesakeEntry = [("tick", ⟨"/n.py", "tick", 2, none, none⟩)] := by
    have hl : namesakeFile.declarationLines = [1] := by cbv
    refine targetedCalls_of_named rfl rfl hl fun c hc => ?_
    cases List.mem_singleton.1 hc
    cbv
  have hrun : namesakeIndex.symbols.resolve "run" = .ok [methodEntry] := rfl
  have hboth : namesakeIndex.symbols.resolve "A::run" = .ok [methodEntry, namesakeEntry] := rfl
  constructor
  · rw [outgoing_eq hrun, List.flatMap_singleton, hm]
  · refine successor_iff.2 ⟨_, outgoing_eq hboth, ?_⟩
    simp [hm, hn]

private theorem namesake_outline :
    ∃ t, trace namesakeIndex [] "run" 2 false = .ok t ∧ outline t = [("run", 2), ("A::run", 1)] := by
  have hr : namesakeIndex.symbols.resolve "run" = .ok [methodEntry] := rfl
  have hentry : Text.trimmed "run" = "run" := rfl
  have hname : methodEntry.qualifiedName = "A::run" := rfl
  apply map_eq_ok
  simp [trace, hentry, walk, expand, follow, outline, hr, namesake_calls.1, bind, Except.bind, pure, Except.pure,
    Except.map, Except.mapError, hname]

/-- A symbol is neither listed in a trace nor a qualified name of the entry. -/
def Misses (ix : Index) (entry : String) (maxDepth : Int) (symbol : String) : Prop :=
  ∃ entries t, ix.symbols.resolve entry = .ok entries ∧ trace ix [] entry maxDepth false = .ok t ∧
    symbol ∉ t.steps.map (·.symbol) ∧ symbol ∉ entries.map (·.qualifiedName)

private theorem symbols_eq_outline (t : ExecutionTrace) : t.steps.map (·.symbol) = (outline t).map (·.1) := by
  simp [outline]

/-- A chain of two calls leads from `main` to `leaf`.  A trace of depth two has `leaf`, a trace of depth three loses
it: it meets `last` by the longer chain first, at depth zero.  The calls of a class are lost too when the class is named
like the method that the trace starts from. -/
theorem trace_misses_chains :
    (CallChain diamondIndex [] "main" ["main", "last"] "leaf" ∧ Misses diamondIndex "main" 3 "leaf" ∧
      ∃ t, trace diamondIndex [] "main" 2 false = .ok t ∧ "leaf" ∈ t.steps.map (·.symbol)) ∧
    CallChain namesakeIndex [] "run" ["run", "A::run"] "tick" ∧ Misses namesakeIndex "run" 2 "tick" := by
  obtain ⟨⟨t₂, ht₂, ho₂⟩, ⟨t₃, ht₃, ho₃⟩, -⟩ := diamond_outlines
  obtain ⟨t, ht, ho⟩ := namesake_outline
  refine ⟨⟨diamond_chain, ⟨[diamondEntry "main" 1], t₃, rfl, ht₃, ?_, by decide⟩, t₂, ht₂, ?_⟩, ?_,
    ⟨[methodEntry], t, rfl, ht, ?_, by decide⟩⟩
  · rw [symbols_eq_outline, ho₃]
    decide
  · rw [symbols_eq_outline, ho₂]
    decide
  · exact (CallChain.refl.step (successor_iff.2 ⟨_, namesake_calls.1, by simp⟩)).step namesake_calls.2
  · rw [symbols_eq_outline, ho]
    decide

end CallIndex.Trace
