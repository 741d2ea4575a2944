import CallIndex.Proofs.EntryKeys
import CallIndex.Proofs.TraceTrees

/-!
# Known symbols in a trace

A step is flagged when its symbol is known: when it stands for entries of the index.  The walk looks a symbol up when it
meets it for the first time.  A back-reference is flagged without a look, so its flag is right only if the symbol is known.

* `Step.Truthful`: the flag of a step tells whether its symbol is known.
* `SymbolTable.FindsEntries.resolve_qualifiedName`: the qualified names of entries are known.
* `resolved_flags_truthful`: the flags of a trace, right and wrong ones.
-/

namespace CallIndex

namespace SymbolTable

variable {t : SymbolTable}

/-- A query that finds something is known as a symbol: when no function is among what it finds, all of it counts. -/
private theorem resolve_of_find {symbol : String} {es : List SymbolEntry} (h : t.find symbol = .ok es) (hne : es ≠ []) :
    ∃ found, t.resolve symbol = .ok found ∧ found ≠ [] := by
  obtain ⟨all, hlookup, -⟩ := map_eq_ok h
  unfold resolve
  split
  · exact ⟨es, h, hne⟩
  · have hfunctions : t.find symbol (some .functionKind) =
        .ok (all.filter fun e => (some SymbolKind.functionKind).all (e.kind = ·)) := by
      rw [find, hlookup]
      rfl
    rw [hfunctions]
    cases hkind : all.filter fun e => (some SymbolKind.functionKind).all (e.kind = ·) with
    | nil => exact ⟨es, h, hne⟩
    | cons e found => exact ⟨e :: found, rfl, List.cons_ne_nil _ _⟩

theorem FindsEntries.resolve_qualifiedName (h : t.FindsEntries) {e : SymbolEntry} (he : e ∈ t.entries.values) :
    ∃ found, t.resolve e.qualifiedName = .ok found ∧ found ≠ [] := by
  cases hclass : e.className? with
  | none =>
    rw [SymbolEntry.qualifiedName_of_none hclass]
    exact resolve_of_find (h.by_name e he) (List.ne_nil_of_mem (List.mem_filter.2 ⟨he, by simp⟩))
  | some className =>
    have hname := SymbolEntry.qualifiedName_of_className? hclass
    rw [hname]
    exact resolve_of_find (h.by_qualifiedName e he className hclass)
      (List.ne_nil_of_mem (List.mem_filter.2 ⟨he, by simpa using hname⟩))

end SymbolTable

namespace Trace

variable {ix : Index} {externals : List String} {withArguments : Bool}

/-- The flag of a step tells whether its symbol is known. -/
def Step.Truthful (ix : Index) (s : Step) : Prop :=
  ∃ entries, ix.symbols.resolve s.symbol = .ok entries ∧ (s.isResolved = true ↔ entries ≠ [])

private theorem Explored.isResolved_of_isBack {depth : Nat} {seen : Seen} {calls : List (String × Call.CallSite)}
    {x : Expansion}
    (h : Explored ix externals withArguments depth seen calls x) {s : Step} (hs : s ∈ x.steps) (hb : s.isBack = true) :
    s.isResolved = true := by
  induction h with
  | nil => cases hs
  | again _ _ _ ih => exact ih hs
  | back _ _ _ ih =>
    rcases List.mem_cons.1 hs with rfl | hs
    · rfl
    · exact ih hs
  | fresh _ _ _ _ _ ihBelow ihRest =>
    rcases List.mem_cons.1 hs with rfl | hs
    · cases hb
    · rcases List.mem_append.1 hs with hs | hs
      · exact ihBelow hs
      · exact ihRest hs

/-- The flags of the steps of a walk: those of new steps are right, and all back-references are flagged. -/
private theorem flags_of_walk {entry : String} {maxDepth : Nat} {entries : List SymbolEntry} {t : ExecutionTrace}
    (hr : ix.symbols.resolve entry = .ok entries) (hne : entries ≠ [])
    (h : walk ix externals entry maxDepth withArguments = .ok t) {s : Step} (hs : s ∈ t.steps) :
    (s.isBack = false → s.Truthful ix) ∧ (s.isBack = true → s.isResolved = true) := by
  obtain ⟨inner, x, -, hx, hsteps⟩ := explored_of_walk hr hne h
  rw [hsteps] at hs
  rcases List.mem_cons.1 hs with rfl | hs
  · exact ⟨fun _ => ⟨entries, hr, by simpa using hne⟩, fun _ => rfl⟩
  · refine ⟨fun hb => ?_, hx.isResolved_of_isBack hs⟩
    obtain ⟨found, -, hfound, hflag, -⟩ := hx.calls_listed hs hb
    exact ⟨found, hfound, by simp [hflag]⟩

/-- The symbol of a back-reference is known, or an earlier step says that it is not. -/
private theorem known_or_unresolved {entry : String} {maxDepth : Nat} {entries : List SymbolEntry} {t : ExecutionTrace}
    (hfinds : ix.symbols.FindsEntries) (hr : ix.symbols.resolve entry = .ok entries) (hne : entries ≠ [])
    (h : walk ix externals entry maxDepth withArguments = .ok t) {pre post : List Step} {s : Step}
    (hs : t.steps = pre ++ s :: post) (hb : s.isBack = true) :
    (∃ found, ix.symbols.resolve s.symbol = .ok found ∧ found ≠ []) ∨
      ∃ p ∈ pre, p.isBack = false ∧ p.symbol = s.symbol ∧ p.isResolved = false := by
  rcases ((walk_wellShaped hr hne h).back_spec pre s post hs hb).2 with hentry | hname | ⟨p, hp, hpb, hsym⟩
  · exact Or.inl ⟨entries, hentry ▸ hr, hne⟩
  · obtain ⟨e, he, hq⟩ := List.mem_map.1 hname
    exact Or.inl (hq ▸ hfinds.resolve_qualifiedName (SymbolTable.mem_values_of_resolve hr he))
  · have hmem : p ∈ t.steps := hs ▸ List.mem_append_left _ hp
    obtain ⟨found, hfound, hflag⟩ := (flags_of_walk hr hne h hmem).1 hpb
    cases hres : p.isResolved with
    | false => exact Or.inr ⟨p, hp, hpb, hsym, hres⟩
    | true => exact Or.inl ⟨found, hsym ▸ hfound, hflag.1 hres⟩

/-- The flag of a step is right unless the step is a back-reference to a symbol that is not known: all back-references
are flagged.  In an index whose entries are found by their names, as in every index of analysed files, these are the
back-references to symbols that an earlier step shows as not known. -/
theorem resolved_flags_truthful (ix : Index) (externals : List String) (withArguments : Bool) {entry : String}
    {maxDepth : Int} {t : ExecutionTrace} (ht : trace ix externals entry maxDepth withArguments = .ok t)
    {pre post : List Step} {s : Step} (hs : t.steps = pre ++ s :: post) :
    (s.isBack = true → s.isResolved = true) ∧
    (s.Truthful ix ↔ (s.isBack = true → ∃ found, ix.symbols.resolve s.symbol = .ok found ∧ found ≠ [])) ∧
    (ix.symbols.FindsEntries → (s.Truthful ix ↔
      ¬ (s.isBack = true ∧ ∃ p ∈ pre, p.isBack = false ∧ p.symbol = s.symbol ∧ p.isResolved = false))) := by
  have hwalk := walk_of_trace_ok ht
  have hmem : s ∈ t.steps := hs ▸ List.mem_append_right _ (List.mem_cons_self ..)
  obtain ⟨entries, hr, hne⟩ := exists_entries_of_walk hwalk (List.ne_nil_of_mem hmem)
  obtain ⟨hnew, hback⟩ := flags_of_walk hr hne hwalk hmem
  have hknown : s.Truthful ix ↔
      (s.isBack = true → ∃ found, ix.symbols.resolve s.symbol = .ok found ∧ found ≠ []) := by
    constructor
    · rintro ⟨found, hfound, hflag⟩ hb
      exact ⟨found, hfound, hflag.1 (hback hb)⟩
    · intro h
      cases hb : s.isBack with
      | false => exact hnew hb
      | true =>
        obtain ⟨found, hfound, hfne⟩ := h hb
        exact ⟨found, hfound, iff_of_true (hback hb) hfne⟩
  refine ⟨hback, hknown, fun hfinds => ?_⟩
  rw [hknown]
  constructor
  · rintro h ⟨hb, p, hp, hpb, hsym, hunresolved⟩
    have hpmem : p ∈ t.steps := hs ▸ List.mem_append_left _ hp
    obtain ⟨found, hfound, hfne⟩ := h hb
    obtain ⟨found', hfound', hflag⟩ := (flags_of_walk hr hne hwalk hpmem).1 hpb
    rw [hsym] at hfound'
    cases hfound.symm.trans hfound'
    rw [hflag.2 hfne] at hunresolved
    cases hunresolved
  · intro h hb
    exact (known_or_unresolved hfinds hr hne hwalk hs hb).resolve_right fun hp => h ⟨hb, hp⟩

/-- A function that calls another one twice, which is not declared. -/
def twiceFile : FileSummary :=
  { path := "/t.py"
    functions := [⟨"main", 1, [], false⟩]
    calls := [⟨"/t.py", "emit", 2, some "1", none⟩, ⟨"/t.py", "emit", 3, some "2", none⟩] }

def twiceIndex : Index :=
  (Index.put [] {} twiceFile.path twiceFile).1

def twiceEntry : SymbolEntry :=
  ⟨"/t.py", .ofFunction ⟨"main", 1, [], false⟩⟩

/-- The first call makes a step that is not known, and the second one a back-reference to it. -/
def twiceSteps (withArguments : Bool) : List Step :=
  let arguments := fun text => if withArguments then some text else none
  [{ symbol := "main", depth := 1,
     calls := [⟨"emit", 2, "emit", arguments "1", false⟩, ⟨"emit", 3, "emit", arguments "2", true⟩] },
    { symbol := "emit", depth := 0, isResolved := false }, { symbol := "emit", depth := 0, isBack := true }]

theorem twice_trace (withArguments : Bool) :
    trace twiceIndex [] "main" 1 withArguments = .ok ⟨"main", 1, twiceSteps withArguments⟩ := by
  have hmain : twiceIndex.symbols.resolve "main" = .ok [twiceEntry] := rfl
  have hemit : twiceIndex.symbols.resolve "emit" = .ok [] := rfl
  have htargets : ∀ c ∈ twiceFile.calls, Call.target? [] c.raw none = some c.callee := by
    simp only [twiceFile, List.forall_mem_cons]
    refine ⟨?_, ?_, by simp⟩ <;> cbv
  have hlines : twiceFile.declarationLines = [1] := by cbv
  have hcalls : outgoing twiceIndex [] "main" = .ok (twiceFile.calls.map fun c => (c.callee, c)) := by
    rw [outgoing_eq hmain, List.flatMap_singleton, targetedCalls_of_named rfl rfl hlines htargets]
    rfl
  have hentry : Text.trimmed "main" = "main" := rfl
  cases withArguments <;>
    simp [trace, hentry, walk, expand, follow, hmain, hemit, hcalls, twiceFile, twiceSteps, bind, Except.bind, pure,
      Except.pure, Except.mapError, twiceEntry, SymbolEntry.qualifiedName, Call.CallSite.raw]

private theorem twice_findsEntries : twiceIndex.symbols.FindsEntries := by
  obtain ⟨t, ht, hregisters⟩ := SymbolTable.registers_nil.registerFile (s := twiceFile) (by decide)
  have htable : twiceIndex.symbols = t := congrArg Prod.fst ht
  have hentries : ∀ e ∈ ([] ++ [twiceFile]).flatMap FileSummary.settled, e = twiceEntry := by
    intro e he
    exact List.mem_singleton.1 he
  rw [htable]
  refine hregisters.holds.findsEntries ?_ ?_
  · intro e he
    rw [hentries e he]
    exact ⟨⟨by decide, List.all_eq_true.1 rfl⟩, fun _ h => nomatch h⟩
  · intro e he
    rw [hentries e he]
    rfl

/-- The second call of the function that is not declared is flagged, the first one is not. -/
theorem second_emit_not_truthful :
    trace twiceIndex [] "main" 1 false = .ok ⟨"main", 1, twiceSteps false⟩ ∧
    ∃ main first second, twiceSteps false = [main, first] ++ second :: [] ∧ first.Truthful twiceIndex ∧
      second.isResolved = true ∧ ¬ second.Truthful twiceIndex := by
  have ht := twice_trace false
  obtain ⟨main, first, second, hfirst, hsecond, hnew, hback, hsymbol, hunresolved⟩ :
      ∃ main first second, twiceSteps false = [main] ++ first :: [second] ∧
        twiceSteps false = [main, first] ++ second :: [] ∧ first.isBack = false ∧ second.isBack = true ∧
        first.symbol = second.symbol ∧ first.isResolved = false := ⟨_, _, _, rfl, rfl, rfl, rfl, rfl, rfl⟩
  obtain ⟨-, hfirstTruthful, -⟩ := resolved_flags_truthful twiceIndex [] false ht hfirst
  obtain ⟨hflag, -, hsecondTruthful⟩ := resolved_flags_truthful twiceIndex [] false ht hsecond
  refine ⟨ht, main, first, second, hsecond, ?_, hflag hback, ?_⟩
  · exact hfirstTruthful.2 fun h => by rw [hnew] at h; cases h
  · intro h
    exact (hsecondTruthful twice_findsEntries).1 h ⟨hback, first, by simp, hnew, hsymbol, hunresolved⟩

end Trace

end CallIndex
