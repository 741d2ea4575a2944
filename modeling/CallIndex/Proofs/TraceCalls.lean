import CallIndex.Proofs.PlainCalls
import CallIndex.Query

/-!
# Traces and queries

A trace and the query for the calls of a method look their entries up in different ways: a trace asks for a symbol of
any kind and prefers functions for a bare name, a query asks for methods of a class, or for functions and then for
methods.  In every run they agree.  A step that is no back-reference lists all calls out of its symbol, whatever was
visited before, and these are the calls that the query gives.

* `SymbolTable.resolve_method` and `SymbolTable.resolve_bare`: both look-ups find the same entries.
* `Workspace.traces_agree_with_queries`: the steps of every trace agree with the queries, and the calls that are not
  flagged lead to the steps that are no back-references, one to each.
-/

namespace CallIndex

open Text (Solid isBlank)
open Call (CallSite)

/-! ### Occurrences of a mark -/

namespace Text

private theorem occurs_append (front mark rest : List Char) : occurs mark (front ++ (mark ++ rest)) = true := by
  induction front with
  | nil =>
    rw [List.nil_append, occurs, cutAt?.eq_def, dropFront?_append]
    rfl
  | cons c front ih =>
    rw [List.cons_append, occurs, cutAt?.eq_def]
    split
    · rfl
    · rw [Option.isSome_map]
      exact ih

/-- Where a mark does not occur there is no last occurrence. -/
private theorem cutAtLast?_eq_none_of_occurs {mark s : List Char} (h : occurs mark s = false) :
    cutAtLast? mark s = none := by
  cases hcut : cutAtLast? mark s with
  | none => rfl
  | some cut =>
    have hs := eq_append_of_cutAtLast? hcut
    rw [List.append_assoc] at hs
    rw [hs, occurs_append] at h
    cases h

/-- Two colons at the end of a text do not hide two others before them. -/
private theorem colon_mem_of_append_eq {front before behind : List Char} (hbehind : behind ≠ [])
    (h : before ++ ("::".toList ++ behind) = front ++ "::".toList) : ':' ∈ front := by
  rcases List.append_eq_append_iff.1 h with ⟨more, hmore, hrest⟩ | ⟨more, -, hrest⟩
  · cases more with
    | nil => simp [hbehind] at hrest
    | cons c more =>
      have hc : ':' = c := (List.cons.inj hrest).1
      simp [hmore, ← hc]
  · have hlength := congrArg List.length hrest
    have hpos := List.length_pos_iff.2 hbehind
    simp only [List.length_append] at hlength
    omega

private theorem not_isBlank_head?_trimmed {s : String} {c : Char} (hc : (trimmed s).toList.head? = some c) :
    isBlank c = false := by
  rw [trimmed, String.toList_ofList] at hc
  exact not_isBlank_head?_trim hc

private theorem not_isBlank_getLast?_trimmed {s : String} {c : Char} (hc : (trimmed s).toList.getLast? = some c) :
    isBlank c = false := by
  rw [trimmed, String.toList_ofList] at hc
  exact not_isBlank_getLast?_trim hc

private theorem trimmed_trimmed (s : String) : trimmed (trimmed s) = trimmed s :=
  trimmed_eq_self (fun _ => not_isBlank_head?_trimmed) fun _ => not_isBlank_getLast?_trimmed

/-- Two colons between trimmed texts. -/
theorem trimmed_colons (s t : String) :
    trimmed (trimmed s ++ "::" ++ trimmed t) = trimmed s ++ "::" ++ trimmed t := by
  have hcolon : isBlank ':' = false := rfl
  apply trimmed_eq_self
  · intro c hc
    rw [String.toList_append, String.toList_append, List.append_assoc, List.head?_append, Option.or_eq_some_iff] at hc
    rcases hc with hc | ⟨-, hc⟩
    · exact not_isBlank_head?_trimmed hc
    · cases hc
      exact hcolon
  · intro c hc
    rw [String.toList_append, String.toList_append, List.getLast?_append, Option.or_eq_some_iff] at hc
    rcases hc with hc | ⟨-, hc⟩
    · exact not_isBlank_getLast?_trimmed hc
    · rw [List.getLast?_append] at hc
      cases hc
      exact hcolon

end Text

/-! ### Entries of a symbol -/

namespace SymbolEntry

private theorem kind_of_className? {e : SymbolEntry} (h : e.className? ≠ none) : e.kind = .methodKind := by
  obtain ⟨path, declaration⟩ := e
  cases declaration with
  | ofMethod m => rfl
  | ofClass c => exact absurd rfl h
  | ofFunction f => exact absurd rfl h

private theorem Named.solid_qualifiedName {e : SymbolEntry} (h : e.Named) : Solid e.qualifiedName.toList := by
  cases hclass : e.className? with
  | none =>
    rw [qualifiedName_of_none hclass]
    exact h.solid
  | some className =>
    rw [qualifiedName_of_className? hclass, String.toList_append, String.toList_append]
    exact Text.solid_colons (fun c hc => not_isBlank_of_isNameChar (h.owner className hclass c hc)) h.solid.chars

end SymbolEntry

namespace SymbolTable

variable {t : SymbolTable} {L : List SymbolEntry}

/-- A symbol that holds two colons, with something behind them, is the qualified name of what it finds. -/
theorem mem_of_mem_scan_colons (hnamed : ∀ e ∈ L, e.Named) {className method : String} (hmethod : method ≠ "")
    (hkey : ∀ e ∈ L, e.key ≠ className ++ "::" ++ method) {e : SymbolEntry}
    (he : e ∈ scan L (className ++ "::" ++ method)) : e ∈ L ∧ e.qualifiedName = className ++ "::" ++ method := by
  have hlist : (className ++ "::" ++ method).toList = className.toList ++ ("::".toList ++ method.toList) := by
    rw [String.toList_append, String.toList_append, List.append_assoc]
  have hchars : method.toList ≠ [] := fun h => hmethod (String.toList_eq_nil_iff.1 h)
  have hne : className ++ "::" ++ method ≠ "" := by
    intro h
    rw [← String.toList_eq_nil_iff, hlist] at h
    simp at h
  rw [scan_of_no_key hne hkey] at he
  split at he
  · rename_i front hcut
    obtain ⟨he, hmatch⟩ := List.mem_filter.1 he
    -- a class is asked for, but the text before the last two colons holds a colon
    have hfront := Text.eq_append_of_cutAtLast? hcut
    rw [hlist, List.append_nil] at hfront
    have hmem := Text.colon_mem_of_append_eq hchars hfront
    simp only [Bool.or_eq_true, Bool.and_eq_true, decide_eq_true_eq] at hmatch
    rcases hmatch with ⟨-, hname⟩ | howner
    · exact absurd (by simpa [hname] using hmem) (colon_notMem (hnamed e he).name.chars)
    · exact absurd (by simpa using hmem) (colon_notMem ((hnamed e he).owner _ howner))
  · obtain ⟨he, hname⟩ := List.mem_filter.1 he
    exact ⟨he, of_decide_eq_true hname⟩
  · -- the symbol holds a colon, and the name of the entry does not
    obtain ⟨he, hname⟩ := List.mem_filter.1 he
    refine absurd ?_ (colon_notMem (hnamed e he).name.chars)
    rw [of_decide_eq_true hname, hlist]
    simp

/-- A symbol that holds two colons, with something behind them, names methods only. -/
private theorem kind_of_mem_scan (hnamed : ∀ e ∈ L, e.Named) {className method : String} (hmethod : method ≠ "")
    (hkey : ∀ e ∈ L, e.key ≠ className ++ "::" ++ method) {e : SymbolEntry}
    (he : e ∈ scan L (className ++ "::" ++ method)) : e.kind = .methodKind := by
  apply SymbolEntry.kind_of_className?
  intro hnone
  obtain ⟨hmem, hname⟩ := mem_of_mem_scan_colons hnamed hmethod hkey he
  apply colon_notMem (hnamed e hmem).name.chars
  rw [SymbolEntry.qualifiedName_of_none hnone] at hname
  rw [hname]
  simp

/-- A symbol that is found, and is no key, is written without blanks. -/
private theorem solid_of_mem_scan (hnamed : ∀ e ∈ L, e.Named) {symbol : String} (hkey : ∀ e ∈ L, e.key ≠ symbol)
    {e : SymbolEntry} (he : e ∈ scan L symbol) : Solid symbol.toList := by
  have hne : symbol ≠ "" := by
    rintro rfl
    rw [scan, if_pos rfl] at he
    cases he
  rw [scan_of_no_key hne hkey] at he
  split at he
  · rename_i className hcut
    obtain ⟨he, hmatch⟩ := List.mem_filter.1 he
    have hclass : ∀ c ∈ className, isBlank c = false := by
      rw [Bool.or_eq_true, Bool.and_eq_true] at hmatch
      rcases hmatch with ⟨-, hname⟩ | howner
      · have := (hnamed e he).solid.chars
        rwa [of_decide_eq_true hname, String.toList_ofList] at this
      · intro c hc
        apply not_isBlank_of_isNameChar
        apply (hnamed e he).owner _ (of_decide_eq_true howner)
        rwa [String.toList_ofList]
    rw [Text.eq_append_of_cutAtLast? hcut]
    exact Text.solid_colons hclass (by simp)
  · obtain ⟨he, hname⟩ := List.mem_filter.1 he
    rw [← of_decide_eq_true hname]
    exact (hnamed e he).solid_qualifiedName
  · obtain ⟨he, hname⟩ := List.mem_filter.1 he
    rw [← of_decide_eq_true hname]
    exact (hnamed e he).solid

section Symbols

variable (h : t.Holds L) (hnamed : ∀ e ∈ L, e.Named)

include h

private theorem key_ne_of_get? {symbol : String} (hkey : t.get? symbol = none) : ∀ e ∈ L, e.key ≠ symbol := by
  intro e he hk
  have hfound := h.get?_of_mem he
  rw [hk] at hfound
  cases hkey.symm.trans hfound

include hnamed

/-- A trimmed symbol that stands for an entry, and is no key, is written without blanks. -/
private theorem solid_of_resolve {symbol : String} {entries : List SymbolEntry} (htrim : Text.trimmed symbol = symbol)
    (hkey : t.get? symbol = none) (hr : t.resolve symbol = .ok entries) (hne : entries ≠ []) :
    Solid symbol.toList := by
  obtain ⟨e, he⟩ := List.exists_mem_of_ne_nil entries hne
  apply solid_of_mem_scan hnamed (key_ne_of_get? h hkey) (e := e)
  have hfind : ∀ kind, t.find symbol kind = .ok entries → e ∈ scan L symbol := by
    intro kind hf
    rw [h.find_eq, htrim] at hf
    cases hf
    exact (List.mem_filter.1 he).1
  unfold resolve at hr
  split at hr
  · exact hfind none hr
  · obtain ⟨functions, hf, hr⟩ := bind_eq_ok hr
    split at hr
    · exact hfind none hr
    · cases hr
      exact hfind _ hf

/-- A symbol with a class stands for the methods that a query for this class finds. -/
theorem resolve_method {className method : String} (hsolid : Solid (className ++ "::" ++ method).toList)
    (hmethod : method ≠ "") (hkey : t.get? (className ++ "::" ++ method) = none) :
    t.resolve (className ++ "::" ++ method) = t.find (className ++ "::" ++ method) (some .methodKind) := by
  have hoccurs : Text.occurs "::".toList (className ++ "::" ++ method).toList = true := by
    rw [String.toList_append, String.toList_append, List.append_assoc]
    exact Text.occurs_append _ _ _
  have hall : ∀ e ∈ scan L (className ++ "::" ++ method), (some SymbolKind.methodKind).all (e.kind = ·) = true := by
    intro e he
    simpa using kind_of_mem_scan hnamed hmethod (key_ne_of_get? h hkey) he
  rw [resolve, hoccurs, Bool.true_or, if_pos rfl, find_eq_scan h hsolid.trimmed_eq, h.find_eq, hsolid.trimmed_eq,
    List.filter_eq_self.2 hall]

omit hnamed in
/-- A bare name stands for functions, and otherwise for methods, when no class bears it beside them. -/
theorem resolve_bare {symbol : String} (hsolid : Solid symbol.toList)
    (hbare : Text.occurs "::".toList symbol.toList = false) (hkey : t.get? symbol = none)
    (hclass : (∃ e ∈ t.entries.values, e.kind = .functionKind ∧ e.name = symbol) ∨
      ∀ e ∈ t.entries.values, e.kind = .classKind → e.name ≠ symbol) :
    ∃ functions, t.find symbol (some .functionKind) = .ok functions ∧
      t.resolve symbol = if functions.isEmpty then t.find symbol (some .methodKind) else .ok functions := by
  have hne : symbol ≠ "" := fun hs => hsolid.ne_nil (String.toList_eq_nil_iff.2 hs)
  have hscan : scan L symbol = L.filter fun e => e.name = symbol := by
    rw [scan_of_no_key hne (key_ne_of_get? h hkey), Text.cutAtLast?_eq_none_of_occurs hbare]
  have hcontains : t.entries.contains symbol = false := by
    rw [Registry.contains_eq_isSome]
    exact congrArg Option.isSome hkey
  have hfind : ∀ kind, t.find symbol kind =
      .ok ((L.filter fun e => e.name = symbol).filter fun e => kind.all (e.kind = ·)) := by
    intro kind
    rw [h.find_eq, hsolid.trimmed_eq, hscan]
  refine ⟨_, hfind (some .functionKind), ?_⟩
  rw [resolve, hbare, hcontains, Bool.or_self, if_neg Bool.false_ne_true, hfind (some .functionKind)]
  change (if _ then _ else _) = _
  split
  · rename_i hempty
    rw [hfind none, hfind (some .methodKind)]
    -- no function bears the name, so no class does
    rw [h.values_eq] at hclass
    have hnofunction : ∀ e ∈ L, e.name = symbol → e.kind ≠ .functionKind := by
      intro e he hname hkind
      have hmem : e ∈ (L.filter fun e => e.name = symbol).filter fun e =>
          (some SymbolKind.functionKind).all (e.kind = ·) := by
        simp [he, hname, hkind]
      rw [List.isEmpty_iff.1 hempty] at hmem
      cases hmem
    have hnoclass : ∀ e ∈ L, e.kind = .classKind → e.name ≠ symbol := by
      rcases hclass with ⟨e, he, hkind, hname⟩ | hnone
      · exact absurd hkind (hnofunction e he hname)
      · exact hnone
    refine congrArg Except.ok (List.filter_congr fun e he => ?_)
    obtain ⟨he, hname⟩ := List.mem_filter.1 he
    have hf := hnofunction e he (of_decide_eq_true hname)
    have hc := fun hkind => hnoclass e he hkind (of_decide_eq_true hname)
    cases hkind : e.kind with
    | classKind => exact absurd hkind hc
    | functionKind => exact absurd hkind hf
    | methodKind => rfl
  · rfl

end Symbols

end SymbolTable

namespace Index

variable {ix : Index} {externals : List String}

/-- The query for the methods of a class, written without blanks. -/
private theorem callsFrom_method {className method : String} {entries : List SymbolEntry}
    (hsolid : Solid (className ++ "::" ++ method).toList) (hclass : className ≠ "") (hmethod : method ≠ "")
    (hfind : ix.symbols.find (className ++ "::" ++ method) (some .methodKind) = .ok entries) :
    ix.callsFrom externals (some className) method = .ok (entries.flatMap (ix.normalisedCalls externals)) := by
  have hpart : ∀ {s : String}, s ≠ "" → s.toList ⊆ (className ++ "::" ++ method).toList → Text.trimmed s = s := by
    intro s hs hsub
    exact Solid.trimmed_eq ⟨fun hnil => hs (String.toList_eq_nil_iff.1 hnil), fun c hc => hsolid.chars c (hsub hc)⟩
  have hclassTrim : Text.trimmed className = className := hpart hclass (by simp [String.toList_append])
  have hmethodTrim : Text.trimmed method = method := by
    apply hpart hmethod
    rw [String.toList_append]
    exact List.subset_append_right _ _
  rw [callsFrom]
  simp only [hclassTrim, hmethodTrim, hclass, hmethod, ↓reduceIte, hfind]
  rfl

/-- The query for a bare name, written without blanks. -/
private theorem callsFrom_bare {method : String} {functions entries : List SymbolEntry} (hsolid : Solid method.toList)
    (hfunctions : ix.symbols.find method (some .functionKind) = .ok functions)
    (hentries : (if functions.isEmpty then ix.symbols.find method (some .methodKind) else .ok functions) = .ok entries) :
    ix.callsFrom externals none method = .ok (entries.flatMap (ix.normalisedCalls externals)) := by
  have hmethod : method ≠ "" := fun h => hsolid.ne_nil (String.toList_eq_nil_iff.2 h)
  rw [callsFrom]
  simp only [hsolid.trimmed_eq, hmethod, ↓reduceIte, callsFrom.free, hfunctions]
  cases functions with
  | nil =>
    simp only [List.isEmpty_nil, ↓reduceIte] at hentries
    rw [hentries]
    rfl
  | cons f fs =>
    cases hentries
    rfl

end Index

/-! ### Steps -/

namespace Trace

variable {ix : Index} {externals : List String} {withArguments : Bool}

/-- The calls out of an entry are listed as the query gives them. -/
private theorem map_listed_targetedCalls (e : SymbolEntry) :
    ((targetedCalls ix externals e).map fun c => listed withArguments false c.1 c.2) =
      (ix.normalisedCalls externals e).map fun c => listed withArguments false c.callee c := by
  rw [targetedCalls, Index.normalisedCalls, List.map_filterMap, List.map_filterMap]
  refine List.filterMap_congr fun c _ => ?_
  cases Call.target? externals c.raw e.ownerClass? <;> rfl

/-- The step lists the calls of `entries`, all of them and in their order. -/
def Step.Lists (ix : Index) (externals : List String) (withArguments : Bool) (entries : List SymbolEntry)
    (s : Step) : Prop :=
  s.calls.map unflagged =
    (entries.flatMap (ix.normalisedCalls externals)).map fun c => listed withArguments false c.callee c

/-- The step shows the calls that a query gives. -/
def Step.Shows (s : Step) (calls : List CallSite) : Prop :=
  (s.calls.map fun c => (c.target, c.line, c.raw)) = calls.map fun c => (c.callee, c.line, c.raw)

private theorem Step.Lists.shows {s : Step} {entries : List SymbolEntry}
    (h : s.Lists ix externals withArguments entries) : s.Shows (entries.flatMap (ix.normalisedCalls externals)) := by
  have hshown := congrArg (List.map fun c => (c.target, c.line, c.raw)) h
  rw [List.map_map, List.map_map] at hshown
  exact hshown

end Trace

namespace Workspace

open Trace (Step ExecutionTrace newSymbols newTargets pending listed unflagged)

/-- A step that is no back-reference agrees with the queries of a workspace.  A bare name is asked for as a function or
method, so it must be that of a function, or not be that of a class. -/
structure StepAgrees (ws : Workspace) (withArguments : Bool) (s : Step) : Prop where
  /-- Nothing is listed at depth zero and for a symbol without entries. -/
  unexpanded : s.depth = 0 ∨ s.isResolved = false → s.calls = []
  /-- Otherwise all calls of the entries that the symbol stands for are listed. -/
  complete : ∃ entries, ws.index.symbols.resolve s.symbol = .ok entries ∧ s.isResolved = !entries.isEmpty ∧
    (s.depth ≠ 0 → s.Lists ws.index ws.settings.externalObjects withArguments entries)
  of_method : s.depth ≠ 0 → ws.index.symbols.get? s.symbol = none → ∀ className method : String,
    s.symbol = className ++ "::" ++ method → className ≠ "" → method ≠ "" →
      ∃ calls, ws.callsFrom (some className) method = .ok calls ∧ s.Shows calls
  of_bare : s.depth ≠ 0 → ws.index.symbols.get? s.symbol = none → Text.occurs "::".toList s.symbol.toList = false →
    (∃ e ∈ ws.index.symbols.entries.values, e.kind = .functionKind ∧ e.name = s.symbol) ∨
      (∀ e ∈ ws.index.symbols.entries.values, e.kind = .classKind → e.name ≠ s.symbol) →
    ∃ calls, ws.callsFrom none s.symbol = .ok calls ∧ s.Shows calls

variable {history : List Sources} {ws : Workspace} {withArguments : Bool}

/-- What a step must list to agree with the queries. -/
private theorem Reached.stepAgrees (h : Reached history ws) {s : Step} {entries : List SymbolEntry}
    {inner : List (String × CallSite)} (hdepth : 0 ≤ s.depth)
    (hsolid : ws.index.symbols.get? s.symbol = none → Solid s.symbol.toList)
    (hr : ws.index.symbols.resolve s.symbol = .ok entries) (hresolved : s.isResolved = !entries.isEmpty)
    (hp : pending ws.index ws.settings.externalObjects s.depth.toNat s.symbol = .ok inner)
    (hcalls : s.calls.map unflagged = inner.map fun c => listed withArguments false c.1 c.2) :
    ws.StepAgrees withArguments s := by
  obtain ⟨L, hholds, hnamed, -⟩ := h.ofAnalysed.exists_holds
  have hlists : s.depth ≠ 0 → s.Lists ws.index ws.settings.externalObjects withArguments entries := by
    intro hne
    obtain ⟨depth, hdepth'⟩ : ∃ depth, s.depth.toNat = depth + 1 := ⟨s.depth.toNat - 1, by omega⟩
    rw [hdepth', pending, Trace.outgoing_eq hr] at hp
    cases hp
    rw [List.map_flatMap] at hcalls
    rw [Step.Lists, hcalls, List.map_flatMap]
    exact List.flatMap_congr fun e _ => Trace.map_listed_targetedCalls e
  refine ⟨?_, ⟨entries, hr, hresolved, hlists⟩, ?_, ?_⟩
  · intro hcut
    by_cases hzero : s.depth = 0
    · rw [hzero] at hp
      cases hp
      exact List.map_eq_nil_iff.1 hcalls
    · have hempty : entries = [] := by
        rcases hcut with hcut | hcut
        · exact absurd hcut hzero
        · rw [hresolved] at hcut
          simpa using hcut
      have := hlists hzero
      rw [hempty] at this
      exact List.map_eq_nil_iff.1 this
  · intro hne hkey className method hsymbol hclass hmethod
    have hwritten := hsolid hkey
    rw [hsymbol] at hwritten hkey hr
    rw [SymbolTable.resolve_method hholds hnamed hwritten hmethod hkey] at hr
    exact ⟨_, Index.callsFrom_method hwritten hclass hmethod hr, (hlists hne).shows⟩
  · intro hne hkey hbare hclass
    obtain ⟨functions, hfunctions, hresolve⟩ :=
      SymbolTable.resolve_bare hholds (hsolid hkey) hbare hkey hclass
    exact ⟨_, Index.callsFrom_bare (hsolid hkey) hfunctions (hresolve.symm.trans hr), (hlists hne).shows⟩

/-- The steps of the trace of a known entry agree with the queries. -/
private theorem Reached.walk_agrees (h : Reached history ws) {entry : String} {maxDepth : Nat}
    {entries : List SymbolEntry}
    {t : ExecutionTrace} (htrim : Text.trimmed entry = entry) (hr : ws.index.symbols.resolve entry = .ok entries)
    (hne : entries ≠ [])
    (hw : Trace.walk ws.index ws.settings.externalObjects entry maxDepth withArguments = .ok t) :
    ∀ s ∈ t.steps, s.isBack = false → ws.StepAgrees withArguments s := by
  obtain ⟨L, hholds, hnamed, -⟩ := h.ofAnalysed.exists_holds
  have hdepths := (Trace.walk_wellShaped hr hne hw).depth_mem
  obtain ⟨inner, x, hp, hx, hsteps⟩ := Trace.explored_of_walk hr hne hw
  intro s hs hback
  have hdepth := (hdepths s hs).1
  rw [hsteps] at hs
  rcases List.mem_cons.1 hs with rfl | hs
  · refine h.stepAgrees hdepth ?_ hr ?_ hp hx.calls_eq
    · intro hkey
      exact SymbolTable.solid_of_resolve hholds hnamed htrim hkey hr hne
    · cases entries with
      | nil => exact absurd rfl hne
      | cons e es => rfl
  · obtain ⟨found, calls, hfound, hresolved, hcalls, hlisted⟩ := hx.calls_listed hs hback
    have hmem : s.symbol ∈ Trace.callTargets ws.index ws.settings.externalObjects :=
      hx.symbol_mem (fun c hc => Trace.mem_callTargets_of_pending hp hc)
        (fun _ _ _ hq c hc => Trace.mem_callTargets_of_pending hq hc) hs
    exact h.stepAgrees hdepth (fun _ => h.solid_of_mem_callTargets hmem) hfound hresolved hcalls hlisted

/-- In every run each trace agrees with the queries, step by step, and its calls that are not flagged lead to its steps
that are no back-references, one to each. -/
theorem traces_agree_with_queries (h : Reached history ws) (withArguments : Bool) {entry : String}
    {maxDepth : Option Int} (hentry : Text.trimmed entry ≠ "")
    (hdepth : 0 ≤ maxDepth.getD ws.settings.traceDepth) :
    ∃ t, ws.trace entry maxDepth withArguments = .ok t ∧
      (∀ s ∈ t.steps, s.isBack = false → ws.StepAgrees withArguments s) ∧
      (t.steps.flatMap fun s => newTargets s.calls).Perm (newSymbols t.steps.tail) ∧
      (newSymbols t.steps.tail).Nodup := by
  obtain ⟨L, hholds, -, -⟩ := h.ofAnalysed.exists_holds
  obtain ⟨entries, hr⟩ := hholds.closed.resolve_ok (Text.trimmed entry)
  obtain ⟨t, hw⟩ := Trace.walk_ok hholds.closed (Text.trimmed entry) (maxDepth.getD ws.settings.traceDepth).toNat
  refine ⟨t, ?_, ?_⟩
  · rw [trace, Trace.trace, if_neg hentry, if_neg (by omega), hw]
    rfl
  by_cases hne : entries = []
  · -- nothing is known of the entry, and the trace is empty
    have hsteps : t.steps = [] := by
      rw [Trace.walk, hr, hne] at hw
      cases hw
      rfl
    rw [hsteps]
    exact ⟨fun s hs => absurd hs List.not_mem_nil, List.Perm.nil, List.nodup_nil⟩
  · obtain ⟨inner, x, -, hx, hsteps⟩ := Trace.explored_of_walk hr hne hw
    refine ⟨h.walk_agrees (Text.trimmed_trimmed entry) hr hne hw, ?_⟩
    rw [hsteps, List.flatMap_cons, List.tail_cons]
    exact ⟨hx.newTargets_perm, hx.nodup_new.1⟩

/-- A file with a method that calls itself. -/
def recursion : Workspace :=
  { sources := .texts [("/a.py", "class A:\n def m(self):\n  self.m()\n")] }

private theorem recursion_symbols :
    ((analyze "/a.py").run recursion).2.index.symbols.get? "A::m" = none ∧
      ((analyze "/a.py").run recursion).2.index.symbols.resolve (Text.trimmed "A::m") =
        .ok [⟨"/a.py", .ofMethod ⟨"A", "m", 2, [], false, false⟩⟩] := by
  have hkey : recursion.keyOf "/a.py" = .ok "/a.py" := rfl
  have hread : recursion.read "/a.py" = .ok ⟨"class A:\n def m(self):\n  self.m()\n", false⟩ := rfl
  have hlanguage : languageOf "/a.py" = "python" := rfl
  have houtline : (findingsIn "python" "class A:\n def m(self):\n  self.m()\n".toList).outline =
      { classes := [⟨"A", 1, ["m"], [], [], []⟩], methods := [⟨"A", "m", 2, [], false, false⟩],
        declared := [(1, "A"), (2, "m")] } := by
    decide +kernel
  have hentries : (summaryAt "/a.py" "class A:\n def m(self):\n  self.m()\n").entries =
      [⟨"/a.py", .ofClass ⟨"A", 1, ["m"], [], [], []⟩⟩, ⟨"/a.py", .ofMethod ⟨"A", "m", 2, [], false, false⟩⟩] := by
    rw [summaryAt, summarize, hlanguage]
    simp only [FileSummary.entries, Extract.Findings.summary, houtline]
    rfl
  rw [symbols_analyze hkey hread]
  simp only [SymbolTable.registerFile, hentries, path_summaryAt]
  exact ⟨rfl, rfl⟩

/-- The first step of a trace of the method shows the calls that the query for it gives. -/
theorem recursion_trace_agrees :
    Reached [recursion.sources] ((analyze "/a.py").run recursion).2 ∧
      ∃ t, ((analyze "/a.py").run recursion).2.trace "A::m" (some 2) false = .ok t ∧
        ∃ s ∈ t.steps, s.symbol = "A::m" ∧ s.depth = 2 ∧ s.isBack = false ∧
          ∃ calls, ((analyze "/a.py").run recursion).2.callsFrom (some "A") "m" = .ok calls ∧ s.Shows calls := by
  have hreached := (Reached.fresh recursion rfl).analyze "/a.py"
  have hentry : Text.trimmed "A::m" ≠ "" := by decide
  have hdepth : 0 ≤ (some (2 : Int)).getD ((analyze "/a.py").run recursion).2.settings.traceDepth := by
    rw [Option.getD_some]
    omega
  obtain ⟨hkey, hr⟩ := recursion_symbols
  obtain ⟨t, ht, hagrees, -⟩ := traces_agree_with_queries hreached false hentry hdepth
  have hwalk := Trace.walk_of_trace hr (by simp) hdepth ht
  obtain ⟨inner, x, -, -, hsteps⟩ := Trace.explored_of_walk hr (by simp) hwalk
  have hroot : ({ symbol := "A::m", depth := 2, calls := x.calls } : Step) ∈ t.steps := by
    rw [hsteps]
    exact List.mem_cons_self
  have hexpanded : (2 : Int) ≠ 0 := by decide
  refine ⟨hreached, t, ht, _, hroot, rfl, rfl, rfl, ?_⟩
  exact (hagrees _ hroot rfl).of_method hexpanded hkey "A" "m" rfl (by decide) (by decide)

end Workspace

end CallIndex
