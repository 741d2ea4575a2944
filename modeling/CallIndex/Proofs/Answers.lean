import CallIndex.Proofs.Lockstep
import CallIndex.Proofs.TraceShape
import CallIndex.Query
import Mathlib.Data.List.Permutation

/-!
# Answers and histories

Two indexes that keep the same summaries under the same paths may have come to them by different histories.  What is
read under one path is then the same, and what is listed from all files is the same up to order (`Index.SameAnswers`).
The order of the entries is that of the latest storing of their files.  A trace and a signature check look at the first
of several entries, so they agree when the entries that they look at are listed in the same order.

* `Index.stores_in_lockstep`: the registries of every index that is reached are in lockstep, and two such indexes with
  the same files give the same answers.
* `Index.order_shows_in_answers`: storing a file again can change the answers that depend on the order, and a file with
  imports that cannot be resolved leaves the registries apart.
-/

namespace CallIndex

open Call (CallSite)

/-! ### Tables with the same entries -/

namespace SymbolTable

namespace Holds

variable {t t' : SymbolTable} {L L' : List SymbolEntry}

private theorem get?_eq_of_perm (h : t.Holds L) (h' : t'.Holds L') (hp : L.Perm L') (key : String) :
    t.get? key = t'.get? key := by
  apply Option.ext
  intro e
  rw [SymbolTable.get?, SymbolTable.get?, Registry.get?_eq_some_iff, Registry.get?_eq_some_iff, h.pairs_eq, h'.pairs_eq,
    (hp.map _).mem_iff]

private theorem scan_perm (h : t.Holds L) (h' : t'.Holds L') (hp : L.Perm L') (query : String) :
    (scan L query).Perm (scan L' query) := by
  have hfind : (L.find? fun e => e.key = query) = L'.find? fun e => e.key = query := by
    rw [← h.get?_eq_find?, ← h'.get?_eq_find?]
    exact h.get?_eq_of_perm h' hp query
  unfold scan
  rw [hfind]
  split
  · exact .refl _
  · cases L'.find? fun e => e.key = query with
    | some e => exact .refl _
    | none =>
      rcases Text.cutAtLast? "::".toList query.toList with _ | ⟨className, _ | ⟨c, member⟩⟩
      · exact hp.filter _
      · exact hp.filter _
      · exact hp.filter _

private theorem find_perm (h : t.Holds L) (h' : t'.Holds L') (hp : L.Perm L') (query : String)
    (kind : Option SymbolKind) : SameUpToOrder (t.find query kind) (t'.find query kind) := by
  rw [h.find_eq, h'.find_eq]
  exact .ok ((h.scan_perm h' hp _).filter _)

private theorem contains_eq_of_perm (h : t.Holds L) (h' : t'.Holds L') (hp : L.Perm L') (key : String) :
    t.entries.contains key = t'.entries.contains key := by
  rw [Registry.contains_eq_isSome, Registry.contains_eq_isSome]
  exact congrArg _ (h.get?_eq_of_perm h' hp key)

/-- A bare name stands for functions in the one table when it does so in the other. -/
private theorem resolve_perm (h : t.Holds L) (h' : t'.Holds L') (hp : L.Perm L') (symbol : String) :
    SameUpToOrder (t.resolve symbol) (t'.resolve symbol) := by
  unfold SymbolTable.resolve
  rw [h.contains_eq_of_perm h' hp]
  split
  · exact h.find_perm h' hp symbol none
  · refine (h.find_perm h' hp symbol (some .functionKind)).bind fun l l' hl => ?_
    rw [hl.isEmpty_eq]
    split
    · exact h.find_perm h' hp symbol none
    · exact .ok hl

private theorem find_congr (h : t.Holds L) (h' : t'.Holds L) (query : String) (kind : Option SymbolKind) :
    t.find query kind = t'.find query kind := by
  rw [h.find_eq, h'.find_eq]

private theorem resolve_congr (h : t.Holds L) (h' : t'.Holds L) (symbol : String) :
    t.resolve symbol = t'.resolve symbol := by
  unfold SymbolTable.resolve
  rw [h.contains_eq_of_perm h' (.refl L), h.find_congr h', h.find_congr h']

end Holds

end SymbolTable

/-! ### Traces -/

namespace Trace

variable {ix ix' : Index} (externals : List String) (withArguments : Bool)

/-- A trace looks at an index through the entries that symbols stand for and the calls in their bodies. -/
private theorem trace_congr (hr : ∀ symbol, ix.symbols.resolve symbol = ix'.symbols.resolve symbol)
    (hb : ∀ e, ix.bodyCalls e = ix'.bodyCalls e) (entry : String) (maxDepth : Int) :
    trace ix externals entry maxDepth withArguments = trace ix' externals entry maxDepth withArguments := by
  have houtgoing : ∀ symbol, outgoing ix externals symbol = outgoing ix' externals symbol := by
    intro symbol
    have htargeted : targetedCalls ix externals = targetedCalls ix' externals := by
      funext e
      rw [targetedCalls, targetedCalls, hb]
    rw [outgoing, outgoing, hr, htargeted]
  have hfollow : ∀ depth expand, follow ix withArguments depth expand = follow ix' withArguments depth expand := by
    intro depth expand
    funext x call
    simp only [follow, hr]
  have hexpand : ∀ depth symbol seen,
      expand ix externals withArguments depth symbol seen = expand ix' externals withArguments depth symbol seen := by
    intro depth
    induction depth with
    | zero => intro symbol seen; rfl
    | succ depth ih =>
      intro symbol seen
      have hdeeper : expand ix externals withArguments depth = expand ix' externals withArguments depth :=
        funext fun symbol => funext fun seen => ih symbol seen
      rw [expand, expand, houtgoing, hfollow, hdeeper]
  unfold trace walk
  simp only [hr, hexpand]

end Trace

/-! ### Importers -/

private theorem leadsTo_error {target path : String} {e : Fault} (h : leadsTo target path = .error e) :
    e = .unnamedPath path := by
  unfold leadsTo at h
  split at h
  · cases h
  · dsimp only at h
    split at h
    · cases h
      rfl
    · cases h

/-- Whether a relation leads to a path can only fail because of the path. -/
private theorem anyLeadsTo_error {path : String} {relations : List Relation} {e : Fault}
    (h : anyLeadsTo path relations = .error e) : e = .unnamedPath path := by
  induction relations with
  | nil => cases h
  | cons r rest ih =>
    rw [anyLeadsTo] at h
    split at h
    · cases hr : leadsTo r.target path with
      | error e' =>
        rw [hr] at h
        cases h
        exact leadsTo_error hr
      | ok leads =>
        rw [hr] at h
        cases leads with
        | true => cases h
        | false => exact ih h
    · exact ih h

private theorem importers_perm {path : String} {l l' : List (String × List Relation)} (h : l.Perm l') :
    SameUpToOrder (importers path l) (importers path l') := by
  induction h with
  | nil => exact .refl _
  | cons p _ ih =>
    rw [importers, importers]
    cases anyLeadsTo path p.2 with
    | error e => exact .error e
    | ok found =>
      refine ih.bind fun others others' hothers => ?_
      cases found with
      | true => exact .ok (hothers.cons p.1)
      | false => exact .ok hothers
  | swap p q l =>
    simp only [importers]
    cases hp : anyLeadsTo path p.2 with
    | error e =>
      cases hq : anyLeadsTo path q.2 with
      | error e' =>
        rw [anyLeadsTo_error hp, anyLeadsTo_error hq]
        exact .error _
      | ok _ => exact .error e
    | ok found =>
      cases anyLeadsTo path q.2 with
      | error e => exact .error e
      | ok found' =>
        cases importers path l with
        | error e => exact .error e
        | ok others =>
          cases found <;> cases found'
          · exact .ok (.refl _)
          · exact .ok (.refl _)
          · exact .ok (.refl _)
          · exact .ok (.swap ..)
  | trans _ _ ih ih' => exact ih.trans ih'

namespace Index

variable {dir : List String} {ix ix' : Index}

/-! ### The same answers -/

/-- The answers of two indexes to the same questions. -/
structure SameAnswers (ix ix' : Index) : Prop where
  /-- What is asked of one path or key has the same answer. -/
  inFile_eq : ∀ path, ix.symbols.inFile path = ix'.symbols.inFile path
  entry_eq : ∀ key, ix.symbols.get? key = ix'.symbols.get? key
  callsOf_eq : ∀ path, ix.callsOf path = ix'.callsOf path
  relationsOf_eq : ∀ path, ix.relationsOf path = ix'.relationsOf path
  bodyCalls_eq : ∀ e, ix.bodyCalls e = ix'.bodyCalls e
  isStale_eq : ∀ path digest, ix.isStale path digest = ix'.isStale path digest
  totals_eq : { ix.totals with lastStamp := none } = { ix'.totals with lastStamp := none }
  lastStamp_isSome : ix.lastStamp?.isSome = ix'.lastStamp?.isSome
  /-- What is asked of all files has the same answers in some order. -/
  paths_perm : ix.files.keys.Perm ix'.files.keys
  entries_perm : ix.symbols.entries.values.Perm ix'.symbols.entries.values
  calls_perm : ix.calls.pairs.Perm ix'.calls.pairs
  find_perm : ∀ query kind, SameUpToOrder (ix.symbols.find query kind) (ix'.symbols.find query kind)
  resolve_perm : ∀ symbol, SameUpToOrder (ix.symbols.resolve symbol) (ix'.symbols.resolve symbol)
  callsFrom_perm : ∀ externals className method,
    SameUpToOrder (ix.callsFrom externals className method) (ix'.callsFrom externals className method)
  importersOf_perm : ∀ path, SameUpToOrder (ix.importersOf path) (ix'.importersOf path)
  /-- A signature check and a trace have the same answer when the entries they look at are in the same order. -/
  checkSignature_eq : ∀ externals path className method,
    ix.symbols.find (Text.trimmed className ++ "::" ++ Text.trimmed method) (some .methodKind) =
      ix'.symbols.find (Text.trimmed className ++ "::" ++ Text.trimmed method) (some .methodKind) →
    ix.checkSignature externals path className method = ix'.checkSignature externals path className method
  trace_eq : (∀ symbol, ix.symbols.resolve symbol = ix'.symbols.resolve symbol) →
    ∀ externals entry maxDepth withArguments,
      Trace.trace ix externals entry maxDepth withArguments = Trace.trace ix' externals entry maxDepth withArguments
  /-- So they do when all entries are. -/
  in_order : ix.symbols.entries.values = ix'.symbols.entries.values →
    (∀ query kind, ix.symbols.find query kind = ix'.symbols.find query kind) ∧
    ∀ symbol, ix.symbols.resolve symbol = ix'.symbols.resolve symbol

/-- There is a latest stamp when there is a file. -/
private theorem Synced.lastStamp_isSome (h : Synced dir ix) : ix.lastStamp?.isSome = !ix.files.keys.isEmpty := by
  rw [← h.stamps.keys_eq, lastStamp?, Registry.values, Registry.keys]
  cases ix.stamps.pairs with
  | nil => rfl
  | cons _ _ => rfl

section SameFiles

variable (h : Synced dir ix) (h' : Synced dir ix') (hfiles : ∀ path, ix.files.get? path = ix'.files.get? path)

include h h' hfiles

/-- The two tables hold the same entries. -/
private theorem Synced.exists_holds : ∃ L L', ix.symbols.Holds L ∧ ix'.symbols.Holds L' ∧ L.Perm L' := by
  obtain ⟨live, hlive, hreg⟩ := h.symbols
  obtain ⟨live', hlive', hreg'⟩ := h'.symbols
  have hvalues : ix.files.values.Perm ix'.files.values := (Registry.perm_of_get?_eq hfiles).map Prod.snd
  exact ⟨_, _, hreg.holds, hreg'.holds, ((hlive.trans hvalues).trans hlive'.symm).flatMap_right _⟩

private theorem Synced.inFile_eq (path : String) : ix.symbols.inFile path = ix'.symbols.inFile path := by
  cases hs : ix.files.get? path with
  | none => rw [h.inFile_of_none hs, h'.inFile_of_none (hfiles path ▸ hs)]
  | some s => rw [(h.inFile_of_get? hs).1, (h'.inFile_of_get? (hfiles path ▸ hs)).1]

private theorem Synced.calls_get?_eq (path : String) : ix.calls.get? path = ix'.calls.get? path :=
  h.calls.get?_eq h'.calls (fun _ _ _ hb hb' => hb.trans hb'.symm) hfiles path

private theorem Synced.relations_get?_eq (path : String) : ix.relations.get? path = ix'.relations.get? path :=
  h.relations.get?_eq h'.relations (fun _ _ _ hb hb' => Except.ok.inj (hb.symm.trans hb')) hfiles path

private theorem Synced.bodyCalls_eq (e : SymbolEntry) : ix.bodyCalls e = ix'.bodyCalls e := by
  rw [bodyCalls, bodyCalls, hfiles, callsOf, callsOf, h.calls_get?_eq h' hfiles]

private theorem Synced.callsFrom_perm (externals : List String) (className : Option String) (method : String) :
    SameUpToOrder (ix.callsFrom externals className method) (ix'.callsFrom externals className method) := by
  obtain ⟨L, L', hL, hL', hp⟩ := h.exists_holds h' hfiles
  have hcalls : ix.normalisedCalls externals = ix'.normalisedCalls externals := by
    funext e
    rw [normalisedCalls, normalisedCalls, h.bodyCalls_eq h' hfiles]
  have hfind : ∀ query kind, SameUpToOrder ((ix.symbols.find query kind).mapError Fault.dangling)
      ((ix'.symbols.find query kind).mapError Fault.dangling) :=
    fun query kind => (hL.find_perm hL' hp query kind).mapError _
  have hflat : ∀ l l' : List SymbolEntry, l.Perm l' →
      SameUpToOrder (pure (l.flatMap (ix'.normalisedCalls externals)) : Except Fault (List CallSite))
        (pure (l'.flatMap (ix'.normalisedCalls externals))) :=
    fun _ _ hl => .ok (hl.flatMap_right _)
  -- without a class a function is looked for, and then a method
  have hfree : ∀ method, SameUpToOrder
      (callsFrom.free (fun query kind => (ix.symbols.find query (some kind)).mapError Fault.dangling) method)
      (callsFrom.free (fun query kind => (ix'.symbols.find query (some kind)).mapError Fault.dangling) method) := by
    intro method
    unfold callsFrom.free
    refine (hfind method (some .functionKind)).bind fun l l' hl => ?_
    rw [hl.isEmpty_eq]
    split
    · exact hfind method (some .methodKind)
    · exact .ok hl
  unfold callsFrom
  dsimp only
  rw [hcalls]
  split
  · exact .error Fault.emptyMethodName
  · cases className with
    | none => exact (hfree _).bind hflat
    | some c =>
      dsimp only
      split
      · exact (hfree _).bind hflat
      · exact (hfind _ (some .methodKind)).bind hflat

private theorem Synced.checkSignature_eq (externals : List String) (path className method : String)
    (hfind : ix.symbols.find (Text.trimmed className ++ "::" ++ Text.trimmed method) (some .methodKind) =
      ix'.symbols.find (Text.trimmed className ++ "::" ++ Text.trimmed method) (some .methodKind)) :
    ix.checkSignature externals path className method = ix'.checkSignature externals path className method := by
  have hcontains : ix.files.contains path = ix'.files.contains path := by
    rw [Registry.contains_eq_isSome, Registry.contains_eq_isSome, hfiles]
  unfold checkSignature
  dsimp only
  rw [hcontains, hfind, h.inFile_eq h' hfiles, callsOf, callsOf, h.calls_get?_eq h' hfiles]

theorem Synced.sameAnswers : SameAnswers ix ix' := by
  obtain ⟨L, L', hL, hL', hp⟩ := h.exists_holds h' hfiles
  have hcalls := Registry.perm_of_get?_eq (h.calls_get?_eq h' hfiles)
  have hrelations := Registry.perm_of_get?_eq (h.relations_get?_eq h' hfiles)
  have hpairs := Registry.perm_of_get?_eq hfiles
  have hkeys : ix.files.keys.Perm ix'.files.keys := hpairs.map Prod.fst
  have hfileCount : ix.files.size = ix'.files.size := hpairs.length_eq
  have hsymbolCount : ix.symbols.entries.size = ix'.symbols.entries.size := by
    rw [Registry.size, Registry.size, hL.pairs_eq, hL'.pairs_eq]
    exact (hp.map _).length_eq
  have hcallCount : ix.calls.values.flatten.length = ix'.calls.values.flatten.length :=
    (hcalls.map Prod.snd).flatten.length_eq
  have hrelationCount : ix.relations.values.flatten.length = ix'.relations.values.flatten.length :=
    (hrelations.map Prod.snd).flatten.length_eq
  exact {
    inFile_eq := h.inFile_eq h' hfiles
    entry_eq := hL.get?_eq_of_perm hL' hp
    callsOf_eq := fun path => by rw [callsOf, callsOf, h.calls_get?_eq h' hfiles]
    relationsOf_eq := fun path => by rw [relationsOf, relationsOf, h.relations_get?_eq h' hfiles]
    bodyCalls_eq := h.bodyCalls_eq h' hfiles
    isStale_eq := fun path digest => by rw [isStale, isStale, hfiles]
    totals_eq := by simp only [totals, hfileCount, hsymbolCount, hcallCount, hrelationCount]
    lastStamp_isSome := by rw [h.lastStamp_isSome, h'.lastStamp_isSome, hkeys.isEmpty_eq]
    paths_perm := hkeys
    entries_perm := by rw [hL.values_eq, hL'.values_eq]; exact hp
    calls_perm := hcalls
    find_perm := hL.find_perm hL' hp
    resolve_perm := hL.resolve_perm hL' hp
    callsFrom_perm := h.callsFrom_perm h' hfiles
    importersOf_perm := fun path => importers_perm hrelations
    checkSignature_eq := h.checkSignature_eq h' hfiles
    trace_eq := fun hr externals entry maxDepth withArguments =>
      Trace.trace_congr externals withArguments hr (h.bodyCalls_eq h' hfiles) entry maxDepth
    in_order := fun hvalues => by
      rw [hL.values_eq, hL'.values_eq] at hvalues
      subst hvalues
      exact ⟨hL.find_congr hL', hL.resolve_congr hL'⟩ }

end SameFiles

/-- The registries of an index that is reached are in lockstep.  So the files that it keeps determine its answers, up to
the order of what it lists. -/
theorem stores_in_lockstep (h : Reached dir ix) :
    Lockstep dir ix ∧
    ∀ ix', Reached dir ix' → (∀ path, ix.files.get? path = ix'.files.get? path) → SameAnswers ix ix' :=
  ⟨h.synced.lockstep, fun _ h' hfiles => h.synced.sameAnswers h'.synced hfiles⟩

/-! ### Samples -/

/-- Two files with a method of one name, whose calls lead to `y` by two chains of different lengths. -/
def leftFile : FileSummary :=
  { path := "/a.py", functions := [⟨"x", 4, [], false⟩], methods := [⟨"A", "run", 1, [], false, false⟩]
    calls := [⟨"/a.py", "x", 2, none, none⟩, ⟨"/a.py", "y", 5, none, none⟩] }

def rightFile : FileSummary :=
  { path := "/b.py", functions := [⟨"y", 4, [], false⟩], methods := [⟨"A", "run", 1, ["p"], false, false⟩]
    calls := [⟨"/b.py", "y", 2, none, none⟩, ⟨"/b.py", "z", 5, none, none⟩] }

def forkIndex : Index :=
  (Index.put [] (Index.put [] {} leftFile.path leftFile).1 rightFile.path rightFile).1

/-- The same files after the first one has been stored again. -/
def restoredIndex : Index :=
  (Index.put [] forkIndex leftFile.path leftFile).1

private theorem fork_reached : Reached [] forkIndex ∧ Reached [] restoredIndex := by
  have hleft : Reached [] (Index.put [] {} leftFile.path leftFile).1 :=
    Reached.fresh.put leftFile.path leftFile ⟨[], rfl⟩ (by decide +kernel)
  have hfork : Reached [] forkIndex := hleft.put rightFile.path rightFile ⟨[], rfl⟩ (by decide +kernel)
  exact ⟨hfork, hfork.put leftFile.path leftFile ⟨[], rfl⟩ (by decide +kernel)⟩

theorem restored_fork_answers :
    Reached [] forkIndex ∧ Reached [] restoredIndex ∧ Lockstep [] forkIndex ∧
    (∀ path, forkIndex.files.get? path = restoredIndex.files.get? path) ∧ SameAnswers forkIndex restoredIndex := by
  have hfiles : ∀ path, forkIndex.files.get? path = restoredIndex.files.get? path := fun _ => rfl
  obtain ⟨hlockstep, hanswers⟩ := stores_in_lockstep fork_reached.1
  exact ⟨fork_reached.1, fork_reached.2, hlockstep, hfiles, hanswers _ fork_reached.2 hfiles⟩

private def leftRun : SymbolEntry :=
  ⟨"/a.py", .ofMethod ⟨"A", "run", 1, [], false, false⟩⟩

private def leftX : SymbolEntry :=
  ⟨"/a.py", .ofFunction ⟨"x", 4, [], false⟩⟩

private def rightRun : SymbolEntry :=
  ⟨"/b.py", .ofMethod ⟨"A", "run", 1, ["p"], false, false⟩⟩

private def rightY : SymbolEntry :=
  ⟨"/b.py", .ofFunction ⟨"y", 4, [], false⟩⟩

private theorem fork_targets {ix : Index} (ha : ix.files.get? "/a.py" = some leftFile)
    (hac : ix.callsOf "/a.py" = leftFile.calls) (hb : ix.files.get? "/b.py" = some rightFile)
    (hbc : ix.callsOf "/b.py" = rightFile.calls) :
    Trace.targetedCalls ix [] leftRun = [("x", ⟨"/a.py", "x", 2, none, none⟩)] ∧
    Trace.targetedCalls ix [] leftX = [("y", ⟨"/a.py", "y", 5, none, none⟩)] ∧
    Trace.targetedCalls ix [] rightRun = [("y", ⟨"/b.py", "y", 2, none, none⟩)] ∧
    Trace.targetedCalls ix [] rightY = [("z", ⟨"/b.py", "z", 5, none, none⟩)] := by
  have hal : leftFile.declarationLines = [1, 4] := by cbv
  have hbl : rightFile.declarationLines = [1, 4] := by cbv
  have hat : ∀ c ∈ leftFile.calls, ∀ owner, Call.target? [] c.raw owner = some c.callee := by
    simp only [leftFile, List.forall_mem_cons]
    refine ⟨fun _ => ?_, fun _ => ?_, by simp⟩ <;> cbv
  have hbt : ∀ c ∈ rightFile.calls, ∀ owner, Call.target? [] c.raw owner = some c.callee := by
    simp only [rightFile, List.forall_mem_cons]
    refine ⟨fun _ => ?_, fun _ => ?_, by simp⟩ <;> cbv
  exact ⟨Trace.targetedCalls_of_named ha hac hal fun c hc => hat c hc _,
    Trace.targetedCalls_of_named ha hac hal fun c hc => hat c hc _,
    Trace.targetedCalls_of_named hb hbc hbl fun c hc => hbt c hc _,
    Trace.targetedCalls_of_named hb hbc hbl fun c hc => hbt c hc _⟩

/-- Where the calls of the first file come first, `y` is met by the longer chain and its calls are not followed. -/
private theorem fork_symbols :
    (Trace.trace forkIndex [] "A::run" 2 false).map (·.symbols) = .ok ["A::run", "x", "y"] ∧
    (Trace.trace restoredIndex [] "A::run" 2 false).map (·.symbols) = .ok ["A::run", "y", "z", "x"] := by
  have hentry : Text.trimmed "A::run" = "A::run" := rfl
  have hnames : leftRun.qualifiedName = "A::run" ∧ rightRun.qualifiedName = "A::run" := ⟨rfl, rfl⟩
  constructor
  · have hr : forkIndex.symbols.resolve "A::run" = .ok [leftRun, rightRun] := rfl
    have hx : forkIndex.symbols.resolve "x" = .ok [leftX] := rfl
    have hy : forkIndex.symbols.resolve "y" = .ok [rightY] := rfl
    have ht := fork_targets (show forkIndex.files.get? "/a.py" = some leftFile from rfl) rfl rfl rfl
    simp [Trace.trace, hentry, Trace.walk, Trace.expand, Trace.follow, Trace.outgoing, hr, hx, hy, ht, hnames, bind,
      Except.bind, pure, Except.pure, Except.map, Except.mapError, Trace.ExecutionTrace.symbols]
  · have hr : restoredIndex.symbols.resolve "A::run" = .ok [rightRun, leftRun] := rfl
    have hx : restoredIndex.symbols.resolve "x" = .ok [leftX] := rfl
    have hy : restoredIndex.symbols.resolve "y" = .ok [rightY] := rfl
    have hz : restoredIndex.symbols.resolve "z" = .ok [] := rfl
    have ht := fork_targets (show restoredIndex.files.get? "/a.py" = some leftFile from rfl) rfl rfl rfl
    simp [Trace.trace, hentry, Trace.walk, Trace.expand, Trace.follow, Trace.outgoing, hr, hx, hy, hz, ht, hnames, bind,
      Except.bind, pure, Except.pure, Except.map, Except.mapError, Trace.ExecutionTrace.symbols]

private theorem fork_expected :
    (forkIndex.checkSignature [] "/a.py" "A" "run").map (·.expected) = .ok (some ⟨"A", "run", 1, [], false, false⟩) ∧
    (restoredIndex.checkSignature [] "/a.py" "A" "run").map (·.expected) =
      .ok (some ⟨"A", "run", 1, ["p"], false, false⟩) :=
  ⟨rfl, rfl⟩

/-- An import with a zero character cannot be resolved. -/
def zeroFile : FileSummary :=
  { path := "/a/x.py", functions := [⟨"f", 1, [], false⟩], imports := ["./\x00"]
    calls := [⟨"/a/x.py", "g", 2, none, none⟩] }

/-- Two indexes that keep the same files can differ in the symbols of a trace and in the definition that a signature
check takes.  A file that is not stored because of its imports leaves its symbols and calls behind. -/
theorem order_shows_in_answers :
    (Reached [] forkIndex ∧ Reached [] restoredIndex ∧
      (∀ path, forkIndex.files.get? path = restoredIndex.files.get? path) ∧
      (∃ t t', Trace.trace forkIndex [] "A::run" 2 false = .ok t ∧
        Trace.trace restoredIndex [] "A::run" 2 false = .ok t' ∧ "z" ∉ t.symbols ∧ "z" ∈ t'.symbols) ∧
      ∃ c c', forkIndex.checkSignature [] "/a.py" "A" "run" = .ok c ∧
        restoredIndex.checkSignature [] "/a.py" "A" "run" = .ok c' ∧ c.expected ≠ c'.expected) ∧
    ∃ ix, Index.put [] {} zeroFile.path zeroFile = (ix, .error .zeroInPath) ∧ ix.files.contains zeroFile.path = false ∧
      ix.calls.contains zeroFile.path = true ∧
      ix.symbols.inFile zeroFile.path = .ok [⟨"/a/x.py", .ofFunction ⟨"f", 1, [], false⟩⟩] := by
  obtain ⟨t, ht, hsymbols⟩ := map_eq_ok fork_symbols.1
  obtain ⟨t', ht', hsymbols'⟩ := map_eq_ok fork_symbols.2
  obtain ⟨c, hc, hexpected⟩ := map_eq_ok fork_expected.1
  obtain ⟨c', hc', hexpected'⟩ := map_eq_ok fork_expected.2
  refine ⟨⟨fork_reached.1, fork_reached.2, fun _ => rfl, ⟨t, t', ht, ht', ?_, ?_⟩, c, c', hc, hc', ?_⟩,
    (Index.put [] {} zeroFile.path zeroFile).1, rfl, rfl, rfl, rfl⟩
  · rw [hsymbols]
    decide
  · rw [hsymbols']
    decide
  · rw [hexpected, hexpected']
    decide

end Index

end CallIndex
