import CallIndex.Proofs.IndexRuns

/-!
# Storing a summary under another path

In the summary of a text the path of its file occurs in two places only, as the path of the summary and as the caller of
its calls.  So a summary that is stored under another path reads like the summary of the same text at that path, and
with it all that the index derives from a summary: the entries and their keys, the callers, and the relations, whose
relative module names are resolved against the new path.

* `relocate_summarize`: a summary is moved to a path by summarising the text there.
* `Index.keeps_put`: what the index has for a file that was stored.
* `Index.put_elsewhere_eq_put`: the index does not tell a summary that was moved from one that was made in its place.
-/

namespace CallIndex

open Call (CallSite)

/-! ### Summaries of one text at different paths -/

private theorem Extract.Findings.relocate_summary (f : Extract.Findings) (path key language digest : String) :
    (f.summary path language digest).relocate key = f.summary key language digest := by
  by_cases h : path = key
  · subst h
    exact FileSummary.relocate_self rfl
  · have hcalls : (f.calls.map (CallSite.ofOccurrence path)).map
        (fun c => if c.caller = path then { c with caller := key } else c) = f.calls.map (CallSite.ofOccurrence key) := by
      rw [List.map_map]
      exact List.map_congr_left fun o _ => if_pos rfl
    have hne : (f.summary path language digest).path ≠ key := h
    rw [FileSummary.relocate, if_neg hne]
    exact congrArg (fun calls => { f.summary key language digest with calls := calls }) hcalls

theorem relocate_summarize (language path key content : String) :
    (summarize language path content).1.relocate key = (summarize language key content).1 :=
  Extract.Findings.relocate_summary _ path key language _

private theorem caller_of_mem_summarize {language path content : String} {c : CallSite}
    (h : c ∈ (summarize language path content).1.calls) : c.caller = path := by
  obtain ⟨o, -, rfl⟩ := List.mem_map.1 h
  rfl

/-! ### Entries that were registered -/

namespace SymbolTable

private theorem entries_enter (t : SymbolTable) (keys : List String) (e : SymbolEntry) :
    (t.enter keys e).1.entries = t.entries.set e.key e := by
  unfold enter
  split <;> rfl

private theorem enterAll_append (t : SymbolTable) (keys : List String) (es es' : List SymbolEntry) :
    t.enterAll keys (es ++ es') = (t.enterAll keys es).1.enterAll (t.enterAll keys es).2 es' := by
  induction es generalizing t keys with
  | nil => rfl
  | cons e es ih => exact ih _ _

private theorem get?_enterAll_of_notMem {t : SymbolTable} {es : List SymbolEntry} {key : String}
    (h : key ∉ es.map SymbolEntry.key) (keys : List String) : (t.enterAll keys es).1.get? key = t.get? key := by
  induction es generalizing t keys with
  | nil => rfl
  | cons e es ih =>
    obtain ⟨hne, hrest⟩ := List.ne_and_not_mem_of_not_mem_cons h
    rw [enterAll]
    rw [ih hrest, get?, entries_enter, Registry.get?_set_of_ne _ hne, get?]

/-- Of the entries with one key, the last one that is entered stays. -/
private theorem get?_enterAll_of_mem_settle {t : SymbolTable} {es : List SymbolEntry} {e : SymbolEntry}
    (h : e ∈ settle es) (keys : List String) : (t.enterAll keys es).1.get? e.key = some e := by
  rw [mem_settle, List.findRev?_eq_find?_reverse, List.find?_eq_some_iff_append] at h
  obtain ⟨-, later, earlier, hsplit, hlater⟩ := h
  obtain rfl : es = earlier.reverse ++ e :: later.reverse := by
    rw [← List.reverse_reverse es, hsplit]
    simp
  have hnew : e.key ∉ later.reverse.map SymbolEntry.key := by
    intro hmem
    obtain ⟨x, hx, hk⟩ := List.mem_map.1 hmem
    simpa [hk] using hlater x (List.mem_reverse.1 hx)
  rw [enterAll_append, enterAll, get?_enterAll_of_notMem hnew, get?, entries_enter, Registry.get?_set_self]

private theorem get?_registerFile {t t' : SymbolTable} {s : FileSummary} {n : Nat} (h : t.registerFile s = (t', .ok n))
    {e : SymbolEntry} (he : e ∈ s.settled) : t'.get? e.key = some e := by
  unfold registerFile at h
  rcases hremove : t.removeFile s.path with ⟨t₁, outcome⟩
  rw [hremove] at h
  cases outcome with
  | error e => cases h
  | ok _ =>
    cases h
    exact get?_enterAll_of_mem_settle he []

end SymbolTable

namespace Index

variable {dir : List String} {ix ix' : Index}

/-- What the index has for the path of a summary is what the summary says. -/
structure Keeps (dir : List String) (ix : Index) (s : FileSummary) : Prop where
  files_eq : ix.files.get? s.path = some s
  calls_eq : ix.calls.get? s.path = some s.calls
  relations_eq : ∃ relations, fileRelations dir s = .ok relations ∧ ix.relations.get? s.path = some relations
  symbols_eq : ∀ e ∈ s.settled, e.path = s.path ∧ ix.symbols.get? e.key = some e

private theorem put_relocate (dir : List String) (ix : Index) (path : String) (s : FileSummary) :
    ix.put dir path (s.relocate path) = ix.put dir path s := by
  rw [put, FileSummary.relocate_self (s.path_relocate path), put]

theorem keeps_put {path : String} {s : FileSummary} (h : ix.put dir path s = (ix', .ok ())) :
    Keeps dir ix' (s.relocate path) := by
  have hpath := s.path_relocate path
  unfold put at h
  generalize s.relocate path = s' at h hpath ⊢
  subst hpath
  rcases hregister : ix.symbols.registerFile s' with ⟨symbols, outcome⟩
  simp only [hregister] at h
  cases outcome with
  | error e => cases h
  | ok n =>
    cases hrelations : fileRelations dir s' with
    | error fault =>
      rw [hrelations] at h
      cases h
    | ok relations =>
      rw [hrelations] at h
      cases h
      exact ⟨Registry.get?_set_self .., Registry.get?_set_self .., ⟨relations, hrelations, Registry.get?_set_self ..⟩,
        fun e he => ⟨FileSummary.path_of_mem_settled he, SymbolTable.get?_registerFile hregister he⟩⟩

/-- Whatever the index holds, a summary that was made at one path and is stored under another leaves the index as the
summary that is made at the other path does, and the index keeps the latter. -/
theorem put_elsewhere_eq_put (dir : List String) (ix : Index) (language path key content : String) :
    ix.put dir key (summarize language path content).1 =
        ix.put dir (summarize language key content).1.path (summarize language key content).1 ∧
      ((summarize language key content).1.path = key ∧ ∀ c ∈ (summarize language key content).1.calls, c.caller = key) ∧
      (∀ ix', ix.put dir key (summarize language path content).1 = (ix', .ok ()) →
        ix'.Keeps dir (summarize language key content).1) ∧
      ∀ order, Grown dir order ix → (ix.put dir key (summarize language path content).1).2 =
        (fileRelations dir (summarize language key content).1).map fun _ => () := by
  have hmoved := relocate_summarize language path key content
  refine ⟨?_, ⟨rfl, fun c hc => caller_of_mem_summarize hc⟩, fun ix' hput => hmoved ▸ keeps_put hput,
    fun order hgrown => ?_⟩
  · calc ix.put dir key (summarize language path content).1
      _ = ix.put dir key ((summarize language path content).1.relocate key) := (put_relocate ..).symm
      _ = ix.put dir key (summarize language key content).1 := by rw [hmoved]
  · obtain ⟨ix', -, ⟨relations, hrel, hput, -⟩ | ⟨fault, hrel, hput, -⟩⟩ :=
      put_cases hgrown.lists dir key (summarize language path content).1
    · rw [hput, ← hmoved, hrel]
      rfl
    · rw [hput, ← hmoved, hrel]
      rfl

/-- A text that names a module in the directory of its file. -/
def neighbourUser : String :=
  "import './b';\ng(1);\n"

private theorem findings_neighbourUser :
    (findingsIn "javascript" neighbourUser.toList).outline.imports = ["./b"] ∧
      (findingsIn "javascript" neighbourUser.toList).outline.classes = [] ∧
      (findingsIn "javascript" neighbourUser.toList).calls = [⟨"g", 2, "1"⟩] := by
  decide +kernel

/-- A file that is to be replaced. -/
def formerFile : FileSummary :=
  { functions := [⟨"f", 1, [], false⟩] }

/-- The module is looked for beside the new path, where another file was stored before. -/
theorem neighbourUser_moved :
    Grown [] ["/q/k.js"] (put [] {} "/q/k.js" formerFile).1 ∧
      ∃ ix', (put [] {} "/q/k.js" formerFile).1.put [] "/q/k.js" (summarize "javascript" "/p/a.js" neighbourUser).1 =
          (ix', .ok ()) ∧
        ix'.relations.get? "/q/k.js" = some [⟨"/q/k.js", "/q/b", .importing⟩] ∧
        ix'.calls.get? "/q/k.js" = some [⟨"/q/k.js", "g", 2, some "1", none⟩] := by
  obtain ⟨himports, hclasses, hcalls⟩ := findings_neighbourUser
  have hgrown : Grown [] ["/q/k.js"] (put [] {} "/q/k.js" formerFile).1 := .put .empty _ formerFile rfl
  generalize (put [] {} "/q/k.js" formerFile).1 = ix at hgrown ⊢
  obtain ⟨-, -, hkeeps, houtcome⟩ := put_elsewhere_eq_put [] ix "javascript" "/p/a.js" "/q/k.js" neighbourUser
  have hrelations : fileRelations [] (summarize "javascript" "/q/k.js" neighbourUser).1 =
      .ok [⟨"/q/k.js", "/q/b", .importing⟩] := by
    simp only [fileRelations, summarize, Extract.Findings.summary, himports, hclasses]
    rfl
  have hok : (ix.put [] "/q/k.js" (summarize "javascript" "/p/a.js" neighbourUser).1).2 = .ok () := by
    rw [houtcome _ hgrown, hrelations]
    rfl
  have hput : ix.put [] "/q/k.js" (summarize "javascript" "/p/a.js" neighbourUser).1 =
      ((ix.put [] "/q/k.js" (summarize "javascript" "/p/a.js" neighbourUser).1).1, .ok ()) :=
    Prod.ext rfl hok
  obtain ⟨-, hcallsOf, ⟨relations, hrel, hrelationsOf⟩, -⟩ := hkeeps _ hput
  cases hrelations.symm.trans hrel
  have hmade : (summarize "javascript" "/q/k.js" neighbourUser).1.calls = [⟨"/q/k.js", "g", 2, some "1", none⟩] := by
    rw [summarize, Extract.Findings.summary, hcalls]
    rfl
  exact ⟨hgrown, _, hput, hrelationsOf, hcallsOf.trans (congrArg some hmade)⟩

end Index

end CallIndex
