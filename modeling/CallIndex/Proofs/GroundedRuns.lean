import CallIndex.Proofs.DirectoryRuns

/-!
# What the stored summaries come from

In a run in which the imports of all texts can be resolved, storing a summary never fails half-way.  So the registries
stay in lockstep, and every stored summary is that of a text that could be read under its path at some time
(`Workspace.Grounded`).

* `Workspace.Run` is a run whose steps are moves; runs of actions are such runs.
* `Workspace.Reached.callsKnown`: in every run the calls of a path are those of a text that could be read under it.
* `Workspace.Run.grounded`: every run with resolvable imports keeps the index grounded.
* `Workspace.Grounded.indexFiles_ok`: indexing the files of a directory goes through when all patterns are texts.
* `Workspace.Grounded.index_of_indexFiles_error`: it fails only before anything is stored.
-/

namespace CallIndex

theorem imports_summaryAt (path content : String) :
    (summaryAt path content).imports = (findingsIn (languageOf path) content.toList).outline.imports := by
  simp only [summaryAt, summarize, Extract.Findings.summary]

theorem fileRelations_of_no_imports {dir : List String} {s : FileSummary} (h : s.imports = []) :
    fileRelations dir s = .ok (s.classes.flatMap (classRelations s.path)) := by
  rw [fileRelations, h]
  rfl

/-- What is read from texts is one of them. -/
private theorem Sources.mem_of_read_texts {files : List (String × String)} {limit : Nat} {key : String}
    {text : SourceText} (h : (Sources.texts files).read limit key = .ok text) : (key, text.content) ∈ files := by
  simp only [read] at h
  split at h
  · rename_i content hlookup
    cases h
    obtain ⟨before, behind, hfiles, -⟩ := List.lookup_eq_some_iff.1 hlookup
    simp [hfiles]
  · cases h

namespace Workspace

variable {history : List Sources} {ws ws' : Workspace} {key : String} {text : SourceText}

/-! ### Runs of moves -/

/-- A workspace that is reached from one with an empty index by moves and by edits of the sources, and the versions of
the sources on the way, the present one first. -/
inductive Run : List Sources → Workspace → Prop
  | fresh (ws : Workspace) (h : ws.index = {}) : Run [ws.sources] ws
  | edit {history : List Sources} {ws : Workspace} (h : Run history ws) (sources : Sources) :
      Run (sources :: history) { ws with sources := sources }
  | moves {history : List Sources} {ws ws' : Workspace} (h : Run history ws) (hmoves : Moves ws ws') : Run history ws'

theorem Reached.run (h : Reached history ws) : Run history ws := by
  apply h.induct (P := Run)
  · exact Run.fresh
  · exact fun _ _ sources hws => hws.edit sources
  · exact fun _ _ _ hws hmoves => hws.moves hmoves

/-! ### Texts of a run -/

/-- In some version of the sources, the text could be read by the absolute key. -/
def Readable (ws : Workspace) (history : List Sources) (key content : String) : Prop :=
  key.toList.head? = some '/' ∧
    ∃ src ∈ history, ∃ text, src.read ws.settings.maxFileSize key = .ok text ∧ text.content = content

/-- The relations of every text can be told: no relative import leads to a path that cannot be. -/
def ImportsResolve (ws : Workspace) (history : List Sources) : Prop :=
  ∀ key content, ws.Readable history key content →
    ∃ relations, fileRelations ws.dir (summaryAt key content) = .ok relations

private theorem Readable.mono {older : List Sources} (hsub : older ⊆ history) {content : String}
    (h : ws.Readable older key content) : ws.Readable history key content := by
  obtain ⟨habsolute, src, hsrc, hread⟩ := h
  exact ⟨habsolute, src, hsub hsrc, hread⟩

/-- What the texts are depends on the settings alone, and these stay. -/
theorem Moves.readable_eq (h : Moves ws ws') : ws'.Readable history = ws.Readable history := by
  obtain ⟨-, hsettings, -⟩ := h.surroundings
  funext key content
  rw [Readable, Readable, hsettings]

private theorem Moves.importsResolve_iff (h : Moves ws ws') :
    ws'.ImportsResolve history ↔ ws.ImportsResolve history := by
  rw [ImportsResolve, ImportsResolve, h.readable_eq, h.surroundings.2.2]

/-! ### Calls of a run -/

end Workspace

namespace Index

/-- Storing a summary sets the calls of its path before the file, and may stop before either. -/
theorem calls_files_put (dir : List String) (ix : Index) (path : String) (s : FileSummary) :
    ((ix.put dir path s).1.calls = ix.calls ∧ (ix.put dir path s).1.files = ix.files) ∨
    (ix.put dir path s).1.calls = ix.calls.set path (s.relocate path).calls ∧
      ((ix.put dir path s).1.files = ix.files ∨ (ix.put dir path s).1.files = ix.files.set path (s.relocate path)) := by
  unfold put
  dsimp only
  split
  · exact .inl ⟨rfl, rfl⟩
  · split
    · exact .inr ⟨rfl, .inl rfl⟩
    · exact .inr ⟨rfl, .inr rfl⟩

private theorem calls_files_delete (ix : Index) (path : String) :
    ((ix.delete path).1.calls = ix.calls ∧ (ix.delete path).1.files = ix.files) ∨
    (ix.delete path).1.calls = ix.calls.erase path ∧ (ix.delete path).1.files = ix.files.erase path := by
  unfold delete
  split
  · exact .inl ⟨rfl, rfl⟩
  · exact .inr ⟨rfl, rfl⟩

end Index

namespace Workspace

/-- The calls of a path are those of a text that could be read under it, and every file has its calls. -/
structure CallsKnown (history : List Sources) (ws : Workspace) : Prop where
  present : ws.sources ∈ history
  known : ∀ path calls, ws.index.calls.get? path = some calls →
    ∃ content, ws.Readable history path content ∧ calls = (summaryAt path content).calls
  covered : ∀ path s, ws.index.files.get? path = some s → ∃ calls, ws.index.calls.get? path = some calls

namespace CallsKnown

private theorem of_empty (hpresent : ws.sources ∈ history) (hcalls : ws.index.calls = .empty)
    (hfiles : ws.index.files = .empty) : CallsKnown history ws := by
  refine ⟨hpresent, ?_, ?_⟩
  · intro path calls hget
    rw [hcalls] at hget
    cases hget
  · intro path s hget
    rw [hfiles] at hget
    cases hget

private theorem stored (h : CallsKnown history ws) (habsolute : key.toList.head? = some '/')
    (hread : ws.read key = .ok text) : CallsKnown history (ws.stored key text) := by
  have hput := Index.calls_files_put ws.dir ws.index key (summaryAt key text.content)
  rw [FileSummary.relocate_self (path_summaryAt key text.content)] at hput
  refine ⟨h.present, ?_, ?_⟩
  · intro path calls hcalls
    rw [index_stored, stores] at hcalls
    rcases hput with ⟨hsame, -⟩ | ⟨hset, -⟩
    · exact h.known path calls (hsame ▸ hcalls)
    · rw [hset] at hcalls
      by_cases hpath : path = key
      · subst hpath
        rw [Registry.get?_set_self] at hcalls
        exact ⟨text.content, ⟨habsolute, ws.sources, h.present, text, hread, rfl⟩, (Option.some.inj hcalls).symm⟩
      · rw [Registry.get?_set_of_ne _ hpath] at hcalls
        exact h.known path calls hcalls
  · intro path s hs
    rw [index_stored, stores] at hs ⊢
    rcases hput with ⟨hcalls, hfiles⟩ | ⟨hset, hfiles⟩
    · rw [hcalls]
      exact h.covered path s (hfiles ▸ hs)
    · rw [hset]
      by_cases hpath : path = key
      · rw [hpath]
        exact ⟨_, Registry.get?_set_self ..⟩
      · rw [Registry.get?_set_of_ne _ hpath]
        apply h.covered path s
        rcases hfiles with hfiles | hfiles
        · rwa [hfiles] at hs
        · rwa [hfiles, Registry.get?_set_of_ne _ hpath] at hs

private theorem delete (h : CallsKnown history ws) (key : String) :
    CallsKnown history { ws with index := (ws.index.delete key).1 } := by
  have herased : ∀ {α : Type} {r : Registry α} {path : String} {a : α}, (r.erase key).get? path = some a →
      path ≠ key ∧ r.get? path = some a := by
    intro α r path a ha
    by_cases hpath : path = key
    · rw [hpath, Registry.get?_erase_self] at ha
      cases ha
    · exact ⟨hpath, by rwa [Registry.get?_erase_of_ne hpath] at ha⟩
  refine ⟨h.present, ?_, ?_⟩
  · intro path calls hcalls
    dsimp only at hcalls
    apply h.known path calls
    rcases ws.index.calls_files_delete key with ⟨hsame, -⟩ | ⟨herase, -⟩
    · rwa [hsame] at hcalls
    · rw [herase] at hcalls
      exact (herased hcalls).2
  · intro path s hs
    dsimp only at hs ⊢
    rcases ws.index.calls_files_delete key with ⟨hcalls, hfiles⟩ | ⟨hcalls, hfiles⟩
    · rw [hcalls]
      exact h.covered path s (hfiles ▸ hs)
    · rw [hfiles] at hs
      obtain ⟨hpath, hs⟩ := herased hs
      rw [hcalls, Registry.get?_erase_of_ne hpath]
      exact h.covered path s hs

private theorem moves (h : CallsKnown history ws) (hmoves : Moves ws ws') : CallsKnown history ws' := by
  induction hmoves with
  | refl => exact h
  | logged _ _ ih | announced _ _ ih => exact ⟨ih.present, ih.known, ih.covered⟩
  | stored _ habsolute hread ih => exact ih.stored habsolute hread
  | delete _ key ih => exact ih.delete key
  | clear _ ih => exact of_empty ih.present rfl rfl

end CallsKnown

/-- In every run the calls are those of texts that could be read, whether or not imports can be resolved. -/
theorem Reached.callsKnown (h : Reached history ws) : CallsKnown history ws := by
  apply h.induct (P := CallsKnown)
  · exact fun ws hempty => .of_empty (List.mem_singleton_self _) (by rw [hempty]) (by rw [hempty])
  · intro history ws sources hws
    refine ⟨List.mem_cons_self, ?_, hws.covered⟩
    intro path calls hcalls
    obtain ⟨content, hreadable, hcontent⟩ := hws.known path calls hcalls
    exact ⟨content, hreadable.mono (List.subset_cons_self sources history), hcontent⟩
  · exact fun _ _ _ hws hmoves => hws.moves hmoves

/-! ### Grounded indexes -/

/-- The registries are in lockstep, and every summary is that of a text that could be read under its path.  The imports
of these texts can be resolved. -/
structure Grounded (history : List Sources) (ws : Workspace) : Prop where
  present : ws.sources ∈ history
  resolves : ws.ImportsResolve history
  synced : ws.index.Synced ws.dir
  known : ∀ path s, ws.index.files.get? path = some s →
    ∃ content, ws.Readable history path content ∧ s = summaryAt path content

namespace Grounded

theorem readable (h : Grounded history ws) (habsolute : key.toList.head? = some '/')
    (hread : ws.read key = .ok text) : ws.Readable history key text.content :=
  ⟨habsolute, ws.sources, h.present, text, hread, rfl⟩

private theorem analysed_of_mem (h : Grounded history ws) {path : String} {s : FileSummary}
    (hmem : (path, s) ∈ ws.index.files.pairs) : s.Analysed := by
  obtain ⟨content, -, rfl⟩ := h.known path s (Registry.get?_eq_some_iff.2 hmem)
  exact analysed_summaryAt path content

/-- The symbols are those of analysed files with absolute paths. -/
theorem ofAnalysed (h : Grounded history ws) : ws.index.symbols.OfAnalysed := by
  obtain ⟨live, hlive, hregisters⟩ := h.synced.symbols
  refine ⟨live, hregisters, ?_⟩
  intro s hs
  obtain ⟨⟨path, s'⟩, hmem, rfl⟩ := List.mem_map.1 (hlive.mem_iff.1 hs)
  obtain ⟨content, hreadable, hsummary⟩ := h.known path s' (Registry.get?_eq_some_iff.2 hmem)
  refine ⟨h.analysed_of_mem hmem, ?_⟩
  rw [hsummary, path_summaryAt]
  exact hreadable.1

/-- The summary of a text that can be read is stored without a fault. -/
theorem stores (h : Grounded history ws) (habsolute : key.toList.head? = some '/')
    (hread : ws.read key = .ok text) : ∃ ix, ws.stores key text.content = (ix, .ok ()) ∧
      ix.files = ws.index.files.set key (summaryAt key text.content) ∧ ix.Synced ws.dir := by
  have hrelocate := FileSummary.relocate_self (path_summaryAt key text.content)
  obtain ⟨relations, hresolve⟩ := h.resolves _ _ (h.readable habsolute hread)
  have hanalysed : ∀ s ∈ (ws.index.files.set key (summaryAt key text.content)).values, s.Analysed := by
    intro s hs
    obtain ⟨⟨path, s'⟩, hmem, rfl⟩ := List.mem_map.1 hs
    rcases List.mem_append.1 ((ws.index.files.perm_set _ _).subset hmem) with hmem | hmem
    · exact h.analysed_of_mem (List.mem_filter.1 hmem).1
    · cases List.mem_singleton.1 hmem
      exact analysed_summaryAt key text.content
  have hrelations : fileRelations ws.dir ((summaryAt key text.content).relocate key) = .ok relations := by
    rw [hrelocate]
    exact hresolve
  have hput := h.synced.put hrelations (by rw [hrelocate]; exact KeysApart.of_analysed hanalysed)
  rw [hrelocate] at hput
  exact hput

private theorem stored (h : Grounded history ws) (habsolute : key.toList.head? = some '/')
    (hread : ws.read key = .ok text) : Grounded history (ws.stored key text) := by
  obtain ⟨ix, hix, hfiles, hsynced⟩ := h.stores habsolute hread
  have hindex : (ws.stored key text).index = ix := by rw [index_stored, hix]
  refine ⟨h.present, h.resolves, ?_, ?_⟩
  · rw [hindex]
    exact hsynced
  · rw [hindex, hfiles]
    intro path s hs
    by_cases hpath : path = key
    · subst hpath
      rw [Registry.get?_set_self] at hs
      cases hs
      exact ⟨text.content, h.readable habsolute hread, rfl⟩
    · rw [Registry.get?_set_of_ne _ hpath] at hs
      exact h.known path s hs

private theorem delete (h : Grounded history ws) (key : String) :
    Grounded history { ws with index := (ws.index.delete key).1 } := by
  obtain ⟨ix, hix, hfiles, hsynced⟩ := h.synced.delete key
  rw [hix]
  refine ⟨h.present, h.resolves, hsynced, ?_⟩
  intro path s hs
  dsimp only at hs
  rw [hfiles] at hs
  have hmem := (List.mem_filter.1 (Registry.get?_eq_some_iff.1 hs)).1
  exact h.known path s (Registry.get?_eq_some_iff.2 hmem)

private theorem clear (h : Grounded history ws) : Grounded history { ws with index := ws.index.clear } :=
  ⟨h.present, h.resolves, Index.synced_clear _ _, fun _ _ hs => by cases hs⟩

theorem moves (h : Grounded history ws) (hmoves : Moves ws ws') : Grounded history ws' := by
  induction hmoves with
  | refl => exact h
  | logged _ _ ih | announced _ _ ih => exact ⟨ih.present, ih.resolves, ih.synced, ih.known⟩
  | stored _ habsolute hread ih => exact ih.stored habsolute hread
  | delete _ key ih => exact ih.delete key
  | clear _ ih => exact ih.clear

/-- A file of a directory is stored, left alone or reported, and never a fault. -/
private theorem indexFile_ok (h : Grounded history ws) (habsolute : key.toList.head? = some '/') (force : Bool)
    (report : IndexReport) : ∃ report' ws', (indexFile key force report).run ws = (.ok report', ws') := by
  rw [run_indexFile]
  cases hread : ws.read key with
  | error cause => exact ⟨_, _, rfl⟩
  | ok text =>
    dsimp only
    split
    · exact ⟨_, _, rfl⟩
    · obtain ⟨ix, hix, hfiles, hsynced⟩ := h.stores habsolute hread
      have hself : ix.files.get? key = some (summaryAt key text.content) := by
        rw [hfiles, Registry.get?_set_self]
      rw [hix, (hsynced.inFile_of_get? hself).1]
      exact ⟨_, _, rfl⟩

/-- Indexing the files of a directory goes through when all patterns are texts. -/
theorem indexFiles_ok (h : Grounded history ws) (base : Path) {patterns : List Pattern}
    (hpatterns : ∀ type, .other type ∉ patterns) (force : Bool) (total number : Nat) (report : IndexReport)
    (files : List (List String)) :
    ∃ report' ws', (indexFiles base patterns force total number report files).run ws = (.ok report', ws') := by
  induction files generalizing number report ws with
  | nil => exact ⟨report, ws, rfl⟩
  | cons parts rest ih =>
    have hmoves := moves_indexPlace base patterns force report parts ws
    obtain ⟨report', ws', hrun⟩ : ∃ report' ws',
        (indexPlace base patterns force report parts).run ws = (.ok report', ws') := by
      obtain ⟨excluded, hexclude⟩ := exists_exclude hpatterns parts
      rw [run_indexPlace, hexclude]
      cases excluded with
      | true => exact ⟨_, _, rfl⟩
      | false => exact h.indexFile_ok (head?_toString_resolve ws.dir _) force report
    rw [hrun] at hmoves
    rw [run_indexFiles_cons, hrun]
    exact ih (h.moves (hmoves.announced _)) _ report'

/-- Indexing the files of a directory fails only before anything is stored. -/
theorem index_of_indexFiles_error (h : Grounded history ws) {base : Path} {patterns : List Pattern} {force : Bool}
    {total number : Nat} {report : IndexReport} {files : List (List String)} (hfiles : ∀ parts ∈ files, parts ≠ [])
    {fault : Fault} {ws' : Workspace}
    (hrun : (indexFiles base patterns force total number report files).run ws = (.error fault, ws')) :
    ws'.index = ws.index := by
  by_cases hother : ∃ type, .other type ∈ patterns
  · obtain ⟨type, htype⟩ := hother
    have hindex := index_indexFiles_of_other htype base force total number report hfiles ws
    rwa [hrun] at hindex
  · obtain ⟨report', ws'', hok⟩ := h.indexFiles_ok base (fun type htype => hother ⟨type, htype⟩) force total number
      report files
    cases hok.symm.trans hrun

/-- Another version of the sources adds texts that could be read, and takes none away. -/
private theorem edit (h : Grounded history ws) (sources : Sources)
    (hresolves : ws.ImportsResolve (sources :: history)) :
    Grounded (sources :: history) { ws with sources := sources } := by
  refine ⟨List.mem_cons_self, hresolves, h.synced, ?_⟩
  intro path s hs
  obtain ⟨content, hread, hcontent⟩ := h.known path s hs
  exact ⟨content, hread.mono (List.subset_cons_self sources history), hcontent⟩

end Grounded

private theorem grounded_fresh (hempty : ws.index = {}) (hresolves : ws.ImportsResolve [ws.sources]) :
    Grounded [ws.sources] ws := by
  refine ⟨List.mem_singleton.2 rfl, hresolves, ?_, ?_⟩
  · rw [hempty]
    exact Index.synced_clear ws.dir {}
  · rw [hempty]
    exact fun _ _ hs => by cases hs

/-- Every run with resolvable imports keeps the index grounded. -/
theorem Run.grounded (h : Run history ws) (hresolves : ws.ImportsResolve history) : Grounded history ws := by
  induction h with
  | fresh ws hempty => exact grounded_fresh hempty hresolves
  | @edit history ws _ sources ih =>
    have hold : ws.ImportsResolve history :=
      fun key content hread => hresolves key content (hread.mono (List.subset_cons_self sources history))
    exact (ih hold).edit sources hresolves
  | moves _ hmoves ih => exact (ih (hmoves.importsResolve_iff.1 hresolves)).moves hmoves

/-- Texts that import nothing have imports that can be resolved. -/
theorem importsResolve_texts {files : List (String × String)} (hplain : ∀ key content, (key, content) ∈ files →
    (findingsIn (languageOf key) content.toList).outline.imports = []) (ws : Workspace) :
    ws.ImportsResolve [.texts files] := by
  rintro key content ⟨-, src, hsrc, text, hread, rfl⟩
  rw [List.mem_singleton.1 hsrc] at hread
  have himports : (summaryAt key text.content).imports = [] := by
    rw [imports_summaryAt]
    exact hplain key text.content (Sources.mem_of_read_texts hread)
  exact ⟨_, fileRelations_of_no_imports himports⟩

end Workspace

end CallIndex
