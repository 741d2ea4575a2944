import CallIndex.Proofs.FilesBelow
import CallIndex.Proofs.IncrementalIndexing

/-!
# What becomes of the files of a directory

Indexing a directory deals with one file after another.  What becomes of a file can be told before the run, since the
files before it have other keys.  So the report counts one outcome for each file, the files that are stored are put into
the index one by one, and indexing the files once more finds all of them unchanged.

* `Index.stock_fresh`: an empty index holds what has been stored, in order.
* `Workspace.run_indexPlace_add` is the step and `Workspace.run_indexFiles_tally` the run.
* `Workspace.outcomeAt_again`: what becomes of a file when it is looked at once more.
-/

namespace CallIndex

/-! ### Outcomes and reports -/

/-- What becomes of a file of a directory. -/
inductive FileOutcome where
  | excluded
  | unreadable (message : String)
  | unchanged
  | stored (s : FileSummary)

namespace FileOutcome

/-- The summary that is stored. -/
def summary? : FileOutcome → Option FileSummary
  | stored s => some s
  | _ => none

private theorem summary?_eq_some_iff {outcome : FileOutcome} {s : FileSummary} :
    outcome.summary? = some s ↔ outcome = .stored s := by
  cases outcome <;> simp [summary?]

theorem filterMap_summary?_cons (outcome : FileOutcome) (rest : List FileOutcome) :
    (outcome :: rest).filterMap summary? = outcome.summary?.toList ++ rest.filterMap summary? := by
  rw [List.filterMap_cons]
  cases outcome.summary? <;> rfl

/-- The message on a file that cannot be read. -/
def message? : FileOutcome → Option String
  | unreadable message => some message
  | _ => none

/-- Is the file left out? -/
def isExcluded : FileOutcome → Bool
  | excluded => true
  | _ => false

/-- What becomes of the file when it is looked at once more. -/
def again : FileOutcome → FileOutcome
  | stored _ => unchanged
  | outcome => outcome

end FileOutcome

namespace IndexReport

/-- The report with one more file. -/
def add (r : IndexReport) : FileOutcome → IndexReport
  | .excluded => { r with skipped := r.skipped + 1 }
  | .unreadable message => { r with errors := r.errors ++ [message] }
  | .unchanged => { r with unchanged := r.unchanged + 1 }
  | .stored s =>
    { r with
      files := r.files + 1
      symbols := r.symbols + s.declaredNames.length
      calls := r.calls + s.calls.length }

/-- The report of indexing the same files once more. -/
def again (r : IndexReport) : IndexReport :=
  { r with files := 0, symbols := 0, calls := 0, unchanged := r.files + r.unchanged }

variable (outcomes : List FileOutcome) (r : IndexReport)

/-- Every file is stored, skipped, unchanged or an error. -/
theorem total_foldl_add :
    (outcomes.foldl add r).files + (outcomes.foldl add r).skipped + (outcomes.foldl add r).unchanged +
        (outcomes.foldl add r).errors.length =
      r.files + r.skipped + r.unchanged + r.errors.length + outcomes.length := by
  induction outcomes generalizing r with
  | nil => rfl
  | cons outcome rest ih =>
    rw [List.foldl_cons, ih, List.length_cons]
    cases outcome with
    | unreadable message =>
      simp only [add, List.length_append, List.length_singleton]
      omega
    | excluded | unchanged | stored s =>
      simp only [add]
      omega

/-- The report has the messages on the files that cannot be read, in order, and counts those that are left out. -/
theorem errors_foldl_add :
    (outcomes.foldl add r).errors = r.errors ++ outcomes.filterMap FileOutcome.message? ∧
      (outcomes.foldl add r).skipped = r.skipped + outcomes.countP FileOutcome.isExcluded := by
  induction outcomes generalizing r with
  | nil => exact ⟨(List.append_nil _).symm, rfl⟩
  | cons outcome rest ih =>
    obtain ⟨herrors, hskipped⟩ := ih (r.add outcome)
    rw [List.foldl_cons, herrors, hskipped, List.filterMap_cons, List.countP_cons]
    cases outcome with
    | unreadable message => exact ⟨List.append_assoc .., rfl⟩
    | excluded => exact ⟨rfl, Nat.add_right_comm ..⟩
    | unchanged | stored s => exact ⟨rfl, rfl⟩

private theorem again_foldl_add :
    (outcomes.foldl add r).again = (outcomes.map FileOutcome.again).foldl add r.again := by
  induction outcomes generalizing r with
  | nil => rfl
  | cons outcome rest ih =>
    rw [List.foldl_cons, ih, List.map_cons, List.foldl_cons]
    congr 1
    cases outcome with
    | excluded | unreadable message => rfl
    | unchanged => simp only [add, again, FileOutcome.again, Nat.add_assoc]
    | stored s => simp only [add, again, FileOutcome.again, Nat.add_right_comm]

/-- The report counts what is stored. -/
theorem stored_foldl_add {stored : List FileSummary} (hstored : outcomes.filterMap FileOutcome.summary? = stored) :
    (outcomes.foldl add r).files = r.files + stored.length ∧
      (outcomes.foldl add r).symbols = r.symbols + (stored.map fun s => s.declaredNames.length).sum ∧
      (outcomes.foldl add r).calls = r.calls + (stored.map fun s => s.calls.length).sum := by
  subst hstored
  induction outcomes generalizing r with
  | nil => exact ⟨rfl, rfl, rfl⟩
  | cons outcome rest ih =>
    obtain ⟨hfiles, hsymbols, hcalls⟩ := ih (r.add outcome)
    rw [List.foldl_cons, hfiles, hsymbols, hcalls]
    cases outcome with
    | excluded | unreadable message | unchanged => exact ⟨rfl, rfl, rfl⟩
    | stored s =>
      simp only [add, FileOutcome.summary?, List.filterMap_cons, List.length_cons, List.map_cons, List.sum_cons]
      omega

theorem unchanged_foldl_add {outcomes : List FileOutcome} (h : .unchanged ∉ outcomes) :
    (outcomes.foldl add r).unchanged = r.unchanged := by
  induction outcomes generalizing r with
  | nil => rfl
  | cons outcome rest ih =>
    obtain ⟨hne, hrest⟩ := List.ne_and_not_mem_of_not_mem_cons h
    rw [List.foldl_cons, ih _ hrest]
    cases outcome with
    | unchanged => exact absurd rfl hne
    | excluded | unreadable message | stored s => rfl

end IndexReport

/-! ### Files that are stored -/

/-- A summary that is stored without a fault. -/
structure FileSummary.Storable (dir : List String) (s : FileSummary) : Prop where
  analysed : s.Analysed
  absolute : s.path.toList.head? = some '/'
  resolves : ∃ relations, fileRelations dir s = .ok relations

namespace Index

/-- The index with some summaries put into it, one by one. -/
def stock (dir : List String) (ix : Index) (stored : List FileSummary) : Index :=
  stored.foldl (fun ix s => (ix.put dir s.path s).1) ix

variable {dir : List String} {ix : Index} {s : FileSummary} {stored : List FileSummary}

private theorem put_of_storable (h : ix.symbols.OfAnalysed) (hs : s.Storable dir) :
    ∃ ix', ix.put dir s.path s = (ix', .ok ()) ∧ ix'.symbols.OfAnalysed ∧ ix'.files = ix.files.set s.path s ∧
      ∃ entries, ix'.symbols.inFile s.path = .ok entries ∧ entries.length = s.declaredNames.length := by
  obtain ⟨relations, hrelations⟩ := hs.resolves
  obtain ⟨symbols, hregister, hsymbols, hentries, hnodup⟩ := h.registerFile_ok hs.analysed hs.absolute
  unfold put
  simp only [FileSummary.relocate_self rfl, hregister, hrelations]
  exact ⟨_, rfl, hsymbols, rfl, _, hentries, FileSummary.length_settled hnodup⟩

private theorem get?_files_put_of_ne {path other : String} (hne : other ≠ path) :
    (ix.put dir path s).1.files.get? other = ix.files.get? other := by
  rcases calls_files_put dir ix path s with ⟨-, hfiles⟩ | ⟨-, hfiles | hfiles⟩
  · rw [hfiles]
  · rw [hfiles]
  · rw [hfiles, Registry.get?_set_of_ne _ hne]

/-- Other files are left alone. -/
private theorem get?_stock_of_notMem {path : String} (h : path ∉ stored.map FileSummary.path) :
    (ix.stock dir stored).files.get? path = ix.files.get? path := by
  induction stored generalizing ix with
  | nil => rfl
  | cons s rest ih =>
    obtain ⟨hne, hrest⟩ := List.ne_and_not_mem_of_not_mem_cons h
    rw [stock, List.foldl_cons, ← stock, ih hrest, get?_files_put_of_ne hne]

/-- What has been stored is there. -/
private theorem get?_stock_of_mem (h : ix.symbols.OfAnalysed) (hall : ∀ s ∈ stored, s.Storable dir)
    (hnodup : (stored.map FileSummary.path).Nodup) (hs : s ∈ stored) :
    (ix.stock dir stored).files.get? s.path = some s := by
  induction stored generalizing ix with
  | nil => cases hs
  | cons s' rest ih =>
    obtain ⟨hnew, hrest⟩ := List.nodup_cons.1 hnodup
    obtain ⟨ix', hput, hix', hfiles, -⟩ := put_of_storable h (hall s' List.mem_cons_self)
    rw [stock, List.foldl_cons, hput, ← stock]
    rcases List.mem_cons.1 hs with rfl | hs
    · rw [get?_stock_of_notMem hnew, hfiles, Registry.get?_set_self]
    · exact ih hix' (fun x hx => hall x (List.mem_cons_of_mem _ hx)) hrest hs

/-- New files are listed behind the others, in the order in which they are stored. -/
private theorem Synced.stock (h : ix.Synced dir) (hix : ∀ s ∈ ix.files.values, s.Analysed)
    (hall : ∀ s ∈ stored, s.Storable dir) (hnodup : (ix.files.keys ++ stored.map FileSummary.path).Nodup) :
    (ix.stock dir stored).Synced dir ∧
      (ix.stock dir stored).files.pairs = ix.files.pairs ++ stored.map fun s => (s.path, s) := by
  induction stored generalizing ix with
  | nil => exact ⟨h, (List.append_nil _).symm⟩
  | cons s rest ih =>
    have hs := hall s List.mem_cons_self
    obtain ⟨relations, hrelations⟩ := hs.resolves
    have hself : s.relocate s.path = s := FileSummary.relocate_self rfl
    have hnew : s.path ∉ ix.files.keys := by
      intro hold
      exact (List.nodup_append.1 hnodup).2.2 _ hold _ List.mem_cons_self rfl
    have hpairs : (ix.files.set s.path s).pairs = ix.files.pairs ++ [(s.path, s)] := Registry.pairs_set_of_notMem hnew s
    have hvalues : (ix.files.set s.path s).values = ix.files.values ++ [s] := by
      rw [Registry.values, hpairs, List.map_append]
      rfl
    have hanalysed : ∀ x ∈ (ix.files.set s.path s).values, x.Analysed := by
      intro x hx
      rw [hvalues] at hx
      rcases List.mem_append.1 hx with hx | hx
      · exact hix x hx
      · rw [List.mem_singleton.1 hx]
        exact hs.analysed
    have hapart : KeysApart (ix.files.set s.path (s.relocate s.path)).values := by
      rw [hself]
      exact KeysApart.of_analysed hanalysed
    obtain ⟨ix', hput, hfiles, hsynced⟩ := h.put (by rw [hself]; exact hrelations) hapart
    rw [hself] at hfiles
    have hkeys : ix'.files.keys ++ rest.map FileSummary.path = ix.files.keys ++ (s :: rest).map FileSummary.path := by
      rw [hfiles, Registry.keys_set_of_notMem _ hnew, List.append_assoc]
      rfl
    obtain ⟨hrest, hall'⟩ := ih hsynced (by rw [hfiles]; exact hanalysed)
      (fun x hx => hall x (List.mem_cons_of_mem _ hx)) (by rw [hkeys]; exact hnodup)
    rw [Index.stock, List.foldl_cons, hput, ← Index.stock]
    refine ⟨hrest, ?_⟩
    rw [hall', hfiles, hpairs, List.append_assoc]
    rfl

/-- An empty index holds what has been stored in it, in order, and its totals are those of what has been stored. -/
theorem stock_fresh (hall : ∀ s ∈ stored, s.Storable dir) (hnodup : (stored.map FileSummary.path).Nodup) :
    (stock dir {} stored).files.keys = stored.map FileSummary.path ∧
      (stock dir {} stored).totals.files = stored.length ∧
      (stock dir {} stored).totals.symbols = (stored.map fun s => s.declaredNames.length).sum ∧
      (stock dir {} stored).totals.calls = (stored.map fun s => s.calls.length).sum := by
  have hempty : ∀ s ∈ ({} : Index).files.values, s.Analysed := fun _ hs => (List.not_mem_nil hs).elim
  obtain ⟨hsynced, hpairs⟩ := (synced_clear dir {}).stock hempty hall hnodup
  replace hsynced : (stock dir {} stored).Synced dir := hsynced
  replace hpairs : (stock dir {} stored).files.pairs = stored.map fun s => (s.path, s) := hpairs
  have hkeys : (stock dir {} stored).files.keys = stored.map FileSummary.path := by
    rw [Registry.keys, hpairs, List.map_map]
    rfl
  have hvalues : (stock dir {} stored).files.values = stored := by
    rw [Registry.values, hpairs, List.map_map]
    exact List.map_id _
  refine ⟨hkeys, ?_⟩
  rw [hsynced.totals_eq, hkeys, hvalues]
  exact ⟨List.length_map _, rfl, rfl⟩

end Index

namespace Workspace

variable {history : List Sources} {ws ws' : Workspace} {base : Path} {patterns : List String} {force : Bool}
  {key : String}

/-! ### What becomes of the files -/

/-- What becomes of a file that is not excluded. -/
def fileOutcome (ws : Workspace) (force : Bool) (key : String) : FileOutcome :=
  match ws.read key with
  | .error cause => .unreadable cause.message
  | .ok text =>
    if !force && !ws.index.isStale key (digestOf text.content) then .unchanged
    else .stored (summaryAt key text.content)

/-- What becomes of the file at the place `parts` below a directory. -/
def outcomeAt (ws : Workspace) (base : Path) (patterns : List String) (force : Bool) (parts : List String) :
    FileOutcome :=
  if isExcluded patterns parts then .excluded else ws.fileOutcome force (ws.keyBelow base parts)

/-- What becomes of a file hangs on the sources and on what is known of the file. -/
private theorem fileOutcome_congr (hread : ws'.read = ws.read)
    (hfile : ws'.index.files.get? key = ws.index.files.get? key) (force : Bool) :
    ws'.fileOutcome force key = ws.fileOutcome force key := by
  have hstale : ∀ digest, ws'.index.isStale key digest = ws.index.isStale key digest := by
    intro digest
    rw [Index.isStale, Index.isStale, hfile]
  rw [fileOutcome, fileOutcome, hread]
  simp only [hstale]

private theorem eq_summaryAt_of_fileOutcome {s : FileSummary} (h : ws.fileOutcome force key = .stored s) :
    ∃ text, ws.read key = .ok text ∧ s = summaryAt key text.content := by
  rw [fileOutcome] at h
  cases hread : ws.read key with
  | error cause =>
    rw [hread] at h
    cases h
  | ok text =>
    rw [hread] at h
    dsimp only at h
    split at h
    · cases h
    · cases h
      exact ⟨text, rfl, rfl⟩

theorem eq_summaryAt_of_outcomeAt {parts : List String} {s : FileSummary}
    (h : ws.outcomeAt base patterns force parts = .stored s) :
    isExcluded patterns parts = false ∧ ∃ text, ws.read (ws.keyBelow base parts) = .ok text ∧
      s = summaryAt (ws.keyBelow base parts) text.content := by
  rw [outcomeAt] at h
  split at h
  · cases h
  · exact ⟨Bool.eq_false_iff.2 ‹_›, eq_summaryAt_of_fileOutcome h⟩

/-- One file: the report counts it, and the index has it if it is stored. -/
private theorem run_indexFile_add (hws : ws.index.symbols.OfAnalysed) (habsolute : key.toList.head? = some '/')
    (hresolves : ∀ s, ws.fileOutcome force key = .stored s → ∃ relations, fileRelations ws.dir s = .ok relations)
    (report : IndexReport) :
    ∃ ws', (indexFile key force report).run ws = (.ok (report.add (ws.fileOutcome force key)), ws') ∧ Moves ws ws' ∧
      ws'.index = ws.index.stock ws.dir (ws.fileOutcome force key).summary?.toList := by
  have hmoves := moves_indexFile habsolute force report ws
  rw [run_indexFile] at hmoves ⊢
  rw [fileOutcome] at hresolves ⊢
  cases hread : ws.read key with
  | error cause =>
    rw [hread] at hmoves
    exact ⟨_, rfl, hmoves, rfl⟩
  | ok text =>
    rw [hread] at hmoves hresolves
    dsimp only at hmoves hresolves ⊢
    split at hmoves
    · rename_i hsame
      rw [if_pos hsame, if_pos hsame]
      exact ⟨_, rfl, hmoves, rfl⟩
    · rename_i hchanged
      rw [if_neg hchanged] at hresolves
      rw [if_neg hchanged, if_neg hchanged]
      have hpath := path_summaryAt key text.content
      have hstorable : (summaryAt key text.content).Storable ws.dir :=
        ⟨analysed_summaryAt key text.content, by rw [hpath]; exact habsolute, hresolves _ rfl⟩
      obtain ⟨ix, hput, -, -, entries, hentries, hlength⟩ := Index.put_of_storable hws hstorable
      rw [hpath] at hput hentries
      have hstores : ws.stores key text.content = (ix, .ok ()) := hput
      refine ⟨ws.stored key text, ?_, hmoves, ?_⟩
      · rw [hstores]
        simp only [hentries, Except.mapError, IndexReport.add, ← hlength]
        rfl
      · rw [index_stored, stores]
        simp only [FileOutcome.summary?, Option.toList_some, Index.stock, List.foldl_cons, List.foldl_nil, hpath]

/-- One place: the report counts its file, and the index has it if it is stored. -/
theorem run_indexPlace_add (hws : ws.index.symbols.OfAnalysed) {parts : List String}
    (hresolves : ∀ s, ws.outcomeAt base patterns force parts = .stored s →
      ∃ relations, fileRelations ws.dir s = .ok relations) (report : IndexReport) :
    ∃ ws', (indexPlace base (patterns.map .text) force report parts).run ws =
        (.ok (report.add (ws.outcomeAt base patterns force parts)), ws') ∧ Moves ws ws' ∧
      ws'.index = ws.index.stock ws.dir (ws.outcomeAt base patterns force parts).summary?.toList := by
  rw [run_indexPlace, exclude_texts]
  cases hexcluded : isExcluded patterns parts with
  | true =>
    have houtcome : ws.outcomeAt base patterns force parts = .excluded := if_pos hexcluded
    rw [houtcome]
    exact ⟨ws, rfl, .refl, rfl⟩
  | false =>
    have houtcome : ws.outcomeAt base patterns force parts = ws.fileOutcome force (ws.keyBelow base parts) :=
      if_neg (Bool.eq_false_iff.1 hexcluded)
    rw [houtcome] at hresolves ⊢
    exact run_indexFile_add hws (head?_toString_resolve ws.dir _) hresolves report

/-- The summaries that are stored when the files below a directory are indexed. -/
def storedBelow (ws : Workspace) (base : Path) (patterns : List String) (force : Bool) (files : List (List String)) :
    List FileSummary :=
  (files.map (ws.outcomeAt base patterns force)).filterMap FileOutcome.summary?

/-- What becomes of a file does not depend on what has become of a file with another key. -/
private theorem outcomeAt_of_ne (hmoves : Moves ws ws') {parts parts' : List String}
    (hindex : ws'.index = ws.index.stock ws.dir (ws.outcomeAt base patterns force parts).summary?.toList)
    (hne : ws.keyBelow base parts' ≠ ws.keyBelow base parts) :
    ws'.outcomeAt base patterns force parts' = ws.outcomeAt base patterns force parts' := by
  rw [outcomeAt, outcomeAt, hmoves.keyBelow_eq base]
  split
  · rfl
  · apply fileOutcome_congr hmoves.read_eq
    rw [hindex]
    apply Index.get?_stock_of_notMem
    intro hmem
    obtain ⟨s, hs, hpath⟩ := List.mem_map.1 hmem
    have hs' := FileOutcome.summary?_eq_some_iff.1 (Option.mem_toList.1 hs)
    obtain ⟨-, text, -, rfl⟩ := eq_summaryAt_of_outcomeAt hs'
    rw [path_summaryAt] at hpath
    exact hne hpath.symm

/-- All files: the report counts them, and the index has those that are stored. -/
theorem run_indexFiles_tally (hws : ws.index.symbols.OfAnalysed) {files : List (List String)}
    (hnodup : (files.map (ws.keyBelow base)).Nodup)
    (hresolves : ∀ parts ∈ files, ∀ s, ws.outcomeAt base patterns force parts = .stored s →
      ∃ relations, fileRelations ws.dir s = .ok relations) (total number : Nat) (report : IndexReport) :
    ∃ ws', (indexFiles base (patterns.map .text) force total number report files).run ws =
        (.ok ((files.map (ws.outcomeAt base patterns force)).foldl IndexReport.add report), ws') ∧ Moves ws ws' ∧
      ws'.index = ws.index.stock ws.dir (ws.storedBelow base patterns force files) := by
  induction files generalizing ws number report with
  | nil => exact ⟨ws, rfl, .refl, rfl⟩
  | cons parts rest ih =>
    obtain ⟨hnew, hrest⟩ := List.nodup_cons.1 hnodup
    obtain ⟨ws₁, hplace, hmoves₁, hindex⟩ := run_indexPlace_add hws (hresolves parts List.mem_cons_self) report
    have hmoves := hmoves₁.announced (progressAt base total number parts)
    have hbelow := hmoves.keyBelow_eq base
    have hdir := hmoves.surroundings.2.2
    have hstock : (ws₁.announced (progressAt base total number parts)).index =
        ws.index.stock ws.dir (ws.outcomeAt base patterns force parts).summary?.toList := hindex
    -- the files behind this one have other keys
    have hsame : ∀ parts' ∈ rest,
        (ws₁.announced (progressAt base total number parts)).outcomeAt base patterns force parts' =
          ws.outcomeAt base patterns force parts' :=
      fun parts' hparts' => outcomeAt_of_ne hmoves hstock fun heq => hnew (List.mem_map.2 ⟨parts', hparts', heq⟩)
    obtain ⟨ws', hrun, hmoves', hindex'⟩ := ih (hmoves.ofAnalysed hws) (by rw [hbelow]; exact hrest)
      (fun parts' hparts' s hs => by
        rw [hdir]
        exact hresolves parts' (List.mem_cons_of_mem _ hparts') s ((hsame parts' hparts').symm.trans hs))
      (number + 1) (report.add (ws.outcomeAt base patterns force parts))
    rw [storedBelow, List.map_congr_left hsame] at hindex'
    rw [List.map_congr_left hsame] at hrun
    refine ⟨ws', ?_, hmoves.trans hmoves', ?_⟩
    · rw [run_indexFiles_cons, hplace]
      exact hrun
    · rw [hindex', hstock, hdir, storedBelow, List.map_cons, FileOutcome.filterMap_summary?_cons, Index.stock,
        Index.stock, Index.stock, List.foldl_append]

/-! ### The files once more -/

section Again

variable {files : List (List String)}

theorem mem_storedBelow {s : FileSummary} : s ∈ ws.storedBelow base patterns force files ↔
    ∃ parts ∈ files, ws.outcomeAt base patterns force parts = .stored s := by
  simp only [storedBelow, List.mem_filterMap, List.mem_map, FileOutcome.summary?_eq_some_iff]
  constructor
  · rintro ⟨_, ⟨parts, hparts, rfl⟩, hs⟩
    exact ⟨parts, hparts, hs⟩
  · rintro ⟨parts, hparts, hs⟩
    exact ⟨_, ⟨parts, hparts, rfl⟩, hs⟩

/-- Files are stored by their keys, in order. -/
theorem sublist_paths_storedBelow (ws : Workspace) (base : Path) (patterns : List String) (force : Bool)
    (files : List (List String)) :
    ((ws.storedBelow base patterns force files).map FileSummary.path).Sublist (files.map (ws.keyBelow base)) := by
  induction files with
  | nil => exact .slnil
  | cons parts rest ih =>
    rw [storedBelow, List.map_cons, FileOutcome.filterMap_summary?_cons, ← storedBelow, List.map_cons]
    cases hoption : (ws.outcomeAt base patterns force parts).summary? with
    | none => exact ih.cons _
    | some s =>
      obtain ⟨-, text, -, rfl⟩ := eq_summaryAt_of_outcomeAt (FileOutcome.summary?_eq_some_iff.1 hoption)
      rw [Option.toList_some, List.singleton_append, List.map_cons, path_summaryAt]
      exact ih.cons_cons _

variable (hws : ws.index.symbols.OfAnalysed) (hmoves : Moves ws ws')
  (hindex : ws'.index = ws.index.stock ws.dir (ws.storedBelow base patterns force files))
  (hstorable : ∀ s ∈ ws.storedBelow base patterns force files, s.Storable ws.dir)
  (hnodup : (files.map (ws.keyBelow base)).Nodup)

include hws hindex hstorable hnodup

/-- After the run, a file that can be read and is not excluded is up to date. -/
private theorem isStale_again {parts : List String} (hparts : parts ∈ files)
    (hincluded : isExcluded patterns parts = false)
    {text : SourceText} (hread : ws.read (ws.keyBelow base parts) = .ok text) :
    ws'.index.isStale (ws.keyBelow base parts) (digestOf text.content) = false := by
  have houtcome : ws.outcomeAt base patterns force parts =
      if !force && !ws.index.isStale (ws.keyBelow base parts) (digestOf text.content) then .unchanged
      else .stored (summaryAt (ws.keyBelow base parts) text.content) := by
    rw [outcomeAt, hincluded, fileOutcome, hread]
    rfl
  split at houtcome
  · -- only the file itself has its key, so nothing was stored under it
    rename_i hsame
    have hkept : ws'.index.files.get? (ws.keyBelow base parts) = ws.index.files.get? (ws.keyBelow base parts) := by
      rw [hindex]
      apply Index.get?_stock_of_notMem
      intro hmem
      obtain ⟨s, hs, hpath⟩ := List.mem_map.1 hmem
      obtain ⟨parts', hparts', hstored⟩ := mem_storedBelow.1 hs
      obtain ⟨-, text', -, rfl⟩ := eq_summaryAt_of_outcomeAt hstored
      rw [path_summaryAt] at hpath
      rw [List.inj_on_of_nodup_map hnodup hparts' hparts hpath, houtcome] at hstored
      cases hstored
    rw [Bool.and_eq_true, Bool.not_eq_true', Bool.not_eq_true'] at hsame
    rw [Index.isStale, hkept]
    exact hsame.2
  · have hmem := mem_storedBelow.2 ⟨parts, hparts, houtcome⟩
    have hpaths := hnodup.sublist (sublist_paths_storedBelow ws base patterns force files)
    have hget := Index.get?_stock_of_mem hws hstorable hpaths hmem
    rw [path_summaryAt] at hget
    rw [hindex, Index.isStale, hget]
    simp [digest_summaryAt]

include hmoves

/-- After the run, the files that were stored are unchanged, and the others are what they were. -/
theorem outcomeAt_again {parts : List String} (hparts : parts ∈ files) :
    ws'.outcomeAt base patterns false parts = (ws.outcomeAt base patterns force parts).again := by
  rw [outcomeAt, outcomeAt, hmoves.keyBelow_eq base]
  by_cases hexcluded : isExcluded patterns parts = true
  · rw [if_pos hexcluded, if_pos hexcluded]
    rfl
  · rw [if_neg hexcluded, if_neg hexcluded, fileOutcome, fileOutcome, hmoves.read_eq]
    cases hread : ws.read (ws.keyBelow base parts) with
    | error cause => rfl
    | ok text =>
      dsimp only
      have hagain : (!false && !false) = true := rfl
      rw [isStale_again hws hindex hstorable hnodup hparts (Bool.eq_false_iff.2 hexcluded) hread, if_pos hagain]
      split <;> rfl

/-- Indexing the files once more finds them as they are. -/
theorem run_indexFiles_again (total number : Nat) :
    ∃ ws'', (indexFiles base (patterns.map .text) false total number {} files).run ws' =
        (.ok ((files.map (ws.outcomeAt base patterns force)).foldl IndexReport.add {}).again, ws'') ∧
      ws''.index = ws'.index := by
  have hagain : ∀ parts ∈ files, ws'.outcomeAt base patterns false parts =
      (ws.outcomeAt base patterns force parts).again :=
    fun parts hparts => outcomeAt_again hws hmoves hindex hstorable hnodup hparts
  have hnone : ∀ parts ∈ files, ∀ s, ws'.outcomeAt base patterns false parts ≠ .stored s := by
    intro parts hparts s hs
    rw [hagain parts hparts] at hs
    cases houtcome : ws.outcomeAt base patterns force parts with
    | excluded | unreadable message | unchanged | stored s =>
      rw [houtcome] at hs
      cases hs
  have hempty : ws'.storedBelow base patterns false files = [] := by
    rw [List.eq_nil_iff_forall_not_mem]
    intro s hs
    obtain ⟨parts, hparts, hstored⟩ := mem_storedBelow.1 hs
    exact hnone parts hparts s hstored
  have hkeys : (files.map (ws'.keyBelow base)).Nodup := by
    rw [hmoves.keyBelow_eq base]
    exact hnodup
  obtain ⟨ws'', hrun, -, hindex'⟩ := run_indexFiles_tally (hmoves.ofAnalysed hws) hkeys
    (fun parts hparts s hs => absurd hs (hnone parts hparts s)) total number {}
  refine ⟨ws'', ?_, ?_⟩
  · rw [hrun, IndexReport.again_foldl_add, List.map_map, List.map_congr_left hagain]
    rfl
  · rw [hindex', hempty]
    rfl

end Again

end Workspace

end CallIndex
