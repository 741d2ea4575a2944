import CallIndex.Proofs.FileOutcomes

/-!
# Accounts of indexing a directory

The report of a run over a directory and the index that the run leaves are told by what becomes of each file below the
directory.  Every file is reported on when it has been dealt with, also in a run that fails later on.

* `Workspace.counts_indexDirectory`: what a run reports meanwhile, whether it fails or not.
* `Workspace.directory_indexing_accounts_for_files`: the accounts, for every directory and every reached workspace.
-/

namespace CallIndex

/-! ### Progress -/

/-- The files have been reported on, one after another, each with its number and the number of all files. -/
structure Progress.Counts (base : Path) (total : Nat) (files : List (List String)) (progress : List Progress) : Prop where
  files_eq : progress.map Progress.file =
    files.map fun parts => Path.toString { base with parts := base.parts ++ parts }
  current_eq : progress.map Progress.current = List.range' 1 files.length
  total_eq : ∀ p ∈ progress, p.total = total

namespace Workspace

private theorem map_current_progressFrom (base : Path) (total number : Nat) (files : List (List String)) :
    (progressFrom base total number files).map Progress.current = List.range' number files.length := by
  induction files generalizing number with
  | nil => rfl
  | cons parts rest ih =>
    rw [progressFrom_cons, List.map_cons, ih, List.length_cons, List.range'_succ]
    rfl

private theorem map_file_progressFrom (base : Path) (total number : Nat) (files : List (List String)) :
    (progressFrom base total number files).map Progress.file =
      files.map fun parts => Path.toString { base with parts := base.parts ++ parts } := by
  induction files generalizing number with
  | nil => rfl
  | cons parts rest ih =>
    rw [progressFrom_cons, List.map_cons, ih, List.map_cons]
    rfl

private theorem counts_progressFrom (base : Path) (total : Nat) (files : List (List String)) :
    Progress.Counts base total files (progressFrom base total 1 files) where
  files_eq := map_file_progressFrom base total 1 files
  current_eq := map_current_progressFrom base total 1 files
  total_eq := by
    intro p hp
    obtain ⟨q, -, rfl⟩ := List.mem_map.1 hp
    rfl

/-- Indexing a directory has reported on all of its files when it is done, and on those before the file that failed when
one has. -/
theorem counts_indexDirectory {ws : Workspace} {path : String} {files : List (List String)}
    (hfiles : ws.recognisedFiles (Path.ofString path) = .ok files) (exclude : List String) (force : Bool) :
    ∃ dealt progress, dealt <+: files ∧
      ((indexDirectory path exclude force).run ws).2.progress = ws.progress ++ progress ∧
      Progress.Counts (Path.ofString path) files.length dealt progress ∧
      (((indexDirectory path exclude force).run ws).1.isOk = true ↔ dealt = files) := by
  obtain ⟨dealt, hdealt, hprogress, hall⟩ := progress_indexFiles (Path.ofString path)
    ((ws.patternsFor exclude).map .text) force files.length 1 {} files ws
  refine ⟨dealt, _, hdealt, ?_, counts_progressFrom _ _ _, ?_⟩
  · rw [state_indexDirectory, run_indexDirectoryBy, map_patternsFor, hfiles]
    exact hprogress
  · rw [run_indexDirectory, hfiles, ← hall]
    dsimp only
    rcases (indexFiles _ _ force files.length 1 {} files).run ws with ⟨outcome, ws'⟩
    cases outcome <;> exact Iff.rfl

/-! ### The accounts -/

variable {history : List Sources} {ws : Workspace} {t : FileTree} {base : Path} {dir patterns : List String}
  {force : Bool}

/-- A file is taken up when no component is hidden or excluded and it can be read. -/
def isTaken (ws : Workspace) (dir : List String) (patterns : List String) (parts : List String) : Bool :=
  !isExcluded patterns parts && (ws.read (FileTree.pathBelow dir parts)).isOk

/-- The relations of every file that can be taken up can be told. -/
def ResolvesBelow (ws : Workspace) (t : FileTree) (dir : List String) (patterns : List String) : Prop :=
  ∀ parts, t.IsRecognised dir parts → isExcluded patterns parts = false →
    ∀ text, ws.read (FileTree.pathBelow dir parts) = .ok text →
      ∃ relations, fileRelations ws.dir (summaryAt (FileTree.pathBelow dir parts) text.content) = .ok relations

/-- In an empty index everything that can be taken up is stored. -/
private theorem paths_storedBelow_fresh (hempty : ws.index = {}) {files : List (List String)}
    (hkeys : ∀ parts ∈ files, ws.keyBelow base parts = FileTree.pathBelow dir parts) :
    (ws.storedBelow base patterns force files).map FileSummary.path =
        (files.filter (ws.isTaken dir patterns)).map (FileTree.pathBelow dir) ∧
      .unchanged ∉ files.map (ws.outcomeAt base patterns force) := by
  induction files with
  | nil => exact ⟨rfl, List.not_mem_nil⟩
  | cons parts rest ih =>
    obtain ⟨hpaths, hnew⟩ := ih fun parts' hparts' => hkeys parts' (List.mem_cons_of_mem _ hparts')
    have hkey := hkeys parts List.mem_cons_self
    have hstale : ∀ digest, ws.index.isStale (FileTree.pathBelow dir parts) digest = true := by
      intro digest
      rw [hempty]
      rfl
    rw [storedBelow, List.map_cons, FileOutcome.filterMap_summary?_cons, ← storedBelow, List.map_append, hpaths,
      List.filter_cons, isTaken]
    by_cases hexcluded : isExcluded patterns parts = true
    · have houtcome : ws.outcomeAt base patterns force parts = .excluded := if_pos hexcluded
      rw [houtcome, hexcluded]
      exact ⟨rfl, by simpa using hnew⟩
    · have houtcome : ws.outcomeAt base patterns force parts =
          ws.fileOutcome force (FileTree.pathBelow dir parts) := by
        rw [outcomeAt, if_neg hexcluded, hkey]
      rw [Bool.not_eq_true] at hexcluded
      rw [houtcome, hexcluded, fileOutcome]
      cases hread : ws.read (FileTree.pathBelow dir parts) with
      | error cause => exact ⟨rfl, by simpa using hnew⟩
      | ok text =>
        simp only [hstale, Bool.not_true, Bool.and_false, Bool.false_eq_true, if_false]
        refine ⟨?_, by simpa using hnew⟩
        simp [FileOutcome.summary?, path_summaryAt, Except.isOk, Except.toBool]

private theorem storable_of_mem_storedBelow (hresolves : ws.ResolvesBelow t dir patterns) {files : List (List String)}
    (hfiles : t.Recognises dir files)
    (hkeys : ∀ parts ∈ files, ws.keyBelow base parts = FileTree.pathBelow dir parts) {s : FileSummary}
    (hs : s ∈ ws.storedBelow base patterns force files) : s.Storable ws.dir := by
  obtain ⟨parts, hparts, houtcome⟩ := mem_storedBelow.1 hs
  obtain ⟨hincluded, text, hread, rfl⟩ := eq_summaryAt_of_outcomeAt houtcome
  refine ⟨analysed_summaryAt _ _, ?_, ?_⟩
  · rw [path_summaryAt]
    exact head?_toString_resolve ws.dir _
  · rw [hkeys parts hparts] at hread ⊢
    exact hresolves parts ((hfiles.mem_iff parts).1 hparts) hincluded text hread

/-- The messages on the files that cannot be read, and how many files are left out. -/
private theorem errors_outcomes (patterns : List String) (force : Bool) {files : List (List String)}
    (hkeys : ∀ parts ∈ files, ws.keyBelow base parts = FileTree.pathBelow dir parts) :
    (files.map (ws.outcomeAt base patterns force)).filterMap FileOutcome.message? =
        ((files.filter fun parts => !isExcluded patterns parts).filterMap fun parts =>
          ws.faultAt (FileTree.pathBelow dir parts)) ∧
      (files.map (ws.outcomeAt base patterns force)).countP FileOutcome.isExcluded =
        files.countP (isExcluded patterns) := by
  have houtcome : ∀ parts ∈ files, (ws.outcomeAt base patterns force parts).message? =
      (if (!isExcluded patterns parts) = true then ws.faultAt (FileTree.pathBelow dir parts) else none) ∧
      (ws.outcomeAt base patterns force parts).isExcluded = isExcluded patterns parts := by
    intro parts hparts
    rw [outcomeAt, hkeys parts hparts]
    cases isExcluded patterns parts with
    | true => exact ⟨rfl, rfl⟩
    | false =>
      simp only [fileOutcome, faultAt, Bool.false_eq_true, Bool.not_false, if_false, if_true]
      cases ws.read (FileTree.pathBelow dir parts) with
      | error cause => exact ⟨rfl, rfl⟩
      | ok text =>
        dsimp only
        split <;> exact ⟨rfl, rfl⟩
  rw [List.filterMap_map, List.filterMap_filter, List.countP_map]
  constructor
  · exact List.filterMap_congr fun parts hparts => (houtcome parts hparts).1
  · exact List.countP_congr fun parts hparts => by rw [Function.comp_apply, (houtcome parts hparts).2]

/-- In every reached workspace, indexing a directory of a tree accounts for every recognised file below it.  Whatever the
files hold, one after the other is reported on in the order of the components, up to the end or to the file that fails.
When the relations of these files can be told, none fails, and each is stored, skipped, unchanged or an error.  An empty
index then has the files that can be taken up, in this order, and the report has its totals.  Indexing the directory once
more stores nothing and leaves the index alone. -/
theorem directory_indexing_accounts_for_files (h : Reached history ws) (hsources : ws.sources = .tree t)
    (ht : t.WellFormed) {path : String} (hfound : t.directoryAt ws.dir (Path.ofString path) = .found dir)
    (exclude : List String) (force : Bool) :
    ∃ files, t.Recognises dir files ∧
      (∃ dealt progress, dealt <+: files ∧
        ((indexDirectory path exclude force).run ws).2.progress = ws.progress ++ progress ∧
        Progress.Counts (Path.ofString path) files.length dealt progress ∧
        (((indexDirectory path exclude force).run ws).1.isOk = true ↔ dealt = files)) ∧
      (ws.ResolvesBelow t dir (ws.patternsFor exclude) → ∃ report progress ws',
        (indexDirectory path exclude force).run ws = (.ok (report, progress), ws') ∧
        ws'.progress = ws.progress ++ progress ∧ Progress.Counts (Path.ofString path) files.length files progress ∧
        report.files + report.skipped + report.unchanged + report.errors.length = files.length ∧
        report.skipped = files.countP (isExcluded (ws.patternsFor exclude)) ∧
        report.errors = ((files.filter fun parts => !isExcluded (ws.patternsFor exclude) parts).filterMap fun parts =>
          ws.faultAt (FileTree.pathBelow dir parts)) ∧
        (ws.index = {} →
          ws'.index.files.keys =
              (files.filter (ws.isTaken dir (ws.patternsFor exclude))).map (FileTree.pathBelow dir) ∧
            report.unchanged = 0 ∧ report.files = ws'.index.totals.files ∧
            report.symbols = ws'.index.totals.symbols ∧ report.calls = ws'.index.totals.calls) ∧
        ∃ ws'', (indexDirectory path exclude false).run ws' =
            (.ok ({ report with files := 0, symbols := 0, calls := 0, unchanged := report.files + report.unchanged },
              progress), ws'') ∧
          ws''.index = ws'.index) := by
  obtain ⟨files, hrecognised, hfiles⟩ := recognises hsources ht hfound
  refine ⟨files, hfiles, counts_indexDirectory hrecognised exclude force, fun hresolves => ?_⟩
  have hkeys : ∀ parts ∈ files, ws.keyBelow (Path.ofString path) parts = FileTree.pathBelow dir parts :=
    fun parts hparts => keyBelow_eq ht hfound ((hfiles.mem_iff parts).1 hparts)
  have hnodup : (files.map (ws.keyBelow (Path.ofString path))).Nodup := by
    rw [List.map_congr_left hkeys]
    exact hfiles.nodup_paths ht
  have hstorable : ∀ s ∈ ws.storedBelow (Path.ofString path) (ws.patternsFor exclude) force files, s.Storable ws.dir :=
    fun s hs => storable_of_mem_storedBelow hresolves hfiles hkeys hs
  obtain ⟨ws', hrun, hmoves, hindex⟩ := run_indexFiles_tally h.ofAnalysed hnodup
    (fun parts hparts s hs => (hstorable s (mem_storedBelow.2 ⟨parts, hparts, hs⟩)).resolves) files.length 1 {}
  obtain ⟨ws'', hagain, hindex'⟩ := run_indexFiles_again h.ofAnalysed hmoves hindex hstorable hnodup files.length 1
  have hpatterns : ws'.patternsFor exclude = ws.patternsFor exclude := by
    rw [patternsFor, patternsFor, hmoves.surroundings.2.1]
  obtain ⟨hmessages, hexcluded⟩ := errors_outcomes (ws.patternsFor exclude) force hkeys
  obtain ⟨outcomes, houtcomes⟩ :
      ∃ outcomes, files.map (ws.outcomeAt (Path.ofString path) (ws.patternsFor exclude) force) = outcomes := ⟨_, rfl⟩
  rw [houtcomes] at hrun hagain hmessages hexcluded
  obtain ⟨herrors, hskipped⟩ := IndexReport.errors_foldl_add outcomes {}
  refine ⟨outcomes.foldl IndexReport.add {}, _, ws', ?_, progress_of_indexFiles_ok hrun, counts_progressFrom _ _ files,
    ?_, ?_, ?_, ?_, ws'', ?_, hindex'⟩
  · rw [run_indexDirectory, hrecognised]
    dsimp only
    rw [hrun, progressFor]
  · rw [IndexReport.total_foldl_add, ← houtcomes, List.length_map]
    exact Nat.zero_add _
  · rw [hskipped, hexcluded]
    exact Nat.zero_add _
  · rw [herrors, hmessages]
    rfl
  · intro hempty
    obtain ⟨hpaths, hnew⟩ := paths_storedBelow_fresh hempty hkeys
    have hsub := sublist_paths_storedBelow ws (Path.ofString path) (ws.patternsFor exclude) force files
    obtain ⟨hstored, hcount, hsymbols, hcalls⟩ := Index.stock_fresh hstorable (hnodup.sublist hsub)
    have houtcomes' : outcomes.filterMap FileOutcome.summary? =
        ws.storedBelow (Path.ofString path) (ws.patternsFor exclude) force files := by
      rw [← houtcomes, ← storedBelow]
    obtain ⟨hcount', hsymbols', hcalls'⟩ := IndexReport.stored_foldl_add outcomes {} houtcomes'
    rw [houtcomes] at hnew
    rw [hempty] at hindex
    rw [hindex, hstored, hcount, hsymbols, hcalls, hcount', hsymbols', hcalls', hpaths]
    exact ⟨rfl, IndexReport.unchanged_foldl_add _ hnew, Nat.zero_add _, Nat.zero_add _, Nat.zero_add _⟩
  · rw [run_indexDirectory, hmoves.recognisedFiles_eq, hrecognised, hpatterns]
    dsimp only
    rw [hagain, progressFor]
    rfl

/-! ### A tree with files of every kind -/

/-- A function that calls, and that is defined once more. -/
def doubledSource : String := "def f(): g(h())\ndef f(): pass\n"

/-- A file that declares a function twice, a file that may not be opened, a file in a directory that is left out, and a
file in no known language. -/
def mixedTree : FileTree :=
  (((FileTree.write {} ["a.py"] doubledSource.toUTF8).bar ["b.py"] .empty .permission).write ["build", "c.py"]
    .empty).write ["notes.txt"] .empty

private theorem wellFormed_mixedTree : mixedTree.WellFormed :=
  (((FileTree.wellFormed_empty.write (by decide) _).bar (by decide) _ _).write (by decide) _).write (by decide) _

/-- A new workspace on these files. -/
def mixedWorkspace : Workspace := { sources := .tree mixedTree }

/-- The files below the root that are recognised. -/
def mixedFiles : List (List String) := [["a.py"], ["b.py"], ["build", "c.py"]]

private theorem mixed_facts :
    String.ofList (Text.Utf8.repair (Text.Utf8.decode doubledSource.toUTF8.data.toList)) = doubledSource ∧
    (findingsIn "python" doubledSource.toList).outline =
      { functions := [⟨"f", 1, [], false⟩, ⟨"f", 2, [], false⟩], declared := [(1, "f"), (2, "f")] } ∧
    (findingsIn "python" doubledSource.toList).calls.length = 2 ∧
    isExcluded (mixedWorkspace.patternsFor []) ["a.py"] = false ∧
    isExcluded (mixedWorkspace.patternsFor []) ["b.py"] = false ∧
    isExcluded (mixedWorkspace.patternsFor []) ["build", "c.py"] = true := by
  decide +kernel

private theorem recognisedFiles_mixed : mixedWorkspace.recognisedFiles (Path.ofString "/") = .ok mixedFiles := by
  have htree : mixedWorkspace.sources.fileTree = mixedTree := rfl
  have hroot : mixedTree.directoryAt mixedWorkspace.dir (Path.ofString "/") = .found [] := rfl
  have hbelow : mixedTree.filesBelow [] = [["a.py"], ["b.py"], ["build", "c.py"], ["notes.txt"]] :=
    List.mergeSort_of_pairwise (by decide)
  have hknown : ([["a.py"], ["b.py"], ["build", "c.py"], ["notes.txt"]].filter fun parts =>
      languageOf (Path.toString ⟨.relative, parts⟩) ≠ unknownLanguage) = mixedFiles := rfl
  rw [recognisedFiles, htree, hroot]
  dsimp only
  rw [hbelow, hknown]

private theorem read_doubled : ∃ text, mixedWorkspace.read "/a.py" = .ok text ∧ text.content = doubledSource := by
  have hstatus : mixedTree.status (Path.ofString "/a.py").parts = .file doubledSource.toUTF8 := rfl
  have hsize : ¬ doubledSource.toUTF8.size > mixedWorkspace.settings.maxFileSize := by decide
  have hsources : mixedWorkspace.sources = .tree mixedTree := rfl
  rw [read, hsources, Sources.read]
  dsimp only
  rw [hstatus]
  dsimp only
  rw [if_neg hsize]
  exact ⟨_, rfl, mixed_facts.1⟩

/-- The summary of the file that declares a function twice. -/
private theorem summaryAt_doubled :
    (summaryAt "/a.py" doubledSource).declaredNames.length = 1 ∧ (summaryAt "/a.py" doubledSource).calls.length = 2 ∧
      (summaryAt "/a.py" doubledSource).imports = [] := by
  have hlanguage : languageOf "/a.py" = "python" := rfl
  obtain ⟨-, houtline, hcalls, -⟩ := mixed_facts
  rw [summaryAt, summarize, hlanguage]
  refine ⟨?_, ?_, ?_⟩
  · simp only [FileSummary.declaredNames, FileSummary.entries, Extract.Findings.summary, houtline]
    rfl
  · rw [Extract.Findings.summary, List.length_map, hcalls]
  · rw [Extract.Findings.summary, houtline]

private theorem outcomes_mixed :
    mixedFiles.map (mixedWorkspace.outcomeAt (Path.ofString "/") (mixedWorkspace.patternsFor []) false) =
      [.stored (summaryAt "/a.py" doubledSource), .unreadable "Permission denied: /b.py", .excluded] := by
  obtain ⟨-, -, -, hfirst, hsecond, hthird⟩ := mixed_facts
  obtain ⟨text, hread, hcontent⟩ := read_doubled
  have hkey : mixedWorkspace.keyBelow (Path.ofString "/") ["a.py"] = "/a.py" := rfl
  have hkey' : mixedWorkspace.keyBelow (Path.ofString "/") ["b.py"] = "/b.py" := rfl
  have hbarred : mixedWorkspace.read "/b.py" = .error (.notPermitted "/b.py") := rfl
  have hstale : ∀ digest, mixedWorkspace.index.isStale "/a.py" digest = true := fun _ => rfl
  simp only [mixedFiles, List.map_cons, List.map_nil, outcomeAt, hfirst, hsecond, hthird, hkey, hkey', fileOutcome,
    hread, hbarred, hstale, hcontent]
  rfl

private theorem recognises_mixed : mixedTree.Recognises [] mixedFiles := by
  have hroot : mixedTree.directoryAt mixedWorkspace.dir (Path.ofString "/") = .found [] := rfl
  have hsources : mixedWorkspace.sources = .tree mixedTree := rfl
  obtain ⟨files, hrecognised, hfiles⟩ := recognises hsources wellFormed_mixedTree hroot
  cases recognisedFiles_mixed.symm.trans hrecognised
  exact hfiles

private theorem taken_mixed :
    mixedFiles.filter (mixedWorkspace.isTaken [] (mixedWorkspace.patternsFor [])) = [["a.py"]] := by
  obtain ⟨-, -, -, hfirst, hsecond, hthird⟩ := mixed_facts
  obtain ⟨text, hread, -⟩ := read_doubled
  have hkey : FileTree.pathBelow [] ["a.py"] = "/a.py" := rfl
  have hbarred : mixedWorkspace.read (FileTree.pathBelow [] ["b.py"]) = .error (.notPermitted "/b.py") := rfl
  simp only [mixedFiles, List.filter_cons, isTaken, hfirst, hsecond, hthird, hkey, hread, hbarred]
  rfl

/-- The relations of the one file that is taken up can be told. -/
private theorem resolvesBelow_mixed :
    mixedWorkspace.ResolvesBelow mixedTree [] (mixedWorkspace.patternsFor []) := by
  obtain ⟨-, -, -, -, -, hthird⟩ := mixed_facts
  intro parts hparts hincluded text hread
  rcases List.mem_cons.1 ((recognises_mixed.mem_iff parts).2 hparts) with rfl | hparts
  · obtain ⟨text', hread', hcontent⟩ := read_doubled
    cases hread'.symm.trans hread
    refine ⟨_, fileRelations_of_no_imports ?_⟩
    rw [hcontent]
    exact summaryAt_doubled.2.2
  · rcases List.mem_pair.1 hparts with rfl | rfl
    · have hbarred : mixedWorkspace.read (FileTree.pathBelow [] ["b.py"]) = .error (.notPermitted "/b.py") := rfl
      cases hbarred.symm.trans hread
    · cases hthird.symm.trans hincluded

private theorem run_mixed : ∃ ws', (indexDirectory "/" [] false).run mixedWorkspace =
    (.ok ({ files := 1, symbols := 1, calls := 2, skipped := 1, errors := ["Permission denied: /b.py"] },
      [⟨"/a.py", 1, 3⟩, ⟨"/b.py", 2, 3⟩, ⟨"/build/c.py", 3, 3⟩]), ws') := by
  have hws : mixedWorkspace.index.symbols.OfAnalysed := (Reached.fresh mixedWorkspace rfl).ofAnalysed
  have hkeys : mixedFiles.map (mixedWorkspace.keyBelow (Path.ofString "/")) = ["/a.py", "/b.py", "/build/c.py"] := rfl
  have hnodup : (mixedFiles.map (mixedWorkspace.keyBelow (Path.ofString "/"))).Nodup := by
    rw [hkeys]
    decide
  have hplaces : ∀ parts ∈ mixedFiles,
      mixedWorkspace.keyBelow (Path.ofString "/") parts = FileTree.pathBelow [] parts :=
    fun parts hparts => keyBelow_eq wellFormed_mixedTree rfl ((recognises_mixed.mem_iff parts).1 hparts)
  have hstorable : ∀ s ∈ mixedWorkspace.storedBelow (Path.ofString "/") (mixedWorkspace.patternsFor []) false mixedFiles,
      s.Storable [] :=
    fun s hs => storable_of_mem_storedBelow resolvesBelow_mixed recognises_mixed hplaces hs
  obtain ⟨ws', hrun, -, -⟩ := run_indexFiles_tally hws hnodup (fun parts hparts s hs =>
    (hstorable s (mem_storedBelow.2 ⟨parts, hparts, hs⟩)).resolves) mixedFiles.length 1 {}
  obtain ⟨hnames, hcalls, -⟩ := summaryAt_doubled
  rw [outcomes_mixed] at hrun
  simp only [List.foldl_cons, List.foldl_nil, IndexReport.add, hnames, hcalls] at hrun
  refine ⟨ws', ?_⟩
  rw [run_indexDirectory, recognisedFiles_mixed]
  dsimp only
  rw [hrun]
  rfl

/-- One file is stored, with one symbol and two calls, one cannot be read, and one is left out.  The second run finds the
first file unchanged. -/
theorem mixedTree_accounted :
    Reached [.tree mixedTree] mixedWorkspace ∧ mixedTree.WellFormed ∧
    mixedWorkspace.ResolvesBelow mixedTree [] (mixedWorkspace.patternsFor []) ∧
    mixedTree.Recognises [] mixedFiles ∧
    ∃ ws', (indexDirectory "/" [] false).run mixedWorkspace =
        (.ok ({ files := 1, symbols := 1, calls := 2, skipped := 1, errors := ["Permission denied: /b.py"] },
          [⟨"/a.py", 1, 3⟩, ⟨"/b.py", 2, 3⟩, ⟨"/build/c.py", 3, 3⟩]), ws') ∧
      ws'.progress = [⟨"/a.py", 1, 3⟩, ⟨"/b.py", 2, 3⟩, ⟨"/build/c.py", 3, 3⟩] ∧
      ws'.index.files.keys = ["/a.py"] ∧ ws'.index.totals.files = 1 ∧ ws'.index.totals.symbols = 1 ∧
      ws'.index.totals.calls = 2 ∧
      ∃ ws'', (indexDirectory "/" [] false).run ws' =
          (.ok ({ unchanged := 1, skipped := 1, errors := ["Permission denied: /b.py"] },
            [⟨"/a.py", 1, 3⟩, ⟨"/b.py", 2, 3⟩, ⟨"/build/c.py", 3, 3⟩]), ws'') ∧
        ws''.index = ws'.index := by
  have hreached : Reached [.tree mixedTree] mixedWorkspace := .fresh mixedWorkspace rfl
  have hroot : mixedTree.directoryAt mixedWorkspace.dir (Path.ofString "/") = .found [] := rfl
  obtain ⟨files, hfiles, -, haccounts⟩ :=
    directory_indexing_accounts_for_files hreached rfl wellFormed_mixedTree hroot [] false
  obtain ⟨report, progress, ws', hrun, hprogress, -, -, -, -, hfresh, hagain⟩ := haccounts resolvesBelow_mixed
  obtain ⟨ws₁, hrun₁⟩ := run_mixed
  cases hrun₁.symm.trans hrun
  cases recognises_mixed.unique hfiles
  obtain ⟨hkeys, -, htotal, hsymbols, hcalls⟩ := hfresh rfl
  rw [taken_mixed] at hkeys
  exact ⟨hreached, wellFormed_mixedTree, resolvesBelow_mixed, hfiles, _, hrun, hprogress, hkeys, htotal.symm,
    hsymbols.symm, hcalls.symm, hagain⟩

end Workspace

end CallIndex
