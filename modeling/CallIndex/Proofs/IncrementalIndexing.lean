import CallIndex.Proofs.Answers
import CallIndex.Proofs.GroundedRuns
import Mathlib.Data.Set.Function

/-!
# Indexing what has changed

Indexing a directory leaves a file alone when the digest of its text is the one of the stored summary.  That is right
as long as every stored summary is the one of a text that could be read under its path at some time
(`Workspace.Consistent`), which every run keeps when the imports of these texts can be resolved.

* `Workspace.Indexed` says what indexing some files does, whether or not it is forced: `Workspace.indexed_indexFile` is
  the step and `Workspace.indexed_indexFiles` the run.
* `Workspace.incremental_indexing_equals_full`: indexing what has changed and indexing everything give the same index.
-/

namespace CallIndex

private theorem Index.isStale_eq_false_iff {ix : Index} {path digest : String} :
    ix.isStale path digest = false ↔ ∃ s, ix.files.get? path = some s ∧ s.digest = digest := by
  rw [isStale]
  cases ix.files.get? path <;> simp

namespace Workspace

/-! ### Consistent indexes -/

/-- Different texts of one file have different digests. -/
def DigestsApart (ws : Workspace) (history : List Sources) : Prop :=
  ∀ key, Set.InjOn digestOf {content | ws.Readable history key content}

/-- The index is grounded, and different texts of a file have different digests. -/
structure Consistent (history : List Sources) (ws : Workspace) : Prop extends Grounded history ws where
  digests : ws.DigestsApart history

variable {history : List Sources} {ws ws' : Workspace} {key : String} {text : SourceText}

private theorem Consistent.moves (h : Consistent history ws) (hmoves : Moves ws ws') : Consistent history ws' := by
  refine ⟨h.toGrounded.moves hmoves, ?_⟩
  rw [DigestsApart, hmoves.readable_eq]
  exact h.digests

/-- Every run keeps the index consistent. -/
private theorem Reached.consistent (h : Reached history ws) (hdigests : ws.DigestsApart history)
    (hresolves : ws.ImportsResolve history) : Consistent history ws :=
  ⟨h.run.grounded hresolves, hdigests⟩

/-! ### What indexing some files does -/

/-- The fault of a file that cannot be read. -/
def faultAt (ws : Workspace) (key : String) : Option String :=
  match ws.read key with
  | .error cause => some cause.message
  | .ok _ => none

/-- What is known of a path after some files have been looked at: those that can be read are up to date. -/
def refreshed (ws : Workspace) (keys : List String) (path : String) : Option FileSummary :=
  if path ∈ keys then
    match ws.read path with
    | .ok text => some (summaryAt path text.content)
    | .error _ => ws.index.files.get? path
  else ws.index.files.get? path

/-- What indexing the files `keys` and leaving out some others does to a workspace and to a report. -/
structure Indexed (force : Bool) (keys : List String) (excluded : Nat) (ws : Workspace) (report : IndexReport)
    (ws' : Workspace) (report' : IndexReport) : Prop where
  moves : Moves ws ws'
  files_eq : ∀ path, ws'.index.files.get? path = ws.refreshed keys path
  errors_eq : report'.errors = report.errors ++ keys.filterMap ws.faultAt
  skipped_eq : report'.skipped = report.skipped + excluded
  /-- A file that can be read is stored or unchanged. -/
  seen_eq : report'.files + report'.unchanged =
    report.files + report.unchanged + keys.countP fun key => (ws.faultAt key).isNone
  unchanged_eq : force = true → report'.unchanged = report.unchanged

private theorem Moves.faultAt_eq (h : Moves ws ws') : ws'.faultAt = ws.faultAt := by
  funext key
  rw [faultAt, faultAt, h.read_eq]

private theorem refreshed_of_ok (hread : ws.read key = .ok text) {keys : List String} (hkey : key ∈ keys) :
    ws.refreshed keys key = some (summaryAt key text.content) := by
  rw [refreshed, if_pos hkey, hread]

private theorem refreshed_of_error {cause : SourceFault} (hread : ws.read key = .error cause) (keys : List String) :
    ws.refreshed keys key = ws.index.files.get? key := by
  rw [refreshed, hread, ite_self]

private theorem refreshed_of_notMem {keys : List String} (hkey : key ∉ keys) :
    ws.refreshed keys key = ws.index.files.get? key :=
  if_neg hkey

private theorem refreshed_singleton {ix : Index} (hkey : ix.files.get? key = ws.refreshed [key] key)
    (hother : ∀ path, path ≠ key → ix.files.get? path = ws.index.files.get? path) (path : String) :
    ix.files.get? path = ws.refreshed [key] path := by
  by_cases hpath : path = key
  · rw [hpath, hkey]
  · rw [hother path hpath, refreshed_of_notMem (by simpa using hpath)]

/-- Looking at files twice, or at some and then at others, is looking at all of them. -/
private theorem refreshed_append (hread : ws'.read = ws.read) {keys : List String}
    (hfiles : ∀ path, ws'.index.files.get? path = ws.refreshed keys path) (keys' : List String) (path : String) :
    ws'.refreshed keys' path = ws.refreshed (keys ++ keys') path := by
  cases htext : ws.read path with
  | error cause =>
    rw [refreshed_of_error (hread ▸ htext), hfiles, refreshed_of_error htext, refreshed_of_error htext]
  | ok text =>
    by_cases hpath : path ∈ keys'
    · rw [refreshed_of_ok (hread ▸ htext) hpath, refreshed_of_ok htext (List.mem_append_right _ hpath)]
    · rw [refreshed_of_notMem hpath, hfiles, refreshed, refreshed]
      simp [hpath]

namespace Indexed

variable {force : Bool} {keys keys' : List String} {excluded excluded' : Nat} {report report' report'' : IndexReport}
  {ws'' : Workspace}

private theorem trans (h : Indexed force keys excluded ws report ws' report')
    (h' : Indexed force keys' excluded' ws' report' ws'' report'') :
    Indexed force (keys ++ keys') (excluded + excluded') ws report ws'' report'' where
  moves := h.moves.trans h'.moves
  files_eq path := by rw [h'.files_eq, refreshed_append h.moves.read_eq h.files_eq]
  errors_eq := by rw [h'.errors_eq, h.errors_eq, h.moves.faultAt_eq, List.filterMap_append, List.append_assoc]
  skipped_eq := by rw [h'.skipped_eq, h.skipped_eq, Nat.add_assoc]
  seen_eq := by rw [h'.seen_eq, h.seen_eq, h.moves.faultAt_eq, List.countP_append, Nat.add_assoc]
  unchanged_eq hforce := (h'.unchanged_eq hforce).trans (h.unchanged_eq hforce)

end Indexed

/-- A file that is left alone has the summary of its present text. -/
private theorem Consistent.get?_of_not_isStale (h : Consistent history ws) (habsolute : key.toList.head? = some '/')
    (hread : ws.read key = .ok text) (hstale : ws.index.isStale key (digestOf text.content) = false) :
    ws.index.files.get? key = some (summaryAt key text.content) := by
  obtain ⟨s, hs, hdigest⟩ := Index.isStale_eq_false_iff.1 hstale
  obtain ⟨content, hcontent, rfl⟩ := h.known key s hs
  rw [digest_summaryAt] at hdigest
  rw [hs, h.digests key hcontent (h.readable habsolute hread) hdigest]

/-- One file is indexed, whether or not it has changed. -/
theorem indexed_indexFile (h : Consistent history ws) (habsolute : key.toList.head? = some '/') (force : Bool)
    (report : IndexReport) :
    ∃ report' ws', (indexFile key force report).run ws = (.ok report', ws') ∧
      Indexed force [key] 0 ws report ws' report' := by
  rw [run_indexFile]
  cases hread : ws.read key with
  | error cause =>
    have hfault : ws.faultAt key = some cause.message := by rw [faultAt, hread]
    refine ⟨_, _, rfl, Moves.refl.logged _, ?_, ?_, rfl, ?_, fun _ => rfl⟩
    · exact refreshed_singleton (refreshed_of_error hread [key]).symm fun _ _ => rfl
    · simp [hfault]
    · simp [hfault]
  | ok text =>
    have hfault : ws.faultAt key = none := by rw [faultAt, hread]
    have hfresh := refreshed_of_ok hread (List.mem_singleton.2 rfl)
    dsimp only
    split
    · -- the digest has not changed, so neither has the text
      rename_i hsame
      rw [Bool.and_eq_true, Bool.not_eq_true', Bool.not_eq_true'] at hsame
      refine ⟨_, _, rfl, Moves.refl.logged _, ?_, ?_, rfl, ?_, fun hforce => ?_⟩
      · have hkept := h.get?_of_not_isStale habsolute hread hsame.2
        exact refreshed_singleton (hkept.trans hfresh.symm) fun _ _ => rfl
      · simp [hfault]
      · simp [hfault, Nat.add_assoc]
      · cases hforce.symm.trans hsame.1
    · obtain ⟨ix, hix, hfiles, hsynced⟩ := h.stores habsolute hread
      have hself : ix.files.get? key = some (summaryAt key text.content) := by
        rw [hfiles, Registry.get?_set_self]
      rw [hix, (hsynced.inFile_of_get? hself).1]
      refine ⟨_, _, rfl, Moves.refl.stored habsolute hread, ?_, ?_, rfl, ?_, fun _ => rfl⟩
      · rw [index_stored, hix]
        refine refreshed_singleton (hself.trans hfresh.symm) fun path hpath => ?_
        rw [hfiles, Registry.get?_set_of_ne _ hpath]
      · simp [hfault]
      · simp [hfault, Nat.add_right_comm]

/-- The keys of the files below a directory that are not excluded. -/
def keysBelow (ws : Workspace) (base : Path) (patterns : List String) (files : List (List String)) : List String :=
  (files.filter fun parts => !isExcluded patterns parts).map (ws.keyBelow base)

/-- One place: its file is left out, or it is indexed. -/
private theorem indexed_indexPlace (h : Consistent history ws) (base : Path) (patterns : List String) (force : Bool)
    (report : IndexReport) (parts : List String) :
    ∃ report' ws', (indexPlace base (patterns.map .text) force report parts).run ws = (.ok report', ws') ∧
      Indexed force (ws.keysBelow base patterns [parts]) ([parts].countP (isExcluded patterns)) ws report ws'
        report' := by
  rw [run_indexPlace, exclude_texts]
  cases hexcluded : isExcluded patterns parts with
  | true =>
    have hskip : Indexed force [] 1 ws report ws { report with skipped := report.skipped + 1 } :=
      ⟨.refl, fun _ => rfl, by simp, rfl, rfl, fun _ => rfl⟩
    refine ⟨_, ws, rfl, ?_⟩
    simpa [keysBelow, hexcluded] using hskip
  | false =>
    obtain ⟨report', ws', hfile, hindexed⟩ :=
      indexed_indexFile h (head?_toString_resolve ws.dir { base with parts := base.parts ++ parts }) force report
    refine ⟨report', ws', hfile, ?_⟩
    simpa [keysBelow, hexcluded, keyBelow] using hindexed

private theorem indexed_announced (force : Bool) (ws : Workspace) (report : IndexReport) (p : Progress) :
    Indexed force [] 0 ws report (ws.announced p) report :=
  ⟨Moves.refl.announced p, fun _ => rfl, by simp, rfl, rfl, fun _ => rfl⟩

/-- Every run over files goes through, and brings the files that it does not leave out up to date. -/
theorem indexed_indexFiles (h : Consistent history ws) (base : Path) (patterns : List String) (force : Bool)
    (total number : Nat) (report : IndexReport) (files : List (List String)) :
    ∃ report' ws', (indexFiles base (patterns.map .text) force total number report files).run ws = (.ok report', ws') ∧
      Indexed force (ws.keysBelow base patterns files) (files.countP (isExcluded patterns)) ws report ws' report' := by
  induction files generalizing number report ws with
  | nil =>
    exact ⟨report, ws, rfl, .refl, fun _ => rfl, by simp [keysBelow], rfl, rfl, fun _ => rfl⟩
  | cons parts rest ih =>
    obtain ⟨report₁, ws₁, hplace, hindexed⟩ := indexed_indexPlace h base patterns force report parts
    have hdone := hindexed.trans (indexed_announced force ws₁ report₁ (progressAt base total number parts))
    obtain ⟨report', ws', hrun, hrest⟩ := ih (h.moves hdone.moves) (number + 1) report₁
    rw [run_indexFiles_cons, hplace]
    refine ⟨report', ws', hrun, ?_⟩
    have hkeys : ws.keysBelow base patterns (parts :: rest) =
        ws.keysBelow base patterns [parts] ++ ws.keysBelow base patterns rest := by
      rw [keysBelow, keysBelow, keysBelow, ← List.map_append, ← List.filter_append]
      rfl
    have hcount : (parts :: rest).countP (isExcluded patterns) =
        [parts].countP (isExcluded patterns) + rest.countP (isExcluded patterns) := by
      rw [← List.countP_append, List.singleton_append]
    have hbelow : (ws₁.announced (progressAt base total number parts)).keysBelow base patterns rest =
        ws.keysBelow base patterns rest := by
      rw [keysBelow, keysBelow, hdone.moves.keyBelow_eq base]
    have hall := hdone.trans hrest
    rw [hbelow, List.append_nil, Nat.add_zero] at hall
    rw [hkeys, hcount]
    exact hall

/-! ### Changed files and all files -/

/-- What indexing the changed files below a directory has in common with indexing all of them. -/
structure SameIndexing (ws : Workspace) (base : Path) (patterns : List String) (files : List (List String))
    (plain : IndexReport) (plainWs : Workspace) (forced : IndexReport) (forcedWs : Workspace) : Prop where
  files_eq : ∀ path, plainWs.index.files.get? path = forcedWs.index.files.get? path
  answers : plainWs.index.SameAnswers forcedWs.index
  /-- Every file that can be read and is not excluded has the summary of its present text. -/
  upToDate : ∀ parts ∈ files, isExcluded patterns parts = false →
    ∀ text, ws.read (ws.keyBelow base parts) = .ok text →
      plainWs.index.files.get? (ws.keyBelow base parts) = some (summaryAt (ws.keyBelow base parts) text.content)
  stored_eq : forced.files = plain.files + plain.unchanged
  unchanged_eq : forced.unchanged = 0
  skipped_eq : forced.skipped = plain.skipped
  errors_eq : forced.errors = plain.errors

/-- In every run in which different texts of a file have different digests and all imports can be resolved, indexing the
changed files of a directory and indexing all of its files go through and give the same index, which is up to date; or
there is no such directory, and both say so. -/
theorem incremental_indexing_equals_full (h : Reached history ws) (hdigests : ws.DigestsApart history)
    (hresolves : ws.ImportsResolve history) (path : String) (exclude : List String) :
    match ws.recognisedFiles (Path.ofString path) with
    | .error fault => ∀ force, (indexDirectory path exclude force).run ws = (.error fault, ws)
    | .ok files => ∃ plain plainWs forced forcedWs,
        (indexDirectory path exclude false).run ws =
          (.ok (plain, progressFor (Path.ofString path) files), plainWs) ∧
        (indexDirectory path exclude true).run ws =
          (.ok (forced, progressFor (Path.ofString path) files), forcedWs) ∧
        SameIndexing ws (Path.ofString path) (ws.patternsFor exclude) files plain plainWs forced forcedWs := by
  have hws := h.consistent hdigests hresolves
  simp only [run_indexDirectory]
  cases ws.recognisedFiles (Path.ofString path) with
  | error fault => exact fun _ => rfl
  | ok files =>
    obtain ⟨plain, plainWs, hplain, hp⟩ :=
      indexed_indexFiles hws (Path.ofString path) (ws.patternsFor exclude) false files.length 1 {} files
    obtain ⟨forced, forcedWs, hforced, hf⟩ :=
      indexed_indexFiles hws (Path.ofString path) (ws.patternsFor exclude) true files.length 1 {} files
    have hfiles : ∀ p, plainWs.index.files.get? p = forcedWs.index.files.get? p :=
      fun p => (hp.files_eq p).trans (hf.files_eq p).symm
    have hplainSynced := (hws.moves hp.moves).synced
    have hforcedSynced := (hws.moves hf.moves).synced
    rw [hp.moves.surroundings.2.2] at hplainSynced
    rw [hf.moves.surroundings.2.2] at hforcedSynced
    have hunchanged : forced.unchanged = 0 := hf.unchanged_eq rfl
    have hseen := hf.seen_eq.trans hp.seen_eq.symm
    simp only [hplain, hforced]
    refine ⟨plain, plainWs, forced, forcedWs, rfl, rfl, hfiles, hplainSynced.sameAnswers hforcedSynced hfiles, ?_, ?_,
      hunchanged, hf.skipped_eq.trans hp.skipped_eq.symm, hf.errors_eq.trans hp.errors_eq.symm⟩
    · intro parts hparts hincluded text hread
      have hkey : ws.keyBelow (Path.ofString path) parts ∈
          ws.keysBelow (Path.ofString path) (ws.patternsFor exclude) files :=
        List.mem_map.2 ⟨parts, List.mem_filter.2 ⟨hparts, by rw [hincluded]; rfl⟩, rfl⟩
      rw [hp.files_eq, refreshed_of_ok hread hkey]
    · omega

end Workspace

/-! ### Texts of a tree -/

private theorem FileTree.bytes_of_fileStatus {t : FileTree} {parts : List String} {bytes bytes' : ByteArray}
    (h : t.fileStatus parts bytes' = .file bytes) : bytes' = bytes := by
  rw [fileStatus] at h
  split at h
  · cases h
    rfl
  · cases h

private theorem FileTree.mem_of_statusFrom {t : FileTree} {above parts : List String} {bytes : ByteArray}
    (h : t.statusFrom above parts = .file bytes) : ∃ found, (found, bytes) ∈ t.files := by
  induction parts generalizing above with
  | nil => cases h
  | cons part rest ih =>
    rw [statusFrom] at h
    split at h
    · cases h
    · split at h
      · exact ih h
      · split at h
        · rename_i bytes' hfile
          split at h
          · obtain rfl := bytes_of_fileStatus h
            obtain ⟨before, after, hfiles, -⟩ := List.lookup_eq_some_iff.1 hfile
            exact ⟨above ++ [part], by simp [hfiles]⟩
          · cases h
        · cases h

/-- What is read from a tree is the text of one of its files. -/
private theorem Sources.content_of_read_tree {t : FileTree} {limit : Nat} {key : String} {text : SourceText}
    (h : (Sources.tree t).read limit key = .ok text) :
    ∃ file ∈ t.files, text.content = String.ofList (Text.Utf8.repair (Text.Utf8.decode file.2.data.toList)) := by
  simp only [read] at h
  cases hstatus : t.status (Path.ofString key).parts with
  | file bytes =>
    rw [hstatus] at h
    dsimp only at h
    split at h
    · cases h
    · cases h
      rw [FileTree.status] at hstatus
      split at hstatus
      · cases hstatus
      · obtain ⟨found, hfound⟩ := FileTree.mem_of_statusFrom hstatus
        exact ⟨(found, bytes), hfound, rfl⟩
  | unreadable size cause =>
    rw [hstatus] at h
    dsimp only at h
    split at h
    · cases h
    · cases cause <;> cases h
  | missing | throughFile | nameTooLong | directory =>
    rw [hstatus] at h
    cases h

namespace Workspace

/-! ### A draft that is edited -/

/-- Two files, of which the first will be edited. -/
def draft (first : String) : Sources :=
  .tree { files := [(["a.py"], first.toUTF8), (["b.py"], "def f(): pass\n".toUTF8)] }

/-- The two files have been indexed, and then the first has been edited. -/
def editedDraft : Workspace :=
  { ((indexDirectory "/" [] false).run { sources := draft "def f(): pass\n" }).2 with
    sources := draft "def h(): pass\n" }

/-- The versions of the two files, the edited one first. -/
def draftHistory : List Sources :=
  [draft "def h(): pass\n", draft "def f(): pass\n"]

private def draftTexts : List String :=
  ["def f(): pass\n", "def h(): pass\n"]

/-- The drafts are read as they were written and import nothing, in whatever language they are read, and their digests
differ. -/
private theorem draftTexts_plain : (∀ content ∈ draftTexts,
    String.ofList (Text.Utf8.repair (Text.Utf8.decode content.toUTF8.data.toList)) = content ∧
    (Extract.Python.findings content.toList).outline.imports = [] ∧
    (Extract.JavaScript.findings content.toList).outline.imports = [] ∧
    (Extract.Php.findings content.toList).outline.imports = [] ∧
    (Extract.Generic.findings content.toList).outline.imports = []) ∧
    digestOf "def f(): pass\n" ≠ digestOf "def h(): pass\n" := by
  decide +kernel

private theorem mem_draftTexts {first : String} (hfirst : first ∈ draftTexts) {limit : Nat} {key : String}
    {text : SourceText} (h : (draft first).read limit key = .ok text) : text.content ∈ draftTexts := by
  obtain ⟨file, hfile, hcontent⟩ := Sources.content_of_read_tree h
  rcases List.mem_pair.1 hfile with rfl | rfl
  · rw [hcontent, (draftTexts_plain.1 first hfirst).1]
    exact hfirst
  · rw [hcontent, (draftTexts_plain.1 _ (by decide)).1]
    decide

private theorem readable_draft {ws : Workspace} {key content : String} (h : ws.Readable draftHistory key content) :
    content ∈ draftTexts := by
  obtain ⟨-, src, hsrc, text, hread, rfl⟩ := h
  rcases List.mem_pair.1 hsrc with rfl | rfl
  · exact mem_draftTexts (by decide) hread
  · exact mem_draftTexts (by decide) hread

private theorem digestsApart_draft (ws : Workspace) : ws.DigestsApart draftHistory := by
  have hne := draftTexts_plain.2
  intro key content h content' h' hdigest
  rcases List.mem_pair.1 (readable_draft h) with rfl | rfl <;>
    rcases List.mem_pair.1 (readable_draft h') with rfl | rfl
  · rfl
  · exact absurd hdigest hne
  · exact absurd hdigest.symm hne
  · rfl

private theorem importsResolve_draft (ws : Workspace) : ws.ImportsResolve draftHistory := by
  intro key content h
  obtain ⟨-, hpython, hscript, hphp, hgeneric⟩ := draftTexts_plain.1 content (readable_draft h)
  refine ⟨_, fileRelations_of_no_imports ?_⟩
  rw [imports_summaryAt, findingsIn]
  split_ifs
  · exact hpython
  · exact hscript
  · exact hphp
  · exact hgeneric

private theorem recognisedFiles_editedDraft :
    editedDraft.recognisedFiles (Path.ofString "/") = .ok [["a.py"], ["b.py"]] := by
  have hsources : editedDraft.sources = draft "def h(): pass\n" := rfl
  have hdir : editedDraft.dir = [] := by
    have hmoves := moves_indexDirectory "/" [] false { sources := draft "def f(): pass\n" }
    rw [editedDraft]
    dsimp only
    rw [hmoves.surroundings.2.2]
  have hroot : (draft "def h(): pass\n").fileTree.directoryAt [] (Path.ofString "/") = .found [] := rfl
  have hbelow : (draft "def h(): pass\n").fileTree.filesBelow [] = [["a.py"], ["b.py"]] :=
    List.mergeSort_of_pairwise (by decide)
  have hknown : ([["a.py"], ["b.py"]].filter fun parts =>
      languageOf (Path.toString ⟨.relative, parts⟩) ≠ unknownLanguage) = [["a.py"], ["b.py"]] :=
    rfl
  rw [recognisedFiles, hsources, hdir, hroot]
  dsimp only
  rw [hbelow, hknown]

theorem edited_draft_is_brought_up_to_date :
    Reached draftHistory editedDraft ∧ editedDraft.DigestsApart draftHistory ∧ editedDraft.ImportsResolve draftHistory ∧
    ∃ plain plainWs forced forcedWs,
      (indexDirectory "/" [] false).run editedDraft = (.ok (plain, [⟨"/a.py", 1, 2⟩, ⟨"/b.py", 2, 2⟩]), plainWs) ∧
      (indexDirectory "/" [] true).run editedDraft = (.ok (forced, [⟨"/a.py", 1, 2⟩, ⟨"/b.py", 2, 2⟩]), forcedWs) ∧
      SameIndexing editedDraft (Path.ofString "/") (editedDraft.patternsFor []) [["a.py"], ["b.py"]]
        plain plainWs forced forcedWs := by
  have hreached : Reached draftHistory editedDraft :=
    ((Reached.fresh { sources := draft "def f(): pass\n" } rfl).indexTexts "/" [] false).edit _
  have hprogress : progressFor (Path.ofString "/") [["a.py"], ["b.py"]] = [⟨"/a.py", 1, 2⟩, ⟨"/b.py", 2, 2⟩] :=
    rfl
  have hsame := incremental_indexing_equals_full hreached (digestsApart_draft _) (importsResolve_draft _) "/" []
  rw [recognisedFiles_editedDraft] at hsame
  dsimp only at hsame
  rw [hprogress] at hsame
  exact ⟨hreached, digestsApart_draft _, importsResolve_draft _, hsame⟩

end Workspace

end CallIndex
