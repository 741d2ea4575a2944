import CallIndex.Proofs.WorkspaceRuns

/-!
# Runs over a directory

The files of a directory are dealt with one after the other, and each is reported on.  Patterns that are texts can be
tried on every path; one that is no text makes the run fail at the first file that gets as far as it, and no file gets
past it.

* `Workspace.exclude_texts`: what patterns that are texts leave out.
* `Workspace.index_indexFiles_of_other`: with a pattern that is no text, nothing is stored.
* `Workspace.progress_indexFiles`: what a run has reported when it is done, and when a file has failed.
* `Workspace.run_indexDirectory`: indexing a directory with texts as patterns.
-/

namespace CallIndex.Workspace

/-! ### Patterns -/

private theorem anyMatches_texts (patterns : List String) (part : String) :
    Pattern.anyMatches part (patterns.map .text) = .ok (patterns.any fun p => Text.Glob.matchesText p part) := by
  induction patterns with
  | nil => rfl
  | cons p rest ih =>
    rw [List.map_cons, Pattern.anyMatches, ih, List.any_cons]
    cases Text.Glob.matchesText p part <;> rfl

/-- Patterns that are texts can be tried on every path. -/
theorem exclude_texts (patterns parts : List String) :
    Pattern.exclude (patterns.map .text) parts = .ok (isExcluded patterns parts) := by
  induction parts with
  | nil => rfl
  | cons part rest ih =>
    have hparts : isExcluded patterns (part :: rest) =
        (decide (part.toList.head? = some '.') || (patterns.any fun p => Text.Glob.matchesText p part) ||
          isExcluded patterns rest) := List.any_cons
    rw [Pattern.exclude, anyMatches_texts, ih, hparts]
    by_cases hhidden : part.toList.head? = some '.'
    · rw [if_pos hhidden, decide_eq_true hhidden]
      rfl
    · rw [if_neg hhidden, decide_eq_false hhidden]
      cases patterns.any fun p => Text.Glob.matchesText p part <;> rfl

/-- A pattern that is no text cannot be tried, and no component passes it. -/
private theorem anyMatches_of_other {patterns : List Pattern} {type : String} (h : .other type ∈ patterns)
    (part : String) : Pattern.anyMatches part patterns ≠ .ok false := by
  induction patterns with
  | nil => cases h
  | cons p rest ih =>
    cases p with
    | other type => exact fun hok => nomatch hok
    | text p =>
      have hrest := ih (by simpa using h)
      rw [Pattern.anyMatches]
      split
      · simp
      · exact hrest

/-- So no path passes it. -/
private theorem exclude_of_other {patterns : List Pattern} {type : String} (h : .other type ∈ patterns)
    {parts : List String} (hparts : parts ≠ []) : Pattern.exclude patterns parts ≠ .ok false := by
  cases parts with
  | nil => exact absurd rfl hparts
  | cons part rest =>
    have hpart := anyMatches_of_other h part
    rw [Pattern.exclude]
    split
    · simp
    · cases hany : Pattern.anyMatches part patterns with
      | error fault => exact fun hok => nomatch hok
      | ok found =>
        cases found with
        | true => exact fun hok => nomatch hok
        | false => exact absurd hany hpart

/-- Patterns of which none fails are texts. -/
private theorem exists_texts {patterns : List Pattern} (h : ∀ type, .other type ∉ patterns) :
    ∃ texts : List String, patterns = texts.map .text := by
  induction patterns with
  | nil => exact ⟨[], rfl⟩
  | cons p rest ih =>
    obtain ⟨texts, rfl⟩ := ih fun type hmem => h type (List.mem_cons_of_mem _ hmem)
    cases p with
    | other type => exact absurd List.mem_cons_self (h type)
    | text p => exact ⟨p :: texts, rfl⟩

theorem exists_exclude {patterns : List Pattern} (h : ∀ type, .other type ∉ patterns) (parts : List String) :
    ∃ excluded, Pattern.exclude patterns parts = .ok excluded := by
  obtain ⟨texts, rfl⟩ := exists_texts h
  exact ⟨_, exclude_texts texts parts⟩

/-- Where a pattern is no text, nothing is stored: a run fails at the first file that is not left out before the
pattern is met. -/
theorem index_indexFiles_of_other {patterns : List Pattern} {type : String} (h : .other type ∈ patterns) (base : Path)
    (force : Bool) (total number : Nat) (report : IndexReport) {files : List (List String)}
    (hfiles : ∀ parts ∈ files, parts ≠ []) (ws : Workspace) :
    ((indexFiles base patterns force total number report files).run ws).2.index = ws.index := by
  induction files generalizing number report ws with
  | nil => rfl
  | cons parts rest ih =>
    have hpasses := exclude_of_other h (hfiles parts List.mem_cons_self)
    rw [run_indexFiles_cons, run_indexPlace]
    cases hexclude : Pattern.exclude patterns parts with
    | error fault => rfl
    | ok excluded =>
      cases excluded with
      | false => exact absurd hexclude hpasses
      | true =>
        exact ih (number + 1) _ (fun parts' hparts' => hfiles parts' (List.mem_cons_of_mem _ hparts'))
          (ws.announced (progressAt base total number parts))

theorem map_patternsFor (ws : Workspace) (exclude : List String) :
    (ws.patternsFor []).map Pattern.text ++ exclude.map .text = (ws.patternsFor exclude).map .text := by
  simp only [patternsFor, List.append_nil, List.map_append]

/-! ### Reports on files -/

/-- The reports on files, one after the other, of which the first is the file `number` of `total` ones. -/
def progressFrom (base : Path) (total number : Nat) (files : List (List String)) : List Progress :=
  (files.zipIdx number).map fun (parts, i) => progressAt base total i parts

/-- The progress that a run reports, file by file. -/
def progressFor (base : Path) (files : List (List String)) : List Progress :=
  progressFrom base files.length 1 files

theorem progressFrom_cons (base : Path) (total number : Nat) (parts : List String) (files : List (List String)) :
    progressFrom base total number (parts :: files) =
      progressAt base total number parts :: progressFrom base total (number + 1) files :=
  rfl

/-- A file is reported on when it has been dealt with, and not before. -/
private theorem progress_indexPlace (base : Path) (patterns : List Pattern) (force : Bool) (report : IndexReport)
    (parts : List String) (ws : Workspace) :
    ((indexPlace base patterns force report parts).run ws).2.progress = ws.progress := by
  rw [run_indexPlace]
  cases Pattern.exclude patterns parts with
  | error fault => rfl
  | ok excluded =>
    cases excluded with
    | true => rfl
    | false =>
      dsimp only
      rw [run_indexFile]
      cases ws.read (ws.keyBelow base parts) with
      | error cause => rfl
      | ok text =>
        dsimp only
        split <;> rfl

/-- A run has reported on all files when it is done, and on those before the file that failed when one has. -/
theorem progress_indexFiles (base : Path) (patterns : List Pattern) (force : Bool) (total number : Nat)
    (report : IndexReport) (files : List (List String)) (ws : Workspace) :
    ∃ dealt, dealt <+: files ∧
      ((indexFiles base patterns force total number report files).run ws).2.progress =
        ws.progress ++ progressFrom base total number dealt ∧
      (((indexFiles base patterns force total number report files).run ws).1.isOk = true ↔ dealt = files) := by
  induction files generalizing number report ws with
  | nil => exact ⟨[], List.prefix_refl _, (List.append_nil _).symm, iff_of_true rfl rfl⟩
  | cons parts rest ih =>
    have hplace := progress_indexPlace base patterns force report parts ws
    rw [run_indexFiles_cons]
    rcases hrun : (indexPlace base patterns force report parts).run ws with ⟨outcome, ws'⟩
    rw [hrun] at hplace
    cases outcome with
    | error fault =>
      refine ⟨[], List.nil_prefix, ?_, iff_of_false Bool.false_ne_true (List.cons_ne_nil _ _).symm⟩
      rw [progressFrom, List.zipIdx_nil, List.map_nil, List.append_nil]
      exact hplace
    | ok report' =>
      obtain ⟨dealt, hdealt, hprogress, hall⟩ :=
        ih (number + 1) report' (ws'.announced (progressAt base total number parts))
      refine ⟨parts :: dealt, List.cons_prefix_cons.2 ⟨rfl, hdealt⟩, ?_, ?_⟩
      · rw [hprogress, progressFrom_cons, announced, hplace, List.append_assoc]
        rfl
      · rw [hall, List.cons.injEq]
        simp only [true_and]

theorem progress_of_indexFiles_ok {base : Path} {patterns : List Pattern} {force : Bool} {total number : Nat}
    {report report' : IndexReport} {files : List (List String)} {ws ws' : Workspace}
    (hrun : (indexFiles base patterns force total number report files).run ws = (.ok report', ws')) :
    ws'.progress = ws.progress ++ progressFrom base total number files := by
  obtain ⟨dealt, -, hprogress, hall⟩ := progress_indexFiles base patterns force total number report files ws
  rw [hrun] at hprogress hall
  rw [hprogress, hall.1 rfl]

/-- Indexing a directory with texts as patterns, and what it reports. -/
theorem run_indexDirectory (path : String) (exclude : List String) (force : Bool) (ws : Workspace) :
    (indexDirectory path exclude force).run ws = match ws.recognisedFiles (Path.ofString path) with
      | .error fault => (.error fault, ws)
      | .ok files =>
        match (indexFiles (Path.ofString path) ((ws.patternsFor exclude).map .text) force files.length 1 {} files).run
            ws with
        | (.ok report, ws') => (.ok (report, progressFor (Path.ofString path) files), ws')
        | (.error fault, ws') => (.error fault, ws') := by
  simp only [indexDirectory, run_bind, run_get, run_indexDirectoryBy, map_patternsFor]
  cases ws.recognisedFiles (Path.ofString path) with
  | error fault => rfl
  | ok files =>
    dsimp only
    rcases hrun : (indexFiles _ _ force files.length 1 {} files).run ws with ⟨outcome, ws'⟩
    cases outcome with
    | error fault => rfl
    | ok report =>
      dsimp only
      rw [run_pure, progress_of_indexFiles_ok hrun, List.drop_left, progressFor]

theorem state_indexDirectory (path : String) (exclude : List String) (force : Bool) (ws : Workspace) :
    ((indexDirectory path exclude force).run ws).2 =
      ((indexDirectoryBy path (exclude.map .text) force).run ws).2 := by
  rw [run_indexDirectory, run_indexDirectoryBy, map_patternsFor]
  cases ws.recognisedFiles (Path.ofString path) with
  | error fault => rfl
  | ok files =>
    dsimp only
    rcases (indexFiles _ _ force files.length 1 {} files).run ws with ⟨outcome, ws'⟩
    cases outcome <;> rfl

theorem moves_indexDirectory (path : String) (exclude : List String) (force : Bool) (ws : Workspace) :
    Moves ws ((indexDirectory path exclude force).run ws).2 := by
  rw [state_indexDirectory]
  exact moves_indexDirectoryBy ..

theorem Reached.indexTexts {history : List Sources} {ws : Workspace} (h : Reached history ws) (path : String)
    (exclude : List String) (force : Bool) :
    Reached history ((Workspace.indexDirectory path exclude force).run ws).2 := by
  rw [state_indexDirectory]
  exact h.indexDirectory path _ force

end CallIndex.Workspace
