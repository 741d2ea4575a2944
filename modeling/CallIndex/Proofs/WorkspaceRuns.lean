import CallIndex.Proofs.EntryKeys
import CallIndex.Proofs.Lockstep
import CallIndex.Workspace

/-!
# Runs of a workspace

Files are analysed one by one or by directories, forgotten, and edited behind the back of the workspace, in any order
(`Workspace.Reached`, which keeps the versions of the sources).  All that an action does to the index is told once
(`Workspace.Moves`): it stores summaries of texts that can be read, deletes and clears.

* `Workspace.Reached.induct` gives what every run keeps from what these steps keep.
* `Workspace.keys_identify_entries`: keys are never confused, and every entry is found by its key and by its names.
-/

namespace CallIndex

namespace Workspace

variable {ε α β : Type}

/-! ### What actions give -/

theorem run_bind (x : ExceptT ε (StateM Workspace) α) (f : α → ExceptT ε (StateM Workspace) β) (ws : Workspace) :
    (x >>= f).run ws = match x.run ws with
      | (.ok a, ws') => (f a).run ws'
      | (.error e, ws') => (.error e, ws') := by
  change (match ExceptT.run x ws with | (r, ws') => ExceptT.bindCont f r ws') = _
  rcases ExceptT.run x ws with ⟨r, ws'⟩
  cases r <;> rfl

theorem run_pure (a : α) (ws : Workspace) : (pure a : ExceptT ε (StateM Workspace) α).run ws = (.ok a, ws) :=
  rfl

theorem run_get (ws : Workspace) : (MonadState.get : ExceptT ε (StateM Workspace) Workspace).run ws = (.ok ws, ws) :=
  rfl

theorem run_set (ws ws' : Workspace) : (set ws' : Action PUnit).run ws = (.ok ⟨⟩, ws') :=
  rfl

theorem run_modify (f : Workspace → Workspace) (ws : Workspace) :
    (modify f : Action PUnit).run ws = (.ok ⟨⟩, f ws) :=
  rfl

private theorem run_onIndex (f : Index → Index × Except Fault α) (ws : Workspace) :
    (onIndex f).run ws = ((f ws.index).2, { ws with index := (f ws.index).1 }) := by
  simp only [onIndex, run_bind, run_get, run_set]
  rcases f ws.index with ⟨index, outcome⟩
  cases outcome <;> rfl

theorem run_ask (f : Workspace → Except Fault α) (ws : Workspace) : (ask f).run ws = (f ws, ws) := by
  simp only [ask, run_bind, run_get]
  cases f ws <;> rfl

/-- The workspace with messages added to its log. -/
def logged (ws : Workspace) (messages : List String) : Workspace :=
  { ws with log := ws.log ++ messages }

/-- The workspace with a report on a file added to its progress. -/
def announced (ws : Workspace) (p : Progress) : Workspace :=
  { ws with progress := ws.progress ++ [p] }

/-- What is logged when a text is read. -/
def readingNotes (key : String) (text : SourceText) : List String :=
  if text.isRepaired then [key ++ ": undecodable bytes replaced"] else []

/-- Reads a file by its key. -/
def read (ws : Workspace) (key : String) : Except SourceFault SourceText :=
  ws.sources.read ws.settings.maxFileSize key

/-- Stores the summary of a text under a key. -/
def stores (ws : Workspace) (key content : String) : Index × Except Fault Unit :=
  ws.index.put ws.dir key (summaryAt key content)

/-- The workspace after a text has been read and its summary stored. -/
def stored (ws : Workspace) (key : String) (text : SourceText) : Workspace :=
  { (ws.logged (readingNotes key text)).logged (summarize (languageOf key) key text.content).2 with
    index := (ws.stores key text.content).1 }

theorem run_readSource (key : String) (ws : Workspace) :
    (readSource key).run ws = match ws.read key with
      | .error cause => (.error (.source cause), ws)
      | .ok text => (.ok text.content, ws.logged (readingNotes key text)) := by
  simp only [readSource, run_bind, run_get]
  change (match ws.read key with | .error cause => _ | .ok text => _ : Action String).run ws = _
  cases ws.read key with
  | error cause => rfl
  | ok text =>
    obtain ⟨content, isRepaired⟩ := text
    cases isRepaired with
    | false => simp [readingNotes, logged, run_pure]
    | true => rfl

theorem index_stored (ws : Workspace) (key : String) (text : SourceText) :
    (ws.stored key text).index = (ws.stores key text.content).1 :=
  rfl

private theorem run_analyzeContent (key content : String) (ws : Workspace) :
    (analyzeContent key content).run ws =
      ((ws.stores key content).2.map fun _ => summaryAt key content,
        { ws.logged (summarize (languageOf key) key content).2 with index := (ws.stores key content).1 }) := by
  simp only [analyzeContent, put, run_bind, run_modify, run_get, run_onIndex, stores, summaryAt]
  rcases ws.index.put ws.dir key (summarize (languageOf key) key content).1 with ⟨index, outcome⟩
  cases outcome <;> rfl

theorem run_analyze (path : String) (ws : Workspace) :
    (analyze path).run ws = match ws.keyOf path with
      | .error fault => (.error fault, ws)
      | .ok key =>
        match ws.read key with
        | .error cause => (.error (.source cause), ws)
        | .ok text =>
          ((ws.stores key text.content).2.map fun _ => summaryAt key text.content, ws.stored key text) := by
  simp only [analyze, run_bind, run_ask]
  cases ws.keyOf path with
  | error fault => rfl
  | ok key =>
    simp only [run_readSource]
    cases ws.read key with
    | error cause => rfl
    | ok text => exact run_analyzeContent key text.content _

/-- One file of a directory: it cannot be read, is known already, or is stored. -/
theorem run_indexFile (key : String) (force : Bool) (report : IndexReport) (ws : Workspace) :
    (indexFile key force report).run ws = match ws.read key with
      | .error cause =>
        (.ok { report with errors := report.errors ++ [cause.message] },
          ws.logged ["Skipping " ++ key ++ ": " ++ cause.message])
      | .ok text =>
        if !force && !ws.index.isStale key (digestOf text.content) then
          (.ok { report with unchanged := report.unchanged + 1 }, ws.logged (readingNotes key text))
        else
          (do
            (ws.stores key text.content).2
            let entries ← ((ws.stores key text.content).1.symbols.inFile key).mapError Fault.dangling
            return { report with
              files := report.files + 1
              symbols := report.symbols + entries.length
              calls := report.calls + (summaryAt key text.content).calls.length },
            ws.stored key text) := by
  simp only [indexFile, run_bind, run_get]
  change (match ws.read key with | .error cause => _ | .ok _ => _ : Action IndexReport).run ws = _
  cases hread : ws.read key with
  | error cause => rfl
  | ok text =>
    simp only [run_bind, run_readSource, hread]
    split
    · rfl
    · have hstore : (analyzeContent key text.content).run (ws.logged (readingNotes key text)) =
          ((ws.stores key text.content).2.map fun _ => summaryAt key text.content, ws.stored key text) :=
        run_analyzeContent key text.content _
      simp only [run_bind, hstore, run_ask]
      cases (ws.stores key text.content).2 with
      | error fault => rfl
      | ok _ =>
        simp only [Except.map, index_stored]
        cases ((ws.stores key text.content).1.symbols.inFile key).mapError Fault.dangling <;> rfl

/-! ### What actions do -/

/-- What actions do to a workspace: files that can be read are stored under absolute keys, keys are deleted, the index
is cleared, messages are logged, and files are reported on. -/
inductive Moves (ws : Workspace) : Workspace → Prop
  | refl : Moves ws ws
  | logged {ws' : Workspace} (h : Moves ws ws') (messages : List String) : Moves ws (ws'.logged messages)
  | announced {ws' : Workspace} (h : Moves ws ws') (p : Progress) : Moves ws (ws'.announced p)
  | stored {ws' : Workspace} (h : Moves ws ws') {key : String} {text : SourceText}
      (habsolute : key.toList.head? = some '/') (hread : ws'.read key = .ok text) : Moves ws (ws'.stored key text)
  | delete {ws' : Workspace} (h : Moves ws ws') (key : String) :
      Moves ws { ws' with index := (ws'.index.delete key).1 }
  | clear {ws' : Workspace} (h : Moves ws ws') : Moves ws { ws' with index := ws'.index.clear }

theorem Moves.trans {ws₁ ws₂ ws₃ : Workspace} (h : Moves ws₁ ws₂) (h' : Moves ws₂ ws₃) : Moves ws₁ ws₃ := by
  induction h' with
  | refl => exact h
  | logged _ messages ih => exact ih.logged messages
  | announced _ p ih => exact ih.announced p
  | stored _ habsolute hread ih => exact ih.stored habsolute hread
  | delete _ key ih => exact ih.delete key
  | clear _ ih => exact ih.clear

/-- Actions leave the sources, the settings and the working directory alone. -/
theorem Moves.surroundings {ws ws' : Workspace} (h : Moves ws ws') :
    ws'.sources = ws.sources ∧ ws'.settings = ws.settings ∧ ws'.dir = ws.dir := by
  induction h with
  | refl => exact ⟨rfl, rfl, rfl⟩
  | logged _ _ ih => exact ih
  | announced _ _ ih => exact ih
  | stored _ _ _ ih => exact ih
  | delete _ _ ih => exact ih
  | clear _ ih => exact ih

theorem Moves.read_eq {ws ws' : Workspace} (h : Moves ws ws') : ws'.read = ws.read := by
  obtain ⟨hsources, hsettings, -⟩ := h.surroundings
  funext key
  rw [read, read, hsources, hsettings]

theorem head?_toString_resolve (dir : List String) (p : Path) : (p.resolve dir).toString.toList.head? = some '/' := by
  have hroot : (p.resolve dir).root = .slash := by
    unfold Path.resolve
    split <;> rfl
  simp only [Path.toString, hroot]
  rw [String.toList_append]
  rfl

theorem absolute_of_keyOf {ws : Workspace} {path key : String} (h : ws.keyOf path = .ok key) :
    key.toList.head? = some '/' := by
  unfold keyOf at h
  split at h
  · cases h
  · cases h
    exact head?_toString_resolve ws.dir _

theorem moves_analyze (path : String) (ws : Workspace) : Moves ws ((analyze path).run ws).2 := by
  rw [run_analyze]
  cases hkey : ws.keyOf path with
  | error fault => exact .refl
  | ok key =>
    dsimp only
    cases hread : ws.read key with
    | error cause => exact .refl
    | ok text => exact Moves.refl.stored (absolute_of_keyOf hkey) hread

theorem run_forget_some (path : String) (ws : Workspace) :
    (forget (some path)).run ws = match ws.keyOf path with
      | .error fault => (.error fault, ws)
      | .ok key => ((ws.index.delete key).2.map fun _ => (), { ws with index := (ws.index.delete key).1 }) := by
  simp only [forget, run_bind, run_ask, run_onIndex]
  cases ws.keyOf path with
  | error fault => rfl
  | ok key =>
    dsimp only
    cases (ws.index.delete key).2 <;> rfl

theorem moves_forget (path : Option String) (ws : Workspace) : Moves ws ((forget path).run ws).2 := by
  cases path with
  | none => exact Moves.refl.clear
  | some path =>
    rw [run_forget_some]
    cases ws.keyOf path with
    | error fault => exact .refl
    | ok key => exact Moves.refl.delete key

theorem moves_indexFile {key : String} (habsolute : key.toList.head? = some '/') (force : Bool) (report : IndexReport)
    (ws : Workspace) : Moves ws ((indexFile key force report).run ws).2 := by
  rw [run_indexFile]
  cases hread : ws.read key with
  | error cause => exact Moves.refl.logged _
  | ok text =>
    dsimp only
    split
    · exact Moves.refl.logged _
    · exact Moves.refl.stored habsolute hread

/-- The key of the file at the place `parts` below a directory. -/
def keyBelow (ws : Workspace) (base : Path) (parts : List String) : String :=
  (Path.resolve ws.dir { base with parts := base.parts ++ parts }).toString

theorem Moves.keyBelow_eq {ws ws' : Workspace} (h : Moves ws ws') (base : Path) :
    ws'.keyBelow base = ws.keyBelow base := by
  funext parts
  rw [keyBelow, keyBelow, h.surroundings.2.2]

theorem run_indexPlace (base : Path) (patterns : List Pattern) (force : Bool) (report : IndexReport)
    (parts : List String) (ws : Workspace) :
    (indexPlace base patterns force report parts).run ws = match Pattern.exclude patterns parts with
      | .error fault => (.error fault, ws)
      | .ok true => (.ok { report with skipped := report.skipped + 1 }, ws)
      | .ok false => (indexFile (ws.keyBelow base parts) force report).run ws := by
  simp only [indexPlace, run_bind, run_ask]
  cases Pattern.exclude patterns parts with
  | error fault => rfl
  | ok excluded =>
    cases excluded with
    | true => rfl
    | false =>
      simp only [Bool.false_eq_true, ↓reduceIte, run_bind, run_get]
      rfl

theorem moves_indexPlace (base : Path) (patterns : List Pattern) (force : Bool) (report : IndexReport)
    (parts : List String) (ws : Workspace) : Moves ws ((indexPlace base patterns force report parts).run ws).2 := by
  rw [run_indexPlace]
  cases Pattern.exclude patterns parts with
  | error fault => exact .refl
  | ok excluded =>
    cases excluded with
    | true => exact .refl
    | false => exact moves_indexFile (head?_toString_resolve ws.dir _) force report ws

/-- The report on the file at the place `parts` below a directory, which is the file `number` of `total` ones. -/
def progressAt (base : Path) (total number : Nat) (parts : List String) : Progress :=
  ⟨Path.toString { base with parts := base.parts ++ parts }, number, total⟩

theorem run_indexFiles_cons (base : Path) (patterns : List Pattern) (force : Bool) (total number : Nat)
    (report : IndexReport) (parts : List String) (rest : List (List String)) (ws : Workspace) :
    (indexFiles base patterns force total number report (parts :: rest)).run ws =
      match (indexPlace base patterns force report parts).run ws with
      | (.ok report, ws') =>
        (indexFiles base patterns force total (number + 1) report rest).run
          (ws'.announced (progressAt base total number parts))
      | (.error fault, ws') => (.error fault, ws') := by
  rw [indexFiles, run_bind]
  rcases (indexPlace base patterns force report parts).run ws with ⟨outcome, ws'⟩
  cases outcome <;> rfl

private theorem moves_indexFiles (base : Path) (patterns : List Pattern) (force : Bool) (total number : Nat)
    (report : IndexReport) (files : List (List String)) (ws : Workspace) :
    Moves ws ((indexFiles base patterns force total number report files).run ws).2 := by
  induction files generalizing number report ws with
  | nil => exact .refl
  | cons parts rest ih =>
    have hplace := moves_indexPlace base patterns force report parts ws
    rw [run_indexFiles_cons]
    rcases hrun : (indexPlace base patterns force report parts).run ws with ⟨outcome, ws'⟩
    rw [hrun] at hplace
    cases outcome with
    | error fault => exact hplace
    | ok report' => exact (hplace.announced _).trans (ih _ report' _)

/-- A recognised file has components: nothing is recognised without a name. -/
theorem ne_nil_of_recognisedFiles {ws : Workspace} {base : Path} {files : List (List String)}
    (h : ws.recognisedFiles base = .ok files) : ∀ parts ∈ files, parts ≠ [] := by
  rintro parts hparts rfl
  unfold recognisedFiles at h
  split at h
  · cases h
  · cases h
  · cases h
    exact absurd rfl (of_decide_eq_true (List.mem_filter.1 hparts).2)

/-- The patterns of what a run leaves out. -/
def patternsFor (ws : Workspace) (exclude : List String) : List String :=
  defaultExcludes ++ ws.settings.exclude ++ exclude

theorem run_indexDirectoryBy (path : String) (exclude : List Pattern) (force : Bool) (ws : Workspace) :
    (indexDirectoryBy path exclude force).run ws = match ws.recognisedFiles (Path.ofString path) with
      | .error fault => (.error fault, ws)
      | .ok files =>
        (indexFiles (Path.ofString path) ((ws.patternsFor []).map .text ++ exclude) force files.length 1 {} files).run
          ws := by
  simp only [indexDirectoryBy, run_bind, run_ask, run_get]
  cases ws.recognisedFiles (Path.ofString path) with
  | error fault => rfl
  | ok files =>
    dsimp only [patternsFor]
    rw [List.append_nil]

theorem moves_indexDirectoryBy (path : String) (exclude : List Pattern) (force : Bool) (ws : Workspace) :
    Moves ws ((indexDirectoryBy path exclude force).run ws).2 := by
  rw [run_indexDirectoryBy]
  cases ws.recognisedFiles (Path.ofString path) with
  | error fault => exact .refl
  | ok files => exact moves_indexFiles ..

/-! ### Runs -/

/-- A workspace that is reached from one with an empty index by analysing files and directories, forgetting and editing
the sources, and the versions of the sources on the way, the present one first.  Actions may fail. -/
inductive Reached : List Sources → Workspace → Prop
  | fresh (ws : Workspace) (h : ws.index = {}) : Reached [ws.sources] ws
  | edit {history : List Sources} {ws : Workspace} (h : Reached history ws) (sources : Sources) :
      Reached (sources :: history) { ws with sources := sources }
  | analyze {history : List Sources} {ws : Workspace} (h : Reached history ws) (path : String) :
      Reached history ((analyze path).run ws).2
  | indexDirectory {history : List Sources} {ws : Workspace} (h : Reached history ws) (path : String)
      (exclude : List Pattern) (force : Bool) : Reached history ((indexDirectoryBy path exclude force).run ws).2
  | forget {history : List Sources} {ws : Workspace} (h : Reached history ws) (path : Option String) :
      Reached history ((forget path).run ws).2

/-- What holds of an empty index, is not touched by edits and is kept by the moves of actions, holds in every run. -/
theorem Reached.induct {P : List Sources → Workspace → Prop} (hfresh : ∀ ws, ws.index = {} → P [ws.sources] ws)
    (hedit : ∀ history ws sources, P history ws → P (sources :: history) { ws with sources := sources })
    (hmoves : ∀ history ws ws', P history ws → Moves ws ws' → P history ws') {history : List Sources} {ws : Workspace}
    (h : Reached history ws) : P history ws := by
  induction h with
  | fresh ws hempty => exact hfresh ws hempty
  | edit _ sources ih => exact hedit _ _ sources ih
  | analyze _ path ih => exact hmoves _ _ _ ih (moves_analyze path _)
  | indexDirectory _ path exclude force ih => exact hmoves _ _ _ ih (moves_indexDirectoryBy path exclude force _)
  | forget _ path ih => exact hmoves _ _ _ ih (moves_forget path _)

end Workspace

/-! ### The symbol table of a run -/

/-- The table has registered analysed files with absolute paths. -/
def SymbolTable.OfAnalysed (t : SymbolTable) : Prop :=
  ∃ live, t.Registers live ∧ ∀ s ∈ live, s.Analysed ∧ s.path.toList.head? = some '/'

namespace SymbolTable.OfAnalysed

variable {t : SymbolTable}

/-- An analysed file is registered, and its entries are those that are kept of it. -/
theorem registerFile_ok (h : t.OfAnalysed) {s : FileSummary} (hs : s.Analysed)
    (hpath : s.path.toList.head? = some '/') :
    ∃ t', t.registerFile s = (t', .ok s.settled.length) ∧ t'.OfAnalysed ∧ t'.inFile s.path = .ok s.settled ∧
      (s.settled.map SymbolEntry.key).Nodup := by
  obtain ⟨live, hlive, hfiles⟩ := h
  have hall : ∀ x ∈ (live.filter fun x => x.path ≠ s.path) ++ [s], x.Analysed ∧ x.path.toList.head? = some '/' := by
    intro x hx
    rcases List.mem_append.1 hx with hx | hx
    · exact hfiles x (List.mem_filter.1 hx).1
    · rw [List.mem_singleton.1 hx]
      exact ⟨hs, hpath⟩
  obtain ⟨t', ht', hregisters⟩ := hlive.registerFile (KeysApart.of_analysed fun x hx => (hall x hx).1)
  have hmem := List.mem_append_right (live.filter fun x => x.path ≠ s.path) (List.mem_singleton_self s)
  exact ⟨t', ht', ⟨_, hregisters, hall⟩, hregisters.inFile_of_mem hmem, hregisters.nodup_keys_settled hmem⟩

private theorem registerFile (h : t.OfAnalysed) {s : FileSummary} (hs : s.Analysed)
    (hpath : s.path.toList.head? = some '/') :
    (t.registerFile s).1.OfAnalysed := by
  obtain ⟨t', ht', hregistered, -⟩ := h.registerFile_ok hs hpath
  rw [ht']
  exact hregistered

private theorem removeFile (h : t.OfAnalysed) (path : String) : (t.removeFile path).1.OfAnalysed := by
  obtain ⟨live, hlive, hfiles⟩ := h
  obtain ⟨t', ht', hregisters⟩ := hlive.removeFile path
  rw [ht']
  exact ⟨_, hregisters, fun x hx => hfiles x (List.mem_filter.1 hx).1⟩

/-- The entries of such a table are named, and their paths are absolute. -/
theorem exists_holds (h : t.OfAnalysed) :
    ∃ L, t.Holds L ∧ (∀ e ∈ L, e.Named) ∧ ∀ e ∈ L, e.path.toList.head? = some '/' := by
  obtain ⟨live, hlive, hfiles⟩ := h
  refine ⟨_, hlive.holds, ?_, ?_⟩
  · intro e he
    obtain ⟨s, hs, hes⟩ := List.mem_flatMap.1 he
    exact (hfiles s hs).1.named (mem_of_mem_settle hes)
  · intro e he
    obtain ⟨s, hs, hes⟩ := List.mem_flatMap.1 he
    rw [FileSummary.path_of_mem_settled hes]
    exact (hfiles s hs).2

private theorem findsEntries (h : t.OfAnalysed) : t.FindsEntries := by
  obtain ⟨L, hholds, hnamed, hpath⟩ := h.exists_holds
  exact hholds.findsEntries hnamed hpath

end SymbolTable.OfAnalysed

theorem FileSummary.relocate_self {s : FileSummary} {path : String} (h : s.path = path) : s.relocate path = s := by
  rw [relocate, if_pos h]

/-- Whether or not the relations of a file can be told, its symbols are registered. -/
private theorem Index.symbols_put (dir : List String) (ix : Index) (path : String) (s : FileSummary) :
    (ix.put dir path s).1.symbols = (ix.symbols.registerFile (s.relocate path)).1 := by
  unfold put
  dsimp only
  split
  · rename_i symbols e h
    rw [h]
  · rename_i symbols n h
    rw [h]
    dsimp only
    split <;> rfl

private theorem Index.symbols_delete (ix : Index) (path : String) :
    (ix.delete path).1.symbols = (ix.symbols.removeFile path).1 := by
  unfold delete
  split <;> rename_i h <;> rw [h]

namespace Workspace

theorem Moves.ofAnalysed {ws ws' : Workspace} (h : Moves ws ws') (hws : ws.index.symbols.OfAnalysed) :
    ws'.index.symbols.OfAnalysed := by
  induction h with
  | refl => exact hws
  | logged _ _ ih => exact ih
  | announced _ _ ih => exact ih
  | @stored ws' _ key text habsolute _ ih =>
    rw [index_stored, stores, Index.symbols_put, FileSummary.relocate_self (path_summaryAt key text.content)]
    exact ih.registerFile (analysed_summaryAt key text.content) habsolute
  | delete _ key ih =>
    rw [Index.symbols_delete]
    exact ih.removeFile key
  | clear _ _ => exact ⟨[], SymbolTable.registers_nil, by simp⟩

theorem Reached.ofAnalysed {history : List Sources} {ws : Workspace} (h : Reached history ws) :
    ws.index.symbols.OfAnalysed := by
  apply h.induct (P := fun _ ws => ws.index.symbols.OfAnalysed)
  · intro ws hempty
    rw [hempty]
    exact ⟨[], SymbolTable.registers_nil, by simp⟩
  · exact fun _ _ _ hws => hws
  · exact fun _ _ _ hws hmoves => hmoves.ofAnalysed hws

/-- Keys of analysed files are never confused: a key tells the path and the qualified name, whatever the texts of the
files.  So in every run each entry is found by its key, by its name and, for methods, by its class and name, and each
class with its methods, in the order of the entries. -/
theorem keys_identify_entries {history : List Sources} {ws : Workspace} (h : Reached history ws) :
    (∀ path path' content content', ∀ e ∈ (summaryAt path content).entries,
      ∀ e' ∈ (summaryAt path' content').entries,
        SymbolEntry.keyOf path e.qualifiedName = SymbolEntry.keyOf path' e'.qualifiedName →
          path = path' ∧ e.qualifiedName = e'.qualifiedName) ∧
      ws.index.symbols.FindsEntries := by
  refine ⟨?_, h.ofAnalysed.findsEntries⟩
  intro path path' content content' e he e' he' hkey
  have hpath : e.path = path := FileSummary.path_of_mem_entries he
  have hpath' : e'.path = path' := FileSummary.path_of_mem_entries he'
  apply key_injective_of_summaryAt he he'
  rw [SymbolEntry.key, SymbolEntry.key, hpath, hpath']
  exact hkey

/-- A file with a class and a method, and a file whose path spells the beginning of the key of that method. -/
def lookalikeFiles : Workspace :=
  { sources := .texts [("/a.py", "class A:\n def m(self): pass\n"), ("/a.py:A:", "def m(self): pass\n")] }

/-- The symbols after a file has been analysed. -/
theorem symbols_analyze {ws : Workspace} {path key : String} {text : SourceText} (hkey : ws.keyOf path = .ok key)
    (hread : ws.read key = .ok text) :
    ((analyze path).run ws).2.index.symbols = (ws.index.symbols.registerFile (summaryAt key text.content)).1 := by
  rw [run_analyze, hkey]
  dsimp only
  rw [hread]
  dsimp only
  rw [index_stored, stores, Index.symbols_put, FileSummary.relocate_self (path_summaryAt key text.content)]

private theorem lookalike_entries :
    (summaryAt "/a.py" "class A:\n def m(self): pass\n").entries =
      [⟨"/a.py", .ofClass ⟨"A", 1, ["m"], [], [], []⟩⟩, ⟨"/a.py", .ofMethod ⟨"A", "m", 2, [], false, false⟩⟩] := by
  have hlanguage : languageOf "/a.py" = "python" := rfl
  have houtline : (findingsIn "python" "class A:\n def m(self): pass\n".toList).outline =
      { classes := [⟨"A", 1, ["m"], [], [], []⟩], methods := [⟨"A", "m", 2, [], false, false⟩],
        declared := [(1, "A"), (2, "m")] } := by
    decide +kernel
  rw [summaryAt, summarize, hlanguage]
  simp only [FileSummary.entries, Extract.Findings.summary, houtline]
  rfl

private theorem lookalike_keys :
    ((analyze "/a.py:A:").run ((analyze "/a.py").run lookalikeFiles).2).2.index.symbols.entries.keys =
      ["/a.py:A", "/a.py:A::m"] := by
  -- the language of the second file is not known, so it has no entries
  have hnone : (summaryAt "/a.py:A:" "def m(self): pass\n").entries = [] := by
    have hcolon : "/a.py:A:".toList = "/a.py:A".toList ++ [':'] := rfl
    rw [summaryAt, languageOf_of_colon hcolon]
    rfl
  have hkey : ∀ ws : Workspace, ws.dir = [] → ws.keyOf "/a.py:A:" = .ok "/a.py:A:" := by
    intro ws hdir
    have hzero : hasZero "/a.py:A:" = false := rfl
    have hcanonical : canonicalPath [] "/a.py:A:" = "/a.py:A:" := rfl
    rw [keyOf, hzero, hdir, hcanonical]
    rfl
  have hsecond : ∀ ws, Moves lookalikeFiles ws → ((analyze "/a.py:A:").run ws).2.index.symbols =
      (ws.index.symbols.registerFile (summaryAt "/a.py:A:" "def m(self): pass\n")).1 := by
    intro ws h
    obtain ⟨hsources, hsettings, hdir⟩ := h.surroundings
    have hread : ws.read "/a.py:A:" = .ok ⟨"def m(self): pass\n", false⟩ := by
      rw [read, hsources, hsettings]
      rfl
    rw [symbols_analyze (hkey ws hdir) hread]
  have hfirst : lookalikeFiles.keyOf "/a.py" = .ok "/a.py" := by rfl
  have hread : lookalikeFiles.read "/a.py" = .ok ⟨"class A:\n def m(self): pass\n", false⟩ := rfl
  rw [hsecond _ (moves_analyze "/a.py" lookalikeFiles), symbols_analyze hfirst hread]
  simp only [SymbolTable.registerFile, lookalike_entries, hnone, path_summaryAt]
  rfl

theorem lookalike_keys_identify_entries :
    Reached [lookalikeFiles.sources] ((analyze "/a.py:A:").run ((analyze "/a.py").run lookalikeFiles).2).2 ∧
      ((analyze "/a.py:A:").run ((analyze "/a.py").run lookalikeFiles).2).2.index.symbols.entries.keys =
        ["/a.py:A", "/a.py:A::m"] ∧
      ((analyze "/a.py:A:").run ((analyze "/a.py").run lookalikeFiles).2).2.index.symbols.FindsEntries := by
  have h := ((Reached.fresh lookalikeFiles rfl).analyze "/a.py").analyze "/a.py:A:"
  exact ⟨h, lookalike_keys, (keys_identify_entries h).2⟩

end Workspace

end CallIndex
