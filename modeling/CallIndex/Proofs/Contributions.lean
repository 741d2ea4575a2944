import CallIndex.Proofs.WorkspaceRuns

/-!
# What files contribute

What an index holds belongs to the paths of its files.  Two indexes are the same on some paths when they hold the same
for these, in the same order (`Index.SameOn`); an index lacks a path when nothing in it belongs to the path
(`Index.Lacks`).  Storing a summary, whether or not it gets to its end, and deleting a path leave all other paths alone.

* `SymbolTable.Registers.sameOn`: tables that have registered the same files at some paths are the same on these.
* `Index.sameOn_put` and `Index.sameOn_delete`: what an update leaves as it was.
* `Index.lacks_delete`: nothing of a deleted path is left.
-/

namespace CallIndex

/-- What belongs to a path that does not satisfy `P` is left out with it. -/
private theorem filter_filter_ne {α : Type} {P : String → Bool} {path : String} (h : P path = false) (f : α → String)
    (l : List α) : ((l.filter fun x => f x ≠ path).filter fun x => P (f x)) = l.filter fun x => P (f x) := by
  rw [List.filter_filter]
  apply List.filter_congr
  intro x _
  by_cases hx : f x = path
  · simp [hx, h]
  · simp [hx]

/-! ### Registries -/

namespace Registry

variable {α : Type} {P : String → Bool}

/-- The registries hold the same under the keys that satisfy `P`, in the same order. -/
def SameOn (P : String → Bool) (r r' : Registry α) : Prop :=
  (r'.pairs.filter fun p => P p.1) = r.pairs.filter fun p => P p.1

private theorem sameOn_set (r : Registry α) {key : String} (h : P key = false) (value : α) :
    r.SameOn P (r.set key value) := by
  unfold SameOn
  by_cases hkey : key ∈ r.keys
  · rw [pairs_set_of_mem hkey]
    generalize r.pairs = pairs
    induction pairs with
    | nil => rfl
    | cons p pairs ih =>
      rw [List.map_cons]
      by_cases hp : p.1 = key
      · have hp' : P p.1 = false := hp ▸ h
        rw [if_pos hp, List.filter_cons_of_neg (by simp [h]), List.filter_cons_of_neg (by simp [hp']), ih]
      · rw [if_neg hp, List.filter_cons, List.filter_cons, ih]
  · rw [pairs_set_of_notMem hkey, List.filter_append]
    simp [h]

private theorem sameOn_erase (r : Registry α) {key : String} (h : P key = false) : r.SameOn P (r.erase key) :=
  filter_filter_ne h Prod.fst r.pairs

end Registry

/-! ### Symbols -/

namespace SymbolTable

variable {t t' : SymbolTable} {P : String → Bool} {files files' : List FileSummary}

/-- The entries that are listed under a qualified name. -/
def bearing (t : SymbolTable) (name : String) : List SymbolEntry :=
  ((t.byName.get? name).getD []).filterMap t.entries.get?

/-- The tables hold the same entries of the files whose paths satisfy `P`, and list them in the same order. -/
structure SameOn (P : String → Bool) (t t' : SymbolTable) : Prop where
  entries : (t'.entries.values.filter fun e => P e.path) = t.entries.values.filter fun e => P e.path
  byName : ∀ name, ((t'.bearing name).filter fun e => P e.path) = (t.bearing name).filter fun e => P e.path
  byFile : t.byFile.SameOn P t'.byFile

private theorem Holds.bearing_eq {L : List SymbolEntry} (h : t.Holds L) (name : String) :
    t.bearing name = L.filter fun e => e.qualifiedName = name := by
  rw [bearing, h.bucket_eq, List.filterMap_map]
  have hget : ∀ e ∈ L.filter fun e => e.qualifiedName = name, (t.entries.get? ∘ SymbolEntry.key) e = some e := by
    intro e he
    exact h.get?_of_mem (List.mem_filter.1 he).1
  rw [List.filterMap_congr hget, List.filterMap_some]

/-- The entries of the files with some paths. -/
private theorem filter_flatMap_settled (files : List FileSummary) :
    ((files.flatMap FileSummary.settled).filter fun e => P e.path) =
      (files.filter fun s => P s.path).flatMap FileSummary.settled := by
  induction files with
  | nil => rfl
  | cons s files ih =>
    rw [List.flatMap_cons, List.filter_append, ih, List.filter_cons]
    by_cases hs : P s.path = true
    · rw [if_pos hs, List.flatMap_cons, List.filter_eq_self.2]
      intro e he
      rw [FileSummary.path_of_mem_settled he, hs]
    · rw [if_neg hs, List.filter_eq_nil_iff.2, List.nil_append]
      intro e he
      rw [FileSummary.path_of_mem_settled he]
      exact hs

/-- Tables that have registered the same files at some paths are the same on these. -/
theorem Registers.sameOn (h : t.Registers files) (h' : t'.Registers files')
    (hfiles : (files'.filter fun s => P s.path) = files.filter fun s => P s.path) : t.SameOn P t' := by
  have hentries : ((files'.flatMap FileSummary.settled).filter fun e => P e.path) =
      (files.flatMap FileSummary.settled).filter fun e => P e.path := by
    rw [filter_flatMap_settled, filter_flatMap_settled, hfiles]
  refine ⟨?_, ?_, ?_⟩
  · rw [h.holds.values_eq, h'.holds.values_eq, hentries]
  · intro name
    rw [h.holds.bearing_eq, h'.holds.bearing_eq, List.filter_comm, hentries, List.filter_comm]
  · rw [Registry.SameOn, h.byFile_eq, h'.byFile_eq, List.filter_map, List.filter_map]
    exact congrArg _ hfiles

/-- Nothing in the table belongs to the path. -/
structure Lacks (t : SymbolTable) (path : String) : Prop where
  entries : ∀ e ∈ t.entries.values, e.path ≠ path
  byFile : t.byFile.get? path = none

namespace OfAnalysed

variable (h : t.OfAnalysed)

include h

private theorem sameOn_registerFile {s : FileSummary} (hs : s.Analysed) (hP : P s.path = false) :
    t.SameOn P (t.registerFile s).1 := by
  obtain ⟨live, hlive, hfiles⟩ := h
  have hapart : KeysApart ((live.filter fun x => x.path ≠ s.path) ++ [s]) := by
    apply KeysApart.of_analysed
    intro x hx
    rcases List.mem_append.1 hx with hx | hx
    · exact (hfiles x (List.mem_filter.1 hx).1).1
    · rw [List.mem_singleton.1 hx]
      exact hs
  obtain ⟨t', ht', hregisters⟩ := hlive.registerFile hapart
  rw [ht']
  apply hlive.sameOn hregisters
  rw [List.filter_append, filter_filter_ne hP FileSummary.path]
  simp [hP]

private theorem sameOn_removeFile {path : String} (hP : P path = false) : t.SameOn P (t.removeFile path).1 := by
  obtain ⟨live, hlive, -⟩ := h
  obtain ⟨t', ht', hregisters⟩ := hlive.removeFile path
  rw [ht']
  exact hlive.sameOn hregisters (filter_filter_ne hP FileSummary.path live)

/-- Taking out a file goes through, and leaves nothing of it. -/
private theorem lacks_removeFile (path : String) :
    ∃ n, (t.removeFile path).2 = .ok n ∧ (t.removeFile path).1.Lacks path := by
  obtain ⟨live, hlive, -⟩ := h
  obtain ⟨t', ht', hregisters⟩ := hlive.removeFile path
  rw [ht']
  have hother : ∀ s ∈ live.filter fun x => x.path ≠ path, s.path ≠ path := by
    intro s hs
    simpa using (List.mem_filter.1 hs).2
  refine ⟨_, rfl, ?_, ?_⟩
  · intro e he
    rw [hregisters.holds.values_eq] at he
    obtain ⟨s, hs, hes⟩ := List.mem_flatMap.1 he
    rw [FileSummary.path_of_mem_settled hes]
    exact hother s hs
  · apply hregisters.byFile_of_notMem
    intro hpath
    obtain ⟨s, hs, hsp⟩ := List.mem_map.1 hpath
    exact hother s hs hsp

end OfAnalysed

end SymbolTable

/-! ### Indexes -/

namespace Index

variable {ix ix' ix'' : Index} {P : String → Bool} {path : String}

/-- The indexes hold the same for the files whose paths satisfy `P`. -/
structure SameOn (P : String → Bool) (ix ix' : Index) : Prop where
  symbols : ix.symbols.SameOn P ix'.symbols
  calls : ix.calls.SameOn P ix'.calls
  relations : ix.relations.SameOn P ix'.relations
  files : ix.files.SameOn P ix'.files
  stamps : ix.stamps.SameOn P ix'.stamps

private theorem SameOn.refl (ix : Index) : ix.SameOn P ix :=
  ⟨⟨rfl, fun _ => rfl, rfl⟩, rfl, rfl, rfl, rfl⟩

private theorem SameOn.trans (h : ix.SameOn P ix') (h' : ix'.SameOn P ix'') : ix.SameOn P ix'' where
  symbols := ⟨h'.symbols.entries.trans h.symbols.entries,
    fun name => (h'.symbols.byName name).trans (h.symbols.byName name), Eq.trans h'.symbols.byFile h.symbols.byFile⟩
  calls := Eq.trans h'.calls h.calls
  relations := Eq.trans h'.relations h.relations
  files := Eq.trans h'.files h.files
  stamps := Eq.trans h'.stamps h.stamps

/-- Nothing in the index belongs to the path. -/
structure Lacks (ix : Index) (path : String) : Prop where
  symbols : ix.symbols.Lacks path
  calls : ix.calls.get? path = none
  relations : ix.relations.get? path = none
  files : ix.files.get? path = none
  stamps : ix.stamps.get? path = none

/-- A stored summary changes its own path only, also when the relations of the file cannot be told. -/
theorem sameOn_put (h : ix.symbols.OfAnalysed) (dir : List String) {s : FileSummary} (hs : s.Analysed)
    (hpath : s.path = path) (hP : P path = false) : ix.SameOn P (ix.put dir path s).1 := by
  have hsymbols : ix.symbols.SameOn P (ix.symbols.registerFile s).1 := h.sameOn_registerFile hs (by rw [hpath, hP])
  unfold put
  rw [FileSummary.relocate_self hpath]
  dsimp only
  split
  · rename_i symbols e hregister
    rw [hregister] at hsymbols
    exact ⟨hsymbols, rfl, rfl, rfl, rfl⟩
  · rename_i symbols n hregister
    rw [hregister] at hsymbols
    have hcalls := ix.calls.sameOn_set hP s.calls
    split
    · exact ⟨hsymbols, hcalls, rfl, rfl, rfl⟩
    · exact ⟨hsymbols, hcalls, ix.relations.sameOn_set hP _, ix.files.sameOn_set hP _, ix.stamps.sameOn_set hP _⟩

theorem sameOn_delete (h : ix.symbols.OfAnalysed) (hP : P path = false) : ix.SameOn P (ix.delete path).1 := by
  have hsymbols : ix.symbols.SameOn P (ix.symbols.removeFile path).1 := h.sameOn_removeFile hP
  unfold delete
  split
  · rename_i symbols e hremove
    rw [hremove] at hsymbols
    exact ⟨hsymbols, rfl, rfl, rfl, rfl⟩
  · rename_i symbols n hremove
    rw [hremove] at hsymbols
    exact ⟨hsymbols, ix.calls.sameOn_erase hP, ix.relations.sameOn_erase hP, ix.files.sameOn_erase hP,
      ix.stamps.sameOn_erase hP⟩

/-- Deleting a path goes through, and leaves nothing of it. -/
theorem lacks_delete (h : ix.symbols.OfAnalysed) (path : String) :
    (ix.delete path).2 = .ok (ix.files.contains path) ∧ (ix.delete path).1.Lacks path := by
  obtain ⟨n, hn, hlacks⟩ := h.lacks_removeFile path
  unfold delete
  split
  · rename_i symbols e hremove
    rw [hremove] at hn
    cases hn
  · rename_i symbols n hremove
    rw [hremove] at hlacks
    exact ⟨rfl, hlacks, Registry.get?_erase_self _ _, Registry.get?_erase_self _ _, Registry.get?_erase_self _ _,
      Registry.get?_erase_self _ _⟩

end Index

namespace Workspace

variable {ws : Workspace} {P : String → Bool}

theorem sameOn_stored (h : ws.index.symbols.OfAnalysed) {key : String} (text : SourceText) (hP : P key = false) :
    ws.index.SameOn P (ws.stored key text).index := by
  rw [index_stored, stores]
  exact Index.sameOn_put h ws.dir (analysed_summaryAt key text.content) (path_summaryAt key text.content) hP

private theorem sameOn_indexFile (h : ws.index.symbols.OfAnalysed)
    (hP : ∀ key text, ws.read key = .ok text → P key = false) (key : String) (force : Bool) (report : IndexReport) :
    ws.index.SameOn P ((indexFile key force report).run ws).2.index := by
  rw [run_indexFile]
  cases hread : ws.read key with
  | error cause => exact .refl _
  | ok text =>
    dsimp only
    split
    · exact .refl _
    · exact sameOn_stored h text (hP key text hread)

private theorem sameOn_indexPlace (h : ws.index.symbols.OfAnalysed)
    (hP : ∀ key text, ws.read key = .ok text → P key = false)
    (base : Path) (patterns : List Pattern) (force : Bool) (report : IndexReport) (parts : List String) :
    ws.index.SameOn P ((indexPlace base patterns force report parts).run ws).2.index := by
  rw [run_indexPlace]
  cases Pattern.exclude patterns parts with
  | error fault => exact .refl _
  | ok excluded =>
    cases excluded with
    | true => exact .refl _
    | false => exact sameOn_indexFile h hP _ force report

/-- Indexing some files leaves alone what cannot be read. -/
theorem sameOn_indexFiles (h : ws.index.symbols.OfAnalysed) (hP : ∀ key text, ws.read key = .ok text → P key = false)
    (base : Path) (patterns : List Pattern) (force : Bool) (total number : Nat) (report : IndexReport)
    (files : List (List String)) :
    ws.index.SameOn P ((indexFiles base patterns force total number report files).run ws).2.index := by
  induction files generalizing number report ws with
  | nil => exact .refl _
  | cons parts rest ih =>
    have hmoves := moves_indexPlace base patterns force report parts ws
    have hsame := sameOn_indexPlace h hP base patterns force report parts
    rw [run_indexFiles_cons]
    rcases hrun : (indexPlace base patterns force report parts).run ws with ⟨outcome, ws'⟩
    rw [hrun] at hmoves hsame
    cases outcome with
    | error fault => exact hsame
    | ok report' =>
      have hdone := hmoves.announced (progressAt base total number parts)
      exact hsame.trans (ih (hdone.ofAnalysed h) (hdone.read_eq ▸ hP) (number + 1) report')

end Workspace

end CallIndex
