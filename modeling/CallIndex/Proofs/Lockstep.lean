import CallIndex.Index
import CallIndex.Proofs.Outcome
import CallIndex.Proofs.TableRuns
import Mathlib.Algebra.GroupWithZero.Nat
import Mathlib.Data.List.Dedup

/-!
# The registries of an index

Summaries are stored, replaced and deleted and the index is cleared, in any order (`Index.Reached`).  As long as no two
files that are kept together declare the same key, and the imports of every stored file can be resolved, the files, the
calls, the relations and the stamps have the same paths in the same order, each path contributes what its summary says,
and the symbol table has registered the same files, in the order of their latest storing (`Index.Synced`).

* `Index.Synced.put` and `Index.Synced.delete` are the steps.
* `Index.Synced.inFile_of_get?` gives the entries of a file, and `Index.Synced.entries_perm` those of all files.
-/

namespace CallIndex

namespace FileSummary

/-- The distinct qualified names that a file declares. -/
def declaredNames (s : FileSummary) : List String :=
  (s.entries.map SymbolEntry.qualifiedName).dedup

/-- How many relations a file has. -/
def relationCount (s : FileSummary) : Nat :=
  s.imports.length + (s.classes.map fun c => c.bases.length).sum

theorem path_relocate (s : FileSummary) (path : String) : (s.relocate path).path = path := by
  unfold relocate
  split
  · assumption
  · rfl

private theorem length_of_fileRelations {dir : List String} {s : FileSummary} {relations : List Relation}
    (h : fileRelations dir s = .ok relations) : relations.length = s.relationCount := by
  unfold fileRelations at h
  obtain ⟨imports, himports, h⟩ := bind_eq_ok h
  cases h
  simp only [List.length_append, List.length_flatMap, classRelations, List.length_map, relationCount,
    length_of_mapM_eq_ok himports]

/-! ### The entries of a file by their names -/

private theorem key_eq_iff {s : FileSummary} {e e' : SymbolEntry} (he : e ∈ s.entries) (he' : e' ∈ s.entries) :
    e.key = e'.key ↔ e.qualifiedName = e'.qualifiedName := by
  have hp : e.path = e'.path := (path_of_mem_entries he).trans (path_of_mem_entries he').symm
  constructor
  · exact SymbolEntry.qualifiedName_eq_of_key hp
  · intro hq
    rw [SymbolEntry.key, SymbolEntry.key, hp, hq]

/-- Of the declarations with one qualified name, the last one settles. -/
private theorem last_of_mem_settled {s : FileSummary} {e : SymbolEntry} (h : e ∈ s.settled) :
    (s.entries.findRev? fun x => x.qualifiedName = e.qualifiedName) = some e := by
  have he := mem_of_mem_settle h
  rw [settled, mem_settle, List.findRev?_eq_find?_reverse, List.find?_eq_some_iff_append] at h
  obtain ⟨-, later, earlier, hsplit, hlater⟩ := h
  rw [List.findRev?_eq_find?_reverse, List.find?_eq_some_iff_append]
  refine ⟨by simp, later, earlier, hsplit, fun x hx => ?_⟩
  have hmem : x ∈ s.entries := List.mem_reverse.1 (by simp [hsplit, hx])
  simpa [key_eq_iff hmem he] using hlater x hx

theorem mem_qualifiedNames_settled {s : FileSummary} {q : String} :
    q ∈ s.settled.map SymbolEntry.qualifiedName ↔ q ∈ s.entries.map SymbolEntry.qualifiedName := by
  constructor
  · intro h
    obtain ⟨e, he, rfl⟩ := List.mem_map.1 h
    exact List.mem_map.2 ⟨e, mem_of_mem_settle he, rfl⟩
  · intro h
    obtain ⟨e, he, rfl⟩ := List.mem_map.1 h
    -- the entry that has settled under the key of `e`
    have hk : e.key ∈ s.settled.map SymbolEntry.key := by
      rw [settled, map_key_settle, List.mem_eraseDups]
      exact List.mem_map.2 ⟨e, he, rfl⟩
    obtain ⟨e', he', hkk⟩ := List.mem_map.1 hk
    exact List.mem_map.2 ⟨e', he', (key_eq_iff (mem_of_mem_settle he') he).1 hkk⟩

private theorem nodup_qualifiedNames_settled {s : FileSummary} (h : (s.settled.map SymbolEntry.key).Nodup) :
    (s.settled.map SymbolEntry.qualifiedName).Nodup := by
  rw [List.Nodup, List.pairwise_map] at h ⊢
  refine h.imp_of_mem fun he he' hne hq => hne ?_
  exact (key_eq_iff (mem_of_mem_settle he) (mem_of_mem_settle he')).2 hq

theorem length_settled {s : FileSummary} (h : (s.settled.map SymbolEntry.key).Nodup) :
    s.settled.length = s.declaredNames.length := by
  have hperm : (s.settled.map SymbolEntry.qualifiedName).Perm s.declaredNames := by
    rw [declaredNames, List.perm_ext_iff_of_nodup (nodup_qualifiedNames_settled h) (List.nodup_dedup _)]
    intro q
    rw [mem_qualifiedNames_settled, List.mem_dedup]
  rw [← hperm.length_eq, List.length_map]

end FileSummary

private theorem KeysApart.of_subset {files files' : List FileSummary} (h : KeysApart files') (hsub : files ⊆ files') :
    KeysApart files :=
  fun s hs s' hs' => h s (hsub hs) s' (hsub hs')

namespace Index

/-! ### What the registries have in common -/

/-- The calls, the relations and the stamps stand beside the files, and the symbol table has registered the files. -/
structure Synced (dir : List String) (ix : Index) : Prop where
  path_eq : ∀ p ∈ ix.files.pairs, p.2.path = p.1
  calls : Registry.Beside (fun s calls => calls = s.calls) ix.files ix.calls
  relations : Registry.Beside (fun s relations => fileRelations dir s = .ok relations) ix.files ix.relations
  stamps : Registry.Beside (fun _ _ => True) ix.files ix.stamps
  symbols : ∃ live, live.Perm ix.files.values ∧ SymbolTable.Registers ix.symbols live

variable {dir : List String} {ix : Index}

theorem synced_clear (dir : List String) (ix : Index) : Synced dir ix.clear :=
  ⟨fun _ hp => (List.not_mem_nil hp).elim, Registry.beside_empty, Registry.beside_empty, Registry.beside_empty,
    [], .nil, SymbolTable.registers_nil⟩

namespace Synced

private theorem values_erase (h : Synced dir ix) (path : String) :
    (ix.files.erase path).values = ix.files.values.filter fun s => s.path ≠ path := by
  simp only [Registry.values, Registry.erase, List.filter_map]
  congr 1
  apply List.filter_congr
  intro p hp
  simp [h.path_eq p hp]

/-- A stored summary replaces what its path contributed before. -/
theorem put (h : Synced dir ix) {path : String} {s : FileSummary} {relations : List Relation}
    (hrel : fileRelations dir (s.relocate path) = .ok relations)
    (hapart : KeysApart (ix.files.set path (s.relocate path)).values) :
    ∃ ix', ix.put dir path s = (ix', .ok ()) ∧ ix'.files = ix.files.set path (s.relocate path) ∧ Synced dir ix' := by
  have hpath := s.path_relocate path
  unfold Index.put
  generalize s.relocate path = s' at hrel hapart hpath ⊢
  obtain ⟨live, hlive, hreg⟩ := h.symbols
  have hperm : ((live.filter fun x => x.path ≠ path) ++ [s']).Perm (ix.files.set path s').values := by
    have hset := (ix.files.perm_set path s').map Prod.snd
    rw [List.map_append] at hset
    refine ((hlive.filter _).append_right _).trans ?_
    rw [← h.values_erase]
    exact hset.symm
  subst hpath
  obtain ⟨t, ht, hreg'⟩ := hreg.registerFile (hapart.of_subset hperm.subset)
  simp only [ht, hrel]
  refine ⟨_, rfl, rfl, ?_, h.calls.set _ rfl, h.relations.set _ hrel, h.stamps.set _ trivial, _, hperm, hreg'⟩
  intro p hp
  rcases List.mem_append.1 ((ix.files.perm_set _ _).subset hp) with hp | hp
  · exact h.path_eq p (List.mem_filter.1 hp).1
  · cases List.mem_singleton.1 hp
    rfl

/-- A deleted path contributes nothing. -/
theorem delete (h : Synced dir ix) (path : String) :
    ∃ ix', ix.delete path = (ix', .ok (ix.files.contains path)) ∧ ix'.files = ix.files.erase path ∧ Synced dir ix' := by
  obtain ⟨live, hlive, hreg⟩ := h.symbols
  obtain ⟨t, ht, hreg'⟩ := hreg.removeFile path
  unfold Index.delete
  rw [ht]
  refine ⟨_, rfl, rfl, ?_, h.calls.erase path, h.relations.erase path, h.stamps.erase path, _, ?_, hreg'⟩
  · exact fun p hp => h.path_eq p (List.mem_filter.1 hp).1
  · rw [h.values_erase]
    exact hlive.filter _

/-! ### Readings -/

theorem path_of_get? (h : Synced dir ix) {path : String} {s : FileSummary} (hs : ix.files.get? path = some s) :
    s.path = path :=
  h.path_eq (path, s) (Registry.get?_eq_some_iff.1 hs)

private theorem paths_eq (h : Synced dir ix) : ix.files.values.map FileSummary.path = ix.files.keys := by
  rw [Registry.values, List.map_map]
  exact List.map_congr_left h.path_eq

theorem inFile_of_get? (h : Synced dir ix) {path : String} {s : FileSummary} (hs : ix.files.get? path = some s) :
    ix.symbols.inFile path = .ok s.settled ∧ (s.settled.map SymbolEntry.key).Nodup := by
  obtain ⟨live, hlive, hreg⟩ := h.symbols
  have hmem : s ∈ live := hlive.mem_iff.2 (List.mem_map.2 ⟨_, Registry.get?_eq_some_iff.1 hs, rfl⟩)
  rw [← h.path_of_get? hs]
  exact ⟨hreg.inFile_of_mem hmem, hreg.nodup_keys_settled hmem⟩

theorem inFile_of_none (h : Synced dir ix) {path : String} (hn : ix.files.get? path = none) :
    ix.symbols.inFile path = .ok [] := by
  obtain ⟨live, hlive, hreg⟩ := h.symbols
  apply hreg.inFile_of_notMem
  rw [(hlive.map FileSummary.path).mem_iff, h.paths_eq]
  exact Registry.get?_eq_none_iff.1 hn

/-- The table holds the entries of the files, in some order. -/
theorem entries_perm (h : Synced dir ix) :
    ix.symbols.entries.values.Perm (ix.files.values.flatMap FileSummary.settled) := by
  obtain ⟨live, hlive, hreg⟩ := h.symbols
  rw [hreg.holds.values_eq]
  exact hlive.flatMap_right _

theorem totals_eq (h : Synced dir ix) : ix.totals = {
    files := ix.files.keys.length
    symbols := (ix.files.values.map fun s => s.declaredNames.length).sum
    calls := (ix.files.values.map fun s => s.calls.length).sum
    relations := (ix.files.values.map FileSummary.relationCount).sum
    lastStamp := ix.lastStamp? } := by
  have hsymbols : ix.symbols.entries.size = (ix.files.values.map fun s => s.declaredNames.length).sum := by
    have hlength := h.entries_perm.length_eq
    rw [List.length_flatMap, Registry.values, List.length_map] at hlength
    rw [Registry.size, hlength]
    congr 1
    apply List.map_congr_left
    intro s hs
    obtain ⟨p, hp, rfl⟩ := List.mem_map.1 hs
    exact FileSummary.length_settled (h.inFile_of_get? (Registry.get?_eq_some_iff.2 hp)).2
  have hcalls := h.calls.map_values (f := fun s => s.calls.length) (g := List.length) (by rintro s _ rfl; rfl)
  have hrelations := h.relations.map_values (f := FileSummary.relationCount) (g := List.length)
    fun s _ hrel => (FileSummary.length_of_fileRelations hrel).symm
  rw [totals, hsymbols, List.length_flatten, List.length_flatten, hcalls, hrelations, Registry.size, Registry.keys,
    List.length_map]

end Synced

/-! ### Runs -/

/-- An index that is reached from a fresh one by storing and deleting files and clearing.  A file that is stored under
its own path, and an index that is left, are cases of these.  Files that are kept together have their keys apart, and
the imports of a stored file can be resolved. -/
inductive Reached (dir : List String) : Index → Prop
  | fresh : Reached dir {}
  | put {ix : Index} (h : Reached dir ix) (path : String) (s : FileSummary)
      (hrel : ∃ relations, fileRelations dir (s.relocate path) = .ok relations)
      (hapart : KeysApart (ix.files.set path (s.relocate path)).values) : Reached dir (ix.put dir path s).1
  | delete {ix : Index} (h : Reached dir ix) (path : String) : Reached dir (ix.delete path).1
  | clear {ix : Index} (h : Reached dir ix) : Reached dir ix.clear

theorem Reached.synced (h : Reached dir ix) : Synced dir ix := by
  induction h with
  | fresh => exact synced_clear dir {}
  | put _ path s hrel hapart ih =>
    obtain ⟨relations, hrel⟩ := hrel
    obtain ⟨ix', hput, -, h'⟩ := ih.put hrel hapart
    rw [hput]
    exact h'
  | delete _ path ih =>
    obtain ⟨ix', hdelete, -, h'⟩ := ih.delete path
    rw [hdelete]
    exact h'
  | clear _ _ => exact synced_clear dir _

/-! ### Lockstep -/

/-- What the index has for `path` is what the summary `s` says. -/
structure Contributes (dir : List String) (ix : Index) (path : String) (s : FileSummary) : Prop where
  path_eq : s.path = path
  calls_eq : ix.calls.get? path = some s.calls
  relations_eq : ∃ relations, fileRelations dir s = .ok relations ∧ ix.relations.get? path = some relations
  /-- There is one entry for each qualified name that is declared, the last one of this name. -/
  inFile_eq : ∃ es, ix.symbols.inFile path = .ok es ∧ (es.map SymbolEntry.qualifiedName).Nodup ∧
    (∀ q, q ∈ es.map SymbolEntry.qualifiedName ↔ q ∈ s.entries.map SymbolEntry.qualifiedName) ∧
    ∀ e ∈ es, (s.entries.findRev? fun x => x.qualifiedName = e.qualifiedName) = some e

/-- The registries of an index have the same paths, and each path contributes what its summary says. -/
structure Lockstep (dir : List String) (ix : Index) : Prop where
  /-- The registries have the same paths in the same order. -/
  calls_keys : ix.calls.keys = ix.files.keys
  relations_keys : ix.relations.keys = ix.files.keys
  stamps_keys : ix.stamps.keys = ix.files.keys
  contributes : ∀ path s, ix.files.get? path = some s → Contributes dir ix path s
  /-- Nothing is there for other paths. -/
  path_mem : ∀ e ∈ ix.symbols.entries.values, e.path ∈ ix.files.keys
  inFile_of_none : ∀ path, ix.files.get? path = none → ix.symbols.inFile path = .ok []
  /-- The totals are those of the files. -/
  totals_eq : ix.totals = {
    files := ix.files.keys.length
    symbols := (ix.files.values.map fun s => s.declaredNames.length).sum
    calls := (ix.files.values.map fun s => s.calls.length).sum
    relations := (ix.files.values.map FileSummary.relationCount).sum
    lastStamp := ix.lastStamp? }
  /-- No listed key dangles, so no operation fails. -/
  closed : ix.symbols.Closed
  put_ok : ∀ path s, (∃ relations, fileRelations dir (s.relocate path) = .ok relations) →
    KeysApart (ix.files.set path (s.relocate path)).values → (ix.put dir path s).2 = .ok ()
  delete_ok : ∀ path, (ix.delete path).2 = .ok (ix.files.contains path)

theorem Synced.lockstep (h : Synced dir ix) : Lockstep dir ix := by
  refine ⟨h.calls.keys_eq, h.relations.keys_eq, h.stamps.keys_eq, ?_, ?_, fun _ => h.inFile_of_none, h.totals_eq,
    ?_, ?_, ?_⟩
  · intro path s hs
    obtain ⟨calls, hcalls, rfl⟩ := h.calls.get?_of_get? hs
    obtain ⟨relations, hrelations, hrel⟩ := h.relations.get?_of_get? hs
    obtain ⟨hin, hnodup⟩ := h.inFile_of_get? hs
    exact ⟨h.path_of_get? hs, hcalls, ⟨relations, hrel, hrelations⟩, s.settled, hin,
      FileSummary.nodup_qualifiedNames_settled hnodup, fun _ => FileSummary.mem_qualifiedNames_settled,
      fun _ => FileSummary.last_of_mem_settled⟩
  · intro e he
    obtain ⟨s, hs, hes⟩ := List.mem_flatMap.1 (h.entries_perm.subset he)
    rw [FileSummary.path_of_mem_settled hes, ← h.paths_eq]
    exact List.mem_map.2 ⟨s, hs, rfl⟩
  · obtain ⟨live, -, hreg⟩ := h.symbols
    exact hreg.holds.closed
  · rintro path s ⟨relations, hrel⟩ hapart
    obtain ⟨ix', hput, -⟩ := h.put hrel hapart
    rw [hput]
  · intro path
    obtain ⟨ix', hdelete, -⟩ := h.delete path
    rw [hdelete]

end Index

end CallIndex
