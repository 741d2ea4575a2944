import CallIndex.Proofs.WorkspaceRuns

/-!
# Runs of an index

What holds after storing and deleting any files, whatever they declare and import, and whether or not an operation
fails.  Keys of different files may be equal here.  Still each key is listed by one file only, namely by the one that
entered it first, so a file can always be taken out.  And relations are stored together with the file they belong to.

* `SymbolTable.Lists.registerFile` and `SymbolTable.Lists.removeFile`: no key is lost, and nothing fails.
* `Index.Grown`: the runs, with the order in which files were first stored.
* `Index.Grown.lists` and `Index.Grown.relates`: what they keep.
-/

namespace CallIndex

/-! ### Listed keys -/

namespace SymbolTable

variable {t : SymbolTable}

/-- Every key of an entry is listed by one file, and only once. -/
def Lists (t : SymbolTable) : Prop :=
  t.byFile.values.flatten.Perm t.entries.keys

private theorem lists_empty : Lists {} :=
  .nil

/-- Entries under keys that are listed can be taken out. -/
private theorem forgetAll_of_perm {keys rest : List String} (h : (keys ++ rest).Perm t.entries.keys) :
    ∃ t', t.forgetAll keys = (t', .ok ()) ∧ t'.byFile = t.byFile ∧ rest.Perm t'.entries.keys := by
  induction keys generalizing t with
  | nil => exact ⟨t, rfl, rfl, h⟩
  | cons key keys ih =>
    have hmem : key ∈ t.entries.keys := h.subset List.mem_cons_self
    obtain ⟨e, he⟩ : ∃ e, t.entries.get? key = some e := by
      cases hget : t.entries.get? key with
      | none => exact absurd hmem (Registry.get?_eq_none_iff.1 hget)
      | some e => exact ⟨e, rfl⟩
    have hnodup : (key :: (keys ++ rest)).Nodup := h.nodup_iff.2 t.entries.nodup_keys
    have hothers : (keys ++ rest).Perm (t.forget key e).entries.keys := by
      have hfilter : (key :: (keys ++ rest)).filter (· ≠ key) = keys ++ rest := by
        rw [List.filter_cons_of_neg (by simp), List.filter_eq_self]
        intro other hother
        have hne : other ≠ key := by
          rintro rfl
          exact (List.nodup_cons.1 hnodup).1 hother
        simpa using hne
      rw [forget, Registry.keys_erase, ← hfilter]
      exact h.filter _
    obtain ⟨t', hrun, hfiles, hrest⟩ := ih hothers
    refine ⟨t', ?_, hfiles, hrest⟩
    rw [forgetAll, he]
    exact hrun

private theorem flatten_values_erase (r : Registry (List String)) (path : String) :
    ((r.get? path).getD [] ++ (r.erase path).values.flatten).Perm r.values.flatten := by
  cases hget : r.get? path with
  | none =>
    have hsame : (r.erase path).pairs = r.pairs := by
      rw [Registry.erase, List.filter_eq_self]
      intro p hp
      have hne : p.1 ≠ path := by
        rintro rfl
        exact Registry.get?_eq_none_iff.1 hget (List.mem_map_of_mem hp)
      simpa using hne
    rw [Option.getD_none, List.nil_append, Registry.values, hsame]
    exact .refl _
  | some keys =>
    have hsame : (r.set path keys).pairs.Perm r.pairs := by
      apply Registry.perm_of_get?_eq
      intro other
      by_cases hother : other = path
      · rw [hother, Registry.get?_set_self, hget]
      · rw [Registry.get?_set_of_ne _ hother]
    have hpairs := (((r.perm_set path keys).symm.trans hsame).map Prod.snd).flatten
    rw [List.map_append, List.flatten_append, List.map_singleton, List.flatten_singleton] at hpairs
    exact List.perm_append_comm.trans hpairs

/-- Taking out a file goes through. -/
theorem Lists.removeFile (h : t.Lists) (path : String) :
    ∃ t' n, t.removeFile path = (t', .ok n) ∧ t'.Lists ∧ t'.byFile = t.byFile.erase path := by
  have hperm : ((t.byFile.get? path).getD [] ++ (t.byFile.erase path).values.flatten).Perm t.entries.keys :=
    (flatten_values_erase t.byFile path).trans h
  obtain ⟨t', hrun, hfiles, hrest⟩ :=
    forgetAll_of_perm (t := { t with byFile := t.byFile.erase path }) hperm
  refine ⟨t', ((t.byFile.get? path).getD []).length, ?_, ?_, hfiles⟩
  · rw [SymbolTable.removeFile]
    simp only [hrun]
    rfl
  · rw [Lists, hfiles]
    exact hrest

/-- A key that is new is listed. -/
private theorem enter_perm {keys rest : List String} (h : (keys ++ rest).Perm t.entries.keys) (e : SymbolEntry) :
    ((t.enter keys e).2 ++ rest).Perm (t.enter keys e).1.entries.keys ∧ (t.enter keys e).1.byFile = t.byFile := by
  unfold enter
  split
  · rename_i hknown
    refine ⟨?_, rfl⟩
    rw [Registry.keys_set_of_mem t.entries ((Registry.contains_iff_mem_keys _ _).1 hknown)]
    exact h
  · rename_i hnew
    refine ⟨?_, rfl⟩
    rw [Registry.keys_set_of_notMem t.entries fun hmem => hnew ((Registry.contains_iff_mem_keys _ _).2 hmem),
      List.append_assoc]
    have hmoved : (keys ++ ([e.key] ++ rest)).Perm (keys ++ (rest ++ [e.key])) := List.perm_append_comm.append_left keys
    refine hmoved.trans ?_
    rw [← List.append_assoc]
    exact h.append_right _

private theorem enterAll_perm {keys rest : List String} (h : (keys ++ rest).Perm t.entries.keys)
    (es : List SymbolEntry) :
    ((t.enterAll keys es).2 ++ rest).Perm (t.enterAll keys es).1.entries.keys ∧
      (t.enterAll keys es).1.byFile = t.byFile := by
  induction es generalizing t keys with
  | nil => exact ⟨h, rfl⟩
  | cons e es ih =>
    obtain ⟨hperm, hfiles⟩ := enter_perm h e
    obtain ⟨hrest, hkept⟩ := ih hperm
    exact ⟨hrest, hkept.trans hfiles⟩

/-- Registering a file goes through. -/
theorem Lists.registerFile (h : t.Lists) (s : FileSummary) : ∃ t' n, t.registerFile s = (t', .ok n) ∧ t'.Lists := by
  obtain ⟨t₁, n, hremove, hlists, hfiles⟩ := h.removeFile s.path
  have hnew : s.path ∉ t₁.byFile.keys := by
    rw [hfiles, Registry.keys_erase]
    simp
  have hfront : ([] ++ t₁.byFile.values.flatten).Perm t₁.entries.keys := hlists
  obtain ⟨hperm, hkept⟩ := enterAll_perm hfront s.entries
  rcases hentered : t₁.enterAll [] s.entries with ⟨t₂, keys⟩
  rw [hentered] at hperm hkept
  refine ⟨{ t₂ with byFile := t₂.byFile.set s.path keys }, keys.length, ?_, ?_⟩
  · rw [SymbolTable.registerFile, hremove]
    simp only [hentered]
  · -- the file is listed behind all others
    have hvalues : (t₂.byFile.set s.path keys).values = t₁.byFile.values ++ [keys] := by
      rw [hkept, Registry.values, Registry.pairs_set_of_notMem hnew, List.map_append]
      rfl
    rw [Lists, hvalues, List.flatten_append, List.flatten_singleton]
    exact List.perm_append_comm.trans hperm

end SymbolTable

/-! ### Runs -/

namespace Index

variable {dir order : List String} {ix : Index}

/-- What storing a file does: all goes well, or its relations cannot be told. -/
theorem put_cases (hlists : ix.symbols.Lists) (dir : List String) (path : String) (s : FileSummary) :
    ∃ ix', ix'.symbols.Lists ∧
      ((∃ relations, fileRelations dir (s.relocate path) = .ok relations ∧ ix.put dir path s = (ix', .ok ()) ∧
        ix'.relations = ix.relations.set path relations ∧ ix'.files = ix.files.set path (s.relocate path)) ∨
      ∃ fault, fileRelations dir (s.relocate path) = .error fault ∧ ix.put dir path s = (ix', .error fault) ∧
        ix'.relations = ix.relations ∧ ix'.files = ix.files) := by
  obtain ⟨symbols, n, hregister, hlists'⟩ := hlists.registerFile (s.relocate path)
  unfold put
  simp only [hregister]
  cases hrel : fileRelations dir (s.relocate path) with
  | error fault => exact ⟨_, hlists', .inr ⟨fault, rfl, rfl, rfl, rfl⟩⟩
  | ok relations => exact ⟨_, hlists', .inl ⟨relations, rfl, rfl, rfl, rfl⟩⟩

private theorem delete_eq (hlists : ix.symbols.Lists) (path : String) :
    ∃ ix', ix.delete path = (ix', .ok (ix.files.contains path)) ∧ ix'.symbols.Lists ∧
      ix'.relations = ix.relations.erase path ∧ ix'.files = ix.files.erase path := by
  obtain ⟨symbols, n, hremove, hlists', -⟩ := hlists.removeFile path
  unfold delete
  simp only [hremove]
  exact ⟨_, rfl, hlists', rfl, rfl⟩

/-- An index that has grown from an empty one by storing and deleting files and clearing, and the paths that are stored,
in the order in which they were first stored.  Storing a file may fail. -/
inductive Grown (dir : List String) : List String → Index → Prop
  | empty : Grown dir [] {}
  | put {order : List String} {ix ix' : Index} (h : Grown dir order ix) (path : String) (s : FileSummary)
      (hput : ix.put dir path s = (ix', .ok ())) : Grown dir (if path ∈ order then order else order ++ [path]) ix'
  | putFails {order : List String} {ix ix' : Index} (h : Grown dir order ix) (path : String) (s : FileSummary)
      {fault : Fault} (hput : ix.put dir path s = (ix', .error fault)) : Grown dir order ix'
  | delete {order : List String} {ix : Index} (h : Grown dir order ix) (path : String) :
      Grown dir (order.filter (· ≠ path)) (ix.delete path).1
  | clear {order : List String} {ix : Index} (h : Grown dir order ix) : Grown dir [] ix.clear

/-- The relations are those of the files, by the paths that are stored. -/
structure Relates (dir order : List String) (ix : Index) : Prop where
  path_eq : ∀ path s, ix.files.get? path = some s → s.path = path
  beside : Registry.Beside (fun s relations => fileRelations dir s = .ok relations) ix.files ix.relations
  keys_eq : ix.relations.keys = order

theorem Grown.lists (h : Grown dir order ix) : ix.symbols.Lists := by
  induction h with
  | empty => exact SymbolTable.lists_empty
  | put _ path s hput ih =>
    obtain ⟨ix', hlists, ⟨_, -, heq, -⟩ | ⟨_, -, heq, -⟩⟩ := put_cases ih dir path s
    · cases heq.symm.trans hput
      exact hlists
    · cases heq.symm.trans hput
  | putFails _ path s hput ih =>
    obtain ⟨ix', hlists, ⟨_, -, heq, -⟩ | ⟨_, -, heq, -⟩⟩ := put_cases ih dir path s
    · cases heq.symm.trans hput
    · cases heq.symm.trans hput
      exact hlists
  | delete _ path ih =>
    obtain ⟨ix', heq, hlists, -⟩ := delete_eq ih path
    rw [heq]
    exact hlists
  | clear _ _ => exact SymbolTable.lists_empty

private theorem Relates.set (h : Relates dir order ix) {ix' : Index} {path : String} {s : FileSummary}
    {relations : List Relation} (hrel : fileRelations dir (s.relocate path) = .ok relations)
    (hrelations : ix'.relations = ix.relations.set path relations)
    (hfiles : ix'.files = ix.files.set path (s.relocate path)) :
    Relates dir (if path ∈ order then order else order ++ [path]) ix' where
  path_eq := by
    intro other s' hs'
    rw [hfiles] at hs'
    by_cases hother : other = path
    · rw [hother, Registry.get?_set_self] at hs'
      rw [← Option.some.inj hs', hother, FileSummary.path_relocate]
    · rw [Registry.get?_set_of_ne _ hother] at hs'
      exact h.path_eq other s' hs'
  beside := by
    rw [hfiles, hrelations]
    exact h.beside.set path hrel
  keys_eq := by
    rw [hrelations, ← h.keys_eq]
    split
    · rename_i hmem
      exact Registry.keys_set_of_mem _ hmem _
    · rename_i hmem
      exact Registry.keys_set_of_notMem _ hmem _

private theorem Relates.erase (h : Relates dir order ix) {ix' : Index} {path : String}
    (hrelations : ix'.relations = ix.relations.erase path) (hfiles : ix'.files = ix.files.erase path) :
    Relates dir (order.filter (· ≠ path)) ix' where
  path_eq := by
    intro other s' hs'
    rw [hfiles] at hs'
    by_cases hother : other = path
    · rw [hother, Registry.get?_erase_self] at hs'
      cases hs'
    · rw [Registry.get?_erase_of_ne hother] at hs'
      exact h.path_eq other s' hs'
  beside := by
    rw [hfiles, hrelations]
    exact h.beside.erase path
  keys_eq := by rw [hrelations, Registry.keys_erase, h.keys_eq]

private theorem relates_of_empty (hfiles : ix.files = .empty) (hrelations : ix.relations = .empty) :
    Relates dir [] ix where
  path_eq := by
    intro path s hs
    rw [hfiles] at hs
    cases hs
  beside := by
    rw [hfiles, hrelations]
    exact Registry.beside_empty
  keys_eq := by
    rw [hrelations]
    rfl

theorem Grown.relates (h : Grown dir order ix) : Relates dir order ix := by
  induction h with
  | empty => exact relates_of_empty rfl rfl
  | put hgrown path s hput ih =>
    obtain ⟨ix', -, ⟨relations, hrel, heq, hrelations, hfiles⟩ | ⟨_, -, heq, -⟩⟩ := put_cases hgrown.lists dir path s
    · cases heq.symm.trans hput
      exact ih.set hrel hrelations hfiles
    · cases heq.symm.trans hput
  | putFails hgrown path s hput ih =>
    obtain ⟨ix', -, ⟨_, -, heq, -⟩ | ⟨_, -, heq, hrelations, hfiles⟩⟩ := put_cases hgrown.lists dir path s
    · cases heq.symm.trans hput
    · cases heq.symm.trans hput
      exact ⟨hfiles ▸ ih.path_eq, by rw [hfiles, hrelations]; exact ih.beside, by rw [hrelations, ih.keys_eq]⟩
  | delete hgrown path ih =>
    obtain ⟨ix', heq, -, hrelations, hfiles⟩ := delete_eq hgrown.lists path
    rw [heq]
    exact ih.erase hrelations hfiles
  | clear _ _ => exact relates_of_empty rfl rfl

end Index

end CallIndex
