import CallIndex.Proofs.SymbolTable

/-!
# Runs of a symbol table

Files are registered, removed and registered again, and the table is cleared, in any order (`SymbolTable.Reached`).  As
long as no two files that are registered together declare the same key, the table is determined by the registered
files in the order of their latest registration (`SymbolTable.Registers`): its entries are the collapsed declarations
of one file after the other.

* `SymbolTable.Registers.removeFile` and `SymbolTable.Registers.registerFile` are the steps.
* `SymbolTable.indexes_agree_with_scan` is the agreement of the three registries in every state that is reached.
-/

namespace CallIndex

namespace SymbolEntry

theorem qualifiedName_eq_of_key {e e' : SymbolEntry} (hp : e.path = e'.path) (hk : e.key = e'.key) :
    e.qualifiedName = e'.qualifiedName := by
  simpa [key, keyOf, hp] using hk

end SymbolEntry

/-- The entries of a file with repeated keys collapsed. -/
def FileSummary.settled (s : FileSummary) : List SymbolEntry :=
  settle s.entries

theorem FileSummary.path_of_mem_entries {s : FileSummary} {e : SymbolEntry} (h : e ∈ s.entries) : e.path = s.path := by
  simp only [entries, List.mem_append, List.mem_map] at h
  rcases h with (⟨_, _, rfl⟩ | ⟨_, _, rfl⟩) | ⟨_, _, rfl⟩ <;> rfl

theorem FileSummary.path_of_mem_settled {s : FileSummary} {e : SymbolEntry} (h : e ∈ s.settled) : e.path = s.path :=
  path_of_mem_entries (mem_of_mem_settle h)

/-- No two files at different paths declare the same key. -/
def KeysApart (files : List FileSummary) : Prop :=
  ∀ s ∈ files, ∀ s' ∈ files, s.path ≠ s'.path → ∀ e ∈ s.entries, ∀ e' ∈ s'.entries, e.key ≠ e'.key

instance (files : List FileSummary) : Decidable (KeysApart files) :=
  inferInstanceAs (Decidable (∀ s ∈ files, ∀ s' ∈ files, s.path ≠ s'.path →
    ∀ e ∈ s.entries, ∀ e' ∈ s'.entries, e.key ≠ e'.key))

namespace SymbolTable

/-- The table holds the collapsed entries of the files in order, and lists their keys under the paths. -/
structure Registers (t : SymbolTable) (files : List FileSummary) : Prop where
  holds : t.Holds (files.flatMap FileSummary.settled)
  byFile_eq : t.byFile.pairs = files.map fun s => (s.path, s.settled.map SymbolEntry.key)

theorem registers_nil : Registers {} [] :=
  ⟨holds_nil, rfl⟩

namespace Registers

variable {t : SymbolTable} {files : List FileSummary}

private theorem paths_eq (h : Registers t files) : t.byFile.keys = files.map FileSummary.path := by
  simp [Registry.keys, h.byFile_eq, Function.comp_def]

private theorem eq_of_path (h : Registers t files) {s s' : FileSummary} (hs : s ∈ files) (hs' : s' ∈ files)
    (hp : s.path = s'.path) : s = s' :=
  List.inj_on_of_nodup_map (h.paths_eq ▸ t.byFile.nodup_keys) hs hs' hp

private theorem byFile_of_mem (h : Registers t files) {s : FileSummary} (hs : s ∈ files) :
    t.byFile.get? s.path = some (s.settled.map SymbolEntry.key) := by
  rw [Registry.get?_eq_some_iff, h.byFile_eq]
  exact List.mem_map.2 ⟨s, hs, rfl⟩

theorem byFile_of_notMem (h : Registers t files) {path : String} (hp : path ∉ files.map FileSummary.path) :
    t.byFile.get? path = none :=
  Registry.get?_eq_none_iff.2 (h.paths_eq ▸ hp)

private theorem mem_of_mem_settled {s : FileSummary} (hs : s ∈ files) {e : SymbolEntry} (he : e ∈ s.settled) :
    e ∈ files.flatMap FileSummary.settled :=
  List.mem_flatMap.2 ⟨s, hs, he⟩

theorem inFile_of_mem (h : Registers t files) {s : FileSummary} (hs : s ∈ files) :
    t.inFile s.path = .ok s.settled := by
  rw [inFile, h.byFile_of_mem hs]
  exact h.holds.mapM_fetch fun e he => mem_of_mem_settled hs he

theorem inFile_of_notMem (h : Registers t files) {path : String} (hp : path ∉ files.map FileSummary.path) :
    t.inFile path = .ok [] := by
  rw [inFile, h.byFile_of_notMem hp]
  rfl

/-! ### Removing a file -/

private theorem flatMap_filter (p : FileSummary → Bool) (files : List FileSummary) :
    (files.filter p).flatMap FileSummary.settled = files.flatMap fun x => if p x then x.settled else [] := by
  induction files with
  | nil => rfl
  | cons x files ih => by_cases hx : p x = true <;> simp [hx, ih]

/-- Entries with equal keys are equal, so the keys of a file are those of no other file. -/
private theorem filter_settled (h : Registers t files) {s : FileSummary} (hs : s ∈ files) :
    ((files.flatMap FileSummary.settled).filter fun e => e.key ∉ s.settled.map SymbolEntry.key) =
      (files.filter fun x => x.path ≠ s.path).flatMap FileSummary.settled := by
  have hother : ∀ x ∈ files, ∀ e ∈ x.settled, e.key ∈ s.settled.map SymbolEntry.key → x.path = s.path := by
    intro x hx e he hk
    obtain ⟨e', he', hkk⟩ := List.mem_map.1 hk
    have hee := h.holds.eq_of_key (mem_of_mem_settled hs he') (mem_of_mem_settled hx he) hkk
    rw [← FileSummary.path_of_mem_settled he, ← hee, FileSummary.path_of_mem_settled he']
  have hfile : ∀ x ∈ files, (x.settled.filter fun e => e.key ∉ s.settled.map SymbolEntry.key) =
      if x.path ≠ s.path then x.settled else [] := by
    intro x hx
    split
    · rename_i hne
      rw [List.filter_eq_self]
      intro e he
      simpa only [decide_eq_true_eq] using fun hk => hne (hother x hx e he hk)
    · rename_i heq
      have hxs : x = s := h.eq_of_path hx hs (not_not.1 heq)
      subst hxs
      rw [List.filter_eq_nil_iff]
      intro e he
      simpa only [decide_eq_true_eq, not_not] using List.mem_map.2 ⟨e, he, rfl⟩
  rw [List.filter_flatMap, List.flatMap_congr hfile, flatMap_filter]
  simp only [decide_eq_true_eq]

theorem nodup_keys_settled (h : Registers t files) {s : FileSummary} (hs : s ∈ files) :
    (s.settled.map SymbolEntry.key).Nodup := by
  have hsub : s.settled.Sublist (files.flatMap FileSummary.settled) :=
    List.sublist_flatten_of_mem (List.mem_map.2 ⟨s, hs, rfl⟩)
  exact h.holds.nodup.sublist (hsub.map _)

private theorem byFile_erase_eq (h : Registers t files) (path : String) :
    (t.byFile.erase path).pairs =
      (files.filter fun x => x.path ≠ path).map fun s => (s.path, s.settled.map SymbolEntry.key) := by
  simp only [Registry.erase, h.byFile_eq, List.filter_map]
  rfl

theorem removeFile (h : Registers t files) (path : String) :
    ∃ t', t.removeFile path = (t', .ok ((t.byFile.get? path).getD []).length) ∧
      Registers t' (files.filter fun x => x.path ≠ path) := by
  have hholds : Holds { t with byFile := t.byFile.erase path } (files.flatMap FileSummary.settled) :=
    ⟨h.holds.pairs_eq, h.holds.bucket_eq, h.holds.bucket_ne⟩
  unfold SymbolTable.removeFile
  by_cases hp : path ∈ files.map FileSummary.path
  · obtain ⟨s, hs, rfl⟩ := List.mem_map.1 hp
    have hkeys : ∀ k ∈ s.settled.map SymbolEntry.key,
        k ∈ (files.flatMap FileSummary.settled).map SymbolEntry.key := by
      intro k hk
      obtain ⟨e, he, rfl⟩ := List.mem_map.1 hk
      exact List.mem_map.2 ⟨e, mem_of_mem_settled hs he, rfl⟩
    obtain ⟨t', ht', hh, hf⟩ := hholds.forgetAll hkeys (h.nodup_keys_settled hs)
    rw [h.filter_settled hs] at hh
    rw [h.byFile_of_mem hs]
    simp only [Option.getD_some, ht']
    exact ⟨t', rfl, hh, hf ▸ h.byFile_erase_eq s.path⟩
  · have hsame : (files.filter fun x => x.path ≠ path) = files := by
      rw [List.filter_eq_self]
      intro x hx
      simpa only [decide_eq_true_eq] using fun hxp => hp (List.mem_map.2 ⟨x, hx, hxp⟩)
    rw [h.byFile_of_notMem hp]
    refine ⟨_, rfl, ?_, h.byFile_erase_eq path⟩
    rw [hsame]
    exact hholds

/-! ### Registering a file -/

/-- A file whose keys no other registered file declares goes to the end. -/
theorem registerFile (h : Registers t files) {s : FileSummary}
    (hapart : KeysApart ((files.filter fun x => x.path ≠ s.path) ++ [s])) :
    ∃ t', t.registerFile s = (t', .ok s.settled.length) ∧
      Registers t' ((files.filter fun x => x.path ≠ s.path) ++ [s]) := by
  obtain ⟨t₁, ht₁, h₁⟩ := h.removeFile s.path
  generalize hrest : (files.filter fun x => x.path ≠ s.path) = rest at hapart h₁ ⊢
  have hpath : ∀ x ∈ rest, x.path ≠ s.path := by
    intro x hx
    rw [← hrest, List.mem_filter] at hx
    simpa using hx.2
  have hL : ∀ e ∈ s.entries, e.key ∉ (rest.flatMap FileSummary.settled).map SymbolEntry.key := by
    intro e he hk
    obtain ⟨e', he', hkk⟩ := List.mem_map.1 hk
    obtain ⟨x, hx, hex⟩ := List.mem_flatMap.1 he'
    exact hapart x (by simp [hx]) s (by simp) (hpath x hx) e' (mem_of_mem_settle hex) e he hkk
  have hq : ∀ x ∈ [] ++ s.entries, ∀ e ∈ [] ++ s.entries, x.key = e.key → x.qualifiedName = e.qualifiedName := by
    intro x hx e he hk
    refine SymbolEntry.qualifiedName_eq_of_key ?_ hk
    rw [FileSummary.path_of_mem_entries hx, FileSummary.path_of_mem_entries he]
  have hstart : Holds t₁ (rest.flatMap FileSummary.settled ++ settle []) := by
    simpa [settle] using h₁.holds
  obtain ⟨t₂, ht₂, h₂, hf₂⟩ := hstart.enterAll hL hq
  have hfresh : s.path ∉ t₂.byFile.keys := by
    rw [hf₂, h₁.paths_eq]
    intro hm
    obtain ⟨x, hx, hxs⟩ := List.mem_map.1 hm
    exact hpath x hx hxs
  refine ⟨{ t₂ with byFile := t₂.byFile.set s.path (s.settled.map SymbolEntry.key) }, ?_, ?_, ?_⟩
  · have hkeys : t₁.enterAll [] s.entries = (t₂, s.settled.map SymbolEntry.key) := ht₂
    simp only [SymbolTable.registerFile, ht₁, hkeys, List.length_map]
  · rw [List.flatMap_append, List.flatMap_singleton]
    exact ⟨h₂.pairs_eq, h₂.bucket_eq, h₂.bucket_ne⟩
  · rw [Registry.pairs_set_of_notMem hfresh, hf₂, h₁.byFile_eq, List.map_append]
    rfl

end Registers

/-! ### Runs -/

/-- A table that is reached from the empty one by registering and removing files and clearing, and the files that
stand registered, in the order of their latest registration.  Files registered together have their keys apart. -/
inductive Reached : SymbolTable → List FileSummary → Prop
  | empty : Reached {} []
  | register {t : SymbolTable} {files : List FileSummary} (h : Reached t files) (s : FileSummary)
      (hapart : KeysApart ((files.filter fun x => x.path ≠ s.path) ++ [s])) :
      Reached (t.registerFile s).1 ((files.filter fun x => x.path ≠ s.path) ++ [s])
  | remove {t : SymbolTable} {files : List FileSummary} (h : Reached t files) (path : String) :
      Reached (t.removeFile path).1 (files.filter fun x => x.path ≠ path)
  | clear {t : SymbolTable} {files : List FileSummary} (h : Reached t files) : Reached {} []

private theorem Reached.registers {t : SymbolTable} {files : List FileSummary} (h : Reached t files) :
    Registers t files := by
  induction h with
  | empty => exact registers_nil
  | register _ s hapart ih =>
    obtain ⟨t', ht', h'⟩ := ih.registerFile hapart
    rw [ht']
    exact h'
  | remove _ path ih =>
    obtain ⟨t', ht', h'⟩ := ih.removeFile path
    rw [ht']
    exact h'
  | clear _ _ => exact registers_nil

/-! ### Agreement -/

/-- The registries of a table agree with one another and with the registered files. -/
structure Agrees (t : SymbolTable) (files : List FileSummary) : Prop where
  /-- The keys of the entries are those listed under the files, each listed once. -/
  keys_eq : t.entries.keys = t.byFile.values.flatten
  nodup_listed : t.byFile.values.flatten.Nodup
  /-- The keys listed under a name are those of entries. -/
  bucket_spec : ∀ q ks, t.byName.get? q = some ks → ks ≠ [] ∧ ks.Nodup ∧ ∀ k ∈ ks, k ∈ t.entries.keys
  /-- So no operation meets a dangling key. -/
  find_ok : ∀ query kind, ∃ es, t.find query kind = .ok es
  inFile_ok : ∀ path, ∃ es, t.inFile path = .ok es
  removeFile_ok : ∀ path, ∃ n, (t.removeFile path).2 = .ok n
  /-- The lookup of a qualified name is a scan. -/
  lookup_eq_scan : ∀ q, t.withQualifiedName q = .ok (t.entries.values.filter fun e => e.qualifiedName = q)
  /-- The entries are those of the files, one file after the other. -/
  paths_eq : t.byFile.keys = files.map FileSummary.path
  entries_eq : t.entries.values = files.flatMap FileSummary.settled

/-- In every table that is reached, the indexes say what a scan of the entries says. -/
theorem indexes_agree_with_scan {t : SymbolTable} {files : List FileSummary} (h : Reached t files) :
    Agrees t files := by
  have hr := h.registers
  have hkeys : t.entries.keys = t.byFile.values.flatten := by
    rw [hr.holds.keys_eq, Registry.values, hr.byFile_eq, List.map_flatMap, List.map_map, ← List.flatMap_def]
    rfl
  refine ⟨hkeys, hkeys ▸ t.entries.nodup_keys, fun _ _ => hr.holds.bucket_spec, ?_, ?_, ?_, ?_, hr.paths_eq,
    hr.holds.values_eq⟩
  · intro query kind
    exact ⟨_, hr.holds.find_eq query kind⟩
  · intro path
    by_cases hp : path ∈ files.map FileSummary.path
    · obtain ⟨s, hs, rfl⟩ := List.mem_map.1 hp
      exact ⟨_, hr.inFile_of_mem hs⟩
    · exact ⟨_, hr.inFile_of_notMem hp⟩
  · intro path
    obtain ⟨t', ht', -⟩ := hr.removeFile path
    exact ⟨_, by rw [ht']⟩
  · intro q
    rw [hr.holds.values_eq]
    exact hr.holds.withQualifiedName_eq q

/-- A file with a class and a function of one name, so with one key. -/
def shopFile : FileSummary :=
  { path := "/shop.py", classes := [⟨"Cart", 1, [], [], [], []⟩], functions := [⟨"Cart", 9, [], false⟩],
    methods := [⟨"Cart", "add", 2, [], false, false⟩] }

/-- Another file with a function of that name. -/
def tillFile : FileSummary :=
  { path := "/till.py", functions := [⟨"pay", 1, [], false⟩, ⟨"Cart", 4, [], false⟩] }

theorem indexes_agree_after_second_registration :
    Reached (((({} : SymbolTable).registerFile shopFile).1.registerFile tillFile).1.registerFile shopFile).1
      [tillFile, shopFile] ∧
    Agrees (((({} : SymbolTable).registerFile shopFile).1.registerFile tillFile).1.registerFile shopFile).1
      [tillFile, shopFile] := by
  have h := ((Reached.empty.register shopFile (by decide)).register tillFile (by decide)).register shopFile (by decide)
  exact ⟨h, indexes_agree_with_scan h⟩

end SymbolTable

end CallIndex
