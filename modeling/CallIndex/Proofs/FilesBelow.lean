import CallIndex.Proofs.Paths
import CallIndex.Proofs.WorkspaceRuns

/-!
# The files below a directory

A file tree holds each file once, under proper components (`FileTree.WellFormed`), and keeps it so.  The recognised
files below a directory are then listed once, in the order of their components, and the key of each is its absolute
path.

* `FileTree.WellFormed.pairwise_filesBelow`: the files below a directory are listed once, in order.
* `FileTree.resolve_of_directoryAt`: a path is resolved to the directory that it leads to.
* `Workspace.recognises`: the recognised files are those of the tree.
-/

namespace CallIndex

namespace FileTree

/-! ### Trees -/

/-- Each file is there once, and its components are proper. -/
structure WellFormed (t : FileTree) : Prop where
  nodup : (t.files.map Prod.fst).Nodup
  components : ∀ file ∈ t.files, ∀ part ∈ file.1, IsComponent part

variable {t : FileTree} {dir parts : List String}

theorem wellFormed_empty : WellFormed {} :=
  ⟨List.nodup_nil, fun _ hfile => (List.not_mem_nil hfile).elim⟩

theorem WellFormed.write (h : t.WellFormed) (hparts : ∀ part ∈ parts, IsComponent part) (bytes : ByteArray) :
    (t.write parts bytes).WellFormed where
  nodup := by
    have hkept : ((t.files.filter fun f => f.1 ≠ parts).map Prod.fst).Nodup :=
      h.nodup.sublist (List.filter_sublist.map _)
    simp only [FileTree.write, addDirectory, List.map_append, List.map_cons, List.map_nil]
    refine List.nodup_append.2 ⟨hkept, List.nodup_singleton _, ?_⟩
    intro a ha b hb heq
    obtain ⟨file, hfile, rfl⟩ := List.mem_map.1 ha
    rw [List.mem_singleton.1 hb] at heq
    simpa [heq] using (List.mem_filter.1 hfile).2
  components := by
    intro file hfile
    rcases List.mem_append.1 hfile with hfile | hfile
    · exact h.components file (List.mem_filter.1 hfile).1
    · rw [List.mem_singleton.1 hfile]
      exact hparts

theorem WellFormed.bar (h : t.WellFormed) (hparts : ∀ part ∈ parts, IsComponent part) (bytes : ByteArray)
    (cause : Barrier) : (t.bar parts bytes cause).WellFormed :=
  ⟨(h.write hparts bytes).nodup, (h.write hparts bytes).components⟩

/-! ### The order of components -/

private theorem partsLE_iff {a b : List String} : partsLE a b = true ↔ ¬ List.Lex (· < ·) b a := by
  fun_induction partsLE a b with
  | case1 b => simp
  | case2 a as => simp
  | case3 a as b bs hlt =>
    refine iff_of_true rfl fun hlex => ?_
    rcases List.cons_lex_cons_iff.1 hlex with hgt | ⟨rfl, -⟩
    · exact String.lt_asymm hlt hgt
    · exact String.lt_irrefl b hlt
  | case4 a as b bs hle hlt => exact iff_of_false Bool.false_ne_true fun hnot => hnot (.rel hlt)
  | case5 a as b bs hle hge ih =>
    have heq : b = a := String.le_antisymm (String.not_lt.1 hle) (String.not_lt.1 hge)
    rw [ih, List.cons_lex_cons_iff, heq]
    simp only [String.lt_irrefl, false_or, true_and]

private theorem partsLE_trans (a b c : List String) (hab : partsLE a b = true) (hbc : partsLE b c = true) :
    partsLE a c = true := by
  rw [partsLE_iff] at *
  exact List.le_trans hab hbc

private theorem partsLE_total (a b : List String) : (partsLE a b || partsLE b a) = true := by
  rw [Bool.or_eq_true, partsLE_iff, partsLE_iff]
  exact List.le_total a b

private theorem lex_of_partsLE {a b : List String} (h : partsLE a b = true) (hne : a ≠ b) : List.Lex (· < ·) a b := by
  by_contra hnot
  exact hne (List.le_antisymm (partsLE_iff.1 h) hnot)

/-! ### Files below a directory -/

private theorem mem_filesBelow : parts ∈ t.filesBelow dir ↔ ∃ bytes, (dir ++ parts, bytes) ∈ t.files := by
  rw [filesBelow, List.mem_mergeSort, List.mem_map]
  constructor
  · rintro ⟨file, hfile, rfl⟩
    obtain ⟨hmem, hbelow⟩ := List.mem_filter.1 hfile
    refine ⟨file.2, ?_⟩
    rw [List.prefix_iff_eq_append.1 (List.isPrefixOf_iff_prefix.1 hbelow)]
    exact hmem
  · rintro ⟨bytes, hmem⟩
    refine ⟨_, List.mem_filter.2 ⟨hmem, ?_⟩, List.drop_left⟩
    exact List.isPrefixOf_iff_prefix.2 (List.prefix_append dir parts)

/-- The files below a directory are listed once, in the order of their components. -/
theorem WellFormed.pairwise_filesBelow (h : t.WellFormed) (dir : List String) :
    (t.filesBelow dir).Pairwise (List.Lex (· < ·)) := by
  have hsorted : (t.filesBelow dir).Pairwise fun a b => partsLE a b = true :=
    List.pairwise_mergeSort partsLE_trans partsLE_total _
  have hnodup : (t.filesBelow dir).Nodup := by
    rw [filesBelow, (List.mergeSort_perm _ _).nodup_iff]
    have hbelow : ((t.files.filter fun f => dir.isPrefixOf f.1).map Prod.fst).Nodup :=
      h.nodup.sublist (List.filter_sublist.map _)
    rw [List.Nodup, List.pairwise_map] at hbelow ⊢
    refine hbelow.imp_of_mem fun {a b} ha hb hne heq => hne ?_
    have ha' := List.prefix_iff_eq_append.1 (List.isPrefixOf_iff_prefix.1 (List.mem_filter.1 ha).2)
    have hb' := List.prefix_iff_eq_append.1 (List.isPrefixOf_iff_prefix.1 (List.mem_filter.1 hb).2)
    rw [← ha', ← hb', heq]
  exact hsorted.imp₂ (fun _ _ hle hne => lex_of_partsLE hle hne) hnodup

/-- There is a file at the place `parts` below a directory, in a language that is known. -/
def IsRecognised (t : FileTree) (dir parts : List String) : Prop :=
  (∃ bytes, (dir ++ parts, bytes) ∈ t.files) ∧ languageOf (Path.toString ⟨.relative, parts⟩) ≠ unknownLanguage

private theorem IsRecognised.ne_nil (h : t.IsRecognised dir parts) : parts ≠ [] := by
  rintro rfl
  exact h.2 rfl

private theorem IsRecognised.components (h : t.IsRecognised dir parts) (ht : t.WellFormed) :
    ∀ part ∈ parts, IsComponent part := by
  obtain ⟨⟨bytes, hfile⟩, -⟩ := h
  exact fun part hpart => ht.components _ hfile part (List.mem_append_right _ hpart)

/-- The absolute path of the file at the place `parts` below a directory. -/
def pathBelow (dir parts : List String) : String :=
  Path.toString ⟨.slash, dir ++ parts⟩

/-- These are the recognised files below a directory, in the order of their components. -/
structure Recognises (t : FileTree) (dir : List String) (files : List (List String)) : Prop where
  pairwise : files.Pairwise (List.Lex (· < ·))
  mem_iff : ∀ parts, parts ∈ files ↔ t.IsRecognised dir parts

private theorem Recognises.nodup {files : List (List String)} (h : t.Recognises dir files) : files.Nodup := by
  refine h.pairwise.imp fun hlex heq => ?_
  rw [heq] at hlex
  exact List.lt_irrefl _ hlex

/-- Different files have different paths. -/
theorem Recognises.nodup_paths {files : List (List String)} (h : t.Recognises dir files) (ht : t.WellFormed) :
    (files.map (pathBelow dir)).Nodup := by
  refine h.nodup.map_on fun a ha b hb heq => ?_
  have ha' := (h.mem_iff a).1 ha
  have hb' := (h.mem_iff b).1 hb
  exact Path.toString_append_inj ha'.ne_nil hb'.ne_nil (ha'.components ht) (hb'.components ht) heq

/-- There is one such list. -/
theorem Recognises.unique {files files' : List (List String)} (h : t.Recognises dir files)
    (h' : t.Recognises dir files') : files' = files := by
  have hperm : files'.Perm files :=
    (List.perm_ext_iff_of_nodup h'.nodup h.nodup).2 fun parts => (h'.mem_iff parts).trans (h.mem_iff parts).symm
  exact hperm.eq_of_pairwise (fun a b _ _ hab hba => absurd hba (List.lt_asymm hab)) h'.pairwise h.pairwise

/-! ### Directories -/

private theorem collapse_of_directoryFrom {above rest : List String} (h : t.directoryFrom above rest = .found dir) :
    Path.collapse above.reverse rest = dir := by
  induction rest generalizing above with
  | nil =>
    cases h
    exact List.reverse_reverse _
  | cons part rest ih =>
    rw [directoryFrom] at h
    rw [Path.collapse]
    split at h
    · rw [if_pos ‹_›, List.tail_reverse]
      exact ih h
    · rw [if_neg ‹_›]
      split at h
      · cases h
      · split at h
        · have hbelow := ih h
          rwa [List.reverse_append] at hbelow
        · cases h

/-- A path is resolved to the directory that it leads to. -/
theorem resolve_of_directoryAt {working : List String} {p : Path} (h : t.directoryAt working p = .found dir)
    (hparts : ∀ part ∈ parts, part ≠ "..") :
    Path.resolve working { p with parts := p.parts ++ parts } = ⟨.slash, dir ++ parts⟩ := by
  obtain ⟨root, front⟩ := p
  rw [directoryAt] at h
  split at h
  · cases h
  · cases root with
    | relative => simp only [Path.resolve, Path.collapse_append_right _ _ hparts, collapse_of_directoryFrom h]
    | slash | doubleSlash =>
      have hfront : Path.collapse [] front = dir := collapse_of_directoryFrom h
      simp only [Path.resolve, Path.collapse_append_right _ _ hparts, hfront]

end FileTree

namespace Workspace

variable {ws : Workspace} {t : FileTree} {base : Path} {dir : List String}

/-- The recognised files below a directory of the tree are those of the tree. -/
theorem recognises (hsources : ws.sources = .tree t) (ht : t.WellFormed)
    (hfound : t.directoryAt ws.dir base = .found dir) :
    ∃ files, ws.recognisedFiles base = .ok files ∧ t.Recognises dir files := by
  rw [recognisedFiles, hsources]
  simp only [Sources.fileTree, hfound]
  refine ⟨_, rfl, (ht.pairwise_filesBelow dir).filter _, fun parts => ?_⟩
  rw [List.mem_filter, FileTree.mem_filesBelow, decide_eq_true_eq]
  rfl

theorem Moves.recognisedFiles_eq {ws' : Workspace} (h : Moves ws ws') (base : Path) :
    ws'.recognisedFiles base = ws.recognisedFiles base := by
  obtain ⟨hsources, -, hdir⟩ := h.surroundings
  rw [recognisedFiles, recognisedFiles, hsources, hdir]

/-- The key of a file is its absolute path. -/
theorem keyBelow_eq (ht : t.WellFormed) (hfound : t.directoryAt ws.dir base = .found dir) {parts : List String}
    (hparts : t.IsRecognised dir parts) : ws.keyBelow base parts = FileTree.pathBelow dir parts := by
  rw [keyBelow, FileTree.resolve_of_directoryAt hfound fun part hpart => (hparts.components ht part hpart).ne_dots]
  rfl

end Workspace

end CallIndex
