import CallIndex.Proofs.IndexRuns
import CallIndex.Proofs.Paths

/-!
# Relative imports

A relative module name leads from the directory of the importing file up to a common directory and down to a file.
Resolving it takes double dots away together with the components they lead up over, so it gives the path of the file.  A
name without the extension, or the name of the directory of an index file, leads to the file as well.

* `importTarget_relativeSpecifier`: what a relative module name is resolved to.
* `importers_eq_filter`: the importers of a file are kept in the order of the files.
* `Index.relative_imports_find_their_file`: after any run, a file with such an import is an importer.
-/

namespace CallIndex

/-! ### Relative module names -/

/-- The module name that leads from a directory up over the components `up` and down over the components `down`. -/
def relativeSpecifier (up down : List String) : String :=
  Text.join "/" ((if up = [] then ["."] else List.replicate up.length "..") ++ down)

private theorem isRelativeImport_relativeSpecifier (up : List String) {down : List String} (hdown : down ≠ []) :
    isRelativeImport (relativeSpecifier up down) = true := by
  obtain ⟨b, rest, rfl⟩ := List.exists_cons_of_ne_nil hdown
  rw [isRelativeImport, relativeSpecifier, Bool.or_eq_true, List.isPrefixOf_iff_prefix, List.isPrefixOf_iff_prefix]
  cases up with
  | nil =>
    left
    rw [if_pos rfl, List.singleton_append, Text.join_cons_cons, String.toList_append]
    exact List.prefix_append _ _
  | cons a up =>
    right
    have hfront : ∃ c more, List.replicate up.length ".." ++ b :: rest = c :: more := by
      cases up with
      | nil => exact ⟨b, rest, rfl⟩
      | cons a' up => exact ⟨"..", _, rfl⟩
    obtain ⟨c, more, hmore⟩ := hfront
    rw [if_neg (List.cons_ne_nil _ _), List.length_cons, List.replicate_succ, List.cons_append, hmore,
      Text.join_cons_cons, String.toList_append]
    exact List.prefix_append _ _

/-- A module name goes on with its last component. -/
private theorem relativeSpecifier_append (up down : List String) (a b : String) :
    relativeSpecifier up (down ++ [a ++ b]) = relativeSpecifier up (down ++ [a]) ++ b := by
  have hfront : (if up = [] then ["."] else List.replicate up.length "..") ++ down ≠ [] := by
    cases up with
    | nil => simp
    | cons c up => simp [List.replicate_succ]
  simp only [relativeSpecifier, ← List.append_assoc, Text.join_append "/" hfront (List.cons_ne_nil _ _)]
  simp [Text.join, String.append_assoc]

private theorem ofString_relativeSpecifier (up : List String) {down : List String}
    (hdown : ∀ part ∈ down, IsComponent part) (slashes : Nat) :
    Path.ofString (relativeSpecifier up down ++ String.ofList (List.replicate slashes '/')) =
      ⟨.relative, List.replicate up.length ".." ++ down⟩ := by
  have hkept : down.filter (fun part => part ≠ "" && part ≠ ".") = down := by
    rw [List.filter_eq_self]
    intro part hpart
    simp [(hdown part hpart).ne_empty, (hdown part hpart).ne_dot]
  cases up with
  | nil =>
    rw [relativeSpecifier, if_pos rfl, List.singleton_append, Path.ofString_join (by decide)]
    · rw [List.filter_cons_of_neg (by simp), hkept]
      rfl
    · intro part hpart
      rcases List.mem_cons.1 hpart with rfl | hpart
      · simp
      · exact (hdown part hpart).slash_notMem
  | cons a up =>
    have hdots : ∀ part ∈ List.replicate (up.length + 1) "..", part = ".." := fun part hpart =>
      (List.mem_replicate.1 hpart).2
    rw [relativeSpecifier, if_neg (List.cons_ne_nil _ _), List.length_cons, List.replicate_succ, List.cons_append,
      Path.ofString_join (by decide), ← List.cons_append, ← List.replicate_succ, List.filter_append, hkept]
    · congr 2
      rw [List.filter_eq_self]
      intro part hpart
      simp [hdots part hpart]
    · rw [← List.cons_append, ← List.replicate_succ]
      intro part hpart
      rcases List.mem_append.1 hpart with hpart | hpart
      · simp [hdots part hpart]
      · exact (hdown part hpart).slash_notMem

/-- Going up over some components and down over others. -/
private theorem Path.collapse_up_down {above up down : List String} (habove : ∀ part ∈ above ++ up, part ≠ "..")
    (hdown : ∀ part ∈ down, part ≠ "..") :
    collapse [] (above ++ up ++ (List.replicate up.length ".." ++ down)) = above ++ down := by
  have hdrop : (up.reverse ++ above.reverse).drop up.length = above.reverse := by
    have hlength : up.length = up.reverse.length := List.length_reverse.symm
    rw [hlength, List.drop_left]
  have hdown' := collapse_append_right above.reverse [] hdown
  rw [collapse_append [] habove, List.append_nil, List.reverse_append, collapse_dots, hdrop]
  simpa [collapse] using hdown'

/-- A relative module name is resolved to the path that it leads to, unless there is a zero on the way. -/
theorem importTarget_relativeSpecifier {importer above up down : List String}
    (himporter : importer.dropLast = above ++ up) (hfile : ∀ part ∈ importer, IsComponent part)
    (hdown : ∀ part ∈ down, IsComponent part) {slashes : Nat} {specifier : String}
    (hspecifier : specifier = relativeSpecifier up down ++ String.ofList (List.replicate slashes '/'))
    (hrelative : isRelativeImport specifier = true) (dir : List String) :
    importTarget dir specifier (Path.toString ⟨.slash, importer⟩) =
      if (above ++ up ++ down).any hasZero then .error .zeroInPath
      else .ok (Path.toString ⟨.slash, above ++ down⟩) := by
  have hfront : ∀ part ∈ above ++ up, part ≠ ".." := by
    intro part hpart
    rw [← himporter] at hpart
    exact (hfile part (List.dropLast_subset _ hpart)).ne_dots
  have hzero : (above ++ up ++ (List.replicate up.length ".." ++ down)).any hasZero =
      (above ++ up ++ down).any hasZero := by
    have hdots : (List.replicate up.length "..").any hasZero = false := by
      rw [List.any_eq_false]
      intro part hpart
      rw [(List.mem_replicate.1 hpart).2]
      decide
    simp only [List.any_append, hdots, Bool.false_or]
  have htarget : (Path.ofString (Path.toString ⟨.slash, importer⟩)).parent.append (Path.ofString specifier) =
      ⟨.slash, above ++ up ++ (List.replicate up.length ".." ++ down)⟩ := by
    rw [Path.ofString_absolute hfile, hspecifier, ofString_relativeSpecifier up hdown, ← himporter]
    rfl
  rw [importTarget, if_pos hrelative, htarget]
  dsimp only [Path.resolve]
  rw [hzero, Path.collapse_up_down hfront fun part hpart => (hdown part hpart).ne_dots]

private theorem importTarget_relativeSpecifier_concat {importer above up down : List String} {last : String}
    (himporter : importer.dropLast = above ++ up) (hfile : ∀ part ∈ importer, IsComponent part)
    (hdown : ∀ part ∈ down ++ [last], IsComponent part) (dir : List String) :
    importTarget dir (relativeSpecifier up (down ++ [last])) (Path.toString ⟨.slash, importer⟩) =
      if (above ++ up ++ (down ++ [last])).any hasZero then .error .zeroInPath
      else .ok (Path.toString ⟨.slash, above ++ down ++ [last]⟩) := by
  have hspecifier : relativeSpecifier up (down ++ [last]) =
      relativeSpecifier up (down ++ [last]) ++ String.ofList (List.replicate 0 '/') := by simp
  have hrelative := isRelativeImport_relativeSpecifier up (List.concat_ne_nil last down)
  rw [importTarget_relativeSpecifier himporter hfile hdown hspecifier hrelative, List.append_assoc above down]

/-! ### Importers -/

section Importers

variable {path : String} {bare : Path}

/-- Does an import of `target` lead to the file at `path`, which is `bare` without its extension? -/
def isLedTo (path : String) (bare : Path) (target : String) : Bool :=
  target = path || bare = Path.ofString target ||
    ((Path.ofString path).stem = "index" && (Path.ofString path).parent = Path.ofString target)

variable (hbare : (Path.ofString path).withoutSuffix? = some bare)

include hbare

private theorem leadsTo_eq (target : String) : leadsTo target path = .ok (isLedTo path bare target) := by
  rw [leadsTo, isLedTo]
  by_cases htarget : target = path
  · simp [htarget]
  · simp [htarget, hbare]

private theorem anyLeadsTo_eq (relations : List Relation) :
    anyLeadsTo path relations = .ok (relations.any fun r => r.kind = .importing && isLedTo path bare r.target) := by
  induction relations with
  | nil => rfl
  | cons r rest ih =>
    rw [anyLeadsTo, leadsTo_eq hbare]
    by_cases hkind : r.kind = .importing
    · rw [if_pos hkind]
      cases hled : isLedTo path bare r.target with
      | true => simp [hkind, hled, bind, Except.bind, pure, Except.pure]
      | false => simpa [hkind, hled, bind, Except.bind] using ih
    · rw [if_neg hkind, ih]
      simp [hkind]

/-- The importers of a file that has a name are kept in the order of the files. -/
theorem importers_eq_filter (files : List (String × List Relation)) :
    importers path files = .ok ((files.filter fun f =>
      f.2.any fun r => r.kind = .importing && isLedTo path bare r.target).map Prod.fst) := by
  induction files with
  | nil => rfl
  | cons f rest ih =>
    obtain ⟨file, relations⟩ := f
    rw [importers, anyLeadsTo_eq hbare, ih]
    cases hany : relations.any fun r => r.kind = .importing && isLedTo path bare r.target with
    | true => simp [hany, bind, Except.bind, pure, Except.pure]
    | false => simp [hany, bind, Except.bind, pure, Except.pure]

end Importers

/-- Every import of a file is resolved in its relations. -/
private theorem exists_relation_of_mem_imports {dir : List String} {s : FileSummary} {relations : List Relation}
    (h : fileRelations dir s = .ok relations) {specifier : String} (hspecifier : specifier ∈ s.imports) :
    ∃ target, importTarget dir specifier s.path = .ok target ∧ ⟨s.path, target, .importing⟩ ∈ relations := by
  unfold fileRelations at h
  obtain ⟨imports, himports, h⟩ := bind_eq_ok h
  cases h
  obtain ⟨r, hr, hresolved⟩ := exists_of_mem_mapM himports hspecifier
  obtain ⟨target, htarget, hr'⟩ := bind_eq_ok hresolved
  cases hr'
  exact ⟨target, htarget, List.mem_append_left _ hr⟩

/-! ### Files and their importers -/

/-- A directory, and the stem and the extension of a file in it. -/
structure TargetFile where
  directory : List String
  stem : String
  ext : String

namespace TargetFile

/-- The name of the file. -/
def name (g : TargetFile) : String :=
  g.stem ++ "." ++ g.ext

/-- The path of the file. -/
def path (g : TargetFile) : String :=
  Path.toString ⟨.slash, g.directory ++ [g.name]⟩

/-- The components, the stem and the extension are such that the file can be told from its path. -/
structure WellFormed (g : TargetFile) : Prop where
  directory : ∀ part ∈ g.directory, IsComponent part
  stem : IsComponent g.stem
  ext_ne_empty : g.ext ≠ ""
  slash_notMem : '/' ∉ g.ext.toList
  dot_notMem : '.' ∉ g.ext.toList

/-- Read as a path, the text is the file, or the file without its extension, or the directory of an index file. -/
def PointedBy (g : TargetFile) (target : String) : Prop :=
  Path.ofString target = ⟨.slash, g.directory ++ [g.name]⟩ ∨
    Path.ofString target = ⟨.slash, g.directory ++ [g.stem]⟩ ∨
    g.stem = "index" ∧ Path.ofString target = ⟨.slash, g.directory⟩

/-- The module names of the file that lead up over `up` and down over `down`: that of the file, the same without the
extension, and for an index file that of its directory, with any slashes behind it. -/
def NamedBy (g : TargetFile) (up down : List String) (specifier : String) : Prop :=
  specifier = relativeSpecifier up (down ++ [g.name]) ∨
    specifier ++ ("." ++ g.ext) = relativeSpecifier up (down ++ [g.name]) ∨
    g.stem = "index" ∧ isRelativeImport specifier = true ∧
      ∃ slashes, specifier = relativeSpecifier up down ++ String.ofList (List.replicate slashes '/')

namespace WellFormed

variable {g : TargetFile} (h : g.WellFormed)

include h

private theorem name : IsComponent g.name := by
  have hlist : g.name.toList = g.stem.toList ++ '.' :: g.ext.toList := by simp [TargetFile.name]
  have hstem : 0 < g.stem.toList.length :=
    List.length_pos_iff.2 fun hnil => h.stem.ne_empty (String.toList_eq_nil_iff.1 hnil)
  have hext : 0 < g.ext.toList.length :=
    List.length_pos_iff.2 fun hnil => h.ext_ne_empty (String.toList_eq_nil_iff.1 hnil)
  -- the name has three characters or more
  have hlong : ∀ short : String, short.toList.length < 3 → g.name ≠ short := by
    rintro short hshort rfl
    rw [hlist, List.length_append, List.length_cons] at hshort
    omega
  refine ⟨hlong "" (by decide), ?_, hlong "." (by decide), hlong ".." (by decide)⟩
  rw [hlist]
  simp [h.stem.slash_notMem, h.slash_notMem]

private theorem splitName : Path.splitName g.name = (g.stem, "." ++ g.ext) :=
  Path.splitName_extension h.stem.ne_empty h.ext_ne_empty h.dot_notMem

private theorem ofString_path : Path.ofString g.path = ⟨.slash, g.directory ++ [g.name]⟩ :=
  Path.ofString_absolute (.concat h.directory h.name)

private theorem withoutSuffix : (Path.ofString g.path).withoutSuffix? = some ⟨.slash, g.directory ++ [g.stem]⟩ := by
  rw [h.ofString_path, Path.withoutSuffix?, List.getLast?_concat]
  simp [h.splitName]

/-- An import leads to the file when its target is the file, or as a path the file without its extension, or the
directory of an index file. -/
private theorem isLedTo_iff {target : String} : isLedTo g.path ⟨.slash, g.directory ++ [g.stem]⟩ target = true ↔
    target = g.path ∨ Path.ofString target = ⟨.slash, g.directory ++ [g.stem]⟩ ∨
      g.stem = "index" ∧ Path.ofString target = ⟨.slash, g.directory⟩ := by
  have hstem : (Path.ofString g.path).stem = g.stem := by
    rw [h.ofString_path, Path.stem, Path.name, List.getLast?_concat, Option.getD_some, h.splitName]
  have hparent : (Path.ofString g.path).parent = ⟨.slash, g.directory⟩ := by
    rw [h.ofString_path, Path.parent, List.dropLast_concat]
  rw [isLedTo, hstem, hparent]
  simp only [Bool.or_eq_true, Bool.and_eq_true, decide_eq_true_eq, or_assoc, eq_comm (b := Path.ofString target)]

private theorem pointedBy_of_isLedTo {target : String}
    (hled : isLedTo g.path ⟨.slash, g.directory ++ [g.stem]⟩ target = true) : g.PointedBy target := by
  rcases h.isLedTo_iff.1 hled with rfl | hbare | hindex
  · exact .inl h.ofString_path
  · exact .inr (.inl hbare)
  · exact .inr (.inr hindex)

/-- What the module names of the file are resolved to leads to the file. -/
private theorem isLedTo_of_namedBy {importer above up down : List String} (himporter : importer.dropLast = above ++ up)
    (hfile : ∀ part ∈ importer, IsComponent part) (hdirectory : g.directory = above ++ down) {specifier : String}
    (hnamed : g.NamedBy up down specifier) {dir : List String} {target : String}
    (htarget : importTarget dir specifier (Path.toString ⟨.slash, importer⟩) = .ok target) :
    isLedTo g.path ⟨.slash, g.directory ++ [g.stem]⟩ target = true := by
  have hdown : ∀ part ∈ down, IsComponent part :=
    fun part hpart => h.directory part (hdirectory ▸ List.mem_append_right _ hpart)
  -- a target that is resolved is the path that the module name leads to
  have hresolved : ∀ {zero : Bool} {path : String},
      (if zero then .error .zeroInPath else .ok path : Except Fault String) = .ok target → target = path := by
    intro zero path hpath
    cases zero with
    | true => cases hpath
    | false => exact (Except.ok.inj hpath).symm
  have hlast : ∀ last, IsComponent last → specifier = relativeSpecifier up (down ++ [last]) →
      target = Path.toString ⟨.slash, g.directory ++ [last]⟩ := by
    intro last hcomponent hspecifier
    rw [hspecifier, importTarget_relativeSpecifier_concat himporter hfile (.concat hdown hcomponent)] at htarget
    rw [hdirectory]
    exact hresolved htarget
  rw [h.isLedTo_iff]
  rcases hnamed with hspecifier | hspecifier | ⟨hindex, hrelative, slashes, hspecifier⟩
  · exact .inl (hlast g.name h.name hspecifier)
  · right
    left
    rw [TargetFile.name, String.append_assoc, relativeSpecifier_append, String.append_left_inj] at hspecifier
    rw [hlast g.stem h.stem hspecifier]
    exact Path.ofString_absolute (.concat h.directory h.stem)
  · right
    right
    refine ⟨hindex, ?_⟩
    rw [importTarget_relativeSpecifier himporter hfile hdown hspecifier hrelative] at htarget
    rw [hresolved htarget, ← hdirectory]
    exact Path.ofString_absolute h.directory

end WellFormed

end TargetFile

namespace Index

variable {dir order : List String} {ix : Index}

/-- A module name that leads from the directory of a file up to a directory above both and down to another file is
resolved to that file when no component on the way holds a zero.  After any run of an index, a file that imports this
name is an importer of the other file; the extension may be left out, and an index file may be named by its directory.
All importers have an import that points to the file in one of these ways.  They are listed once, in the order in which
they were first stored. -/
theorem relative_imports_find_their_file (h : ix.Grown dir order) {g : TargetFile} (hg : g.WellFormed)
    {importer above up down : List String} (hfile : ∀ part ∈ importer, IsComponent part)
    (himporter : importer.dropLast = above ++ up) (hdirectory : g.directory = above ++ down) :
    ((∀ part ∈ above ++ up ++ (down ++ [g.name]), hasZero part = false) →
        importTarget dir (relativeSpecifier up (down ++ [g.name])) (Path.toString ⟨.slash, importer⟩) = .ok g.path) ∧
      ∃ dependents, ix.importersOf g.path = .ok dependents ∧ dependents.Nodup ∧ dependents.Sublist order ∧
        (∀ s, ix.files.get? (Path.toString ⟨.slash, importer⟩) = some s → ∀ specifier ∈ s.imports,
          g.NamedBy up down specifier → Path.toString ⟨.slash, importer⟩ ∈ dependents) ∧
        ∀ path ∈ dependents, ∃ r ∈ ix.relationsOf path, r.kind = .importing ∧ g.PointedBy r.target := by
  have hrelates := h.relates
  refine ⟨?_, _, importers_eq_filter hg.withoutSuffix ix.relations.pairs, ?_, ?_, ?_, ?_⟩
  · intro hzero
    have hdown : ∀ part ∈ down, IsComponent part :=
      fun part hpart => hg.directory part (hdirectory ▸ List.mem_append_right _ hpart)
    have hnone : (above ++ up ++ (down ++ [g.name])).any hasZero = false :=
      List.any_eq_false.2 fun part hpart => Bool.eq_false_iff.1 (hzero part hpart)
    rw [importTarget_relativeSpecifier_concat himporter hfile (.concat hdown hg.name), hnone, TargetFile.path, hdirectory]
    rfl
  · exact ix.relations.nodup_keys.sublist (List.filter_sublist.map _)
  · rw [← hrelates.keys_eq]
    exact List.filter_sublist.map _
  · intro s hs specifier hspecifier hnamed
    obtain ⟨relations, hrelations, hrel⟩ := hrelates.beside.get?_of_get? hs
    obtain ⟨target, htarget, hmem⟩ := exists_relation_of_mem_imports hrel hspecifier
    rw [hrelates.path_eq _ s hs] at htarget hmem
    have hled := hg.isLedTo_of_namedBy himporter hfile hdirectory hnamed htarget
    refine List.mem_map.2 ⟨(_, relations), List.mem_filter.2 ⟨Registry.get?_eq_some_iff.1 hrelations, ?_⟩, rfl⟩
    rw [List.any_eq_true]
    exact ⟨_, hmem, by simp [hled]⟩
  · intro path hpath
    obtain ⟨⟨file, relations⟩, hmem, rfl⟩ := List.mem_map.1 hpath
    obtain ⟨hstored, hany⟩ := List.mem_filter.1 hmem
    obtain ⟨r, hr, hkind⟩ := List.any_eq_true.1 hany
    rw [Bool.and_eq_true, decide_eq_true_eq] at hkind
    refine ⟨r, ?_, hkind.1, hg.pointedBy_of_isLedTo hkind.2⟩
    rw [relationsOf, Registry.get?_eq_some_iff.2 hstored]
    exact hr

/-- A file that names the directory of an index file, with a slash behind it. -/
def libraryUser : FileSummary :=
  { imports := ["../lib/"] }

theorem libraryUser_found :
    importTarget [] "../lib/index.js" "/a/b/f.js" = .ok "/a/lib/index.js" ∧
      (put [] {} "/a/b/f.js" libraryUser).1.importersOf "/a/lib/index.js" = .ok ["/a/b/f.js"] := by
  have hgrown : Grown [] ["/a/b/f.js"] (put [] {} "/a/b/f.js" libraryUser).1 := .put .empty _ libraryUser rfl
  have hg : TargetFile.WellFormed ⟨["a", "lib"], "index", "js"⟩ :=
    ⟨by decide, by decide, by decide, by decide, by decide⟩
  have hfile : ∀ part ∈ ["a", "b", "f.js"], IsComponent part := by decide
  have himporter : ["a", "b", "f.js"].dropLast = ["a"] ++ ["b"] := rfl
  have hdirectory : ["a", "lib"] = ["a"] ++ ["lib"] := rfl
  obtain ⟨htarget, dependents, himporters, -, hsub, hall, -⟩ :=
    relative_imports_find_their_file hgrown hg hfile himporter hdirectory
  have hmem : "/a/b/f.js" ∈ dependents := by
    refine hall { libraryUser with path := "/a/b/f.js" } rfl "../lib/" (by decide) ?_
    exact .inr (.inr ⟨rfl, by decide, 1, rfl⟩)
  refine ⟨htarget (by decide), ?_⟩
  rcases List.sublist_singleton.1 hsub with rfl | rfl
  · cases hmem
  · exact himporters

-- a zero in the name of a file keeps its module name from being resolved
example : importTarget [] "./\x00.js" "/a/f.js" = .error .zeroInPath := rfl

end Index

end CallIndex
