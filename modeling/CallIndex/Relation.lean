import CallIndex.Fault
import CallIndex.Path
import CallIndex.Registry
import CallIndex.Summary

/-!
# Relations between files

A file is related to the modules it imports, and its classes to the classes they extend or implement. An import that
starts with `./` or `../` is resolved against the directory of the importing file.

* `fileRelations` lists the relations of a file.
* `importers` lists the files with an import that leads to a given file.
-/

namespace CallIndex

/-- The kinds of relations. -/
inductive RelationKind where
  | importing
  | extending
  | implementing
  deriving DecidableEq, Repr

/-- How a kind of relation is written. -/
def RelationKind.word : RelationKind → String
  | importing => "import"
  | extending => "extends"
  | implementing => "implements"

/-- A relation out of a file. The source is the file for imports, and the key of a class otherwise. -/
structure Relation where
  source : String
  target : String
  kind : RelationKind
  deriving DecidableEq, Repr

/-- Is a module name a path relative to the importing file? -/
def isRelativeImport (specifier : String) : Bool :=
  "./".toList.isPrefixOf specifier.toList || "../".toList.isPrefixOf specifier.toList

/-- What a module name stands for in the file `file`, where `dir` is the working directory. -/
def importTarget (dir : List String) (specifier file : String) : Except Fault String :=
  if isRelativeImport specifier then
    let target := (Path.ofString file).parent.append (Path.ofString specifier)
    if target.parts.any hasZero then .error .zeroInPath else .ok (target.resolve dir).toString
  else .ok specifier

/-- The relations of a class to its bases. -/
def classRelations (path : String) (c : ClassDecl) : List Relation :=
  c.bases.map fun base =>
    ⟨path ++ ":" ++ c.name, base, if c.interfaces.contains base then .implementing else .extending⟩

/-- The relations of a file: its imports, then the bases of its classes. -/
def fileRelations (dir : List String) (s : FileSummary) : Except Fault (List Relation) := do
  let imports ← s.imports.mapM fun specifier =>
    return ⟨s.path, ← importTarget dir specifier s.path, .importing⟩
  return imports ++ s.classes.flatMap (classRelations s.path)

/-- Does an import of `target` lead to the file at `path`? It may leave out the extension, or name the directory of an
index file. -/
def leadsTo (target path : String) : Except Fault Bool :=
  if target = path then .ok true
  else
    let file := Path.ofString path
    match file.withoutSuffix? with
    | none => .error (.unnamedPath path)
    | some bare =>
      .ok (bare = Path.ofString target || (file.stem = "index" && file.parent = Path.ofString target))

/-- Does one of the relations import the file at `path`? The first that does decides. -/
def anyLeadsTo (path : String) : List Relation → Except Fault Bool
  | [] => .ok false
  | r :: rest =>
    if r.kind = .importing then do
      if ← leadsTo r.target path then return true else anyLeadsTo path rest
    else anyLeadsTo path rest

/-- The files with an import that leads to the file at `path`. -/
def importers (path : String) : List (String × List Relation) → Except Fault (List String)
  | [] => .ok []
  | (file, relations) :: rest => do
    let found ← anyLeadsTo path relations
    let others ← importers path rest
    return if found then file :: others else others

end CallIndex
