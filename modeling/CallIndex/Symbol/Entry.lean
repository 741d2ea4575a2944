import CallIndex.Summary

/-!
# Symbol entries

A symbol entry is a declaration together with the path of its file. Its key joins the path and the qualified name of
the declaration.
-/

namespace CallIndex

/-- The kinds of declarations. -/
inductive SymbolKind where
  | classKind
  | functionKind
  | methodKind
  deriving DecidableEq, Repr

namespace SymbolKind

/-- How a kind is written. -/
def word : SymbolKind → String
  | classKind => "class"
  | functionKind => "function"
  | methodKind => "method"

/-- Reads a kind. -/
def ofWord? (s : String) : Option SymbolKind :=
  [classKind, functionKind, methodKind].find? fun k => k.word = s

end SymbolKind

/-- A class, function or method. -/
inductive Declaration where
  | ofClass (c : ClassDecl)
  | ofFunction (f : FunctionDecl)
  | ofMethod (m : MethodDecl)
  deriving DecidableEq, Repr

/-- A declaration in the file at `path`. -/
structure SymbolEntry where
  path : String
  declaration : Declaration
  deriving DecidableEq, Repr

namespace SymbolEntry

/-- The kind of the declaration. -/
def kind (e : SymbolEntry) : SymbolKind :=
  match e.declaration with
  | .ofClass _ => .classKind
  | .ofFunction _ => .functionKind
  | .ofMethod _ => .methodKind

/-- The simple name. -/
def name (e : SymbolEntry) : String :=
  match e.declaration with
  | .ofClass c => c.name
  | .ofFunction f => f.name
  | .ofMethod m => m.name

/-- The line of the declaration. -/
def line (e : SymbolEntry) : Int :=
  match e.declaration with
  | .ofClass c => c.line
  | .ofFunction f => f.line
  | .ofMethod m => m.line

/-- The class of a method. -/
def className? (e : SymbolEntry) : Option String :=
  match e.declaration with
  | .ofMethod m => some m.className
  | _ => none

/-- `Class::method` for methods, the simple name otherwise. -/
def qualifiedName (e : SymbolEntry) : String :=
  match e.declaration with
  | .ofClass c => c.name
  | .ofFunction f => f.name
  | .ofMethod m => m.qualifiedName

/-- The key of a qualified name in a file. -/
def keyOf (path qualifiedName : String) : String :=
  path ++ ":" ++ qualifiedName

/-- The key of an entry. -/
def key (e : SymbolEntry) : String :=
  keyOf e.path e.qualifiedName

/-- The class that a self-reference inside the declaration refers to. -/
def ownerClass? (e : SymbolEntry) : Option String :=
  match e.declaration with
  | .ofClass c => some c.name
  | .ofFunction _ => none
  | .ofMethod m => some m.className

end SymbolEntry

/-- The entries of a file: classes, then functions, then methods. -/
def FileSummary.entries (s : FileSummary) : List SymbolEntry :=
  s.classes.map (⟨s.path, .ofClass ·⟩) ++ s.functions.map (⟨s.path, .ofFunction ·⟩) ++
    s.methods.map (⟨s.path, .ofMethod ·⟩)

end CallIndex
