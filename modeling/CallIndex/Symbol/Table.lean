import CallIndex.Fault
import CallIndex.Registry
import CallIndex.Symbol.Entry

/-!
# The symbol table

Entries are held under their keys. Two further registries list the keys of each qualified name and of each file, so
that a qualified name is looked up without a scan. Within a file a later declaration replaces an earlier one with the
same key, in its place.

The three registries agree as long as no two files declare the same key; otherwise a listed key can be left without an
entry, and the operations that meet it report it.
-/

namespace CallIndex

/-- The declarations of all files. -/
structure SymbolTable where
  entries : Registry SymbolEntry := .empty
  byName : Registry (List String) := .empty
  byFile : Registry (List String) := .empty

namespace SymbolTable

/-- The entry under a key. -/
def get? (t : SymbolTable) (key : String) : Option SymbolEntry :=
  t.entries.get? key

/-- The entry under a key that is listed somewhere. -/
def fetch (t : SymbolTable) (key : String) : Except DanglingKey SymbolEntry :=
  match t.entries.get? key with
  | some e => .ok e
  | none => .error ⟨key⟩

/-- Takes the entry `e` out of the table, where it stands under `key`. -/
def forget (t : SymbolTable) (key : String) (e : SymbolEntry) : SymbolTable :=
  let remaining := ((t.byName.get? e.qualifiedName).getD []).erase key
  { t with
    entries := t.entries.erase key
    byName := if remaining.isEmpty then t.byName.erase e.qualifiedName else t.byName.set e.qualifiedName remaining }

/-- Takes out the entries under some keys, up to the first key that has none. -/
def forgetAll (t : SymbolTable) : List String → SymbolTable × Except DanglingKey Unit
  | [] => (t, .ok ())
  | key :: keys =>
    match t.entries.get? key with
    | some e => (t.forget key e).forgetAll keys
    | none => (t, .error ⟨key⟩)

/-- Takes out the entries of a file; how many were there? -/
def removeFile (t : SymbolTable) (path : String) : SymbolTable × Except DanglingKey Nat :=
  let keys := (t.byFile.get? path).getD []
  let (t, outcome) := { t with byFile := t.byFile.erase path }.forgetAll keys
  (t, outcome.map fun _ => keys.length)

/-- Enters one declaration; its key is added to `keys` when it is new. -/
def enter (t : SymbolTable) (keys : List String) (e : SymbolEntry) : SymbolTable × List String :=
  if t.entries.contains e.key then ({ t with entries := t.entries.set e.key e }, keys)
  else
    ({ t with
        entries := t.entries.set e.key e
        byName := t.byName.set e.qualifiedName ((t.byName.get? e.qualifiedName).getD [] ++ [e.key]) },
      keys ++ [e.key])

/-- Enters declarations one after another. -/
def enterAll (t : SymbolTable) (keys : List String) : List SymbolEntry → SymbolTable × List String
  | [] => (t, keys)
  | e :: es =>
    let (t, keys) := t.enter keys e
    t.enterAll keys es

/-- Replaces the entries of a file by those of its summary; how many keys are new? -/
def registerFile (t : SymbolTable) (s : FileSummary) : SymbolTable × Except DanglingKey Nat :=
  match t.removeFile s.path with
  | (t, .error e) => (t, .error e)
  | (t, .ok _) =>
    let (t, keys) := t.enterAll [] s.entries
    ({ t with byFile := t.byFile.set s.path keys }, .ok keys.length)

/-- The entries with a qualified name. -/
def withQualifiedName (t : SymbolTable) (name : String) : Except DanglingKey (List SymbolEntry) :=
  ((t.byName.get? name).getD []).mapM t.fetch

/-- The entries of a file, in order of registration. -/
def inFile (t : SymbolTable) (path : String) : Except DanglingKey (List SymbolEntry) :=
  ((t.byFile.get? path).getD []).mapM t.fetch

/-- The entries that a trimmed query names: a key, `Class::method`, `Class::` for a class and its methods, or a simple
name. -/
def lookup (t : SymbolTable) (query : String) : Except DanglingKey (List SymbolEntry) :=
  if query = "" then .ok []
  else match t.entries.get? query with
    | some e => .ok [e]
    | none =>
      match Text.cutAtLast? "::".toList query.toList with
      | some (className, []) =>
        let className := String.ofList className
        .ok (t.entries.values.filter fun e =>
          (e.kind = .classKind && e.name = className) || e.className? = some className)
      | some _ => t.withQualifiedName query
      | none => .ok (t.entries.values.filter fun e => e.name = query)

/-- The entries that a query names, of one kind or of all. -/
def find (t : SymbolTable) (query : String) (kind : Option SymbolKind := none) :
    Except DanglingKey (List SymbolEntry) :=
  (t.lookup (Text.trimmed query)).map (·.filter fun e => kind.all (e.kind = ·))

/-- The entries that a symbol met in a trace stands for: a bare name prefers functions. -/
def resolve (t : SymbolTable) (symbol : String) : Except DanglingKey (List SymbolEntry) :=
  if Text.occurs "::".toList symbol.toList || t.entries.contains symbol then t.find symbol
  else do
    let functions ← t.find symbol (some .functionKind)
    if functions.isEmpty then t.find symbol else return functions

end SymbolTable

end CallIndex
