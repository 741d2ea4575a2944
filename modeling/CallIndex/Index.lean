import CallIndex.Relation
import CallIndex.Symbol.Table

/-!
# The index

The index keeps the summary of every analysed file, and beside it the symbols, calls and relations that the summary
contributes. They change together: storing a summary replaces all that its path contributed before, and deleting a
path removes it.
-/

namespace CallIndex

open Call (CallSite)

/-- Summaries by path, and what they contribute. Stamps count the summaries stored so far. -/
structure Index where
  symbols : SymbolTable := {}
  calls : Registry (List CallSite) := .empty
  relations : Registry (List Relation) := .empty
  files : Registry FileSummary := .empty
  stamps : Registry Nat := .empty
  clock : Nat := 0

namespace Index

/-- The index without files. The clock goes on. -/
def clear (ix : Index) : Index :=
  { clock := ix.clock }

/-- Stores a summary under a path. When a listed key turns out to be missing, only the symbol table has changed; when
the path of an import cannot be resolved, only the symbol table and the calls have. -/
def put (dir : List String) (ix : Index) (path : String) (s : FileSummary) : Index × Except Fault Unit :=
  let s := s.relocate path
  match ix.symbols.registerFile s with
  | (symbols, .error e) => ({ ix with symbols := symbols }, .error (.dangling e))
  | (symbols, .ok _) =>
    let ix := { ix with symbols := symbols, calls := ix.calls.set path s.calls }
    match fileRelations dir s with
    | .error e => (ix, .error e)
    | .ok relations =>
      ({ ix with
          relations := ix.relations.set path relations
          files := ix.files.set path s
          stamps := ix.stamps.set path (ix.clock + 1)
          clock := ix.clock + 1 }, .ok ())

/-- Forgets a path; was it there? -/
def delete (ix : Index) (path : String) : Index × Except Fault Bool :=
  match ix.symbols.removeFile path with
  | (symbols, .error e) => ({ ix with symbols := symbols }, .error (.dangling e))
  | (symbols, .ok _) =>
    ({ ix with
        symbols := symbols
        calls := ix.calls.erase path
        relations := ix.relations.erase path
        files := ix.files.erase path
        stamps := ix.stamps.erase path }, .ok (ix.files.contains path))

/-- The calls of a file. -/
def callsOf (ix : Index) (path : String) : List CallSite :=
  (ix.calls.get? path).getD []

/-- The relations of a file. -/
def relationsOf (ix : Index) (path : String) : List Relation :=
  (ix.relations.get? path).getD []

/-- The files that import the file at `path`, in the order in which they were first stored. -/
def importersOf (ix : Index) (path : String) : Except Fault (List String) :=
  importers path ix.relations.pairs

/-- Must a file be analysed, given the digest of its present text? -/
def isStale (ix : Index) (path digest : String) : Bool :=
  (ix.files.get? path).all fun s => s.digest ≠ digest

/-- The latest stamp. -/
def lastStamp? (ix : Index) : Option Nat :=
  ix.stamps.values.max?

/-- How much the index holds. -/
structure Totals where
  files : Nat
  symbols : Nat
  calls : Nat
  relations : Nat
  lastStamp : Option Nat
  deriving DecidableEq, Repr

/-- Counts the contents of the index. -/
def totals (ix : Index) : Totals where
  files := ix.files.size
  symbols := ix.symbols.entries.size
  calls := ix.calls.values.flatten.length
  relations := ix.relations.values.flatten.length
  lastStamp := ix.lastStamp?

/-- The calls inside the body of a declaration. -/
def bodyCalls (ix : Index) (e : SymbolEntry) : List CallSite :=
  match ix.files.get? e.path with
  | none => []
  | some s => callsWithin (ix.callsOf e.path) e.line (s.nextDeclaration? e.line)

end Index

end CallIndex
