import CallIndex.Text.Basic

/-!
# Paths

A path is a root and a list of components; empty components and single dots are dropped when it is read, double dots
stay. Resolving a path against a working directory gives its canonical absolute form.

* `Path.resolve` removes every `..` together with the component before it.
* `Path.suffix` is the last extension of the last component.
-/

namespace CallIndex

/-- How a path begins. Exactly two slashes are kept apart from one. -/
inductive PathRoot where
  | relative
  | slash
  | doubleSlash
  deriving DecidableEq, Repr

/-- A path as it is written, without empty components and single dots. -/
structure Path where
  root : PathRoot
  parts : List String
  deriving DecidableEq, Repr

namespace Path

/-- Reads a path. -/
def ofString (s : String) : Path :=
  let slashes := (s.toList.takeWhile (· = '/')).length
  let root := if slashes = 0 then .relative else if slashes = 2 then .doubleSlash else .slash
  ⟨root, ((Text.splitAtChar '/' s.toList).map String.ofList).filter fun part => part ≠ "" && part ≠ "."⟩

/-- Writes a path; an empty relative path is a dot. -/
def toString (p : Path) : String :=
  let body := Text.join "/" p.parts
  match p.root with
  | .relative => if p.parts.isEmpty then "." else body
  | .slash => "/" ++ body
  | .doubleSlash => "//" ++ body

/-- The parts of a path, its root included. -/
def segments (p : Path) : List String :=
  match p.root with
  | .relative => p.parts
  | .slash => "/" :: p.parts
  | .doubleSlash => "//" :: p.parts

/-- The last component; empty for a root or the empty path. -/
def name (p : Path) : String :=
  p.parts.getLast?.getD ""

/-- The path without its last component. -/
def parent (p : Path) : Path :=
  { p with parts := p.parts.dropLast }

/-- A path below `p`; an absolute path replaces `p`. -/
def append (p q : Path) : Path :=
  match q.root with
  | .relative => { p with parts := p.parts ++ q.parts }
  | _ => q

/-- The place of the last dot in a file name, unless it is the first or the last character. -/
def splitName (name : String) : String × String :=
  match Text.cutAtLast? ['.'] name.toList with
  | some (stem, extension) =>
    if stem.isEmpty || extension.isEmpty then (name, "")
    else (String.ofList stem, String.ofList ('.' :: extension))
  | none => (name, "")

/-- The last component without its last extension. -/
def stem (p : Path) : String :=
  (splitName p.name).1

/-- The last extension of the last component, with its dot. -/
def suffix (p : Path) : String :=
  (splitName p.name).2

/-- The path without its last extension; there is none for a path without a name. -/
def withoutSuffix? (p : Path) : Option Path :=
  match p.parts.getLast? with
  | none => none
  | some name => some { p with parts := p.parts.dropLast ++ [(splitName name).1] }

/-- Removes double dots from components that follow the reversed components `above`; above the root there is only the
root. -/
def collapse (above : List String) : List String → List String
  | [] => above.reverse
  | part :: rest => if part = ".." then collapse above.tail rest else collapse (part :: above) rest

/-- The canonical absolute form of a path, read from the directory `dir` when it is relative. -/
def resolve (dir : List String) (p : Path) : Path :=
  match p.root with
  | .relative => ⟨.slash, collapse dir.reverse p.parts⟩
  | _ => ⟨.slash, collapse [] p.parts⟩

/-- The components of `p` below `base`, when `p` lies there. -/
def below? (p base : Path) : Option (List String) :=
  if p.root = base.root && base.parts.isPrefixOf p.parts then some (p.parts.drop base.parts.length) else none

end Path

/-- Does a written path hold the character zero? -/
def hasZero (s : String) : Bool :=
  s.toList.contains (Char.ofNat 0)

/-- The canonical absolute form of a written path. -/
def canonicalPath (dir : List String) (s : String) : String :=
  ((Path.ofString s).resolve dir).toString

end CallIndex
