import CallIndex.Command.Run

/-!
# The command line program

Reads the directory that is asked for, runs the command on it, and writes what the command has written.
-/

namespace CallIndex

/-- Why a file could not be read. -/
def barrierOf : IO.Error → Barrier
  | .permissionDenied .. => .permission
  | error => .failure (toString error)

/-- Adds a file to a tree. -/
def addFile (parts : List String) (entry : IO.FS.DirEntry) (tree : FileTree) : IO FileTree := do
  try return tree.write parts (← IO.FS.readBinFile entry.path)
  catch error =>
    let size := (← entry.path.metadata).byteSize.toNat
    return tree.bar parts ⟨Array.replicate size 0⟩ (barrierOf error)

/-- Adds the recognised files below a directory to a tree. -/
partial def addBelow (parts : List String) (tree : FileTree) : IO FileTree := do
  let here ← IO.FS.realPath (Path.toString ⟨.slash, parts⟩)
  let mut tree := tree.addDirectory parts
  for entry in ← here.readDir do
    let inner := parts ++ [entry.fileName]
    if ← entry.path.isDir then tree ← addBelow inner tree
    else if languageOf entry.fileName ≠ unknownLanguage then tree ← addFile inner entry tree
  return tree

/-- Adds the settings file of a directory to a tree, if there is one. -/
def addSettings (dir : List String) (tree : FileTree) : IO FileTree := do
  let file := dir ++ [".env"]
  try return tree.write file (← IO.FS.readBinFile (Path.toString ⟨.slash, file⟩))
  catch _ => return tree

/-- What a command line can see from the working directory. -/
def surroundings (words : List String) : IO Command.Surroundings := do
  let dir := (Path.ofString (← IO.currentDir).toString).parts
  let root := (Path.ofString (Command.requestedDirectory words)).resolve dir
  let tree ← try addBelow root.parts {} catch _ => pure {}
  return { sources := .tree (← addSettings dir tree), dir := dir }

end CallIndex

/-- Runs the command line given as arguments. -/
def main (words : List String) : IO UInt32 := do
  let outcome := CallIndex.Command.runLine (← CallIndex.surroundings words) words
  for line in outcome.terminal.log ++ outcome.terminal.errors do
    IO.eprintln line
  for line in outcome.terminal.output do
    IO.println line
  return outcome.exitCode.toUInt32
