import CallIndex.Fault
import CallIndex.Path
import CallIndex.Text.Utf8

/-!
# File trees

A file tree holds files and directories by their absolute components. It stands for the part of a file system that is
looked at: the root is always a directory, and so is every ancestor of a file.

* `FileTree.status` tells what a path leads to, or why it leads nowhere.
* `FileTree.filesBelow` lists the files below a directory, ordered by components.
-/

namespace CallIndex

/-- Why the bytes of a file cannot be had. -/
inductive Barrier where
  /-- The file may not be opened. -/
  | permission
  /-- The file system fails for another reason, in its own wording. -/
  | failure (wording : String)
  deriving DecidableEq, Repr

/-- Directories and files by their components, and the files whose bytes cannot be had. -/
structure FileTree where
  directories : List (List String) := []
  files : List (List String × ByteArray) := []
  barred : List (List String × Barrier) := []

/-- What a path leads to. -/
inductive FileStatus where
  | directory
  | file (bytes : ByteArray)
  /-- A file of this size is there, but its bytes cannot be had. -/
  | unreadable (size : Nat) (cause : Barrier)
  | missing
  /-- A component before the last is a file. -/
  | throughFile
  /-- The path, or a component of it, is longer than it may be. -/
  | nameTooLong

/-- The directory that a path leads to. -/
inductive DirectoryStatus where
  | found (parts : List String)
  | missing
  /-- The path, or a component of it, is longer than it may be. -/
  | nameTooLong
  deriving DecidableEq, Repr

namespace FileTree

/-- The longest name of a file or directory, in bytes. -/
def nameLimit : Nat := 255

/-- The longest path, in bytes. -/
def pathLimit : Nat := 4095

/-- Is there a directory with these components? -/
def isDirectory (t : FileTree) (parts : List String) : Bool :=
  parts.isEmpty || t.directories.contains parts

/-- The file with these components. -/
def file? (t : FileTree) (parts : List String) : Option ByteArray :=
  t.files.lookup parts

/-- What a file with these components and bytes can be used for. -/
def fileStatus (t : FileTree) (parts : List String) (bytes : ByteArray) : FileStatus :=
  match t.barred.lookup parts with
  | none => .file bytes
  | some cause => .unreadable bytes.size cause

/-- What the components `rest` lead to from the directory `above`. -/
def statusFrom (t : FileTree) (above : List String) : List String → FileStatus
  | [] => .directory
  | part :: rest =>
    let here := above ++ [part]
    if part.utf8ByteSize > nameLimit then .nameTooLong
    else if t.isDirectory here then t.statusFrom here rest
    else match t.file? here with
      | some bytes => if rest.isEmpty then t.fileStatus here bytes else .throughFile
      | none => .missing

/-- What an absolute path without double dots leads to. -/
def status (t : FileTree) (parts : List String) : FileStatus :=
  if (Path.toString ⟨.slash, parts⟩).utf8ByteSize > pathLimit then .nameTooLong else t.statusFrom [] parts

/-- The directory that the components `rest` lead to from the directory `above`, double dots going up. -/
def directoryFrom (t : FileTree) (above : List String) : List String → DirectoryStatus
  | [] => .found above
  | part :: rest =>
    if part = ".." then t.directoryFrom above.dropLast rest
    else if part.utf8ByteSize > nameLimit then .nameTooLong
    else if t.isDirectory (above ++ [part]) then t.directoryFrom (above ++ [part]) rest
    else .missing

/-- The directory that a path leads to when it is read from the directory `dir`. -/
def directoryAt (t : FileTree) (dir : List String) (p : Path) : DirectoryStatus :=
  if p.toString.utf8ByteSize > pathLimit then .nameTooLong
  else match p.root with
    | .relative => t.directoryFrom dir p.parts
    | _ => t.directoryFrom [] p.parts

/-- Adds a directory and its ancestors. -/
def addDirectory (t : FileTree) (parts : List String) : FileTree :=
  let new := (List.range parts.length).map fun n => parts.take (n + 1)
  { t with directories := t.directories ++ new.filter fun d => !t.directories.contains d }

/-- Writes a file, and the directories it needs. -/
def write (t : FileTree) (parts : List String) (bytes : ByteArray) : FileTree :=
  let t := t.addDirectory parts.dropLast
  { t with
    files := t.files.filter (fun f => f.1 ≠ parts) ++ [(parts, bytes)]
    barred := t.barred.filter fun b => b.1 ≠ parts }

/-- Writes a file whose bytes cannot be had. -/
def bar (t : FileTree) (parts : List String) (bytes : ByteArray) (cause : Barrier) : FileTree :=
  let t := t.write parts bytes
  { t with barred := (parts, cause) :: t.barred }

/-- Removes a file, or a directory with all that is below it. -/
def remove (t : FileTree) (parts : List String) : FileTree where
  directories := t.directories.filter fun d => !parts.isPrefixOf d
  files := t.files.filter fun f => !parts.isPrefixOf f.1
  barred := t.barred.filter fun b => !parts.isPrefixOf b.1

/-- Components in the order of their characters, one after another. -/
def partsLE : List String → List String → Bool
  | [], _ => true
  | _ :: _, [] => false
  | a :: as, b :: bs => if a < b then true else if b < a then false else partsLE as bs

/-- The components, relative to the directory, of the files below it, in order. -/
def filesBelow (t : FileTree) (dir : List String) : List (List String) :=
  ((t.files.filter fun f => dir.isPrefixOf f.1).map fun f => f.1.drop dir.length).mergeSort partsLE

end FileTree

/-- The text of a file, and whether bytes of it had to be replaced. -/
structure SourceText where
  content : String
  isRepaired : Bool := false
  deriving DecidableEq, Repr

/-- Where source texts come from. -/
inductive Sources where
  /-- Texts by absolute path. -/
  | texts (files : List (String × String))
  /-- Files of a tree. -/
  | tree (t : FileTree)

namespace Sources

/-- Reads a file of at most `limit` bytes by its canonical path; texts that are no files have no limit. -/
def read (src : Sources) (limit : Nat) (path : String) : Except SourceFault SourceText :=
  match src with
  | .texts files =>
    match files.lookup path with
    | some content => .ok { content := content }
    | none => .error (.notFound path)
  | .tree t =>
    match t.status (Path.ofString path).parts with
    | .missing => .error (.notFound path)
    | .throughFile => .error (.throughFile path)
    | .nameTooLong => .error (.nameTooLong path)
    | .directory => .error (.notAFile path)
    | .unreadable size cause =>
      if size > limit then .error (.tooLarge path size limit)
      else match cause with
        | .permission => .error (.notPermitted path)
        | .failure wording => .error (.unavailable path wording)
    | .file bytes =>
      if bytes.size > limit then .error (.tooLarge path bytes.size limit)
      else
        let text := Text.Utf8.repair (Text.Utf8.decode bytes.data.toList)
        .ok { content := String.ofList text, isRepaired := Text.Utf8.isNoteworthy bytes.data.toList text }

/-- The file tree, if there is one. -/
def fileTree (src : Sources) : FileTree :=
  match src with
  | .texts _ => {}
  | .tree t => t

end Sources

end CallIndex
