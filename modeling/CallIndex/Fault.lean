import CallIndex.Text.Quoted

/-!
# Faults

What can go wrong when a source is read or the index is asked, one constructor for each cause, and the wording of
each.
-/

namespace CallIndex

/-- Why the text of a source file could not be had. -/
inductive SourceFault where
  /-- Nothing is there. -/
  | notFound (path : String)
  /-- What is there is a directory. -/
  | notAFile (path : String)
  /-- The file is larger than allowed; sizes in bytes. -/
  | tooLarge (path : String) (size limit : Nat)
  /-- The path leads through a file. -/
  | throughFile (path : String)
  /-- The path, or a component of it, is longer than the file system takes. -/
  | nameTooLong (path : String)
  /-- The file may not be opened. -/
  | notPermitted (path : String)
  /-- The file system fails for another reason, in its own wording. -/
  | unavailable (path wording : String)
  deriving DecidableEq, Repr

/-- The wording of a source fault. -/
def SourceFault.message : SourceFault → String
  | notFound path => s!"File not found: {path}"
  | notAFile path => s!"Not a file: {path}"
  | tooLarge path size limit => s!"File too large: {path} ({size} bytes, limit {limit})"
  | throughFile path => s!"Cannot read {path}: [Errno 20] Not a directory: " ++ Text.quoted path
  | nameTooLong path => s!"Cannot read {path}: [Errno 36] File name too long: " ++ Text.quoted path
  | notPermitted path => s!"Permission denied: {path}"
  | unavailable path wording => s!"Cannot read {path}: {wording}"

/-- A key that the symbol table lists under a name or a file, and under which there is no entry. -/
structure DanglingKey where
  key : String
  deriving DecidableEq, Repr

/-- Why a line cannot be indented. -/
inductive IndentFault where
  /-- The number of blanks is not that of any place in a text. -/
  | noPlace
  /-- The text would be longer than a text can be. -/
  | tooLong
  /-- The text would take more memory than there is. -/
  | noMemory
  deriving DecidableEq, Repr

/-- The wording of a fault of an indentation. -/
def IndentFault.message : IndentFault → String
  | noPlace => "cannot fit 'int' into an index-sized integer"
  | tooLong => "repeated string is too long"
  | noMemory => ""

/-- Why an operation on the index failed. -/
inductive Fault where
  | notADirectory (path : String)
  /-- The path of a directory, or a component of it, is longer than the file system takes. -/
  | directoryNameTooLong (path : String)
  /-- A path holds the character zero, which no path of a file system does. -/
  | zeroInPath
  /-- A pattern to exclude is no text, but of another type. -/
  | patternOfType (type : String)
  | emptyMethodName
  | emptyClassOrMethodName
  | emptyEntry
  | negativeDepth (depth : String)
  | source (cause : SourceFault)
  | dangling (key : DanglingKey)
  /-- A path without a last component was asked for its importers. -/
  | unnamedPath (path : String)
  /-- A symbol kind that does not exist, as it is shown. -/
  | unknownKind (shown : String)
  | indent (cause : IndentFault)
  deriving DecidableEq, Repr

/-- The wording of a fault. -/
def Fault.message : Fault → String
  | notADirectory path => s!"Not a directory: {path}"
  | directoryNameTooLong path => "[Errno 36] File name too long: " ++ Text.quoted path
  | zeroInPath => "embedded null byte"
  | patternOfType type => s!"expected str, bytes or os.PathLike object, not {type}"
  | emptyMethodName => "Method name must not be empty"
  | emptyClassOrMethodName => "Class and method names must not be empty"
  | emptyEntry => "Entry symbol must not be empty"
  | negativeDepth depth => s!"max_depth must be >= 0, got {depth}"
  | source cause => cause.message
  | dangling key => Text.quoted key.key
  | unnamedPath path => "PosixPath(" ++ Text.quoted path ++ ") has an empty name"
  | unknownKind shown => shown ++ " is not a valid SymbolType"
  | indent cause => cause.message

end CallIndex
