import CallIndex.Fault
import CallIndex.Json.Value
import CallIndex.Text.Basic

/-!
# Arguments of tools

Arguments come as the fields of a JSON object. A value of the wrong type is not refused when it is read but when it is
used, and the message says which use of it failed; so it is with anything else in the place of the object. Null, false,
zero and empty values count as not given where an argument may be left out.
-/

namespace CallIndex

namespace JsonValue

/-- The name of the type of a value in messages. -/
def typeName : JsonValue → String
  | null => "NoneType"
  | bool _ => "bool"
  | int _ => "int"
  | real _ => "float"
  | string _ => "str"
  | array _ => "list"
  | object _ => "dict"

/-- Does a value count as given? -/
def isGiven : JsonValue → Bool
  | null => false
  | bool b => b
  | int n => n ≠ 0
  | real x => !x.isZero
  | string s => s ≠ ""
  | array items => !items.isEmpty
  | object fields => !fields.isEmpty

mutual

/-- A value as it is shown inside a message. -/
def shown : JsonValue → String
  | null => "None"
  | bool b => if b then "True" else "False"
  | int n => toString n
  | real x => x.write ⟨"inf", "nan"⟩
  | string s => Text.quoted s
  | array items => "[" ++ String.intercalate ", " (shownItems items) ++ "]"
  | object fields => "\x7b" ++ String.intercalate ", " (shownFields fields) ++ "\x7d"

/-- The items of an array as they are shown. -/
def shownItems : List JsonValue → List String
  | [] => []
  | v :: vs => v.shown :: shownItems vs

/-- The fields of an object as they are shown. -/
def shownFields : List (String × JsonValue) → List String
  | [] => []
  | (k, v) :: rest => (Text.quoted k ++ ": " ++ v.shown) :: shownFields rest

end

/-- A value inside a message of its own: a string stands there without quotes. -/
def plain : JsonValue → String
  | string s => s
  | v => v.shown

end JsonValue

namespace Tool

/-- A use that a value of the wrong type does not allow. -/
inductive Misuse where
  /-- Trimming something that is no text. -/
  | trimming (type : String)
  /-- Taking something for a path that is none. -/
  | asPath (type : String)
  /-- Comparing something with a number that is none. -/
  | comparing (type : String)
  /-- Adding something to a list that is no list. -/
  | concatenating (type : String)
  /-- Indenting by a fraction. -/
  | indenting
  /-- Looking up a field of something that has no fields. -/
  | lookingUp (type : String)
  /-- Looking up a field of a list. -/
  | lookingUpInList
  /-- Looking up a field of a text. -/
  | lookingUpInText
  /-- Asking for a field, which may be missing, of something that has no fields. -/
  | asking (type : String)
  deriving DecidableEq, Repr

/-- The wording of a misuse. -/
def Misuse.message : Misuse → String
  | trimming type => s!"'{type}' object has no attribute 'strip'"
  | asPath type => s!"expected str, bytes or os.PathLike object, not {type}"
  | comparing type => s!"'<' not supported between instances of '{type}' and 'int'"
  | concatenating type => s!"can only concatenate list (not \"{type}\") to list"
  | indenting => "can't multiply sequence by non-int of type 'float'"
  | lookingUp type => s!"'{type}' object is not subscriptable"
  | lookingUpInList => "list indices must be integers or slices, not str"
  | lookingUpInText => "string indices must be integers, not 'str'"
  | asking type => s!"'{type}' object has no attribute 'get'"

/-- Why a tool gave no result. -/
inductive CallFault where
  /-- A required argument is missing. -/
  | missing (name : String)
  /-- The index could not answer. -/
  | fault (cause : Fault)
  /-- An argument has the wrong type. -/
  | misuse (cause : Misuse)
  deriving DecidableEq, Repr

/-- The wording of a fault of a call. A key without an entry reads like a missing argument. -/
def CallFault.message : CallFault → String
  | missing name => "Missing argument: " ++ Text.quoted name
  | fault (.dangling key) => "Missing argument: " ++ Text.quoted key.key
  | fault cause => cause.message
  | misuse cause => cause.message

/-- Faults that the tools do not foresee; they are noted in the log. -/
def CallFault.isUnforeseen : CallFault → Bool
  | missing _ => false
  | fault (.unnamedPath _) | fault (.unknownKind _) | fault (.directoryNameTooLong _) | fault .zeroInPath
  | fault (.indent _) | fault (.patternOfType _) => true
  | fault _ => false
  | misuse _ => true

/-- An argument that must be there, whatever its value. -/
def require (args : JsonValue) (name : String) : Except CallFault JsonValue :=
  match args with
  | .object fields =>
    match fields.lookup name with
    | some v => .ok v
    | none => .error (.missing name)
  | .array _ => .error (.misuse .lookingUpInList)
  | .string _ => .error (.misuse .lookingUpInText)
  | v => .error (.misuse (.lookingUp v.typeName))

/-- An argument that may be left out; null counts as left out. -/
def value? (args : JsonValue) (name : String) : Except CallFault (Option JsonValue) :=
  match args with
  | .object fields =>
    match fields.lookup name with
    | some .null => .ok none
    | v => .ok v
  | v => .error (.misuse (.asking v.typeName))

/-- An argument that may be left out; a value that does not count as given is left out, too. -/
def given? (args : JsonValue) (name : String) : Except CallFault (Option JsonValue) :=
  return (← value? args name).filter (·.isGiven)

/-- A value used as a path. -/
def pathOf : JsonValue → Except CallFault String
  | .string s => .ok s
  | v => .error (.misuse (.asPath v.typeName))

/-- A value used as a text. -/
def textOf : JsonValue → Except CallFault String
  | .string s => .ok s
  | v => .error (.misuse (.trimming v.typeName))

/-- A value used as a text that must not be blank; `otherwise` is the fault when it is. -/
def nonBlankText (otherwise : Fault) (v : JsonValue) : Except CallFault String := do
  if !v.isGiven then throw (.fault otherwise)
  let s ← textOf v
  if Text.trimmed s = "" then throw (.fault otherwise)
  return s

end Tool

end CallIndex
