import CallIndex.Call.Target
import CallIndex.Json.Reader
import CallIndex.Settings.EnvFile
import CallIndex.Text.Utf8

/-!
# Settings

What can be set: the names of external objects, the largest file that is read, the depth of a trace, patterns that
are left out of directories, and the level of the log. Settings come from a JSON object, and where it says nothing from
a settings file, in which their names have a common start and lists are written as JSON.
-/

namespace CallIndex

/-- The settings of a run. -/
structure Settings where
  externalObjects : List String := Call.defaultExternals
  maxFileSize : Nat := 1024 * 1024
  traceDepth : Nat := 5
  exclude : List String := []
  logLevel : String := "WARNING"
  deriving DecidableEq, Repr

/-- Why settings were refused. -/
inductive SettingsFault where
  /-- A value has the wrong type or lies out of range. -/
  | invalid
  /-- A list in a settings file is not written as JSON. -/
  | unreadable
  /-- The bytes of a settings file are no text. -/
  | noText (fault : Text.Utf8.Fault)
  deriving DecidableEq, Repr

namespace Settings

/-- Integers of double precision lie below this number in size. -/
def realBound : Int := 9223372036854775808

/-- An integer, or what stands for one: a truth value, a number without a fraction, or a written integer. -/
def integerOf? : JsonValue → Option Int
  | .int n => some n
  | .bool b => some (if b then 1 else 0)
  | .real x => x.integer?.filter fun n => -realBound < n && n < realBound
  | .string s => Text.integer? s.toList
  | _ => none

/-- A list of strings. -/
def stringsOf? : JsonValue → Option (List String)
  | .array items => items.mapM fun
    | .string s => some s
    | _ => none
  | _ => none

/-- Sets one field by its name; other names are ignored. -/
def setField (s : Settings) (name : String) (v : JsonValue) : Except SettingsFault Settings :=
  let orInvalid {α : Type} (x : Option α) (f : α → Settings) : Except SettingsFault Settings :=
    match x with
    | some a => .ok (f a)
    | none => .error .invalid
  if name = "external_objects" then orInvalid (stringsOf? v) fun xs => { s with externalObjects := xs }
  else if name = "max_file_size" then
    orInvalid ((integerOf? v).filter (0 < ·)) fun n => { s with maxFileSize := n.toNat }
  else if name = "trace_depth" then orInvalid ((integerOf? v).filter (0 ≤ ·)) fun n => { s with traceDepth := n.toNat }
  else if name = "exclude" then orInvalid (stringsOf? v) fun xs => { s with exclude := xs }
  else if name = "log_level" then
    match v with
    | .string level => .ok { s with logLevel := level }
    | _ => .error .invalid
  else .ok s

/-- The names of the fields. -/
def fieldNames : List String :=
  ["external_objects", "max_file_size", "trace_depth", "exclude", "log_level"]

/-- The value of a field in a record, under the first name that fits in any case of letters. -/
def fieldValue? (record : List (String × JsonValue)) (field : String) : Option JsonValue :=
  (record.find? fun (name, _) => Text.lowerCase name = field).map Prod.snd

/-- The settings of a JSON object; missing fields have their defaults. -/
def ofFields (record : List (String × JsonValue)) : Except SettingsFault Settings :=
  fieldNames.foldlM (fun s field =>
    match fieldValue? record field with
    | some v => s.setField field v
    | none => .ok s) {}

/-- The start of all names in a settings file. -/
def namePrefix : String := "callmap_"

/-- Is a field a list, which a settings file holds as JSON? -/
def isListField (field : String) : Bool :=
  field = "external_objects" || field = "exclude"

/-- The value of a field in a settings file, under the last name that fits in any case of letters. A field without a
value, or with the value null for a list, is not set. -/
def boundValue? (bound : Registry (Option String)) (field : String) :
    Except SettingsFault (Option (String × JsonValue)) :=
  match (bound.pairs.reverse.find? fun (name, _) => Text.lowerCase name = namePrefix ++ field).bind Prod.snd with
  | none => .ok none
  | some v =>
    if isListField field then
      match JsonValue.read? v with
      | some .null => .ok none
      | some json => .ok (some (field, json))
      | none => .error .unreadable
    else .ok (some (field, .string v))

/-- The fields that the bytes of a settings file set. -/
def envFields (bytes : List UInt8) : Except SettingsFault (List (String × JsonValue)) := do
  if let some fault := Text.Utf8.firstFault? 0 bytes then throw (.noText fault)
  let bound := EnvFile.read (String.ofList (Text.Utf8.repair (Text.Utf8.decode bytes)))
  let values ← fieldNames.mapM (boundValue? bound)
  return values.filterMap id

/-- The settings of a record, of which a settings file supplies the missing fields. -/
def ofSources (record : List (String × JsonValue)) (file : Option (List UInt8)) : Except SettingsFault Settings := do
  let fields ← match file with
    | some bytes => envFields bytes
    | none => pure []
  ofFields (record ++ fields)

end Settings

end CallIndex
