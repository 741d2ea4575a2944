import CallIndex.Number.Shortest
import CallIndex.Text.Quoted

/-!
# JSON values

Values of the JSON data format, with the fields of an object in order, and their two written forms: on one line, and
with one item per line and an indentation of two. Only printable ASCII characters are written as themselves.
-/

namespace CallIndex

/-- A JSON value. Numbers with a fraction or a power of ten are of double precision. -/
inductive JsonValue where
  | null
  | bool (b : Bool)
  | int (n : Int)
  | real (x : Double)
  | string (s : String)
  | array (items : List JsonValue)
  | object (fields : List (String × JsonValue))
  deriving Inhabited, Repr

namespace JsonValue

/-- The escape of a 16-bit unit. -/
def escapeUnit (n : Nat) : List Char :=
  '\\' :: 'u' :: Text.hexDigits 4 n

/-- A character inside a written string. -/
def writeChar (c : Char) : List Char :=
  if c = '"' then ['\\', '"']
  else if c = '\\' then ['\\', '\\']
  else if c = '\n' then ['\\', 'n']
  else if c = '\r' then ['\\', 'r']
  else if c = '\t' then ['\\', 't']
  else if c.toNat = 8 then ['\\', 'b']
  else if c.toNat = 12 then ['\\', 'f']
  else if 0x20 ≤ c.toNat && c.toNat ≤ 0x7e then [c]
  else if c.toNat < 0x10000 then escapeUnit c.toNat
  else escapeUnit (0xd800 + (c.toNat - 0x10000) / 0x400) ++ escapeUnit (0xdc00 + (c.toNat - 0x10000) % 0x400)

/-- A written string. -/
def writeString (s : String) : String :=
  String.ofList ('"' :: s.toList.flatMap writeChar ++ ['"'])

/-- A written number of double precision. -/
def writeReal (x : Double) : String :=
  x.write ⟨"Infinity", "NaN"⟩

mutual

/-- The value on one line. -/
def compact : JsonValue → String
  | null => "null"
  | bool b => if b then "true" else "false"
  | int n => toString n
  | real x => writeReal x
  | string s => writeString s
  | array items => "[" ++ String.intercalate ", " (compactItems items) ++ "]"
  | object fields => "\x7b" ++ String.intercalate ", " (compactFields fields) ++ "\x7d"

/-- The items of an array. -/
def compactItems : List JsonValue → List String
  | [] => []
  | v :: vs => v.compact :: compactItems vs

/-- The fields of an object. -/
def compactFields : List (String × JsonValue) → List String
  | [] => []
  | (k, v) :: rest => (writeString k ++ ": " ++ v.compact) :: compactFields rest

end

/-- A line end and the indentation of a level. -/
def newLine (level : Nat) : String :=
  "\n" ++ String.ofList (List.replicate (2 * level) ' ')

/-- Items between brackets, one per line; nothing between the brackets when there are none. -/
def bracketed (level : Nat) (opening closing : String) (items : List String) : String :=
  if items.isEmpty then opening ++ closing
  else opening ++ newLine (level + 1) ++ String.intercalate ("," ++ newLine (level + 1)) items ++ newLine level ++ closing

mutual

/-- The value with one item per line, at the given level. -/
def indented (level : Nat) : JsonValue → String
  | null => "null"
  | bool b => if b then "true" else "false"
  | int n => toString n
  | real x => writeReal x
  | string s => writeString s
  | array items => bracketed level "[" "]" (indentedItems (level + 1) items)
  | object fields => bracketed level "\x7b" "\x7d" (indentedFields (level + 1) fields)

/-- The items of an array. -/
def indentedItems (level : Nat) : List JsonValue → List String
  | [] => []
  | v :: vs => v.indented level :: indentedItems level vs

/-- The fields of an object. -/
def indentedFields (level : Nat) : List (String × JsonValue) → List String
  | [] => []
  | (k, v) :: rest => (writeString k ++ ": " ++ v.indented level) :: indentedFields level rest

end

/-- The value with one item per line. -/
def pretty (v : JsonValue) : String :=
  v.indented 0

/-- A list of values. -/
def ofList {α : Type} (f : α → JsonValue) (xs : List α) : JsonValue :=
  array (xs.map f)

/-- A list of strings. -/
def ofStrings (xs : List String) : JsonValue :=
  ofList string xs

/-- A value that may be missing. -/
def ofOption {α : Type} (f : α → JsonValue) : Option α → JsonValue
  | some a => f a
  | none => null

end JsonValue

end CallIndex
