import CallIndex.Registry
import CallIndex.Text.Scan

/-!
# Files of settings

A settings file binds names to values, one binding per line: `NAME=value`, possibly behind `export`, the value bare or
in quotes, comments behind a number sign. In a value `${NAME}` stands for a value bound before. A name without an
equals sign is bound to no value.

* `EnvFile.bindings` gives the bindings in order. Where a line cannot be read, the rest of it is passed over from the
  place where reading stopped.
* `EnvFile.read` keeps the last binding of each name.
-/

namespace CallIndex.EnvFile

open Text (Scan isBlank)

/-- A character that does not end a line. -/
def isInner (c : Char) : Bool :=
  c ≠ '\n'

/-- A blank that does not end a line. -/
def isInnerBlank (c : Char) : Bool :=
  isBlank c && isInner c

/-! ### Values -/

/-- A text in quotes up to the closing quote; a character behind a backslash does not close it. -/
def quotedTail (q : Char) : List Char → Option (List Char × List Char)
  | [] => none
  | '\\' :: c :: s => (quotedTail q s).map fun (body, rest) => ('\\' :: c :: body, rest)
  | c :: s => if c = q then some ([], s) else (quotedTail q s).map fun (body, rest) => (c :: body, rest)

/-- The character that an escape stands for between the quotes `q`. -/
def escaped? (q c : Char) : Option Char :=
  if c = '\\' || c = '\'' then some c
  else if q = '\'' then none
  else match c with
    | '"' => some '"'
    | 'a' => some (Char.ofNat 7)
    | 'b' => some (Char.ofNat 8)
    | 'f' => some (Char.ofNat 12)
    | 'n' => some '\n'
    | 'r' => some '\r'
    | 't' => some '\t'
    | 'v' => some (Char.ofNat 11)
    | _ => none

/-- A text with its escapes resolved. -/
def unescape (q : Char) : List Char → List Char
  | '\\' :: c :: s =>
    match escaped? q c with
    | some d => d :: unescape q s
    | none => '\\' :: unescape q (c :: s)
  | c :: s => c :: unescape q s
  | [] => []

/-- A value in quotes. -/
def quotedValue (q : Char) : Scan (List Char) := do
  Scan.char q
  let body ← (quotedTail q : Scan (List Char))
  return unescape q body

/-- A bare value: the rest of the line without a comment, which starts behind a blank. The blanks `margin` have been
read before it. -/
def bareValue (margin : List Char) : Scan (List Char) := do
  let line := margin ++ (← Scan.run isInner)
  let comment := (Scan.hits (fun _ => do Scan.blanks1; Scan.char '#') line).head?
  return Text.trim (match comment with
    | some hit => line.take hit.start
    | none => line)

/-- A value behind the blanks `margin`. -/
def valueBehind (margin : List Char) : Scan (List Char) := do
  let s ← Scan.rest
  match s.head? with
  | some '\'' => quotedValue '\''
  | some '"' => quotedValue '"'
  | _ => bareValue margin

/-! ### Lines -/

/-- The text behind a leading `export`. -/
def behindExport (s : List Char) : List Char :=
  match (do Scan.text "export"; Scan.run1 isInnerBlank : Scan (List Char)) s with
  | some (_, rest) => rest
  | none => s

/-- The text behind a comment at its front. -/
def behindComment (s : List Char) : List Char :=
  match s.dropWhile isInnerBlank with
  | '#' :: rest => rest.dropWhile isInner
  | _ => s

/-- The text behind the end of the line at its front. -/
def behindLine (s : List Char) : List Char :=
  (s.dropWhile isInner).drop 1

/-- The name of a binding; a comment has none. -/
def bindingName : Scan (Option (List Char)) := do
  let s ← Scan.rest
  match s.head? with
  | some '#' => return none
  | some '\'' =>
    Scan.char '\''
    let name ← Scan.run1 (· ≠ '\'')
    Scan.char '\''
    return some name
  | _ => return some (← Scan.run1 fun c => c ≠ '=' && c ≠ '#' && !isBlank c)

/-- A name and the value that it is bound to, if any. -/
abbrev Binding := List Char × Option (List Char)

/-- The binding `found`, if nothing but a comment comes before the end of the line at the front of `s`; and the text
behind the line. -/
def closeLine (found : Option Binding) (s : List Char) : Option Binding × List Char :=
  match (behindComment s).dropWhile isInnerBlank with
  | [] => (found, [])
  | '\n' :: rest => (found, rest)
  | rest => (none, behindLine rest)

/-- The binding at the front of a text, and the text behind its line. -/
def readBinding (s : List Char) : Option Binding × List Char :=
  let s := behindExport s
  match bindingName s with
  | none => (none, behindLine s)
  | some (name, s) =>
    match s.dropWhile isInnerBlank with
    | '=' :: s =>
      let start := s.dropWhile isInnerBlank
      match valueBehind (s.takeWhile isInnerBlank) start with
      | none => (none, behindLine start)
      | some (value, s) => closeLine (name.map fun n => (n, some value)) s
    | s => closeLine (name.map fun n => (n, none)) s

/-- All bindings of a text. -/
def bindings (s : List Char) : List Binding :=
  match s.dropWhile isBlank with
  | [] => []
  | c :: t =>
    let (found, rest) := readBinding (c :: t)
    if rest.length < s.length then found.toList ++ bindings rest else found.toList
termination_by s.length

/-! ### References -/

/-- A reference `${NAME}` or `${NAME:-default}` behind its dollar sign: the name and the default. -/
def reference : Scan (String × List Char) := do
  Scan.char '{'
  let name ← Scan.run fun c => c ≠ '}' && c ≠ ':'
  let fallback ← Scan.maybe (do Scan.text ":-"; Scan.run (· ≠ '}'))
  Scan.char '}'
  return (String.ofList name, fallback.getD [])

/-- A value with its references replaced. A name that is bound to no value stands for the empty text. -/
def substitute (bound : Registry (Option String)) (s : List Char) : List Char :=
  match s with
  | [] => []
  | '$' :: t =>
    match reference t with
    | some ((name, fallback), rest) =>
      let value := match bound.get? name with
        | some v => (v.getD "").toList
        | none => fallback
      if rest.length < t.length then value ++ substitute bound rest else value
    | none => '$' :: substitute bound t
  | c :: t => c :: substitute bound t
termination_by s.length

/-- The character that may mark the order of bytes at the front of a file. -/
def orderMark : Char := Char.ofNat 0xfeff

/-- The text without the mark at its front. -/
def behindOrderMark (s : List Char) : List Char :=
  if s.head? = some orderMark then s.tail else s

/-- The names that a settings file binds, and their values. -/
def read (s : String) : Registry (Option String) :=
  (bindings (Text.withLineFeeds (behindOrderMark s.toList))).foldl (fun bound (name, value) =>
    bound.set (String.ofList name) (value.map fun v => String.ofList (substitute bound v))) Registry.empty

end CallIndex.EnvFile
