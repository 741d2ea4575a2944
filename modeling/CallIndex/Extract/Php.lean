import CallIndex.Extract.Outline

/-!
# Outlines of PHP sources

Blocks are followed by their braces. Classes, interfaces, traits and enumerations are registered outside of all classes
and functions, functions there too, methods directly in a class body. The registered classes and functions are the
exports of the file.
-/

namespace CallIndex.Extract.Php

open Text (Scan isWord isBlank)
open Source (Line)

/-- Comments and strings of PHP. -/
def rules : Source.LexRules where
  lineComments := ["//", "#"]
  blockComments := [("/*", "*/")]
  quotes := ['"', '\'']
  multilineQuotes := ['"', '\'']

/-- Words that may stand before a parenthesis without being called. -/
def keywords : List String := [
  "and", "array", "catch", "clone", "declare", "die", "echo", "elseif", "empty", "eval", "exit", "fn", "for",
  "foreach", "function", "if", "include", "include_once", "isset", "list", "match", "new", "or", "parent", "print",
  "require", "require_once", "return", "self", "static", "switch", "unset", "use", "while", "xor"]

/-! ### What a line says -/

/-- A word; it may start with a digit. -/
def word : Scan String := do
  return String.ofList (← Scan.run1 isWord)

/-- A character of a name with namespaces. -/
def isPathPart (c : Char) : Bool :=
  isWord c || c = '\\'

/-- A class heading: its name, what it extends and what it implements. -/
structure ClassHead where
  name : String
  extended : List String
  implemented : List String

/-- The trimmed non-empty parts of a text between commas. -/
def commaNames (s : List Char) : List String :=
  ((Text.splitAtChar ',' s).map fun part => String.ofList (Text.trim part)).filter (· ≠ "")

/-- Further names behind commas. -/
def moreNames : Scan (List String) := fun s =>
  let next : Scan String := do
    Scan.blanks
    Scan.char ','
    Scan.blanks
    return String.ofList (← Scan.run1 isPathPart)
  match next s with
  | none => some ([], s)
  | some (name, r) =>
    if r.length < s.length then (moreNames r).map fun (names, r) => (name :: names, r) else none
termination_by s => s.length

/-- `class Name: type extends A, B implements C, D`, or the same with another of the four keywords. -/
def classHead : Scan ClassHead := do
  Scan.blanks
  let _ ← Scan.keywords ["abstract", "final", "readonly"]
  let _ ← Scan.keyword ["class", "interface", "trait", "enum"]
  let name ← word
  let _ ← Scan.maybe (do
    Scan.blanks
    Scan.char ':'
    Scan.blanks
    Scan.run1 isPathPart)
  let extended ← Scan.maybe (do
    Scan.blanks1
    let _ ← Scan.keyword ["extends"]
    let first ← Scan.run1 isPathPart
    return String.ofList first :: (← moreNames))
  let implemented ← Scan.maybe (do
    Scan.blanks1
    let _ ← Scan.keyword ["implements"]
    Scan.run1 fun c => isPathPart c || c = ',' || isBlank c)
  return ⟨name, extended.getD [], commaNames (implemented.getD [])⟩

/-- The head of a function: its modifiers, its name and the text behind its parenthesis. -/
structure FunctionHead where
  modifiers : List String
  name : String
  behind : List Char

/-- `function name(`, possibly with modifiers. -/
def functionHead : Scan FunctionHead := do
  Scan.blanks
  let modifiers ← Scan.keywords ["public", "private", "protected", "static", "abstract", "final"]
  let _ ← Scan.keyword ["function"]
  let _ ← Scan.maybe (Scan.char '&')
  Scan.blanks
  let name ← word
  Scan.blanks
  Scan.char '('
  return ⟨modifiers, name, ← Scan.rest⟩

/-- `namespace Name`; does a brace follow? -/
def namespaceHead : Scan Bool := do
  Scan.blanks
  let _ ← Scan.keyword ["namespace"]
  let _ ← Scan.run1 isPathPart
  Scan.blanks
  Scan.present (Scan.char '{')

/-- `public ?Type $name`. -/
def propertyName : Scan String := do
  Scan.blanks
  let modifiers ← Scan.keywords ["public", "private", "protected", "var", "static", "readonly"]
  if modifiers.isEmpty then failure
  let _ ← Scan.maybe (do
    let _ ← Scan.maybe (Scan.char '?')
    let _ ← Scan.run1 fun c => isPathPart c || c = '|'
    Scan.blanks1)
  Scan.char '$'
  word

/-- `const NAME =`, possibly with a type before the name. -/
def constantName : Scan String := do
  Scan.blanks
  let _ ← Scan.keywords ["public", "private", "protected", "final"]
  let _ ← Scan.keyword ["const"]
  let equated : Scan String := do
    let name ← word
    Scan.blanks
    Scan.char '='
    return name
  (do let _ ← word; Scan.blanks1; equated) <|> equated

/-- `$this->name = …`. -/
def thisAttribute : Scan String := do
  Scan.text "$this->"
  let name ← word
  Scan.blanks
  Scan.char '='
  Scan.notNext fun c => c = '=' || c = '>'
  return name

/-- `use Name`, possibly with a group in braces: the name without blanks. -/
def useName : Scan String := do
  Scan.blanks
  let _ ← Scan.keyword ["use"]
  let used : Scan (List Char) := do
    let name ← Scan.run1 isPathPart
    let group ← Scan.maybe (do
      Scan.blanks
      Scan.char '{'
      let body ← Scan.run (· ≠ '}')
      Scan.char '}'
      return '{' :: body ++ ['}'])
    return name ++ group.getD []
  let name ← (do let _ ← Scan.keyword ["function", "const"]; used) <|> used
  return String.ofList (name.filter fun c => !isBlank c)

/-- `require "` or `include "`, possibly with `_once` and a parenthesis: the quote. -/
def includeQuote : Scan Char := do
  Scan.text "require" <|> Scan.text "include"
  let _ ← Scan.maybe (Scan.text "_once")
  Scan.blanks
  let _ ← Scan.maybe (Scan.char '(')
  Scan.blanks
  Scan.one fun c => c = '"' || c = '\''

/-- The file that a line includes. -/
def includedFile? (line : Line) : Option String := do
  let hit ← (Scan.hits (Scan.atWordStart includeQuote) line.code).head?
  let length ← (line.code.drop hit.stop).findIdx? (· = hit.value)
  return String.ofList ((line.raw.drop hit.stop).take length)

/-- The name of a parameter: the first variable in it. -/
def parameterName? (part : List Char) : Option String :=
  ((Scan.hits (fun _ => do Scan.char '$'; word) part).head?).map (·.value)

/-! ### Reading lines -/

/-- Reads a class heading. -/
def readClass (st : BlockScan) (number : Nat) (head : ClassHead) : BlockScan :=
  let outline := st.outline.declare number head.name
  if st.blocks.enclosing?.isNone then
    { outline := (outline.addClass {
        name := head.name, line := number
        bases := head.extended ++ head.implemented, interfaces := head.implemented }).addExports [head.name]
      blocks := st.blocks.announce .classBody (some outline.classes.length) }
  else { outline := outline, blocks := st.blocks.announce .functionBody }

/-- Reads a function: a method in a class body, a function outside of all classes and functions. -/
def readFunction (st : BlockScan) (number : Nat) (line : Line) (rest : List Line) (head : FunctionHead) : BlockScan :=
  let (parts, problems) := bracketParts number (line :: rest) (line.code.length - head.behind.length - 1)
  let params := parts.filterMap parameterName?
  let outline := problems.foldl Outline.addProblem (st.outline.declare number head.name)
  let outline :=
    if st.blocks.inClassBody then
      match st.blocks.nearestClass? with
      | some owner =>
        let className := ((outline.classes[owner]?).map (·.name)).getD ""
        outline.addMethod (some owner) {
          className := className, name := head.name, line := number, parameters := params
          isStatic := head.modifiers.contains "static" }
      | none => outline
    else if st.blocks.enclosing?.isNone then
      (outline.addFunction { name := head.name, line := number, parameters := params }).addExports [head.name]
    else outline
  { outline := outline, blocks := st.blocks.announce .functionBody }

/-- Reads a line that declares no class or function: properties and constants in a class body, assigned properties
below it. -/
def readProperties (o : Outline) (blocks : BlockState Nat) (code : List Char) : Outline :=
  match blocks.nearestClass? with
  | none => o
  | some owner =>
    if blocks.inClassBody then
      o.addProperties owner (Scan.firstOf (propertyName <|> constantName) code).toList
    else o.addProperties owner ((Scan.hits (fun _ => thisAttribute) code).map (·.value))

/-- Reads the declarations of a line that is not blank, no namespace heading and no import by name. -/
def readDeclarations (st : BlockScan) (number : Nat) (line : Line) (rest : List Line) : BlockScan :=
  let st := { st with outline := st.outline.addImports (includedFile? line).toList }
  match Scan.firstOf classHead line.code with
  | some head => readClass st number head
  | none =>
    match Scan.firstOf functionHead line.code with
    | some head => readFunction st number line rest head
    | none => { st with outline := readProperties st.outline st.blocks line.code }

/-- Reads a line that is not blank. -/
def readSignificant (st : BlockScan) (number : Nat) (line : Line) (rest : List Line) : BlockScan :=
  match Scan.firstOf namespaceHead line.code with
  | some true => { st with blocks := st.blocks.announce .namespaceBody }
  | some false => st
  | none =>
    let used := if st.blocks.enclosing?.isNone then Scan.firstOf useName line.code else none
    match used with
    | some name => { st with outline := st.outline.addImports [name] }
    | none => readDeclarations st number line rest

/-- Reads one line, which `rest` follows. -/
def readLine (st : BlockScan) (number : Nat) (line : Line) (rest : List Line) : BlockScan :=
  let st := if Text.allBlank line.code then st else readSignificant st number line rest
  { st with blocks := st.blocks.feed line.code }

/-- What a PHP source holds. -/
def findings (content : List Char) : Findings :=
  let lines := Source.sourceLines rules content
  let final := runLines readLine {} 1 lines
  { outline := final.outline
    calls := Call.scanCalls keywords final.outline.declared lines
    problems := final.outline.problems ++ (Source.openRegions rules content).map Problem.openRegion ++
      final.blocks.problems.map Problem.brace }

end CallIndex.Extract.Php
