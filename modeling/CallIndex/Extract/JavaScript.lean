import CallIndex.Extract.Outline

/-!
# Outlines of JavaScript and TypeScript sources

Blocks are followed by their braces. Functions are registered outside of all classes and functions, methods directly
in a class body, classes outside of functions. An assignment of a function to `Name.prototype.member` is a method of
`Name`, whether or not the file declares such a class.
-/

namespace CallIndex.Extract.JavaScript

open Text (Scan isWord isBlank)
open Source (Line)

/-- Comments and strings of JavaScript. -/
def rules : Source.LexRules where
  lineComments := ["//"]
  blockComments := [("/*", "*/")]
  quotes := ['"', '\'', '`']
  multilineQuotes := ['`']

/-- Words that may stand before a parenthesis without being called. -/
def keywords : List String := [
  "as", "await", "catch", "delete", "do", "else", "for", "function", "if", "import", "in", "instanceof", "new", "of",
  "return", "satisfies", "super", "switch", "throw", "typeof", "void", "while", "with", "yield"]

/-- Words that begin a statement and are no method names. -/
def statementWords : List String :=
  ["if", "for", "while", "switch", "catch", "return", "function", "with"]

/-! ### What a line says -/

/-- A character inside a name. -/
def isNamePart (c : Char) : Bool :=
  isWord c || c = '$'

/-- A name; it begins with a Latin letter without accents, an underscore or a dollar sign. -/
def identifier : Scan String := do
  let first ← Scan.one fun c => c.isAlpha || c = '_' || c = '$'
  let more ← Scan.run isNamePart
  return String.ofList (first :: more)

/-- The name of a class member, possibly private. -/
def memberName : Scan String := do
  let isPrivate ← Scan.present (Scan.char '#')
  let name ← identifier
  return if isPrivate then "#" ++ name else name

/-- One of some words with blanks behind it, if it is there. -/
def optionalWord (words : List String) : Scan Bool :=
  Scan.present (Scan.keyword words)

/-- A text between angle brackets that runs over no character of `stop`. -/
def angleBrackets (stop : Char) : Scan Unit := do
  Scan.char '<'
  let _ ← Scan.run fun c => c ≠ '>' && c ≠ stop
  Scan.char '>'

/-- A class heading: its name, what it extends and what it implements. -/
structure ClassHead where
  name : String
  base : Option String
  implemented : List Char

/-- `class Name extends Base implements Face`, possibly exported or bound to a variable. -/
def classHead : Scan ClassHead := do
  Scan.blanks
  let _ ← optionalWord ["export"]
  let _ ← optionalWord ["default"]
  let _ ← optionalWord ["abstract"]
  let _ ← Scan.maybe (do
    let _ ← Scan.keyword ["const", "let", "var"]
    let _ ← identifier
    Scan.blanks
    Scan.char '='
    Scan.blanks)
  let _ ← Scan.keyword ["class"]
  let name ← identifier
  let _ ← Scan.maybe (do Scan.blanks; angleBrackets '{')
  let base ← Scan.maybe (do
    Scan.blanks1
    let _ ← Scan.keyword ["extends"]
    Scan.run1 fun c => isNamePart c || c = '.')
  let implemented ← Scan.maybe (do
    Scan.blanks1
    let _ ← Scan.keyword ["implements"]
    Scan.run1 fun c => isNamePart c || c = '.' || c = ',' || isBlank c || c = '<' || c = '>')
  return ⟨name, base.map String.ofList, implemented.getD []⟩

/-- A text without its parts in angle brackets; a bracket that is not closed stays. -/
def dropAngles (s : List Char) : List Char :=
  match s with
  | [] => []
  | c :: s =>
    if c = '<' then
      match Text.cutAt? ['>'] s with
      | some (_, behind) => if behind.length < s.length then dropAngles behind else behind
      | none => c :: s
    else c :: dropAngles s
termination_by s.length

/-- The names in the list of an `implements` clause. -/
def interfaceNames (implemented : List Char) : List String :=
  ((Text.splitAtChar ',' (dropAngles implemented)).map fun s => String.ofList (Text.trim s)).filter (· ≠ "")

/-- What stands for the parameters of a function: the text behind its parenthesis, or one bare name. -/
inductive ParameterSource where
  | bracket (behind : List Char)
  | single (name : String)

/-- A function with a name. -/
structure FunctionHead where
  name : String
  isAsync : Bool
  params : ParameterSource

/-- `function name(`, possibly exported, asynchronous or a generator. -/
def functionHead : Scan FunctionHead := do
  Scan.blanks
  let _ ← optionalWord ["export"]
  let _ ← optionalWord ["default"]
  let isAsync ← optionalWord ["async"]
  Scan.text "function"
  Scan.blanks
  let _ ← Scan.maybe (Scan.char '*')
  Scan.blanks
  let name ← identifier
  Scan.blanks
  let _ ← Scan.maybe (angleBrackets '(')
  Scan.blanks
  Scan.char '('
  return ⟨name, isAsync, .bracket (← Scan.rest)⟩

/-- A function as a value: `function name(`, an opening parenthesis, or `name =>`. -/
def functionValue : Scan ParameterSource :=
  (do
    Scan.text "function"
    Scan.wordEnd
    Scan.blanks
    let _ ← Scan.maybe (Scan.char '*')
    Scan.blanks
    let _ ← Scan.maybe identifier
    Scan.blanks
    Scan.char '('
    return .bracket (← Scan.rest)) <|> (do
    Scan.char '('
    return .bracket (← Scan.rest)) <|> (do
    let name ← identifier
    Scan.blanks
    Scan.text "=>"
    return .single name)

/-- An optional type, an equals sign and a function as a value; is it asynchronous? -/
def assignedFunction : Scan (Bool × ParameterSource) := do
  Scan.blanks
  let _ ← Scan.maybe (do Scan.char ':'; Scan.run1 (· ≠ '='))
  Scan.char '='
  Scan.blanks
  (do let _ ← Scan.keyword ["async"]; return (true, ← functionValue)) <|> (do return (false, ← functionValue))

/-- A variable that is bound to a function. -/
def boundFunction : Scan FunctionHead := do
  Scan.blanks
  let _ ← optionalWord ["export"]
  let _ ← Scan.keyword ["const", "let", "var"]
  let name ← identifier
  let (isAsync, params) ← assignedFunction
  return ⟨name, isAsync, params⟩

/-- Words that may stand before a class member. -/
def memberModifiers : List String :=
  ["public", "private", "protected", "static", "async", "readonly", "override", "abstract", "declare", "get", "set"]

/-- Reads `p` behind as many modifiers as leave something for it to read: a modifier may be the name itself. -/
def behindModifiers {α : Type} (p : Scan α) : Scan (List String × α) := fun s =>
  match Scan.keyword memberModifiers s with
  | none => (p s).map fun (a, r) => (([], a), r)
  | some (word, r) =>
    if r.length < s.length then
      match behindModifiers p r with
      | some ((words, a), r) => some ((word :: words, a), r)
      | none => (p s).map fun (a, r) => (([], a), r)
    else (p s).map fun (a, r) => (([], a), r)
termination_by s => s.length

/-- `name(` in a class body: the name and the text behind the parenthesis. -/
def methodHead : Scan (List String × (String × List Char)) := do
  Scan.blanks
  behindModifiers do
    let _ ← Scan.maybe (Scan.char '*')
    Scan.blanks
    let name ← memberName
    Scan.blanks
    let _ ← Scan.maybe (Scan.one fun c => c = '?' || c = '!')
    Scan.blanks
    let _ ← Scan.maybe (angleBrackets '(')
    Scan.blanks
    Scan.char '('
    return (name, ← Scan.rest)

/-- A class field that holds a function. -/
def fieldFunction : Scan (List String × FunctionHead) := do
  Scan.blanks
  behindModifiers do
    let name ← memberName
    let (isAsync, params) ← assignedFunction
    return ⟨name, isAsync, params⟩

/-- A class field. -/
def fieldName : Scan String := do
  Scan.blanks
  let (_, name) ← behindModifiers do
    let name ← memberName
    Scan.blanks
    let _ ← Scan.maybe (Scan.one fun c => c = '?' || c = '!')
    Scan.blanks
    (do let _ ← Scan.one fun c => c = ':' || c = '=' || c = ';') <|> Scan.atEnd
    return name
  return name

/-- `Name.prototype.member = function (`: the class, the member and the function. -/
def prototypeHead : Scan (String × FunctionHead) := do
  Scan.blanks
  let className ← identifier
  Scan.text ".prototype."
  let name ← identifier
  Scan.blanks
  Scan.char '='
  Scan.blanks
  let isAsync ← optionalWord ["async"]
  Scan.text "function"
  Scan.wordEnd
  Scan.blanks
  let _ ← Scan.maybe identifier
  Scan.blanks
  Scan.char '('
  return (className, ⟨name, isAsync, .bracket (← Scan.rest)⟩)

/-- `this.name = …`. -/
def thisAttribute : Scan String := do
  Scan.text "this."
  let name ← memberName
  Scan.blanks
  Scan.char '='
  Scan.notNext fun c => c = '=' || c = '>'
  return name

/-- A quote. -/
def quote : Scan Char :=
  Scan.one fun c => c = '"' || c = '\''

/-- What may precede the name of a module, with the quote that opens the name. -/
def moduleQuote (before : List Char) : Scan Char :=
  Scan.atWordStart (do Scan.text "from"; Scan.blanks; quote) before <|>
  (do
    if !before.isEmpty then failure
    Scan.blanks
    Scan.text "import"
    Scan.blanks
    quote) <|>
  Scan.atWordStart (do
    Scan.text "require" <|> Scan.text "import"
    Scan.blanks
    Scan.char '('
    Scan.blanks
    quote) before

/-- The modules that a line names. -/
def moduleNames (line : Line) : List String :=
  (Scan.hits moduleQuote line.code).filterMap fun hit =>
    ((line.code.drop hit.stop).findIdx? (· = hit.value)).map fun length =>
      String.ofList ((line.raw.drop hit.stop).take length)

/-- An exported declaration. -/
def exportedDeclaration : Scan String := do
  Scan.blanks
  let _ ← Scan.keyword ["export"]
  let _ ← optionalWord ["default"]
  let _ ← optionalWord ["declare"]
  let _ ← optionalWord ["async"]
  let _ ← optionalWord ["abstract"]
  let _ ← Scan.keyword ["class", "function*", "function", "const", "let", "var", "interface", "type", "enum"]
  identifier

/-- The text between braces. -/
def bracedText : Scan (List Char) := do
  Scan.char '{'
  let body ← Scan.run (· ≠ '}')
  Scan.char '}'
  return body

/-- An export list: one name, or the text between braces. -/
inductive ExportList where
  | single (name : String)
  | items (body : List Char)

/-- `export { … }`, `module.exports = name` or `module.exports = { … }`. -/
def exportList : Scan ExportList :=
  (do
    Scan.blanks
    Scan.text "export"
    Scan.blanks
    let _ ← Scan.maybe (do Scan.text "type"; Scan.blanks)
    return .items (← bracedText)) <|> (do
    Scan.blanks
    Scan.text "module.exports"
    Scan.blanks
    Scan.char '='
    Scan.blanks
    (do
      let name ← identifier
      Scan.blanks
      let _ ← Scan.maybe (Scan.char ';')
      Scan.blanks
      Scan.atEnd
      return .single name) <|> (do return .items (← bracedText)))

/-- `exports.name = …`. -/
def namedExport : Scan String := do
  Scan.blanks
  let _ ← Scan.maybe (Scan.text "module.")
  Scan.text "exports."
  let name ← identifier
  Scan.blanks
  Scan.char '='
  return name

/-- The name that an item of an export list exports: `b` for `a as b`, `key` for `key: value`. -/
def exportedName? (item : List Char) : Option String :=
  let renamings := Scan.hits (fun _ => do Scan.blanks1; Scan.text "as"; Scan.blanks1) item
  let name := match renamings.getLast? with
    | some hit => item.drop hit.stop
    | none => item.takeWhile (· ≠ ':')
  Scan.firstOf (do let name ← identifier; Scan.atEnd; return name) (Text.trim name)

/-- The names that a line exports. -/
def exportedNames (code : List Char) : List String :=
  match Scan.firstOf exportedDeclaration code with
  | some name => [name]
  | none =>
    match Scan.firstOf exportList code with
    | some (.single name) => [name]
    | some (.items body) => (Source.splitTopLevel body).filterMap exportedName?
    | none => (Scan.firstOf namedExport code).toList

/-- The name of a parameter: a bare name, possibly a rest parameter, or the whole pattern of a destructuring one. -/
def parameterName? (part : List Char) : Option String :=
  let access := Scan.keyword ["public", "private", "protected", "readonly", "override"]
  let part := match access part with
    | some (_, rest) => rest
    | none => part
  Scan.firstOf (do
    let _ ← Scan.maybe (Scan.text "...")
    Scan.blanks
    identifier <|> (do let _ ← Scan.one (fun c => c = '{' || c = '['); return String.ofList part)) part

/-! ### Reading lines -/

/-- The parameter names of a function on the line `line`. -/
def parameters (number : Nat) (line : Line) (rest : List Line) : ParameterSource → List String × List Problem
  | .single name => ([name], [])
  | .bracket behind =>
    let (parts, problems) := bracketParts number (line :: rest) (line.code.length - behind.length - 1)
    (parts.filterMap parameterName?, problems)

/-- Is there anything on the line that makes a function of an opening parenthesis behind an equals sign? -/
def hasFunctionMark (code : List Char) : Bool :=
  Text.occurs "=>".toList code || Text.occurs "function".toList code

/-- Reads a class heading. -/
def readClass (st : BlockScan) (number : Nat) (head : ClassHead) : BlockScan :=
  let outline := st.outline.declare number head.name
  if st.blocks.enclosing?.all fun block => block.kind = .classBody then
    let interfaces := interfaceNames head.implemented
    { outline := outline.addClass
        { name := head.name, line := number, bases := head.base.toList ++ interfaces, interfaces := interfaces }
      blocks := st.blocks.announce .classBody (some outline.classes.length) }
  else { outline := outline, blocks := st.blocks.announce .functionBody }

/-- Registers a method of the class at position `owner`. -/
def readMethod (st : BlockScan) (owner number : Nat) (modifiers : List String) (name : String) (isAsync : Bool)
    (params : List String × List Problem) : BlockScan :=
  let outline := params.2.foldl Outline.addProblem (st.outline.declare number name)
  let className := ((outline.classes[owner]?).map (·.name)).getD ""
  { outline := outline.addMethod (some owner) {
      className := className, name := name, line := number, parameters := params.1
      isAsync := modifiers.contains "async" || isAsync, isStatic := modifiers.contains "static" }
    blocks := st.blocks.announce .functionBody }

/-- Reads a line of a class body: a field that holds a function, a method, or another field. -/
def readMember (st : BlockScan) (owner number : Nat) (line : Line) (rest : List Line) : BlockScan :=
  let field := if hasFunctionMark line.code then Scan.firstOf fieldFunction line.code else none
  match field with
  | some (modifiers, head) =>
    readMethod st owner number modifiers head.name head.isAsync (parameters number line rest head.params)
  | none =>
    match (Scan.firstOf methodHead line.code).filter fun (_, name, _) => !statementWords.contains name with
    | some (modifiers, name, behind) =>
      readMethod st owner number modifiers name false (parameters number line rest (.bracket behind))
    | none =>
      match Scan.firstOf fieldName line.code with
      | some name => { st with outline := st.outline.addProperties owner [name] }
      | none => st

/-- Reads an assignment to the prototype of a class. -/
def readPrototype (st : BlockScan) (number : Nat) (line : Line) (rest : List Line) (className : String)
    (head : FunctionHead) : BlockScan :=
  let (params, problems) := parameters number line rest head.params
  let outline := problems.foldl Outline.addProblem (st.outline.declare number head.name)
  { outline := outline.addMethod (outline.classes.findIdx? fun c => c.name = className) {
      className := className, name := head.name, line := number, parameters := params, isAsync := head.isAsync }
    blocks := st.blocks.announce .functionBody }

/-- Reads a function, which is registered outside of all classes and functions only. -/
def readFunction (st : BlockScan) (number : Nat) (line : Line) (rest : List Line) (head : FunctionHead) : BlockScan :=
  let (params, problems) := parameters number line rest head.params
  let outline := problems.foldl Outline.addProblem (st.outline.declare number head.name)
  { outline := match st.blocks.enclosing? with
      | some _ => outline
      | none => outline.addFunction
          { name := head.name, line := number, parameters := params, isAsync := head.isAsync }
    blocks := st.blocks.announce .functionBody }

/-- The function that a line outside of a class body declares. -/
def functionOn? (code : List Char) : Option FunctionHead :=
  match Scan.firstOf functionHead code with
  | some head => some head
  | none => if hasFunctionMark code then Scan.firstOf boundFunction code else none

/-- Reads the declarations of a line that is not blank. -/
def readDeclarations (st : BlockScan) (number : Nat) (line : Line) (rest : List Line) : BlockScan :=
  match Scan.firstOf classHead line.code with
  | some head => readClass st number head
  | none =>
    if st.blocks.inClassBody then
      match st.blocks.nearestClass? with
      | some owner => readMember st owner number line rest
      | none => st
    else
      let prototype := if st.blocks.enclosing?.isNone then Scan.firstOf prototypeHead line.code else none
      match prototype with
      | some (className, head) => readPrototype st number line rest className head
      | none =>
        match functionOn? line.code with
        | some head => readFunction st number line rest head
        | none =>
          match st.blocks.nearestClass? with
          | some owner =>
            let names := (Scan.hits (Scan.atWordStart thisAttribute) line.code).map (·.value)
            { st with outline := st.outline.addProperties owner names }
          | none => st

/-- Reads one line, which `rest` follows. -/
def readLine (st : BlockScan) (number : Nat) (line : Line) (rest : List Line) : BlockScan :=
  let st :=
    if Text.allBlank line.code then st
    else
      let outline := (st.outline.addImports (moduleNames line)).addExports (exportedNames line.code)
      readDeclarations { st with outline := outline } number line rest
  { st with blocks := st.blocks.feed line.code }

/-- What a JavaScript or TypeScript source holds. -/
def findings (content : List Char) : Findings :=
  let lines := Source.sourceLines rules content
  let final := runLines readLine {} 1 lines
  { outline := final.outline
    calls := Call.scanCalls keywords final.outline.declared lines
    problems := final.outline.problems ++ (Source.openRegions rules content).map Problem.openRegion ++
      final.blocks.problems.map Problem.brace }

end CallIndex.Extract.JavaScript
