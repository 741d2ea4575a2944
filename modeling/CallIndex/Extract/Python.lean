import CallIndex.Extract.Outline

/-!
# Outlines of Python sources

The scopes of a source are recovered from its indentation alone. A `def` directly in a class body is a method, one at
the outermost level a function; one inside a function is not registered, and a class is registered only outside of
functions. Lines inside open brackets and blank lines are passed over.
-/

namespace CallIndex.Extract.Python

open Text (Scan isWord isWordStart isBlank)
open Source (Line)

/-- Comments and strings of Python. -/
def rules : Source.LexRules where
  lineComments := ["#"]
  blockComments := []
  quotes := ['"', '\'']
  tripleQuotes := true

/-- Words that may stand before a parenthesis without being called. -/
def keywords : List String := [
  "and", "assert", "async", "await", "case", "del", "elif", "else", "except", "for", "from", "global", "if", "import",
  "in", "is", "lambda", "match", "nonlocal", "not", "or", "raise", "return", "while", "with", "yield"]

/-! ### What a line says -/

/-- A name. -/
def identifier : Scan String := do
  let first ← Scan.one isWordStart
  let more ← Scan.run isWord
  return String.ofList (first :: more)

/-- `@name`; the name may be dotted or start with a digit. -/
def decorator : Scan String := do
  Scan.blanks
  Scan.char '@'
  Scan.blanks
  let name ← Scan.run1 fun c => isWord c || c = '.'
  return String.ofList name

/-- `class name`, and the text behind the parenthesis if one follows. -/
def classHead : Scan (String × Option (List Char)) := do
  Scan.blanks
  Scan.text "class"
  Scan.blanks1
  let name ← identifier
  Scan.blanks
  let bracket ← Scan.maybe (do Scan.char '('; Scan.rest)
  return (name, bracket)

/-- The head of a function: its name, whether it is asynchronous, and the text behind its parenthesis. -/
structure DefHead where
  name : String
  isAsync : Bool
  behind : List Char

/-- `def name(`, possibly behind `async`. -/
def defHead : Scan DefHead := do
  Scan.blanks
  let isAsync ← Scan.present (do Scan.text "async"; Scan.blanks1)
  Scan.text "def"
  Scan.blanks1
  let name ← identifier
  Scan.blanks
  Scan.char '('
  return ⟨name, isAsync, ← Scan.rest⟩

/-- `import a, b as c`: the text behind the keyword. -/
def importTail : Scan (List Char) := do
  Scan.blanks
  Scan.text "import"
  Scan.blanks1
  Scan.rest

/-- The modules of an import: the first word of each part between commas. -/
def importedModules (tail : List Char) : List String :=
  ((Text.splitAtChar ',' tail).map fun part => String.ofList ((Text.trim part).takeWhile (· ≠ ' '))).filter (· ≠ "")

/-- `from module import`. Two blanks between the keywords stand for an empty module name. -/
def fromImport : Scan String := do
  Scan.blanks
  Scan.text "from"
  (do
    Scan.blanks1
    let name ← Scan.run fun c => isWord c || c = '.'
    Scan.blanks1
    Scan.text "import"
    Scan.wordEnd
    return String.ofList name) <|> (do
    let _ ← Scan.one isBlank
    Scan.blanks1
    Scan.text "import"
    Scan.wordEnd
    return "")

/-- An optional annotation, an equals sign, and no second equals sign. -/
def assignment : Scan Unit := do
  Scan.blanks
  let _ ← Scan.maybe (do Scan.char ':'; Scan.run (· ≠ '='))
  Scan.char '='
  Scan.notNext (· = '=')

/-- `name = …` or `name: …` at the start of a line. -/
def classAttribute : Scan String :=
  (do
    Scan.blanks
    let name ← identifier
    assignment
    return name) <|> (do
    Scan.blanks
    let name ← identifier
    Scan.blanks
    Scan.char ':'
    Scan.blanks
    let _ ← Scan.one fun _ => true
    return name)

/-- `self.name = …`. -/
def selfAttribute : Scan String := do
  Scan.text "self."
  let name ← identifier
  assignment
  return name

/-- `__all__ = …` or `__all__ += …`. -/
def exportList : Scan Unit := do
  Scan.text "__all__"
  Scan.blanks
  let _ ← Scan.maybe (do Scan.char ':'; Scan.run (· ≠ '='))
  let _ ← Scan.maybe (Scan.char '+')
  Scan.char '='

/-- A non-empty text between two quotes of either kind. -/
def quotedName : Scan String := do
  let isQuote := fun (c : Char) => c = '"' || c = '\''
  let _ ← Scan.one isQuote
  let name ← Scan.run1 fun c => !isQuote c
  let _ ← Scan.one isQuote
  return String.ofList name

/-- The name of a parameter, behind up to two stars. -/
def parameterName : Scan String := do
  let _ ← Scan.maybe (Scan.char '*')
  let _ ← Scan.maybe (Scan.char '*')
  Scan.blanks
  identifier

/-! ### Scopes -/

/-- What opened an indented block. -/
inductive ScopeKind where
  | classBody
  | functionBody
  | nested
  deriving DecidableEq, Repr

/-- An open block: what opened it, its name and indentation, and the class it belongs to. -/
structure Scope where
  kind : ScopeKind
  name : String
  indent : Nat
  owner : Option Nat := none
  deriving DecidableEq, Repr

/-- The scan between two lines: the outline so far, the open scopes (innermost first), the decorators seen since the
last statement, and the number of open brackets. -/
structure State where
  outline : Outline := {}
  scopes : List Scope := []
  decorators : List String := []
  depth : Nat := 0

/-- The names of the parameters in the bracket that ends before `behind`. -/
def parameters (number : Nat) (line : Line) (rest : List Line) (behind : List Char) : List String × List Problem :=
  let (parts, problems) := bracketParts number (line :: rest) (line.code.length - behind.length - 1)
  (parts.filterMap (Scan.firstOf parameterName), problems)

/-- The bases in the bracket that ends before `behind`; keyword arguments are no bases. -/
def baseNames (number : Nat) (line : Line) (rest : List Line) (behind : List Char) : List String × List Problem :=
  let (parts, problems) := bracketParts number (line :: rest) (line.code.length - behind.length - 1)
  ((parts.filter fun part => !part.contains '=').map String.ofList, problems)

/-- The quoted names in the first bracket of the line. -/
def exportedNames (number : Nat) (line : Line) (rest : List Line) : List String × List Problem :=
  match line.code.findIdx? fun c => c = '[' || c = '(' with
  | none => ([], [])
  | some col =>
    match Source.bracketText? (line :: rest) col with
    | some text => ((Scan.hits (fun _ => quotedName) text).map (·.value), [])
    | none => ([], [.openBracket number])

/-- Reads a `class` line. -/
def readClass (st : State) (number indent : Nat) (line : Line) (rest : List Line) (name : String)
    (behind : Option (List Char)) : State :=
  let outline := st.outline.declare number name
  let st := { st with decorators := [] }
  if st.scopes.head?.all fun parent => parent.kind = .classBody then
    let (bases, problems) := match behind with
      | none => ([], [])
      | some behind => baseNames number line rest behind
    let outline := problems.foldl Outline.addProblem outline
    { st with
      outline := outline.addClass { name := name, line := number, bases := bases }
      scopes := ⟨.classBody, name, indent, some outline.classes.length⟩ :: st.scopes }
  else { st with outline := outline, scopes := ⟨.nested, name, indent, none⟩ :: st.scopes }

/-- Reads a `def` line. -/
def readDef (st : State) (number indent : Nat) (line : Line) (rest : List Line) (head : DefHead) : State :=
  let (params, problems) := parameters number line rest head.behind
  let outline := problems.foldl Outline.addProblem (st.outline.declare number head.name)
  let isStatic := st.decorators.contains "staticmethod"
  let st := { st with decorators := [] }
  match st.scopes.head? with
  | none =>
    { st with
      outline := outline.addFunction
        { name := head.name, line := number, parameters := params, isAsync := head.isAsync }
      scopes := ⟨.functionBody, head.name, indent, none⟩ :: st.scopes }
  | some parent =>
    if parent.kind = .classBody then
      { st with
        outline := outline.addMethod parent.owner {
          className := parent.name, name := head.name, line := number
          parameters := params.filter fun p => p ≠ "self" && p ≠ "cls"
          isAsync := head.isAsync, isStatic := isStatic }
        scopes := ⟨.functionBody, head.name, indent, parent.owner⟩ :: st.scopes }
    else { st with outline := outline, scopes := ⟨.nested, head.name, indent, parent.owner⟩ :: st.scopes }

/-- Reads a line that declares nothing: imports anywhere, exports at the outermost level, properties elsewhere. -/
def readStatement (o : Outline) (parent : Option Scope) (number : Nat) (line : Line) (rest : List Line) : Outline :=
  match Scan.firstOf importTail line.code with
  | some tail => o.addImports (importedModules tail)
  | none =>
    match Scan.firstOf fromImport line.code with
    | some name => o.addImports [name]
    | none =>
      match parent with
      | none =>
        if (Scan.firstOf exportList line.code).isSome then
          let (names, problems) := exportedNames number line rest
          problems.foldl Outline.addProblem (o.addExports names)
        else o
      | some scope =>
        match scope.owner with
        | none => o
        | some owner =>
          if scope.kind = .classBody then
            o.addProperties owner (Scan.firstOf classAttribute line.code).toList
          else
            o.addProperties owner ((Scan.hits (Scan.atWordStart selfAttribute) line.code).map (·.value))

/-- Reads a line that is not blank and not inside brackets. -/
def readSignificant (st : State) (number : Nat) (line : Line) (rest : List Line) : State :=
  let indent := Source.indentWidth line.code
  let st := { st with scopes := st.scopes.dropWhile (indent ≤ ·.indent) }
  match Scan.firstOf decorator line.code with
  | some name => { st with decorators := st.decorators ++ [name] }
  | none =>
    match Scan.firstOf classHead line.code with
    | some (name, behind) => readClass st number indent line rest name behind
    | none =>
      match Scan.firstOf defHead line.code with
      | some head => readDef st number indent line rest head
      | none =>
        { st with decorators := [], outline := readStatement st.outline st.scopes.head? number line rest }

/-- Reads one line, which `rest` follows. -/
def readLine (st : State) (number : Nat) (line : Line) (rest : List Line) : State :=
  let depth := st.depth + line.code.countP Source.isOpening - line.code.countP Source.isClosing
  if st.depth > 0 || Text.allBlank line.code then { st with depth := depth }
  else { readSignificant st number line rest with depth := depth }

/-- What a Python source holds. -/
def findings (content : List Char) : Findings :=
  let lines := Source.sourceLines rules content
  let outline := (runLines readLine {} 1 lines).outline
  { outline := outline
    calls := Call.scanCalls keywords outline.declared lines
    problems := (Source.openRegions rules content).map Problem.openRegion ++ outline.problems }

end CallIndex.Extract.Python
