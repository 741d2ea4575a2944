import CallIndex.Console.Literal
import CallIndex.Console.Pictograph
import CallIndex.Console.Style
import CallIndex.Console.Width

/-!
# Console markup

A text for the console may hold tags in square brackets, which set a style and are not shown: `[bold]` opens a style,
`[/bold]` closes it, `[/]` closes the style opened last. A tag starts with a small letter or one of `#`, `/`, `@`; other
brackets are text. A tag may have parameters behind an equals sign; one that starts with `@` calls a handler with them.
A backslash before a tag makes it text, and two backslashes before a tag stand for one. Names of pictographs between
colons are replaced.

* `Markup.render` gives the text that is shown; there is none when a closing tag closes nothing, or a tag that calls no
  handler, or when a color is incomplete that is set for some of the text.
* `Markup.escape` changes a text so that it is shown as it is.
-/

namespace CallIndex.Markup

/-- The characters a tag can start with. -/
def isTagStart (c : Char) : Bool :=
  ('a' ≤ c && c ≤ 'z') || c = '#' || c = '/' || c = '@'

/-- A tag behind its opening bracket: its text and what follows the closing bracket. -/
def tagBody? (s : List Char) : Option (List Char × List Char) :=
  let isInside := fun c => c ≠ '[' && c ≠ ']'
  match s with
  | [] => none
  | c :: rest =>
    if isTagStart c then
      match rest.dropWhile isInside with
      | ']' :: behind => some (c :: rest.takeWhile isInside, behind)
      | _ => none
    else none

/-- A tag at the front of a text: the number of backslashes before it, its text and what follows. -/
def tag? (s : List Char) : Option (Nat × List Char × List Char) :=
  match s.dropWhile (· = '\\') with
  | '[' :: rest => (tagBody? rest).map fun (body, behind) => ((s.takeWhile (· = '\\')).length, body, behind)
  | _ => none

/-- A stretch of text, or a tag. -/
inductive Piece where
  | text (s : List Char)
  | tag (body : List Char)
  deriving DecidableEq, Repr

/-- A stretch of text, if it is not empty. -/
def textPiece (s : List Char) : List Piece :=
  if s.isEmpty then [] else [.text s]

/-- The pieces of a text behind the characters `before`, last one first, which belong to no piece yet. -/
def piecesFrom (before s : List Char) : List Piece :=
  match s with
  | [] => textPiece before.reverse
  | c :: tail =>
    match tag? (c :: tail) with
    | none => piecesFrom (c :: before) tail
    | some (slashes, body, behind) =>
      let here := textPiece before.reverse ++ textPiece (List.replicate (slashes / 2) '\\') ++
        [if slashes % 2 = 1 then .text ('[' :: body ++ [']']) else .tag body]
      if behind.length ≤ tail.length then here ++ piecesFrom [] behind else here
termination_by s.length

/-- The pieces of a text. -/
def pieces (s : List Char) : List Piece :=
  piecesFrom [] s

/-- Removes the backslash before an opening bracket. -/
def unescapeBrackets : List Char → List Char
  | '\\' :: '[' :: s => '[' :: unescapeBrackets s
  | c :: s => c :: unescapeBrackets s
  | [] => []

/-- An open tag: its name and what stands behind its equals sign. -/
structure OpenTag where
  name : String
  parameters : Option (List Char) := none
  deriving DecidableEq, Repr

/-- Are parameters the call of a handler? They are a name, a name with literal arguments, or a literal. -/
def isHandlerCall (parameters : List Char) : Bool :=
  let text := Text.trim parameters
  let isName := fun c => Text.isWord c || c = '.'
  match text.dropWhile isName with
  | [] => true
  | arguments =>
    let hasArguments := arguments.head? = some '(' && arguments.getLast? = some ')' && !arguments.contains '\n'
    Literal.isLiteral (if hasArguments then arguments else text)

/-- Can the words of the tag and its parameters be shown as a style? They can when they mean nothing, too. -/
def OpenTag.isShowable (tag : OpenTag) : Bool :=
  match Style.read (tag.name.toList ++ (tag.parameters.map (' ' :: ·)).getD []) with
  | .error .incomplete => false
  | _ => true

/-- Does the tag name a handler? -/
def OpenTag.isHandler (tag : OpenTag) : Bool :=
  tag.name.toList.head? = some '@'

/-- Can the tag be closed? A tag that names a handler must call it. -/
def OpenTag.canClose (tag : OpenTag) : Bool :=
  match tag.isHandler, tag.parameters with
  | true, some (c :: rest) => isHandlerCall (c :: rest)
  | _, _ => true

/-- A tag and the part of the shown text that it is set for, from `start` up to `stop`. -/
structure Span where
  tag : OpenTag
  start : Nat
  stop : Nat
  deriving DecidableEq, Repr

/-- Is something of the span left when the text is divided? A text without ends of lines and tabs is not divided;
otherwise the span must hold more than ends of lines. -/
def Span.isLeft (span : Span) (text : List Char) : Bool :=
  !(text.contains '\n' || text.contains '\t') || ((text.take span.stop).drop span.start).any fun c => c ≠ '\n'

/-- What has been read of a marked-up text: the text that is shown, the open tags with the places where they start,
innermost first, and the closed tags. -/
structure Sheet where
  text : List Char := []
  opened : List (OpenTag × Nat) := []
  spans : List Span := []
  deriving DecidableEq, Repr

namespace Sheet

/-- Control characters that are not shown. -/
def isDropped (c : Char) : Bool :=
  c.toNat = 7 || c.toNat = 8 || c.toNat = 11 || c.toNat = 12 || c.toNat = 13

/-- Adds a stretch of text. -/
def addText (sheet : Sheet) (s : List Char) : Sheet :=
  { sheet with text := sheet.text ++ (replaceNames (unescapeBrackets s)).filter (!isDropped ·) }

/-- Opens a tag. -/
def openTag (sheet : Sheet) (tag : OpenTag) : Sheet :=
  { sheet with opened := (tag, sheet.text.length) :: sheet.opened }

/-- Closes the first tag, innermost first, that fits. A handler sets no style. -/
def closeTag (sheet : Sheet) (fits : OpenTag → Bool) : Option Sheet :=
  match sheet.opened.find? fun (tag, _) => fits tag with
  | none => none
  | some (tag, start) =>
    if tag.canClose then
      some { sheet with
        opened := sheet.opened.eraseP fun (tag, _) => fits tag
        spans := if tag.isHandler then sheet.spans else ⟨tag, start, sheet.text.length⟩ :: sheet.spans }
    else none

/-- Opens or closes a tag. -/
def applyTag (sheet : Sheet) (body : List Char) : Option Sheet :=
  let isName := fun c => c ≠ '='
  match body.takeWhile isName with
  | '/' :: name =>
    if Text.allBlank name then sheet.closeTag fun _ => true
    else match styleName (Text.trim name) with
      | .ok name => sheet.closeTag fun tag => tag.name = name
      | .error _ => none
  | name =>
    match styleName name, body.dropWhile isName with
    | .ok name, _ :: parameters => some (sheet.openTag ⟨name, some parameters⟩)
    | .ok name, [] => some (sheet.openTag ⟨name, none⟩)
    | .error _, _ => none

/-- Reads a piece. -/
def addPiece (sheet : Sheet) : Piece → Option Sheet
  | .text s => some (sheet.addText s)
  | .tag body => sheet.applyTag body

/-- All parts of the text that a tag is set for; a tag that is still open reaches to the end. -/
def allSpans (sheet : Sheet) : List Span :=
  sheet.opened.map (fun (tag, start) => ⟨tag, start, sheet.text.length⟩) ++ sheet.spans

/-- Can everything be shown? -/
def isShowable (sheet : Sheet) : Bool :=
  sheet.allSpans.all fun span => !span.isLeft sheet.text || span.tag.isShowable

end Sheet

/-- The text that is shown for a marked-up text. -/
def render (s : String) : Option String :=
  match (pieces s.toList).foldlM Sheet.addPiece {} with
  | none => none
  | some sheet => if sheet.isShowable then some (String.ofList (expandTabs sheet.text)) else none

/-- Escapes the tags of a text: the backslashes before a tag are doubled, and one is added. -/
def escapeFrom (s : List Char) : List Char :=
  match s with
  | [] => []
  | c :: tail =>
    match tag? (c :: tail) with
    | none => c :: escapeFrom tail
    | some (slashes, body, behind) =>
      let here := List.replicate (2 * slashes + 1) '\\' ++ '[' :: body ++ [']']
      if behind.length ≤ tail.length then here ++ escapeFrom behind else here
termination_by s.length

/-- Escapes a text. A single backslash at the end is doubled, since a tag may follow. -/
def escape (s : String) : String :=
  let escaped := escapeFrom s.toList
  match escaped.reverse with
  | '\\' :: '\\' :: _ => String.ofList escaped
  | '\\' :: _ => String.ofList (escaped ++ ['\\'])
  | _ => String.ofList escaped

end CallIndex.Markup

namespace CallIndex

/-- A console: the text that it shows for a marked-up text, and how a text is escaped so that it is not taken for
markup. -/
structure Console where
  render : String → Option String
  escape : String → String

/-- The console that knows these tags. -/
def Console.standard : Console := ⟨Markup.render, Markup.escape⟩

end CallIndex
