import CallIndex.Source.Lexeme

/-!
# Masking

The masked text of a source is the source with comments and the bodies of string literals blanked: a text of the same
length with the same line ends, in which only code and delimiters are left. Regions that are never closed are
reported as problems with the line they start on.
-/

namespace CallIndex.Source

/-- What masking may complain about. -/
inductive RegionKind where
  | comment
  | literal
  deriving DecidableEq, Repr

/-- A comment or string literal that is never closed, with the number of the line it starts on. -/
structure OpenRegion where
  kind : RegionKind
  line : Nat
  deriving DecidableEq, Repr

/-- The wording of the problem. -/
def OpenRegion.message (r : OpenRegion) : String :=
  let noun := match r.kind with
    | .comment => "comment"
    | .literal => "string"
  s!"unterminated {noun} starting at line {r.line}"

/-- The regions left open among lexemes that start on line `line`. -/
def openRegionsFrom (line : Nat) : List Lexeme → List OpenRegion
  | [] => []
  | lexeme :: rest =>
    let here := match lexeme with
      | .blockComment _ false => [⟨.comment, line⟩]
      | .literal _ _ false => [⟨.literal, line⟩]
      | _ => []
    here ++ openRegionsFrom (line + lexeme.spelling.count '\n') rest

/-- The masked text. -/
def mask (rules : LexRules) (content : List Char) : List Char :=
  (lex rules content).flatMap Lexeme.masked

/-- The regions of a text that are never closed, in order. -/
def openRegions (rules : LexRules) (content : List Char) : List OpenRegion :=
  openRegionsFrom 1 (lex rules content)

/-- One line of a source: the text as written and its masked form. -/
structure Line where
  raw : List Char
  code : List Char
  deriving DecidableEq, Repr

/-- The lines of a source with their masked forms. -/
def sourceLines (rules : LexRules) (content : List Char) : List Line :=
  List.zipWith Line.mk (Text.lines content) (Text.lines (mask rules content))

/-- The width of the leading white space of a line; a tab counts for four columns. -/
def indentWidth : List Char → Nat
  | ' ' :: rest => indentWidth rest + 1
  | '\t' :: rest => indentWidth rest + 4
  | _ => 0

end CallIndex.Source
