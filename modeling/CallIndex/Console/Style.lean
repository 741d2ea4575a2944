import CallIndex.Console.ColorTable
import CallIndex.Text.Integer

/-!
# Styles

A style is written in words: traits, of which some have a short form and each can be negated, a color, the color of the
background behind `on`, and the target of a link. Different words can mean the same style.

* `Style.read` understands the words of a style.
* `Style.write` gives the one form that all words for a style have in common.
* `styleName` is that form, or else the written words themselves.
-/

namespace CallIndex.Markup

/-- What a style can ask for beside colors. -/
inductive Trait where
  | bold | dim | italic | underline | blink | blink2 | reverse | conceal | strike | underline2 | frame | encircle | overline
  deriving DecidableEq, Repr

namespace Trait

/-- All traits in the order in which they are written. -/
def all : List Trait :=
  [bold, dim, italic, underline, blink, blink2, reverse, conceal, strike, underline2, frame, encircle, overline]

/-- The name of a trait. -/
def name : Trait → String
  | bold => "bold"
  | dim => "dim"
  | italic => "italic"
  | underline => "underline"
  | blink => "blink"
  | blink2 => "blink2"
  | reverse => "reverse"
  | conceal => "conceal"
  | strike => "strike"
  | underline2 => "underline2"
  | frame => "frame"
  | encircle => "encircle"
  | overline => "overline"

/-- The short form of a trait. -/
def short? : Trait → Option String
  | bold => some "b"
  | dim => some "d"
  | italic => some "i"
  | underline => some "u"
  | reverse => some "r"
  | conceal => some "c"
  | strike => some "s"
  | underline2 => some "uu"
  | overline => some "o"
  | _ => none

/-- The trait that a word means. -/
def ofWord? (word : String) : Option Trait :=
  all.find? fun t => t.name = word || t.short? = some word

end Trait

/-- Why words are no style. -/
inductive StyleFault where
  /-- A word has no meaning. -/
  | unknown
  /-- A component of a color is missing. -/
  | incomplete
  deriving DecidableEq, Repr

/-- A style. Of several settings of a trait the first one holds. -/
structure Style where
  traits : List (Trait × Bool) := []
  color : Option String := none
  background : Option String := none
  link : Option String := none
  deriving DecidableEq, Repr

/-! ### Colors -/

/-- The text between an opening and a closing bracket behind `front`. -/
def enclosed? (front : String) (s : List Char) : Option (List Char) :=
  (Text.dropFront? (front ++ "(").toList s).bind fun rest =>
    if rest.getLast? = some ')' then some rest.dropLast else none

/-- The largest component of a color. -/
def componentLimit : Nat := 255

/-- The value of digits of any script. -/
def digitsValue (ds : List Char) : Nat :=
  ds.foldl (fun n d => n * 10 + (Text.decimalValue? d).getD 0) 0

/-- Are the components of a color, between commas, those of a color? -/
def checkComponents (parts : List (List Char)) : Except StyleFault Unit :=
  if parts.length ≠ 3 then .error .unknown
  else if parts.any fun ds => ds.isEmpty || Text.maxDigits < ds.length then .error .incomplete
  else if parts.all fun ds => digitsValue ds ≤ componentLimit then .ok ()
  else .error .unknown

/-- Is a text, in small letters, a color? It is a name, a number, or the components of red, green and blue. -/
def checkColor (s : String) : Except StyleFault Unit :=
  let cs := s.toList
  let isHex := fun (c : Char) => c.isDigit || ('a' ≤ c && c ≤ 'f')
  if s = "default" || colorNames.contains s then .ok ()
  else if cs.head? = some '#' && cs.length = 7 && cs.tail.all isHex then .ok ()
  else match enclosed? "color" cs, enclosed? "rgb" cs with
    | some number, _ =>
      if number.all Char.isDigit && 1 ≤ number.length && number.length ≤ 3 && digitsValue number ≤ componentLimit then
        .ok ()
      else .error .unknown
    | none, some body =>
      if !body.isEmpty && body.all fun c => Text.isDecimal c || c = ',' then
        checkComponents (Text.splitAtChar ',' body)
      else .error .unknown
    | none, none => .error .unknown

/-- The color that a word means. -/
def colorOf (word : String) : Except StyleFault String := do
  let color := Text.lowerCase word
  checkColor color
  return color

namespace Style

/-- Adds the meaning of words to a style. -/
def readWords (style : Style) : List String → Except StyleFault Style
  | [] => .ok style
  | word :: rest =>
    let lower := Text.lowerCase word
    if lower = "on" then
      match rest with
      | [] => .error .unknown
      | color :: rest => do
        let color ← colorOf color
        readWords { style with background := some color } rest
    else if lower = "not" then
      match rest with
      | [] => .error .unknown
      | word :: rest =>
        match Trait.ofWord? word with
        | some t => readWords { style with traits := (t, false) :: style.traits } rest
        | none => .error .unknown
    else if lower = "link" then
      match rest with
      | [] => .error .unknown
      | target :: rest => readWords { style with link := some target } rest
    else match Trait.ofWord? lower with
      | some t => readWords { style with traits := (t, true) :: style.traits } rest
      | none => do
        let color ← colorOf lower
        readWords { style with color := some color } rest

/-- Reads a style; `none` is the style that asks for nothing. -/
def read (s : List Char) : Except StyleFault Style :=
  if Text.trim s = "none".toList then .ok {}
  else readWords {} ((Text.words s).map String.ofList)

/-- The form in which a style is written. -/
def write (style : Style) : String :=
  let traits := Trait.all.filterMap fun t =>
    (style.traits.lookup t).map fun isOn => if isOn then t.name else "not " ++ t.name
  let words := traits ++ style.color.toList ++ (style.background.map fun c => "on " ++ c).toList ++
    (style.link.map fun target => "link " ++ target).toList
  if words.isEmpty then "none" else Text.join " " words

end Style

/-- The name of a style, by which its tags are matched. A text that is no style is its own name. -/
def styleName (s : List Char) : Except StyleFault String :=
  match Style.read s with
  | .ok style => .ok style.write
  | .error .unknown => .ok (Text.lowerCase (String.ofList (Text.trim s)))
  | .error .incomplete => .error .incomplete

end CallIndex.Markup
