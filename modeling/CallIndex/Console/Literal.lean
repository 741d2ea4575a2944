import CallIndex.Text.CharName
import CallIndex.Text.Integer

/-!
# Literals

A literal is a written value without names and operations: a number, a text in quotes, a truth value, or a collection
of literals in brackets. It is cut into tokens first; then the tokens are read as a value of which only the shape is
kept.

* `Literal.tokens?` gives the tokens of a text.
* `isLiteral` tells whether a text is a literal.
-/

namespace CallIndex.Literal

/-- The smallest parts of a literal. -/
inductive Token where
  /-- A number, real or imaginary. -/
  | number (isImaginary : Bool)
  /-- A text in quotes, of characters or of bytes. -/
  | text (isBytes : Bool)
  | word (name : String)
  | ellipsis
  | mark (c : Char)
  /-- The end of a line outside all brackets. -/
  | lineEnd
  deriving DecidableEq, Repr

/-! ### Numbers -/

/-- Digits, between which single underscores may stand: the digits and what follows. -/
def digitRun (isDigit : Char → Bool) : List Char → List Char × List Char
  | '_' :: c :: s =>
    if isDigit c then
      let (ds, rest) := digitRun isDigit s
      (c :: ds, rest)
    else ([], '_' :: c :: s)
  | c :: s =>
    if isDigit c then
      let (ds, rest) := digitRun isDigit s
      (c :: ds, rest)
    else ([], c :: s)
  | [] => ([], [])

/-- Digits that do not start with an underscore. -/
def decimalRun (s : List Char) : List Char × List Char :=
  if s.head?.any Char.isDigit then digitRun Char.isDigit s else ([], s)

/-- The digits of the base that a letter behind a zero stands for. -/
def baseDigits? (c : Char) : Option (Char → Bool) :=
  if c = 'x' || c = 'X' then some fun d => d.isDigit || ('a' ≤ d && d ≤ 'f') || ('A' ≤ d && d ≤ 'F')
  else if c = 'o' || c = 'O' then some fun d => '0' ≤ d && d ≤ '7'
  else if c = 'b' || c = 'B' then some fun d => d = '0' || d = '1'
  else none

/-- What follows a power of ten; none when there is no power of ten. -/
def behindPower? : List Char → Option (List Char)
  | [] => none
  | c :: s =>
    if c = 'e' || c = 'E' then
      let s := match s with
        | '+' :: s => s
        | '-' :: s => s
        | s => s
      match decimalRun s with
      | ([], _) => none
      | (_, rest) => some rest
    else none

/-- Are these the digits of an integer? Only zero starts with a zero. -/
def isWhole (ds : List Char) : Bool :=
  !ds.isEmpty && ds.length ≤ Text.maxDigits && (ds.head? ≠ some '0' || ds.all (· = '0'))

/-- A number to the base ten: whether it is imaginary, and what follows. -/
def decimalNumber? (s : List Char) : Option (Bool × List Char) :=
  let (whole, s) := decimalRun s
  let (fraction, hasPoint, s) := match s with
    | '.' :: s =>
      let (ds, rest) := decimalRun s
      (ds, true, rest)
    | s => ([], false, s)
  if whole.isEmpty && fraction.isEmpty then none
  else
    let (hasPower, s) := match behindPower? s with
      | some rest => (true, rest)
      | none => (false, s)
    if s.head? = some 'j' || s.head? = some 'J' then some (true, s.drop 1)
    else if hasPoint || hasPower || isWhole whole then some (false, s)
    else none

/-- A number: whether it is imaginary, and what follows. -/
def anyNumber? (s : List Char) : Option (Bool × List Char) :=
  match s with
  | '0' :: c :: rest =>
    match baseDigits? c with
    | some isDigit =>
      match digitRun isDigit rest with
      | ([], _) => none
      | (_, rest) => some (false, rest)
    | none => decimalNumber? s
  | _ => decimalNumber? s

/-- The token of a number, which no character of a word may follow. -/
def numberToken? (s : List Char) : Option (Token × List Char) :=
  (anyNumber? s).bind fun (isImaginary, rest) =>
    if rest.head?.any Text.isWord then none else some (.number isImaginary, rest)

/-! ### Texts -/

/-- A text up to its closing quote on the same line; a character behind a backslash does not close it. -/
def untilQuote (q : Char) : List Char → Option (List Char × List Char)
  | [] => none
  | '\\' :: c :: s => (untilQuote q s).map fun (body, rest) => ('\\' :: c :: body, rest)
  | c :: s =>
    if c = q then some ([], s)
    else if c = '\n' then none
    else (untilQuote q s).map fun (body, rest) => (c :: body, rest)

/-- A text up to its three closing quotes. -/
def untilThreeQuotes (q : Char) : List Char → Option (List Char × List Char)
  | [] => none
  | '\\' :: c :: s => (untilThreeQuotes q s).map fun (body, rest) => ('\\' :: c :: body, rest)
  | c :: s =>
    if c = q && s.take 2 = [q, q] then some ([], s.drop 2)
    else (untilThreeQuotes q s).map fun (body, rest) => (c :: body, rest)

/-- The value of a hexadecimal digit. -/
def hexDigit? (c : Char) : Option Nat :=
  if c.isDigit then some (c.toNat - '0'.toNat)
  else if 'a' ≤ c && c ≤ 'f' then some (c.toNat - 'a'.toNat + 10)
  else if 'A' ≤ c && c ≤ 'F' then some (c.toNat - 'A'.toNat + 10)
  else none

/-- The value of `count` hexadecimal digits at the front of a text. -/
def hexFront? : Nat → Nat → List Char → Option Nat
  | 0, value, _ => some value
  | _ + 1, _, [] => none
  | count + 1, value, c :: s => (hexDigit? c).bind fun d => hexFront? count (value * 16 + d) s

/-- Does the name of a character in braces come first? -/
def startsWithName : List Char → Bool
  | '{' :: s => s.contains '}' && Text.isCharName (s.takeWhile (· ≠ '}'))
  | _ => false

/-- Are all escapes of a text complete? Bytes have no escapes for characters beyond them. -/
def hasGoodEscapes (isBytes : Bool) : List Char → Bool
  | '\\' :: c :: s =>
    (if c = 'x' then (hexFront? 2 0 s).isSome
      else if isBytes then true
      else if c = 'u' then (hexFront? 4 0 s).isSome
      else if c = 'U' then (hexFront? 8 0 s).any (· ≤ 0x10ffff)
      else if c = 'N' then startsWithName s
      else true) && hasGoodEscapes isBytes s
  | _ :: s => hasGoodEscapes isBytes s
  | [] => true

/-- The token of a text behind its opening quote `q`. In a raw text backslashes are no escapes. -/
def textToken? (isRaw isBytes : Bool) (q : Char) (s : List Char) : Option (Token × List Char) :=
  let found := if s.take 2 = [q, q] then untilThreeQuotes q (s.drop 2) else untilQuote q s
  found.bind fun (body, rest) =>
    if isBytes && body.any fun c => 0x80 ≤ c.toNat then none
    else if isRaw || hasGoodEscapes isBytes body then some (.text isBytes, rest)
    else none

/-- What the letters before a quote say: is the text raw, and is it one of bytes? -/
def textKind? (letters : String) : Option (Bool × Bool) :=
  match letters.toLower with
  | "u" => some (false, false)
  | "r" => some (true, false)
  | "b" => some (false, true)
  | "br" | "rb" => some (true, true)
  | _ => none

/-! ### Tokens -/

/-- The characters that are tokens of their own. -/
def marks : List Char := ['(', ')', '{', '}', ',', ':', '+', '-']

/-- Is the character a quote? -/
def isQuote (c : Char) : Bool :=
  c = '\'' || c = '"'

/-- The token at the front of a text. -/
def token? (s : List Char) : Option (Token × List Char) :=
  match s with
  | [] => none
  | c :: rest =>
    if isQuote c then textToken? false false c rest
    else if c.isDigit || (c = '.' && rest.head?.any Char.isDigit) then numberToken? s
    else if c = '.' then
      if rest.take 2 = ['.', '.'] then some (.ellipsis, rest.drop 2) else none
    else if Text.isWord c then
      let word := String.ofList (s.takeWhile Text.isWord)
      match s.dropWhile Text.isWord with
      | q :: behind =>
        if isQuote q then (textKind? word).bind fun (isRaw, isBytes) => textToken? isRaw isBytes q behind
        else some (.word word, q :: behind)
      | [] => some (.word word, [])
    else if marks.contains c then some (.mark c, rest)
    else none

/-- The deepest nesting of brackets. -/
def depthLimit : Nat := 200

/-- The depth behind a token. -/
def depthBehind (depth : Nat) : Token → Nat
  | .mark '(' | .mark '{' => depth + 1
  | .mark ')' | .mark '}' => depth - 1
  | _ => depth

/-- The text from the end of its first line on. -/
def behindComment (s : List Char) : List Char :=
  s.dropWhile (· ≠ '\n')

/-- The tokens of a text inside `depth` brackets. -/
def tokensFrom? (depth : Nat) (s : List Char) : Option (List Token) :=
  match s with
  | [] => some []
  | c :: tail =>
    if c = ' ' || c = '\t' || c.toNat = 12 then tokensFrom? depth tail
    else if c = '\n' then
      if depth = 0 then (tokensFrom? depth tail).map (.lineEnd :: ·) else tokensFrom? depth tail
    else if c = '#' then
      if (behindComment tail).length ≤ tail.length then tokensFrom? depth (behindComment tail) else none
    else if c = '\\' && tail.head? = some '\n' && 1 < tail.length then tokensFrom? depth (tail.drop 1)
    else match token? (c :: tail) with
      | none => none
      | some (t, rest) =>
        if depthLimit < depthBehind depth t then none
        else if rest.length ≤ tail.length then (tokensFrom? (depthBehind depth t) rest).map (t :: ·)
        else none
termination_by s.length

/-- The distance between two places where a tab can end. -/
def tabWidth : Nat := 8

/-- Does the first token of a text stand at the margin? Lines with nothing but blanks and comments do not count. The
column so far is `col`; where a line goes on behind a backslash, the column before the first such backslash, `held`,
counts unless it is zero. -/
def startsAtMargin (inComment : Bool) (held col : Nat) : List Char → Bool
  | [] => true
  | c :: s =>
    if c = '\n' then startsAtMargin false 0 0 s
    else if inComment then startsAtMargin true 0 0 s
    else if c = '#' then startsAtMargin true 0 0 s
    else if c = ' ' then startsAtMargin false held (col + 1) s
    else if c = '\t' then startsAtMargin false held ((col / tabWidth + 1) * tabWidth) s
    else if c.toNat = 12 then startsAtMargin false held 0 s
    else match c, s with
      | '\\', '\n' :: s => startsAtMargin false (if held = 0 then col else held) col s
      | _, _ => (if held = 0 then col else held) = 0

/-- The tokens of a text, without ends of lines before the first and behind the last other one. -/
def tokens? (s : List Char) : Option (List Token) :=
  let s := Text.withLineFeeds s
  if !startsAtMargin false 0 0 s then none
  else (tokensFrom? 0 s).map fun ts =>
    ((ts.dropWhile (· = .lineEnd)).reverse.dropWhile (· = .lineEnd)).reverse

/-! ### Values -/

/-- What matters of a value: only numbers can have signs and be added, and not all values can be members of sets. The
name of the function that makes a set is no value. -/
inductive Shape where
  | number (isImaginary : Bool)
  | signed (isImaginary : Bool)
  | value (canBeMember : Bool)
  | setMaker
  deriving DecidableEq, Repr

/-- Can the value be a member of a set? -/
def Shape.canBeMember : Shape → Bool
  | value b => b
  | setMaker => false
  | _ => true

/-- The forms of the letters `s`, `e` and `t` that count as these letters in a name. -/
def letterForms : List (Char × List Nat) := [
  ('s', [0x73, 0x17f, 0x2e2, 0x209b, 0xff53, 0x1d42c, 0x1d460, 0x1d494, 0x1d4c8, 0x1d4fc, 0x1d530, 0x1d564, 0x1d598,
    0x1d5cc, 0x1d600, 0x1d634, 0x1d668, 0x1d69c]),
  ('e', [0x65, 0x1d49, 0x2091, 0x212f, 0x2147, 0xff45, 0x1d41e, 0x1d452, 0x1d486, 0x1d4ee, 0x1d522, 0x1d556, 0x1d58a,
    0x1d5be, 0x1d5f2, 0x1d626, 0x1d65a, 0x1d68e]),
  ('t', [0x74, 0x1d57, 0x209c, 0xff54, 0x1d42d, 0x1d461, 0x1d495, 0x1d4c9, 0x1d4fd, 0x1d531, 0x1d565, 0x1d599, 0x1d5cd,
    0x1d601, 0x1d635, 0x1d669, 0x1d69d])]

/-- Is a word the name of the function that makes a set? -/
def isSetMaker (word : String) : Bool :=
  let letters := word.toList
  letters.length = letterForms.length &&
    (letters.zip letterForms).all fun (c, _, forms) => forms.contains c.toNat

/-- A reader of tokens. -/
abbrev Reader := StateT (List Token) Option

/-- The next token. -/
def next : Reader Token := fun ts =>
  match ts with
  | [] => none
  | t :: rest => some (t, rest)

/-- Reads the token `t`, if it comes next. -/
def nextIs (t : Token) : Reader Bool := fun ts =>
  if ts.head? = some t then some (true, ts.tail) else some (false, ts)

/-- Reads a sign, if it comes next. -/
def nextIsSign : Reader Bool := fun ts =>
  if ts.head? = some (.mark '+') || ts.head? = some (.mark '-') then some (true, ts.tail) else some (false, ts)

/-- Texts that follow one another are one text; characters and bytes do not mix. -/
def moreTexts (isBytes : Bool) : Reader Unit := fun ts =>
  let rest := ts.dropWhile (· = .text isBytes)
  if rest.head? = some (.text !isBytes) then none else some ((), rest)

mutual

/-- A value: an operand, one with a sign, or a real number with an imaginary one added to it or taken from it. -/
def item (fuel : Nat) : Reader Shape :=
  match fuel with
  | 0 => failure
  | fuel + 1 => do
    let isSigned ← nextIsSign
    let first ← operand fuel
    let left ← match isSigned, first with
      | false, shape => pure shape
      | true, .number isImaginary => pure (.signed isImaginary)
      | true, _ => failure
    if ← nextIsSign then
      let right ← operand fuel
      if (left = .number false || left = .signed false) && right = .number true then return .value true else failure
    else return left

/-- An operand: a number, a text, a constant, a collection, or a new set. -/
def operand (fuel : Nat) : Reader Shape :=
  match fuel with
  | 0 => failure
  | fuel + 1 => do
    match ← atom fuel with
    | .setMaker =>
      if !(← nextIs (.mark '(')) then return .setMaker
      else if ← nextIs (.mark ')') then return .value false
      else failure
    | shape => return shape

/-- An operand that is not followed by a call. -/
def atom (fuel : Nat) : Reader Shape :=
  match fuel with
  | 0 => failure
  | fuel + 1 => do
    match ← next with
    | .number isImaginary => return .number isImaginary
    | .text isBytes =>
      moreTexts isBytes
      return .value true
    | .ellipsis | .word "True" | .word "False" | .word "None" => return .value true
    | .word name => if isSetMaker name then return .setMaker else failure
    | .mark '(' =>
      if ← nextIs (.mark ')') then return .value true
      else sequence fuel (.mark ')') []
    | .mark '{' =>
      if ← nextIs (.mark '}') then return .value false
      let first ← item fuel
      if !first.canBeMember then failure
      if ← nextIs (.mark ':') then
        if (← item fuel) = .setMaker then failure
        entries fuel
      else members fuel
      return .value false
    | _ => failure

/-- Values up to the token `closing`, behind the values `read`, last one first. A single value without a comma stands
for itself. -/
def sequence (fuel : Nat) (closing : Token) (read : List Shape) : Reader Shape :=
  match fuel with
  | 0 => failure
  | fuel + 1 => do
    let shape ← item fuel
    let read := shape :: read
    let all := Shape.value (read.all (·.canBeMember))
    let isClosed ← nextIs closing
    if isClosed && read.length = 1 then return shape
    else if shape = .setMaker then failure
    else if isClosed then return all
    else if ← nextIs (.mark ',') then
      if ← nextIs closing then return all else sequence fuel closing read
    else failure

/-- The rest of a set behind a member. -/
def members (fuel : Nat) : Reader Unit :=
  match fuel with
  | 0 => failure
  | fuel + 1 => do
    if ← nextIs (.mark '}') then return ()
    else if ← nextIs (.mark ',') then
      if ← nextIs (.mark '}') then return ()
      let shape ← item fuel
      if shape.canBeMember then members fuel else failure
    else failure

/-- The rest of a table behind an entry. -/
def entries (fuel : Nat) : Reader Unit :=
  match fuel with
  | 0 => failure
  | fuel + 1 => do
    if ← nextIs (.mark '}') then return ()
    else if ← nextIs (.mark ',') then
      if ← nextIs (.mark '}') then return ()
      let key ← item fuel
      if !key.canBeMember then failure
      if !(← nextIs (.mark ':')) then failure
      if (← item fuel) = .setMaker then failure
      entries fuel
    else failure

end

/-- Is a text a literal? Outside brackets, too, values between commas are a collection. -/
def isLiteral (s : List Char) : Bool :=
  if s.contains (Char.ofNat 0) then false
  else match tokens? s with
    | none => false
    | some ts =>
      (sequence (4 * ts.length + 4) .lineEnd [] (ts ++ [.lineEnd])).any fun (shape, rest) =>
        shape ≠ .setMaker && rest.isEmpty

end CallIndex.Literal
