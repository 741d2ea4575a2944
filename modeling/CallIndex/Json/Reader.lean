import CallIndex.Json.Value
import CallIndex.Text.Integer
import CallIndex.Text.Scan

/-!
# Reading JSON

A reader for JSON texts. Nesting and length are bounded by the length of the text, which serves as the measure of the
recursion.
-/

namespace CallIndex.JsonValue

open Text (Scan)

/-- White space between the elements of a JSON text. -/
def spaces : Scan Unit := do
  let _ ← Scan.run fun c => c = ' ' || c = '\t' || c = '\n' || c = '\r'

/-- The value of a hexadecimal digit. -/
def hexValue? (c : Char) : Option Nat :=
  if c.isDigit then some (c.toNat - '0'.toNat)
  else if 'a' ≤ c && c ≤ 'f' then some (c.toNat - 'a'.toNat + 10)
  else if 'A' ≤ c && c ≤ 'F' then some (c.toNat - 'A'.toNat + 10)
  else none

/-- The value of four hexadecimal digits. -/
def hexUnit? : List Char → Option (Nat × List Char)
  | a :: b :: c :: d :: rest => do
    let a ← hexValue? a
    let b ← hexValue? b
    let c ← hexValue? c
    let d ← hexValue? d
    return (((a * 16 + b) * 16 + c) * 16 + d, rest)
  | _ => none

/-- The character of an escape behind its backslash. A pair of surrogates is one character. -/
def escape? : List Char → Option (Char × List Char)
  | '"' :: rest => some ('"', rest)
  | '\\' :: rest => some ('\\', rest)
  | '/' :: rest => some ('/', rest)
  | 'b' :: rest => some (Char.ofNat 8, rest)
  | 'f' :: rest => some (Char.ofNat 12, rest)
  | 'n' :: rest => some ('\n', rest)
  | 'r' :: rest => some ('\r', rest)
  | 't' :: rest => some ('\t', rest)
  | 'u' :: rest => do
    let (high, rest) ← hexUnit? rest
    if 0xd800 ≤ high && high ≤ 0xdbff then
      match rest with
      | '\\' :: 'u' :: rest' =>
        let (low, behind) ← hexUnit? rest'
        if 0xdc00 ≤ low && low ≤ 0xdfff then
          return (Char.ofNat (0x10000 + (high - 0xd800) * 0x400 + (low - 0xdc00)), behind)
        else return (Char.ofNat 0xfffd, rest)
      | _ => return (Char.ofNat 0xfffd, rest)
    else return (Char.ofNat (if 0xdc00 ≤ high && high ≤ 0xdfff then 0xfffd else high), rest)
  | _ => none

/-- The rest of a string behind its opening quote and the characters `read`, last one first. -/
def stringTail (read : List Char) (fuel : Nat) (s : List Char) : Option (List Char × List Char) :=
  match fuel with
  | 0 => none
  | fuel + 1 =>
    match s with
    | [] => none
    | '"' :: rest => some (read.reverse, rest)
    | '\\' :: rest =>
      match escape? rest with
      | some (c, rest) => stringTail (c :: read) fuel rest
      | none => none
    | c :: rest => if c.toNat < 0x20 then none else stringTail (c :: read) fuel rest

/-- A string of fewer than `fuel` characters. -/
def stringText (fuel : Nat) : Scan String := do
  Scan.char '"'
  let cs ← (stringTail [] fuel : Scan (List Char))
  return String.ofList cs

/-- Digits, of which there is at least one. -/
def digits1 : Scan (List Char) :=
  Scan.run1 Char.isDigit

/-- A power of ten behind its mark. -/
def powerOfTen : Scan Int := do
  let _ ← Scan.one fun c => c = 'e' || c = 'E'
  let sign ← Scan.maybe (Scan.one fun c => c = '+' || c = '-')
  let n : Int := Text.ofDigits (← digits1)
  return if sign = some '-' then -n else n

/-- A number. An integer has a bounded number of digits. -/
def number : Scan JsonValue := do
  let isNegative ← Scan.present (Scan.char '-')
  let whole ← (do Scan.char '0'; return ['0']) <|> digits1
  let fraction ← Scan.maybe (do Scan.char '.'; digits1)
  let power ← Scan.maybe powerOfTen
  if fraction.isNone && power.isNone then
    if Text.maxDigits < whole.length then failure
    let n : Int := Text.ofDigits whole
    return .int (if isNegative then -n else n)
  else
    let fraction := fraction.getD []
    return .real (Double.ofDecimal isNegative (Text.ofDigits (whole ++ fraction)) (power.getD 0 - fraction.length))

/-- A value that is written as one word. -/
def wordValue : Scan JsonValue :=
  (do Scan.text "null"; return .null) <|> (do Scan.text "true"; return .bool true) <|>
  (do Scan.text "false"; return .bool false) <|> (do Scan.text "NaN"; return .real .undefined) <|>
  (do Scan.text "Infinity"; return .real (.infinite false)) <|>
  (do Scan.text "-Infinity"; return .real (.infinite true))

mutual

/-- A value behind white space. -/
def value (fuel : Nat) : Scan JsonValue :=
  match fuel with
  | 0 => failure
  | fuel + 1 => do
    spaces
    wordValue <|> number <|> (.string <$> stringText fuel) <|>
      (do
        Scan.char '['
        spaces
        (do Scan.char ']'; return .array []) <|> (do return .array (← items [] fuel))) <|>
      (do
        Scan.char '{'
        spaces
        (do Scan.char '}'; return .object []) <|> (do return .object (← fields [] fuel)))

/-- The items of an array and its closing bracket, behind the items `read`, last one first. -/
def items (read : List JsonValue) (fuel : Nat) : Scan (List JsonValue) :=
  match fuel with
  | 0 => failure
  | fuel + 1 => do
    let v ← value fuel
    spaces
    let mark ← Scan.one fun c => c = ',' || c = ']'
    if mark = ']' then return (v :: read).reverse else items (v :: read) fuel

/-- The fields of an object and its closing brace, behind the fields `read`, last one first. -/
def fields (read : List (String × JsonValue)) (fuel : Nat) : Scan (List (String × JsonValue)) :=
  match fuel with
  | 0 => failure
  | fuel + 1 => do
    spaces
    let k ← stringText fuel
    spaces
    Scan.char ':'
    let v ← value fuel
    spaces
    let mark ← Scan.one fun c => c = ',' || c = '}'
    if mark = '}' then return ((k, v) :: read).reverse else fields ((k, v) :: read) fuel

end

/-- Reads a JSON text. -/
def read? (s : String) : Option JsonValue :=
  Scan.firstOf (do
    let v ← value (2 * s.length + 2)
    spaces
    Scan.atEnd
    return v) s.toList

end CallIndex.JsonValue
