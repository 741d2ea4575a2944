import CallIndex.Text.Basic
import CallIndex.Text.NameTable

/-!
# Names of characters

Every character of a script has a name in capital letters. Most names are listed in a table. The names of some ideographs
end in their code point, and the names of Hangul syllables are put together from the names of their letters.

* `isCharName` tells whether a text is the name of a character. The case of letters does not matter for the names of the
  table and of the coded ones, and matters for unified ideographs and syllables.
-/

namespace CallIndex.Text

/-! ### The table -/

/-- Is `wanted` among the names of a coded table? The name before the one that is being read is `last`, of which the
first `kept` characters are kept; `fresh` are the characters behind them that have been read, last one first. -/
def isListedFrom (wanted last : List Char) (kept : Nat) (fresh : List Char) : List Char → Bool
  | [] => last.take kept ++ fresh.reverse = wanted
  | c :: s =>
    if !c.isLower then isListedFrom wanted last kept (c :: fresh) s
    else
      let count := c.toNat - 'a'.toNat
      if fresh.isEmpty then isListedFrom wanted last (kept + count) [] s
      else
        let name := last.take kept ++ fresh.reverse
        name = wanted || isListedFrom wanted name count [] s

/-- Is a text a name of the table? -/
def isListedName (s : List Char) : Bool :=
  isListedFrom s [] 0 [] (nameRows.flatMap String.toList)

/-! ### Coded names -/

/-- The value of a hexadecimal digit with capital letters. -/
def capitalHexDigit? (c : Char) : Option Nat :=
  if c.isDigit then some (c.toNat - '0'.toNat)
  else if 'A' ≤ c && c ≤ 'F' then some (c.toNat - 'A'.toNat + 10)
  else none

/-- The value of four or five hexadecimal digits. -/
def codePoint? (s : List Char) : Option Nat :=
  if s.length = 4 || s.length = 5 then
    s.foldlM (fun n c => (capitalHexDigit? c).map (n * 16 + ·)) 0
  else none

/-- Does a text consist of a start and of a code point in one of the ranges? -/
def isCoded (start : String) (ranges : List (Nat × Nat)) (s : List Char) : Bool :=
  ((dropFront? start.toList s).bind codePoint?).any fun n => inRanges n ranges

/-- The code points of the unified ideographs. -/
def unifiedIdeographs : List (Nat × Nat) := [
  (0x3400, 0x4dbf), (0x4e00, 0x9fff), (0x20000, 0x2a6df), (0x2a700, 0x2b738), (0x2b740, 0x2b81d),
  (0x2b820, 0x2cea1), (0x2ceb0, 0x2ebe0), (0x30000, 0x3134a)]

/-- The starts of other coded names, and the code points that can follow them. -/
def codedFamilies : List (String × List (Nat × Nat)) := [
  ("CJK COMPATIBILITY IDEOGRAPH-", [(0xf900, 0xfa6d), (0xfa70, 0xfad9), (0x2f800, 0x2fa1d)]),
  ("KHITAN SMALL SCRIPT CHARACTER-", [(0x18b00, 0x18cd5)]),
  ("NUSHU CHARACTER-", [(0x1b170, 0x1b2fb)])]

/-- Is a text the name of a unified ideograph? Its code point may start with a zero. -/
def isUnifiedIdeograph (s : List Char) : Bool :=
  isCoded "CJK UNIFIED IDEOGRAPH-" unifiedIdeographs s

/-- Is a text another coded name? Its code point does not start with a zero. -/
def isCodedName (s : List Char) : Bool :=
  codedFamilies.any fun (start, ranges) => isCoded start ranges s && s[start.length]? ≠ some '0'

/-! ### Syllables -/

/-- The names of the letters that start a syllable; one has none. -/
def leadingLetters : List String :=
  ["G", "GG", "N", "D", "DD", "R", "M", "B", "BB", "S", "SS", "", "J", "JJ", "C", "K", "T", "P", "H"]

/-- The names of the vowels of a syllable. -/
def vowelLetters : List String :=
  ["A", "AE", "YA", "YAE", "EO", "E", "YEO", "YE", "O", "WA", "WAE", "OE", "YO", "U", "WEO", "WE", "WI", "YU", "EU",
    "YI", "I"]

/-- The names of the letters that end a syllable; there may be none. -/
def trailingLetters : List String :=
  ["", "G", "GG", "GS", "N", "NJ", "NH", "D", "L", "LG", "LM", "LB", "LS", "LT", "LP", "LH", "M", "B", "BS", "S", "SS",
    "NG", "J", "C", "K", "T", "P", "H"]

/-- Is a text the name of a syllable? -/
def isSyllableName (s : List Char) : Bool :=
  match dropFront? "HANGUL SYLLABLE ".toList s with
  | none => false
  | some letters =>
    leadingLetters.any fun leading => vowelLetters.any fun vowel => trailingLetters.any fun trailing =>
      (leading ++ vowel ++ trailing).toList = letters

/-- Is a text the name of a character? -/
def isCharName (s : List Char) : Bool :=
  let capitals := s.map Char.toUpper
  isUnifiedIdeograph s || isSyllableName s || isCodedName capitals || isListedName capitals

end CallIndex.Text
