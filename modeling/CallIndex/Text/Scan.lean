import CallIndex.Text.Basic

/-!
# Recognisers

A recogniser reads from the front of a text and either fails or returns a value and the rest. `<|>` is ordered choice:
the second recogniser reads the same text when the first one fails. Runs of characters are read as far as they go.

* `Scan.firstOf` gives the value of a recogniser at the front of a text.
* `Scan.hits` gives the values at all places of a text, from left to right, each search going on behind the last hit.
-/

namespace CallIndex.Text

/-- A recogniser of values of type `α`. -/
abbrev Scan := StateT (List Char) Option

namespace Scan

/-- One character of a class. -/
def one (p : Char → Bool) : Scan Char := fun s =>
  match s with
  | [] => none
  | c :: rest => if p c then some (c, rest) else none

/-- The character `c`. -/
def char (c : Char) : Scan Unit := fun s =>
  match s with
  | [] => none
  | d :: rest => if d = c then some ((), rest) else none

/-- The text `t`. -/
def text (t : String) : Scan Unit := fun s =>
  (dropFront? t.toList s).map fun rest => ((), rest)

/-- The longest run of characters of a class, possibly empty. -/
def run (p : Char → Bool) : Scan (List Char) := fun s =>
  some (s.takeWhile p, s.dropWhile p)

/-- The longest run of characters of a class, not empty. -/
def run1 (p : Char → Bool) : Scan (List Char) := fun s =>
  if (s.takeWhile p).isEmpty then none else some (s.takeWhile p, s.dropWhile p)

/-- Blanks, possibly none. -/
def blanks : Scan Unit := fun s =>
  some ((), s.dropWhile isBlank)

/-- At least one blank. -/
def blanks1 : Scan Unit := fun s =>
  match s with
  | [] => none
  | c :: rest => if isBlank c then some ((), rest.dropWhile isBlank) else none

/-- The text that is still to be read. -/
def rest : Scan (List Char) := fun s =>
  some (s, s)

/-- Succeeds at the end of the text. -/
def atEnd : Scan Unit := fun s =>
  if s.isEmpty then some ((), s) else none

/-- Succeeds where no character of the class comes next. -/
def notNext (p : Char → Bool) : Scan Unit := fun s =>
  match s with
  | [] => some ((), s)
  | c :: _ => if p c then none else some ((), s)

/-- Succeeds where the word read so far ends. -/
def wordEnd : Scan Unit :=
  notNext isWord

/-- A word of a list, which must be followed by a blank; the blanks are read too. -/
def keyword (words : List String) : Scan String :=
  words.foldr (fun w next => (do text w; blanks1; pure w) <|> next) failure

/-- An optional part. -/
def maybe {α : Type} (p : Scan α) : Scan (Option α) :=
  (some <$> p) <|> pure none

/-- Is the optional part there? -/
def present {α : Type} (p : Scan α) : Scan Bool :=
  (do let _ ← p; pure true) <|> pure false

/-- As many keywords of a list as there are. -/
def keywords (words : List String) : Scan (List String) := fun s =>
  match keyword words s with
  | none => some ([], s)
  | some (w, r) =>
    if r.length < s.length then
      match keywords words r with
      | some (ws, r) => some (w :: ws, r)
      | none => some ([w], r)
    else some ([], s)
termination_by s => s.length

/-- The value at the front of a text. -/
def firstOf {α : Type} (p : Scan α) (s : List Char) : Option α :=
  (p s).map (·.1)

/-- A value found in a text, with the columns where it starts and where it stops. -/
structure Hit (α : Type) where
  start : Nat
  stop : Nat
  value : α

/-- The hits in `s`, which starts at column `col` behind the text `before` (nearest character first). The recogniser
is told what comes before the place where it reads. -/
def hitsFrom {α : Type} (p : List Char → Scan α) (col : Nat) (before s : List Char) : List (Hit α) :=
  match s with
  | [] => []
  | c :: tail =>
    match p before (c :: tail) with
    | none => hitsFrom p (col + 1) (c :: before) tail
    | some (value, r) =>
      let used := (c :: tail).length - r.length
      if r.length ≤ tail.length then
        ⟨col, col + used, value⟩ :: hitsFrom p (col + used) (((c :: tail).take used).reverse ++ before) r
      else ⟨col, col, value⟩ :: hitsFrom p (col + 1) (c :: before) tail
termination_by s.length

/-- The hits in a whole text. -/
def hits {α : Type} (p : List Char → Scan α) (s : List Char) : List (Hit α) :=
  hitsFrom p 0 [] s

/-- Reads `p` only where a word may begin: at the start or behind a character of no word. -/
def atWordStart {α : Type} (p : Scan α) (before : List Char) : Scan α := fun s =>
  if before.head?.any isWord then none else p s

end Scan

end CallIndex.Text
