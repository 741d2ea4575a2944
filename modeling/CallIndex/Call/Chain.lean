import CallIndex.Text.Scan

/-!
# Call chains

The target of a call is a chain of names joined by member separators, such as `$this->repo->save`. A separator is
`?->`, `->`, `?.`, `.` or `::`; where two could start at one place the longer one does.

* `Chain.cut` splits any text into its segments and separators; there is always one segment more than separators.
* `Chain.segments` are the non-empty segments.
-/

namespace CallIndex.Call

/-- A member separator. -/
inductive Separator where
  | dot
  | optionalDot
  | arrow
  | optionalArrow
  | scope
  deriving DecidableEq, Repr

namespace Separator

/-- How a separator is written. -/
def spelling : Separator → List Char
  | dot => ['.']
  | optionalDot => ['?', '.']
  | arrow => ['-', '>']
  | optionalArrow => ['?', '-', '>']
  | scope => [':', ':']

/-- The separator at the front of a text, and the rest. -/
def read? : List Char → Option (Separator × List Char)
  | '?' :: '-' :: '>' :: rest => some (optionalArrow, rest)
  | '-' :: '>' :: rest => some (arrow, rest)
  | '?' :: '.' :: rest => some (optionalDot, rest)
  | '.' :: rest => some (dot, rest)
  | ':' :: ':' :: rest => some (scope, rest)
  | _ => none

/-- A separator is at least one character long. -/
theorem length_lt_of_read? {s rest : List Char} {sep : Separator} (h : read? s = some (sep, rest)) :
    rest.length < s.length := by
  unfold read? at h
  split at h <;> simp_all
  all_goals omega

end Separator

/-- A text cut at its separators: the first segment, and each further segment with the separator before it. -/
structure Chain where
  root : List Char
  links : List (Separator × List Char)
  deriving DecidableEq, Repr

namespace Chain

/-- Cuts a text at its separators. -/
def cut (s : List Char) : Chain :=
  match h : Separator.read? s with
  | some (sep, rest) =>
    have := Separator.length_lt_of_read? h
    let tail := cut rest
    ⟨[], (sep, tail.root) :: tail.links⟩
  | none =>
    match s with
    | [] => ⟨[], []⟩
    | c :: s =>
      let tail := cut s
      ⟨c :: tail.root, tail.links⟩
termination_by s.length

/-- The text of a chain. -/
def render (chain : Chain) : List Char :=
  chain.root ++ chain.links.flatMap fun (sep, segment) => sep.spelling ++ segment

/-- All segments, the empty ones included. -/
def allSegments (chain : Chain) : List (List Char) :=
  chain.root :: chain.links.map (·.2)

/-- The separators in order. -/
def separators (chain : Chain) : List Separator :=
  chain.links.map (·.1)

/-- The non-empty segments. -/
def segments (chain : Chain) : List (List Char) :=
  chain.allSegments.filter (!·.isEmpty)

end Chain

/-- The non-empty segments of a written call target. -/
def targetSegments (target : String) : List String :=
  (Chain.cut target.toList).segments.map String.ofList

/-- A word at the front of a text, behind the characters `mark`. -/
def wordBehind? (mark : List Char) : List Char → Option (List Char × List Char)
  | [] => none
  | c :: s =>
    if Text.isWordStart c then some (mark ++ c :: s.takeWhile Text.isWord, s.dropWhile Text.isWord) else none

/-- A name in a chain: an optional dollar or number sign and a word. -/
def scanSegment : Text.Scan (List Char) := fun s =>
  match s with
  | '$' :: rest => wordBehind? ['$'] rest
  | '#' :: rest => wordBehind? ['#'] rest
  | s => wordBehind? [] s

theorem length_lt_of_wordBehind? {mark s word rest : List Char} (h : wordBehind? mark s = some (word, rest)) :
    rest.length < s.length := by
  cases s with
  | nil => simp [wordBehind?] at h
  | cons c s =>
    simp only [wordBehind?] at h
    split at h
    · obtain ⟨_, rfl⟩ := Prod.mk.inj (Option.some.inj h)
      exact Nat.lt_succ_of_le (List.dropWhile_suffix _).length_le
    · cases h

/-- A name is at least one character long. -/
theorem length_lt_of_scanSegment {s segment rest : List Char} (h : scanSegment s = some (segment, rest)) :
    rest.length < s.length := by
  unfold scanSegment at h
  split at h
  · exact Nat.lt_succ_of_lt (length_lt_of_wordBehind? h)
  · exact Nat.lt_succ_of_lt (length_lt_of_wordBehind? h)
  · exact length_lt_of_wordBehind? h

/-- The names that follow in a chain, each with its separator. A separator without a name behind it breaks the chain
off. -/
def scanLinks : Text.Scan (List (Separator × List Char)) := fun s =>
  match hs : Separator.read? s with
  | none => some ([], s)
  | some (sep, rest) =>
    match hr : scanSegment rest with
    | none => none
    | some (segment, rest') =>
      have := Nat.lt_trans (length_lt_of_scanSegment hr) (Separator.length_lt_of_read? hs)
      (scanLinks rest').map fun (links, r) => ((sep, segment) :: links, r)
termination_by s => s.length

/-- A chain of names as it is written in front of an opening parenthesis. The names are read as far as they go. -/
def scanChain : Text.Scan Chain := do
  let root ← scanSegment
  let links ← scanLinks
  return ⟨root, links⟩

end CallIndex.Call
