import CallIndex.Proofs.CodeStructure
import CallIndex.Proofs.DeclaredNames
import CallIndex.Proofs.HiddenText

/-!
# Parameters read character by character

The names in a list of parameters are found in several passes: the lines of the list are trimmed and joined, the text is
split at the commas outside of all brackets, the parts are trimmed, and a recogniser looks for a name in each.  A
`PartReader` does the same in one pass, so that two lists can be compared character by character.  Blanks count little for
it (`SkipsBlanks`), and that is why trimming and joining make no difference.

* `PartReader.SkipsBlanks.filterMap_splitTopLevel`: the one pass finds the names that the several passes find.
* `PartReader.SkipsBlanks.result_joinPieces`: lines may be read with spaces behind them instead of being joined.
* `PartReader.readAll_eq_of_hidden`: a text is read like its masked form if hidden characters act like spaces.
* `Python.firstOf_parameterName_trim` and `Php.parameterName?_trim`: the readers of the two languages.
-/

namespace CallIndex.Extract

open Text (Scan isWord isWordStart isBlank)
open Source (Line levelAfter opensLevel closesLevel levelPieces joinPieces)

/-! ### Names read character by character -/

/-- A way to read the name of a parameter off its text, character by character. -/
structure PartReader (σ : Type) where
  start : σ
  step : σ → Char → σ
  name? : σ → Option String

namespace PartReader

variable {σ : Type} (r : PartReader σ)

/-- What has been read when the text ends. -/
def after (part : List Char) : σ :=
  part.foldl r.step r.start

/-- A reader for which blanks count as one space, and as nothing at the ends of a text; an empty text has no name. -/
structure SkipsBlanks : Prop where
  step_blank : ∀ st c, isBlank c → r.step st c = r.step st ' '
  step_step : ∀ st, r.step (r.step st ' ') ' ' = r.step st ' '
  step_start : r.step r.start ' ' = r.start
  name?_step : ∀ st, r.name? (r.step st ' ') = r.name? st
  name?_start : r.name? r.start = none

/-- The names read so far from a list of parameters: those of the parts that have ended, the state of the last part, and
the number of brackets that are open in it. -/
structure Reading (σ : Type) where
  depth : Nat := 0
  part : σ
  names : List String := []

/-- Before a list of parameters is read. -/
def empty : Reading σ :=
  { part := r.start }

/-- Reads one character of a list of parameters.  A comma outside of all brackets ends a part. -/
def read (x : Reading σ) (c : Char) : Reading σ :=
  if c = ',' && levelAfter x.depth c = 0 then
    { depth := levelAfter x.depth c, part := r.start, names := x.names ++ (r.name? x.part).toList }
  else { depth := levelAfter x.depth c, part := r.step x.part c, names := x.names }

/-- The names when the list ends. -/
def result (x : Reading σ) : List String :=
  x.names ++ (r.name? x.part).toList

/-- The reading of a whole list of parameters. -/
def readAll (s : List Char) : Reading σ :=
  s.foldl r.read r.empty

variable {r}

@[simp] theorem depth_read (x : Reading σ) (c : Char) : (r.read x c).depth = levelAfter x.depth c := by
  unfold read
  split <;> rfl

/-- A list of parameters is read part by part, from its front on with the part that has been begun. -/
private theorem foldl_read (x : Reading σ) (s : List Char) :
    ∃ part parts, levelPieces (· = ',') x.depth s = part :: parts ∧
      (s.foldl r.read x).part = (parts.getLast?.map r.after).getD (part.foldl r.step x.part) ∧
      r.result (s.foldl r.read x) = x.names ++ ((r.name? (part.foldl r.step x.part)).toList ++
        parts.filterMap fun p => r.name? (r.after p)) := by
  -- the part that has been begun goes on with the first piece, and every other piece is a part of its own
  induction s generalizing x with
  | nil => exact ⟨[], [], rfl, rfl, by simp [result]⟩
  | cons c s ih =>
    obtain ⟨part, parts, hpieces, hpart, hresult⟩ := ih (r.read x c)
    rw [depth_read] at hpieces
    rw [List.foldl_cons, hpart, hresult, levelPieces, hpieces]
    by_cases hend : (c = ',' && levelAfter x.depth c = 0) = true
    · have hread : r.read x c =
          { depth := levelAfter x.depth c, part := r.start, names := x.names ++ (r.name? x.part).toList } := by
        rw [read, if_pos hend]
      refine ⟨[], part :: parts, by rw [if_pos hend], ?_, ?_⟩
      · rw [hread, List.getLast?_cons]
        cases parts.getLast? <;> rfl
      · rw [hread]
        have hcons : (part :: parts).filterMap (fun p => r.name? (r.after p)) =
            (r.name? (r.after part)).toList ++ parts.filterMap fun p => r.name? (r.after p) := by
          cases hname : r.name? (r.after part) <;> simp [hname]
        rw [hcons, List.append_assoc]
        rfl
    · have hread : r.read x c = { depth := levelAfter x.depth c, part := r.step x.part c, names := x.names } := by
        rw [read, if_neg hend]
      refine ⟨c :: part, parts, by rw [if_neg hend], ?_, ?_⟩
      · rw [hread]
        rfl
      · rw [hread]
        rfl

/-- The part of a list that a further character belongs to. -/
def lastPart (s : List Char) : List Char :=
  (levelPieces (· = ',') 0 s).getLastD []

theorem part_readAll (s : List Char) : (r.readAll s).part = r.after (lastPart s) := by
  obtain ⟨part, parts, hpieces, hpart, -⟩ := foldl_read (r := r) r.empty s
  have hlast : lastPart s = parts.getLast?.getD part := by
    change (levelPieces (· = ',') r.empty.depth s).getLastD [] = _
    rw [hpieces, List.getLastD_eq_getLast?, List.getLast?_cons]
    rfl
  rw [readAll, hpart, hlast]
  cases parts.getLast? <;> rfl

section SkipsBlanks

variable (h : r.SkipsBlanks)
include h

private theorem SkipsBlanks.foldl_step {st : σ} (hst : r.step st ' ' = st) {s : List Char} (hs : ∀ c ∈ s, isBlank c) :
    s.foldl r.step st = st := by
  induction s with
  | nil => rfl
  | cons c s ih =>
    rw [List.foldl_cons, h.step_blank st c (hs c (by simp)), hst]
    exact ih fun d hd => hs d (by simp [hd])

private theorem SkipsBlanks.name?_foldl (st : σ) {s : List Char} (hs : ∀ c ∈ s, isBlank c) :
    r.name? (s.foldl r.step st) = r.name? st := by
  cases s with
  | nil => rfl
  | cons c s =>
    rw [List.foldl_cons, h.step_blank st c (hs c (by simp)), h.foldl_step (h.step_step st) fun d hd => hs d (by simp [hd]),
      h.name?_step]

end SkipsBlanks

/-! ### Trimmed parts -/

/-- Blanks at the ends of a part do not matter. -/
private theorem SkipsBlanks.name?_after_trim (h : r.SkipsBlanks) (part : List Char) :
    r.name? (r.after (Text.trim part)) = r.name? (r.after part) := by
  obtain ⟨front, back, hfront, hback, hpart⟩ := Text.exists_trim part
  have hafter : r.after part = back.foldl r.step (r.after (Text.trim part)) := by
    unfold after
    nth_rewrite 1 [hpart]
    rw [List.foldl_append, h.foldl_step h.step_start hfront, List.foldl_append]
  rw [hafter, h.name?_foldl _ hback]

/-- The names of the parts of a list, where a reader tells the name of each part. -/
theorem SkipsBlanks.filterMap_splitTopLevel (h : r.SkipsBlanks) {name? : List Char → Option String}
    (hname : ∀ part, name? (Text.trim part) = r.name? (r.after part)) (s : List Char) :
    (Source.splitTopLevel s).filterMap name? = r.result (r.readAll s) := by
  obtain ⟨part, parts, hpieces, -, hresult⟩ := foldl_read (r := r) r.empty s
  have hpieces : levelPieces (· = ',') 0 s = part :: parts := hpieces
  have hempty : name? [] = none := (hname []).trans h.name?_start
  have hparts : ∀ ps : List (List Char), ((ps.map Text.trim).filter (!·.isEmpty)).filterMap name? =
      ps.filterMap fun p => r.name? (r.after p) := by
    intro ps
    rw [List.filterMap_filter, List.filterMap_map]
    apply List.filterMap_congr
    intro p _
    rw [Function.comp_apply, ← hname]
    cases htrim : Text.trim p with
    | nil => simp [hempty]
    | cons c t => simp
  have hcons : (part :: parts).filterMap (fun p => r.name? (r.after p)) =
      (r.name? (r.after part)).toList ++ parts.filterMap fun p => r.name? (r.after p) := by
    cases hfirst : r.name? (r.after part) <;> simp [hfirst]
  rw [Source.splitTopLevel, Source.splitTopLevelBy, hpieces, hparts, hcons, readAll, hresult]
  rfl

/-! ### Joined pieces -/

variable (h : r.SkipsBlanks)
include h

private theorem SkipsBlanks.read_blank (x : Reading σ) {c : Char} (hc : isBlank c) :
    r.read x c = { x with part := r.step x.part ' ' } := by
  have hcomma : c ≠ ',' := by
    rintro rfl
    cases hc
  rw [read, if_neg (by simp [hcomma]), Source.levelAfter_of_isBlank hc, h.step_blank x.part c hc]

private theorem SkipsBlanks.foldl_read_blanks {x : Reading σ} (hx : r.step x.part ' ' = x.part) {s : List Char}
    (hs : ∀ c ∈ s, isBlank c) : s.foldl r.read x = x := by
  induction s with
  | nil => rfl
  | cons c s ih =>
    rw [List.foldl_cons, h.read_blank x (hs c (by simp)), hx]
    exact ih fun d hd => hs d (by simp [hd])

private theorem SkipsBlanks.foldl_read_space (x : Reading σ) {s : List Char} (hs : ∀ c ∈ s, isBlank c) :
    (s ++ [' ']).foldl r.read x = r.read x ' ' := by
  cases s with
  | nil => rfl
  | cons c s =>
    rw [List.cons_append, List.foldl_cons, h.read_blank x (hs c (by simp)), h.read_blank x (by decide)]
    apply h.foldl_read_blanks (h.step_step x.part)
    intro d hd
    rcases List.mem_append.1 hd with hd | hd
    · exact hs d (by simp [hd])
    · rw [List.mem_singleton.1 hd]
      decide

/-- A piece of text between two spaces may be trimmed. -/
private theorem SkipsBlanks.foldl_read_trim {x : Reading σ} (hx : r.step x.part ' ' = x.part) (piece : List Char) :
    (piece ++ [' ']).foldl r.read x = (Text.trim piece ++ [' ']).foldl r.read x := by
  obtain ⟨front, back, hfront, hback, hpiece⟩ := Text.exists_trim piece
  calc (piece ++ [' ']).foldl r.read x
      = (front ++ (Text.trim piece ++ (back ++ [' ']))).foldl r.read x := by
        nth_rewrite 1 [hpiece]
        simp only [List.append_assoc]
    _ = (back ++ [' ']).foldl r.read ((Text.trim piece).foldl r.read x) := by
        rw [List.foldl_append, h.foldl_read_blanks hx hfront, List.foldl_append]
    _ = (Text.trim piece ++ [' ']).foldl r.read x := by
        rw [h.foldl_read_space _ hback, List.foldl_append]
        rfl

private theorem SkipsBlanks.foldl_read_pieces (pieces : List (List Char)) {x : Reading σ}
    (hx : r.step x.part ' ' = x.part) : (pieces.flatMap fun piece => piece ++ [' ']).foldl r.read x =
      (((pieces.map Text.trim).filter (!·.isEmpty)).flatMap fun piece => piece ++ [' ']).foldl r.read x := by
  induction pieces generalizing x with
  | nil => rfl
  | cons piece pieces ih =>
    have hsettled : r.step ((piece ++ [' ']).foldl r.read x).part ' ' = ((piece ++ [' ']).foldl r.read x).part := by
      rw [List.foldl_append, List.foldl_cons, List.foldl_nil, h.read_blank _ (by decide)]
      exact h.step_step _
    rw [List.flatMap_cons, List.foldl_append, ih hsettled, h.foldl_read_trim hx, List.map_cons]
    cases Text.trim piece with
    | nil =>
      rw [List.filter_cons_of_neg (by simp), List.nil_append, List.foldl_cons, List.foldl_nil, h.read_blank _ (by decide),
        hx]
    | cons c t =>
      rw [List.filter_cons_of_pos (by simp), List.flatMap_cons]
      exact List.foldl_append.symm

omit h in
private theorem flatMap_space_eq_intercalate {pieces : List (List Char)} (hne : pieces ≠ []) :
    (pieces.flatMap fun piece => piece ++ [' ']) = List.intercalate [' '] pieces ++ [' '] := by
  induction pieces with
  | nil => contradiction
  | cons p pieces ih =>
    cases pieces with
    | nil => simp
    | cons q pieces =>
      rw [List.flatMap_cons, ih (by simp), List.intercalate_cons_cons]
      simp

private theorem SkipsBlanks.result_append_space (s : List Char) :
    r.result (r.readAll (s ++ [' '])) = r.result (r.readAll s) := by
  unfold readAll
  rw [List.foldl_append, List.foldl_cons, List.foldl_nil, h.read_blank _ (by decide)]
  simp only [result, h.name?_step]

/-- Blanks at the ends of a list do not matter. -/
theorem SkipsBlanks.result_trim (s : List Char) : r.result (r.readAll (Text.trim s)) = r.result (r.readAll s) := by
  rw [← h.result_append_space (Text.trim s), ← h.result_append_space s]
  exact congrArg r.result (h.foldl_read_trim h.step_start s).symm

/-- Pieces of text are read alike with spaces behind them and when they are joined. -/
theorem SkipsBlanks.result_joinPieces (pieces : List (List Char)) :
    r.result (r.readAll (joinPieces pieces)) =
      r.result (r.readAll (pieces.flatMap fun piece => piece ++ [' '])) := by
  unfold readAll joinPieces
  rw [h.foldl_read_pieces pieces h.step_start]
  generalize (pieces.map Text.trim).filter (!·.isEmpty) = ps
  by_cases hps : ps = []
  · rw [hps]
    rfl
  · rw [flatMap_space_eq_intercalate hps]
    exact (h.result_append_space _).symm

end PartReader

/-! ### Hidden characters -/

/-- A character that a list of parameters is split at, or that counts for its brackets. -/
def isMark (c : Char) : Bool :=
  c = ',' || opensLevel c || closesLevel c

namespace PartReader

variable {σ : Type} {r : PartReader σ}

private theorem read_of_not_isMark (x : Reading σ) {c : Char} (hc : isMark c = false) :
    r.read x c = { x with part := r.step x.part c } := by
  simp only [isMark, Bool.or_eq_false_iff, decide_eq_false_iff_not] at hc
  obtain ⟨⟨hcomma, hopens⟩, hcloses⟩ := hc
  have hlevel : levelAfter x.depth c = x.depth := by simp [levelAfter, hopens, hcloses]
  rw [read, if_neg (by simp [hcomma]), hlevel]

/-- A text is read like its masked form if every hidden character is no mark and does to its part what a space does. -/
theorem readAll_eq_of_hidden {cells : List (Char × Char)}
    (h : ∀ before x after, cells = before ++ x :: after → x.1 ≠ x.2 → x.2 = ' ' ∧ isMark x.1 = false ∧
      r.step (r.readAll (before.map Prod.snd)).part x.1 = r.step (r.readAll (before.map Prod.snd)).part ' ') :
    r.readAll (cells.map Prod.fst) = r.readAll (cells.map Prod.snd) := by
  -- from the back: all that stands before the last place has been read alike
  induction cells using List.reverseRecOn with
  | nil => rfl
  | append_singleton cells x ih =>
    have hbefore : r.readAll (cells.map Prod.fst) = r.readAll (cells.map Prod.snd) :=
      ih fun before y after hcells => h before y (after ++ [x]) (by rw [hcells]; simp)
    have happend : ∀ (s : List Char) (c : Char), r.readAll (s ++ [c]) = r.read (r.readAll s) c :=
      fun s c => List.foldl_append
    rw [List.map_append, List.map_append, List.map_singleton, List.map_singleton, happend, happend, hbefore]
    by_cases hx : x.1 = x.2
    · rw [hx]
    · obtain ⟨hspace, hmark, hstep⟩ := h cells x [] rfl hx
      rw [hspace, read_of_not_isMark _ hmark, read_of_not_isMark _ (by decide), hstep]

end PartReader

/-! ### Words -/

/-- A word that is being read, or has ended. -/
inductive WordState where
  | going (soFar : List Char)
  | ended (word : List Char)
  deriving DecidableEq

namespace WordState

/-- Reads one character behind the first one of a word. -/
def step : WordState → Char → WordState
  | going soFar, c => if isWord c then going (soFar ++ [c]) else ended soFar
  | ended word, _ => ended word

/-- The word as far as it has been read. -/
def text : WordState → List Char
  | going soFar => soFar
  | ended word => word

private theorem text_foldl_going (soFar s : List Char) :
    (s.foldl step (going soFar)).text = soFar ++ s.takeWhile isWord := by
  have hended : ∀ (word s : List Char), s.foldl step (ended word) = ended word := by
    intro word s
    induction s with
    | nil => rfl
    | cons c s ih => exact ih
  induction s generalizing soFar with
  | nil => simp [text]
  | cons c s ih =>
    by_cases hc : isWord c
    · rw [List.foldl_cons, step, if_pos hc, ih, List.takeWhile_cons_of_pos hc, List.append_assoc]
      rfl
    · rw [List.foldl_cons, step, if_neg hc, hended, List.takeWhile_cons_of_neg hc, List.append_nil]
      rfl

private theorem step_blank {c : Char} (hc : isBlank c) (w : WordState) : w.step c = w.step ' ' := by
  have hspace : isWord ' ' = false := by decide
  cases w with
  | going soFar => simp [step, not_isWord_of_isBlank hc, hspace]
  | ended word => rfl

@[simp] theorem step_space_step_space (w : WordState) : (w.step ' ').step ' ' = w.step ' ' := by
  cases w <;> rfl

@[simp] theorem text_step_space (w : WordState) : (w.step ' ').text = w.text := by
  cases w <;> rfl

end WordState

/-! ### Names of Python parameters -/

namespace Python

/-- How far the name of a parameter has been read. -/
inductive NameState where
  | start
  /-- One star has been read, and nothing behind it. -/
  | star
  /-- The name is to begin behind blanks. -/
  | waiting
  | name (word : WordState)
  | failed
  deriving DecidableEq

namespace NameState

/-- Begins a name. -/
def begin (c : Char) : NameState :=
  if isWordStart c then name (.going [c]) else failed

/-- Reads one character of a parameter. -/
def step : NameState → Char → NameState
  | start, c => if isBlank c then start else if c = '*' then star else begin c
  | star, c => if isBlank c || c = '*' then waiting else begin c
  | waiting, c => if isBlank c then waiting else begin c
  | name word, c => name (word.step c)
  | failed, _ => failed

/-- The name that has been read. -/
def name? : NameState → Option String
  | name word => some (String.ofList word.text)
  | _ => none

theorem foldl_name (word : WordState) (s : List Char) : s.foldl step (name word) = name (s.foldl WordState.step word) := by
  induction s generalizing word with
  | nil => rfl
  | cons c s ih => exact ih (word.step c)

theorem foldl_failed (s : List Char) : s.foldl step failed = failed := by
  induction s with
  | nil => rfl
  | cons c s ih => exact ih

private theorem name?_foldl_begin (c : Char) (s : List Char) :
    name? (s.foldl step (begin c)) = Scan.firstOf identifier (c :: s) := by
  by_cases hc : isWordStart c
  · have hone : Scan.one isWordStart (c :: s) = some (c, s) := by simp [Scan.one, hc]
    rw [begin, if_pos hc, foldl_name, name?, WordState.text_foldl_going, Scan.firstOf, identifier,
      Scan.bind_of_eq_some hone]
    rfl
  · have hone : Scan.one isWordStart (c :: s) = none := by simp [Scan.one, hc]
    rw [begin, if_neg hc, foldl_failed]
    change none = ((Scan.one isWordStart (c :: s)).bind _).map _
    rw [hone]
    rfl

private theorem name?_foldl_waiting (s : List Char) :
    name? (s.foldl step waiting) = Scan.firstOf identifier (s.dropWhile isBlank) := by
  induction s with
  | nil => rfl
  | cons c s ih =>
    by_cases hc : isBlank c
    · rw [List.foldl_cons, step, if_pos hc, ih, List.dropWhile_cons_of_pos hc]
    · rw [List.foldl_cons, step, if_neg hc, name?_foldl_begin, List.dropWhile_cons_of_neg hc]

end NameState

/-- The names of parameters, character by character. -/
def nameReader : PartReader NameState where
  start := .start
  step := NameState.step
  name? := NameState.name?

theorem skipsBlanks_nameReader : nameReader.SkipsBlanks where
  step_blank := by
    intro st c hc
    have hspace : isBlank ' ' := by decide
    cases st with
    | name word => exact congrArg NameState.name (word.step_blank hc)
    | _ => simp [nameReader, NameState.step, hc, hspace]
  step_step := by
    intro st
    cases st with
    | name word => exact congrArg NameState.name word.step_space_step_space
    | _ => rfl
  step_start := rfl
  name?_step := by
    intro st
    cases st with
    | name word => simp [nameReader, NameState.step, NameState.name?]
    | _ => rfl
  name?_start := rfl

private theorem maybe_star (s : List Char) :
    Scan.maybe (Scan.char '*') ('*' :: s) = some (some (), s) := rfl

private theorem maybe_no_star {c : Char} (hc : c ≠ '*') (s : List Char) :
    Scan.maybe (Scan.char '*') (c :: s) = some (none, c :: s) := by
  have hchar : Scan.char '*' (c :: s) = none := by rw [Scan.char, if_neg hc]
  change ((Scan.char '*' (c :: s)).bind fun x => some (some x.1, x.2)).orElse (fun _ => some (none, c :: s)) = _
  rw [hchar]
  rfl

private theorem blanks_of_not_isBlank {c : Char} (hc : ¬ isBlank c) (s : List Char) :
    Scan.blanks (c :: s) = some ((), c :: s) := by
  rw [Scan.blanks, List.dropWhile_cons_of_neg hc]

private theorem NameState.name?_foldl_star (s : List Char) : name? (s.foldl step star) =
    Scan.firstOf (do let _ ← Scan.maybe (Scan.char '*'); Scan.blanks; identifier) s := by
  cases s with
  | nil => rfl
  | cons c s =>
    rw [List.foldl_cons, step]
    by_cases hstar : c = '*'
    · subst hstar
      rw [if_pos (by decide), name?_foldl_waiting, Scan.firstOf, Scan.firstOf, Scan.bind_of_eq_some (maybe_star s)]
      rfl
    · rw [Scan.firstOf, Scan.bind_of_eq_some (maybe_no_star hstar s)]
      by_cases hblank : isBlank c
      · rw [if_pos (by simp [hblank]), name?_foldl_waiting, Scan.firstOf]
        have hblanks : Scan.blanks (c :: s) = some ((), s.dropWhile isBlank) := by
          rw [Scan.blanks, List.dropWhile_cons_of_pos hblank]
        rw [Scan.bind_of_eq_some hblanks]
      · rw [if_neg (by simp [hblank, hstar]), name?_foldl_begin, Scan.firstOf,
          Scan.bind_of_eq_some (blanks_of_not_isBlank hblank s)]

private theorem NameState.name?_foldl_start {s : List Char} (hs : ∀ c ∈ s.head?, ¬ isBlank c) :
    name? (s.foldl step start) = Scan.firstOf parameterName s := by
  cases s with
  | nil => rfl
  | cons c s =>
    have hblank := hs c rfl
    rw [List.foldl_cons, step, if_neg hblank]
    by_cases hstar : c = '*'
    · subst hstar
      rw [if_pos rfl, name?_foldl_star, Scan.firstOf, Scan.firstOf, parameterName, Scan.bind_of_eq_some (maybe_star s)]
    · rw [if_neg hstar, name?_foldl_begin, Scan.firstOf, Scan.firstOf, parameterName,
        Scan.bind_of_eq_some (maybe_no_star hstar s), Scan.bind_of_eq_some (maybe_no_star hstar s),
        Scan.bind_of_eq_some (blanks_of_not_isBlank hblank s)]

/-- The reader tells the name of a parameter. -/
theorem firstOf_parameterName_trim (part : List Char) :
    Scan.firstOf parameterName (Text.trim part) = nameReader.name? (nameReader.after part) := by
  have hhead : ∀ c ∈ (Text.trim part).head?, ¬ isBlank c := by
    intro c hc
    simp [Text.not_isBlank_head?_trim hc]
  rw [← skipsBlanks_nameReader.name?_after_trim, ← NameState.name?_foldl_start hhead]
  rfl

end Python

/-! ### Names of PHP parameters -/

namespace Php

/-- How far the first variable of a parameter has been read. -/
inductive VariableState where
  | seeking
  /-- A dollar sign has been read, and nothing behind it. -/
  | sigil
  | name (word : WordState)
  deriving DecidableEq

namespace VariableState

/-- Reads one character of a parameter. -/
def step : VariableState → Char → VariableState
  | seeking, c => if c = '$' then sigil else seeking
  | sigil, c => if isWord c then name (.going [c]) else if c = '$' then sigil else seeking
  | name word, c => name (word.step c)

/-- The name that has been read. -/
def name? : VariableState → Option String
  | name word => some (String.ofList word.text)
  | _ => none

private theorem foldl_name (word : WordState) (s : List Char) :
    s.foldl step (name word) = name (s.foldl WordState.step word) := by
  induction s generalizing word with
  | nil => rfl
  | cons c s ih => exact ih (word.step c)

/-- A dollar sign is passed over where no word follows it. -/
private theorem name?_foldl_sigil {s : List Char} (hs : ∀ c ∈ s.head?, ¬ isWord c) :
    name? (s.foldl step sigil) = name? (s.foldl step seeking) := by
  cases s with
  | nil => rfl
  | cons c s =>
    have hc := hs c rfl
    rw [List.foldl_cons, List.foldl_cons, step, step, if_neg hc]

/-- The first hit is found where the first variable is read. -/
private theorem name?_foldl_seeking (col : Nat) (before s : List Char) : name? (s.foldl step seeking) =
    ((Scan.hitsFrom (fun _ => do Scan.char '$'; word) col before s).head?).map (·.value) := by
  induction s generalizing col before with
  | nil => simp [Scan.hitsFrom, name?]
  | cons c s ih =>
    rw [List.foldl_cons, step, Scan.hitsFrom]
    by_cases hc : c = '$'
    · subst hc
      have hword : (do Scan.char '$'; word : Scan String) ('$' :: s) = word s := rfl
      rw [if_pos rfl, hword]
      cases s with
      | nil => exact ih _ _
      | cons d s =>
        by_cases hd : isWord d
        · have hread : word (d :: s) = some (String.ofList (d :: s.takeWhile isWord), s.dropWhile isWord) := by
            have hrun : Scan.run1 isWord (d :: s) = some (d :: s.takeWhile isWord, s.dropWhile isWord) := by
              rw [Scan.run1, List.takeWhile_cons_of_pos hd, List.dropWhile_cons_of_pos hd]
              rfl
            rw [word, Scan.bind_of_eq_some hrun]
            rfl
          have hshorter : (s.dropWhile isWord).length ≤ (d :: s).length :=
            (s.dropWhile_suffix isWord).length_le.trans (Nat.le_succ s.length)
          -- the hit is the first one, whatever follows it
          rw [List.foldl_cons, step, if_pos hd, foldl_name, name?, WordState.text_foldl_going, hread]
          simp only [if_pos hshorter, List.head?_cons, Option.map_some]
          rfl
        · have hread : word (d :: s) = none := by
            have hrun : Scan.run1 isWord (d :: s) = none := by
              rw [Scan.run1, List.takeWhile_cons_of_neg hd]
              rfl
            change (Scan.run1 isWord (d :: s)).bind _ = none
            rw [hrun]
            rfl
          rw [name?_foldl_sigil (by simpa using hd), hread]
          exact ih _ _
    · have hread : (do Scan.char '$'; word : Scan String) (c :: s) = none := by
        have hchar : Scan.char '$' (c :: s) = none := by rw [Scan.char, if_neg hc]
        change (Scan.char '$' (c :: s)).bind _ = none
        rw [hchar]
        rfl
      rw [if_neg hc, hread]
      exact ih _ _

end VariableState

/-- The first variables of parameters, character by character. -/
def variableReader : PartReader VariableState where
  start := .seeking
  step := VariableState.step
  name? := VariableState.name?

theorem skipsBlanks_variableReader : variableReader.SkipsBlanks where
  step_blank := by
    intro st c hc
    have hsigil : c ≠ '$' := by
      rintro rfl
      exact absurd hc (by decide)
    have hword := not_isWord_of_isBlank hc
    have hspace : isWord ' ' = false := by decide
    cases st with
    | name word => exact congrArg VariableState.name (word.step_blank hc)
    | _ => simp [variableReader, VariableState.step, hsigil, hword, hspace]
  step_step := by
    intro st
    cases st with
    | name word => exact congrArg VariableState.name word.step_space_step_space
    | _ => rfl
  step_start := rfl
  name?_step := by
    intro st
    cases st with
    | name word => simp [variableReader, VariableState.step, VariableState.name?]
    | _ => rfl
  name?_start := rfl

/-- The reader tells the name of a parameter. -/
theorem parameterName?_eq (part : List Char) : parameterName? part = variableReader.name? (variableReader.after part) :=
  (VariableState.name?_foldl_seeking 0 [] part).symm

theorem parameterName?_trim (part : List Char) :
    parameterName? (Text.trim part) = variableReader.name? (variableReader.after part) := by
  rw [parameterName?_eq, skipsBlanks_variableReader.name?_after_trim]

end Php

end CallIndex.Extract
