import CallIndex.Proofs.BareOutline
import CallIndex.Proofs.Concatenation
import CallIndex.Proofs.DeclaredNames
import CallIndex.Proofs.MaskShape
import Mathlib.Data.List.Chain

/-!
# Functions in functions

The block of a function is announced by its heading and taken to be the next one that opens.  Where the parameters hold an
opening brace or a semicolon, the announcement is lost before the body starts: the body is then a block like any other, and
the functions in it are registered as if they stood outside.  This is made out for sources of functions and plain
statements, in which a function is a heading on one line, a body and a brace (`Body`).

* `feed_of_nested`: what properly nested text does to the open blocks and to an announced one.
* `readLine_heading`, `readLine_statement` and `readLine_closing`: what the lines of such a source do.
* `runLines_body`: a scan over a body leaves the blocks as they were.
* `functions_registered_where_exposed`: the functions that are registered, and when they are the outermost ones.
-/

namespace CallIndex.Extract.JavaScript

open Source (Line isOpening isClosing)
open Text (Scan isWord isBlank)

/-! ### Code without comments and literals -/

/-- No quote stands in the text, and no two characters that open a comment. -/
structure Uncommented (s : List Char) : Prop where
  quotes : ∀ c ∈ s, c ∉ rules.quotes
  comments : s.IsChain fun a b => a = '/' → b ≠ '/' ∧ b ≠ '*'

private theorem lexOne_of_uncommented {c : Char} {s : List Char} (h : Uncommented (c :: s)) :
    Source.lexOne rules c s = (if c = '\n' then .lineEnd else .code c, s) := by
  have hquote : rules.quotes.contains c = false := by
    simpa using h.quotes c (by simp)
  have hmark : ∀ d, d = '/' ∨ d = '*' → ['/', d].isPrefixOf (c :: s) = false := by
    intro d hd
    cases s with
    | nil => simp [List.isPrefixOf]
    | cons e s =>
      have hstep := (List.isChain_cons_cons.1 h.comments).1
      by_cases hc : c = '/'
      · obtain ⟨hslash, hstar⟩ := hstep hc
        rcases hd with rfl | rfl
        · simp [List.isPrefixOf, Ne.symm hslash]
        · simp [List.isPrefixOf, Ne.symm hstar]
      · simp [List.isPrefixOf, Ne.symm hc]
  have hopens : Source.opensComment ("/*", "*/") (c :: s) = false := by
    rw [Source.opensComment, Bool.and_eq_false_iff]
    exact .inr (hmark '*' (.inr rfl))
  have hblock : rules.blockComments.find? (fun markers => Source.opensComment markers (c :: s)) = none := by
    rw [rules, List.find?_cons_of_neg (by rw [hopens]; decide), List.find?_nil]
  have hline : (rules.lineComments.any fun marker => marker.toList.isPrefixOf (c :: s)) = false := by
    rw [rules, List.any_cons, List.any_nil, Bool.or_false]
    exact hmark '/' (.inl rfl)
  unfold Source.lexOne
  rw [hblock, hline, hquote]
  by_cases hc : c = '\n'
  · simp [hc]
  · simp [hc]

/-- Code without comments and literals is not changed by masking. -/
private theorem mask_of_uncommented {s : List Char} (h : Uncommented s) : Source.mask rules s = s := by
  induction s with
  | nil => simp [Source.mask, Source.lex]
  | cons c s ih =>
    have hs : Uncommented s := ⟨fun d hd => h.quotes d (by simp [hd]), h.comments.tail⟩
    unfold Source.mask at ih ⊢
    rw [Source.lex, lexOne_of_uncommented h, List.flatMap_cons, ih hs]
    by_cases hc : c = '\n'
    · simp [hc, Source.Lexeme.masked]
    · simp [hc, Source.Lexeme.masked]

/-! ### Bodies of functions -/

/-- A sequence of functions and plain statements, each on lines of its own. -/
inductive Body where
  | done
  /-- A function with the text of its parameters and its body, and what follows it. -/
  | function (name params : List Char) (body next : Body)
  /-- A statement, and what follows it. -/
  | statement (code : List Char) (next : Body)

/-- The word that starts a function, with a space behind it. -/
def functionWord : List Char :=
  ['f', 'u', 'n', 'c', 't', 'i', 'o', 'n', ' ']

/-- The first line of a function. -/
def heading (name params : List Char) : List Char :=
  functionWord ++ (name ++ ('(' :: (params ++ [')', ' ', '{'])))

namespace Body

/-- The lines of a body. -/
def lines : Body → List (List Char)
  | done => []
  | function name params body next => heading name params :: (body.lines ++ ['}'] :: next.lines)
  | statement code next => code :: next.lines

/-- The text of a body, in which every line is ended. -/
def render (b : Body) : List Char :=
  b.lines.flatMap fun line => line ++ ['\n']

end Body

/-- A letter without accents, an underscore or a dollar sign. -/
def isLetter (c : Char) : Bool :=
  c.isAlpha || c = '_' || c = '$'

/-- A name of letters and digits, which does not begin with a digit. -/
def IsIdentifier (name : List Char) : Prop :=
  (name.head?.any isLetter) ∧ ∀ c ∈ name, isLetter c || c.isDigit

instance (name : List Char) : Decidable (IsIdentifier name) :=
  inferInstanceAs (Decidable (_ ∧ _))

/-- The bracket that closes an opening one. -/
def partner? (c : Char) : Option Char :=
  if c = '(' then some ')' else if c = '[' then some ']' else if c = '{' then some '}' else none

/-- The brackets of a text are properly nested by kind, where the brackets `expected` are to be closed in it, the first one
first. -/
def nestedFrom (expected : List Char) : List Char → Bool
  | [] => expected.isEmpty
  | c :: s =>
    match partner? c with
    | some closer => nestedFrom (closer :: expected) s
    | none => if isClosing c then expected.head? = some c && nestedFrom expected.tail s else nestedFrom expected s

/-- The parameters of a function, on one line. -/
structure IsParameterText (params : List Char) : Prop where
  line : '\n' ∉ params
  uncommented : Uncommented params
  nested : nestedFrom [] params

/-- A line that declares nothing. -/
structure IsStatement (code : List Char) : Prop where
  line : '\n' ∉ code
  uncommented : Uncommented code
  braces : '{' ∉ code ∧ '}' ∉ code
  noClass : (Scan.firstOf classHead code).isNone
  noPrototype : (Scan.firstOf prototypeHead code).isNone
  noFunction : (functionOn? code).isNone

/-- Every part of a body is what it should be. -/
def Body.WellFormed : Body → Prop
  | done => True
  | function name params body next => IsIdentifier name ∧ IsParameterText params ∧ body.WellFormed ∧ next.WellFormed
  | statement code next => IsStatement code ∧ next.WellFormed

/-- Is the announcement of a body lost before the body starts?  An opening brace in the parameters takes it, and a semicolon
drops it. -/
def losesBody (params : List Char) : Bool :=
  params.any fun c => c = '{' || c = ';'

namespace Body

/-- The functions that are registered, with their lines, where the body starts on the line `number`.  A function is
`exposed` unless it stands in the body of a function that has been recognised. -/
def registered (exposed : Bool) (number : Nat) : Body → List (Nat × List Char)
  | done => []
  | function name params body next =>
    (if exposed then [(number, name)] else []) ++ body.registered (exposed && losesBody params) (number + 1) ++
      next.registered exposed (number + body.lines.length + 2)
  | statement _ next => next.registered exposed (number + 1)

/-- Is there a function in the body? -/
def holdsFunction : Body → Bool
  | done => false
  | function _ _ _ _ => true
  | statement _ next => next.holdsFunction

/-- The outermost functions that lose their bodies hold no function. -/
def Sealed : Body → Prop
  | done => True
  | function _ params body next => (losesBody params → body.holdsFunction = false) ∧ next.Sealed
  | statement _ next => next.Sealed

/-- The functions that stand in no other one. -/
def outermost (number : Nat) : Body → List (Nat × List Char)
  | done => []
  | function name _ body next => (number, name) :: next.outermost (number + body.lines.length + 2)
  | statement _ next => next.outermost (number + 1)

end Body

/-! ### Braces -/

private theorem feed_append (st : BlockState Nat) (s t : List Char) : st.feed (s ++ t) = (st.feed s).feed t :=
  List.foldl_append

/-- Code without braces and semicolons goes unnoticed. -/
private theorem feed_of_quiet (st : BlockState Nat) {s : List Char} (h : ∀ c ∈ s, c ≠ '{' ∧ c ≠ '}' ∧ c ≠ ';') :
    st.feed s = st := by
  induction s with
  | nil => rfl
  | cons c s ih =>
    obtain ⟨hopen, hclose, hsemi⟩ := h c (by simp)
    have hstep : st.step c = st := by simp [BlockState.step, hopen, hclose, hsemi]
    rw [BlockState.feed, List.foldl_cons, hstep]
    exact ih fun d hd => h d (by simp [hd])

/-- Code without braces opens and closes no block, where none is announced. -/
private theorem feed_of_no_braces (st : BlockState Nat) (hpending : st.pending = none) {s : List Char} (hopen : '{' ∉ s)
    (hclose : '}' ∉ s) : st.feed s = st := by
  induction s with
  | nil => rfl
  | cons c s ih =>
    simp only [List.mem_cons, not_or] at hopen hclose
    have hstep : st.step c = st := by
      have hdrop : { st with pending := none } = st := by rw [← hpending]
      simp [BlockState.step, Ne.symm hopen.1, Ne.symm hclose.1, hdrop]
    rw [BlockState.feed, List.foldl_cons, hstep]
    exact ih hopen.2 hclose.2

/-- Behind a character that is no brace a text is still properly nested, with as many braces to be closed. -/
private theorem nestedFrom_of_cons {expected s : List Char} {c : Char} (h : nestedFrom expected (c :: s))
    (hopen : c ≠ '{')
    (hclose : c ≠ '}') : ∃ expected', nestedFrom expected' s ∧ expected'.count '}' = expected.count '}' := by
  unfold nestedFrom at h
  split at h
  · rename_i closer hcloser
    refine ⟨closer :: expected, h, ?_⟩
    have hne : closer ≠ '}' := by
      rintro rfl
      rw [partner?, if_neg hopen] at hcloser
      split at hcloser
      · cases hcloser
      · split at hcloser <;> cases hcloser
    rw [List.count_cons_of_ne hne]
  · split at h
    · obtain ⟨hhead, hrest⟩ : expected.head? = some c ∧ nestedFrom expected.tail s = true := by simpa using h
      refine ⟨expected.tail, hrest, ?_⟩
      cases expected with
      | nil => cases hhead
      | cons d expected =>
        obtain rfl : d = c := by simpa using hhead
        rw [List.tail_cons, List.count_cons_of_ne hclose]
    · exact ⟨expected, h, rfl⟩

/-- Properly nested text closes the blocks `opened` that it is to close, and no other, and an announced block is lost to
its first opening brace or semicolon. -/
theorem feed_of_nested {expected s : List Char} (h : nestedFrom expected s) (opened base : List (Block Nat))
    (hopened : opened.length = expected.count '}') (unmatched : Nat) (pending : Option (Block Nat)) :
    (⟨opened ++ base, unmatched, pending⟩ : BlockState Nat).feed s =
      ⟨base, unmatched, if losesBody s then none else pending⟩ := by
  induction s generalizing expected opened pending with
  | nil =>
    obtain rfl : expected = [] := by simpa [nestedFrom] using h
    obtain rfl : opened = [] := by simpa using hopened
    rfl
  | cons c s ih =>
    change ((⟨opened ++ base, unmatched, pending⟩ : BlockState Nat).step c).feed s = _
    by_cases hopen : c = '{'
    · -- the brace takes the announced block, and is to be closed
      subst hopen
      have hs : nestedFrom ('}' :: expected) s := h
      have := ih hs (pending.getD ⟨.plain, none⟩ :: opened) (by simp [hopened]) none
      simpa [BlockState.step, losesBody] using this
    · by_cases hclose : c = '}'
      · subst hclose
        obtain ⟨hhead, hs⟩ : expected.head? = some '}' ∧ nestedFrom expected.tail s = true := by
          simpa [nestedFrom, partner?, isClosing] using h
        obtain ⟨expected, rfl⟩ : ∃ e, expected = '}' :: e := by
          cases expected with
          | nil => cases hhead
          | cons d expected => exact ⟨expected, by simpa using hhead⟩
        cases opened with
        | nil => simp at hopened
        | cons block opened =>
          have := ih hs opened (by simpa using hopened) pending
          simpa [BlockState.step, losesBody] using this
      · obtain ⟨expected', hs, hcount⟩ := nestedFrom_of_cons h hopen hclose
        by_cases hsemi : c = ';'
        · subst hsemi
          have := ih hs opened (by rw [hopened, hcount]) none
          simpa [BlockState.step, losesBody] using this
        · have := ih hs opened (by rw [hopened, hcount]) pending
          simpa [BlockState.step, losesBody, hopen, hclose, hsemi] using this

/-! ### Headings -/

private theorem isWord_of_isAlphanum {c : Char} (h : c.isAlphanum) : isWord c := by
  have hn : 48 ≤ c.toNat ∧ c.toNat ≤ 57 ∨ 65 ≤ c.toNat ∧ c.toNat ≤ 90 ∨ 97 ≤ c.toNat ∧ c.toNat ≤ 122 := by
    have hclass : (decide (c.val ≥ 'A'.val ∧ c.val ≤ 'Z'.val) || (decide (c.val ≥ 'a'.val) && decide (c.val ≤ 'z'.val)) ||
        (decide (c.val ≥ '0'.val) && decide (c.val ≤ '9'.val))) = true := h
    simp only [Bool.or_eq_true, Bool.and_eq_true, decide_eq_true_eq, ge_iff_le, UInt32.le_iff_toNat_le] at hclass
    rcases hclass with (⟨hlo, hhi⟩ | ⟨hlo, hhi⟩) | ⟨hlo, hhi⟩
    · exact .inr (.inl ⟨hlo, hhi⟩)
    · exact .inr (.inr ⟨hlo, hhi⟩)
    · exact .inl ⟨hlo, hhi⟩
  -- the three ranges of the letters and digits are the first of the table
  obtain ⟨more, hranges⟩ : ∃ more, Text.alphanumericRanges = (48, 57) :: (65, 90) :: (97, 122) :: more := ⟨_, rfl⟩
  have hin : Text.inRanges c.toNat Text.alphanumericRanges := by
    rw [hranges]
    unfold Text.inRanges Text.inRanges Text.inRanges
    split
    · omega
    · split
      · rfl
      · split
        · omega
        · split
          · rfl
          · split
            · omega
            · split
              · rfl
              · omega
  rw [isWord, hin, Bool.or_true]

private theorem isNamePart_of_isLetter {c : Char} (h : isLetter c || c.isDigit) : isNamePart c := by
  simp only [isLetter, Bool.or_eq_true, decide_eq_true_eq] at h
  rcases h with ((halpha | rfl) | rfl) | hdigit
  · have hword : isWord c := isWord_of_isAlphanum (by rw [Char.isAlphanum, halpha, Bool.true_or])
    rw [isNamePart, hword, Bool.true_or]
  · decide
  · decide
  · have hword : isWord c := isWord_of_isAlphanum (by rw [Char.isAlphanum, hdigit, Bool.or_true])
    rw [isNamePart, hword, Bool.true_or]

private theorem IsIdentifier.notMem {name : List Char} (h : IsIdentifier name) {c : Char}
    (hc : (isLetter c || c.isDigit) = false) : c ∉ name := by
  intro hmem
  rw [h.2 c hmem] at hc
  cases hc

private theorem identifier_append {name : List Char} (hname : IsIdentifier name) (t : List Char) :
    identifier (name ++ '(' :: t) = some (String.ofList name, '(' :: t) := by
  obtain ⟨hfirst, hall⟩ := hname
  cases name with
  | nil => cases hfirst
  | cons c more =>
    have hone : Scan.one (fun c => c.isAlpha || c = '_' || c = '$') (c :: more ++ '(' :: t) =
        some (c, more ++ '(' :: t) := by
      have hletter : (c.isAlpha || c = '_' || c = '$') = true := by simpa [isLetter] using hfirst
      simp only [List.cons_append, Scan.one, hletter, ↓reduceIte]
    have hmore : ∀ d ∈ more, isNamePart d := fun d hd => isNamePart_of_isLetter (hall d (by simp [hd]))
    have hrun : Scan.run isNamePart (more ++ '(' :: t) = some (more, '(' :: t) := by
      have hstop : ¬ isNamePart '(' := by decide
      rw [Scan.run, List.takeWhile_append_of_pos hmore, List.takeWhile_cons_of_neg hstop,
        List.dropWhile_append_of_pos hmore, List.dropWhile_cons_of_neg hstop, List.append_nil]
    rw [identifier, Scan.bind_of_eq_some hone, Scan.bind_of_eq_some hrun]
    rfl

private theorem IsIdentifier.not_isBlank {name : List Char} (h : IsIdentifier name) :
    ∀ c ∈ name, isBlank c = false := by
  intro c hc
  apply not_isBlank_of_isNameChar
  rcases Bool.or_eq_true_iff.1 (isNamePart_of_isLetter (h.2 c hc)) with hword | hdollar
  · rw [isNameChar, hword, Bool.true_or, Bool.true_or, Bool.true_or]
  · rw [isNameChar, hdollar, Bool.or_true, Bool.true_or]

/-- The heading of a function is read as such, up to its parenthesis. -/
private theorem functionHead_function {name : List Char} (hname : IsIdentifier name) (t : List Char) :
    functionHead (functionWord ++ (name ++ '(' :: t)) = some (⟨String.ofList name, false, .bracket t⟩, t) := by
  have hidentifier := identifier_append hname t
  -- the name starts neither with a blank nor with a star
  have hblanks : (name ++ '(' :: t).dropWhile isBlank = name ++ '(' :: t := by
    cases name with
    | nil => cases hname.1
    | cons c more =>
      rw [List.cons_append, List.dropWhile_cons_of_neg]
      rw [hname.not_isBlank c (by simp)]
      decide
  have hstar : Scan.char '*' (name ++ '(' :: t) = none := by
    cases name with
    | nil => cases hname.1
    | cons c more =>
      have hne : c ≠ '*' := by
        rintro rfl
        exact hname.notMem (by decide) List.mem_cons_self
      rw [List.cons_append, Scan.char, if_neg hne]
  generalize name ++ '(' :: t = s at hidentifier hblanks hstar ⊢
  have hfront : Scan.blanks (functionWord ++ s) = some ((), functionWord ++ s) := rfl
  have hwords : ∀ word ∈ ["export", "default", "async"],
      optionalWord [word] (functionWord ++ s) = some (false, functionWord ++ s) := by
    simp only [List.forall_mem_cons]
    exact ⟨rfl, rfl, rfl, by simp⟩
  have hword : Scan.text "function" (functionWord ++ s) = some ((), ' ' :: s) := rfl
  have hspace : Scan.blanks (' ' :: s) = some ((), s) := by
    have hpos : isBlank ' ' := by decide
    rw [Scan.blanks, List.dropWhile_cons_of_pos hpos, hblanks]
  have hmaybe : Scan.maybe (Scan.char '*') s = some (none, s) := by
    change ((Scan.char '*' s).bind fun x => some (some x.1, x.2)).orElse (fun _ => some (none, s)) = some (none, s)
    rw [hstar]
    rfl
  have hnone : Scan.blanks s = some ((), s) := by rw [Scan.blanks, hblanks]
  have hparen : Scan.blanks ('(' :: t) = some ((), '(' :: t) := rfl
  have hangle : Scan.maybe (angleBrackets '(') ('(' :: t) = some (none, '(' :: t) := rfl
  have hopen : Scan.char '(' ('(' :: t) = some ((), t) := rfl
  rw [functionHead, Scan.bind_of_eq_some hfront, Scan.bind_of_eq_some (hwords "export" (by simp)),
    Scan.bind_of_eq_some (hwords "default" (by simp)), Scan.bind_of_eq_some (hwords "async" (by simp)),
    Scan.bind_of_eq_some hword,
    Scan.bind_of_eq_some hspace, Scan.bind_of_eq_some hmaybe, Scan.bind_of_eq_some hnone, Scan.bind_of_eq_some hidentifier,
    Scan.bind_of_eq_some hparen, Scan.bind_of_eq_some hangle, Scan.bind_of_eq_some hparen, Scan.bind_of_eq_some hopen]
  rfl

private theorem classHead_function (s : List Char) : Scan.firstOf classHead (functionWord ++ s) = none := rfl

private theorem prototypeHead_function (s : List Char) : Scan.firstOf prototypeHead (functionWord ++ s) = none := rfl

/-! ### One line -/

/-- No class body is open and no block is announced, and `exposed` tells that no function body is open either. -/
structure Fits (exposed : Bool) (blocks : BlockState Nat) : Prop where
  noClass : ∀ block ∈ blocks.stack, block.kind ≠ .classBody
  enclosing : blocks.enclosing?.isNone = exposed
  pending : blocks.pending = none

namespace Fits

variable {exposed : Bool} {blocks : BlockState Nat}

private theorem inClassBody (h : Fits exposed blocks) : blocks.inClassBody = false := by
  unfold BlockState.inClassBody BlockState.innermost?
  cases hstack : blocks.stack with
  | nil => rfl
  | cons block outer => simpa using h.noClass block (by simp [hstack])

private theorem nearestClass? (h : Fits exposed blocks) : blocks.nearestClass? = none := by
  have hfind : (blocks.stack.find? fun block => block.kind = .classBody) = none := by
    rw [List.find?_eq_none]
    simpa using h.noClass
  rw [BlockState.nearestClass?, hfind]
  rfl

/-- The block of a function hides what stands in it, unless its announcement was lost. -/
private theorem enter (h : Fits exposed blocks) (lost : Bool) :
    Fits (exposed && lost)
      { blocks with stack := ⟨if lost then .plain else .functionBody, none⟩ :: blocks.stack } where
  noClass := by
    intro block hblock
    rcases List.mem_cons.1 hblock with rfl | hblock
    · cases lost <;> simp
    · exact h.noClass block hblock
  enclosing := by
    have hold := h.enclosing
    unfold BlockState.enclosing? at hold ⊢
    cases lost with
    | true => simpa using hold
    | false => simp
  pending := h.pending

end Fits

/-- The function that is registered for a name and its line. -/
def declaration (f : Nat × List Char) : FunctionDecl :=
  { name := String.ofList f.2, line := f.1 }

/-- The outline with more functions. -/
def withFunctions (o : Outline) (functions : List (Nat × List Char)) : Outline :=
  { o with functions := o.functions ++ functions.map declaration }

private theorem withFunctions_append (o : Outline) (fs gs : List (Nat × List Char)) :
    withFunctions o (fs ++ gs) = withFunctions (withFunctions o fs) gs := by
  simp [withFunctions]

section

variable {exposed : Bool} {st : BlockScan} {line : Line}

/-- A line that declares nothing leaves the declarations as they are. -/
theorem readLine_statement (h : Fits exposed st.blocks) (number : Nat) (line : Line) (rest : List Line)
    (hclass : (Scan.firstOf classHead line.code).isNone) (hprototype : (Scan.firstOf prototypeHead line.code).isNone)
    (hfunction : (functionOn? line.code).isNone) :
    (readLine st number line rest).outline.bare = st.outline.bare ∧
      (readLine st number line rest).blocks = st.blocks.feed line.code := by
  rw [Option.isNone_iff_eq_none] at hclass hprototype hfunction
  unfold readLine
  split
  · exact ⟨rfl, rfl⟩
  · have hdeclarations : ∀ o : Outline,
        readDeclarations { st with outline := o } number line rest = { st with outline := o } := by
      intro o
      simp [readDeclarations, hclass, hprototype, hfunction, h.inClassBody, h.nearestClass?]
    rw [hdeclarations]
    exact ⟨by simp, rfl⟩

/-- The heading of a function opens the block that it has announced, or a plain one if the announcement is lost. -/
private theorem feed_heading {blocks : BlockState Nat} (hpending : blocks.pending = none) {name params : List Char}
    (hname : IsIdentifier name) (hparams : IsParameterText params) :
    (blocks.announce .functionBody).feed (heading name params) =
      { blocks with stack := ⟨if losesBody params then .plain else .functionBody, none⟩ :: blocks.stack } := by
  obtain ⟨stack, unmatched, pending⟩ := blocks
  obtain rfl : pending = none := hpending
  have hword : ∀ c ∈ functionWord, c ≠ '{' ∧ c ≠ '}' ∧ c ≠ ';' := by simp [functionWord]
  have hletters : ∀ c ∈ name, c ≠ '{' ∧ c ≠ '}' ∧ c ≠ ';' := by
    intro c hc
    refine ⟨?_, ?_, ?_⟩
    · rintro rfl
      exact hname.notMem (by decide) hc
    · rintro rfl
      exact hname.notMem (by decide) hc
    · rintro rfl
      exact hname.notMem (by decide) hc
  have hnested := feed_of_nested hparams.nested [] stack rfl unmatched (some ⟨.functionBody, none⟩)
  have hheading : heading name params = (functionWord ++ name ++ ['(']) ++ (params ++ [')', ' ', '{']) := by
    simp only [heading, List.append_assoc, List.singleton_append]
  have hquiet : ∀ c ∈ functionWord ++ name ++ ['('], c ≠ '{' ∧ c ≠ '}' ∧ c ≠ ';' := by
    intro c hc
    rcases List.mem_append.1 hc with hc | hc
    · rcases List.mem_append.1 hc with hc | hc
      · exact hword c hc
      · exact hletters c hc
    · rw [List.mem_singleton.1 hc]
      decide
  rw [hheading, feed_append, feed_of_quiet _ hquiet, feed_append]
  rw [List.nil_append] at hnested
  rw [BlockState.announce, hnested]
  cases losesBody params <;> rfl

/-- The heading of a function registers it where it is exposed, and opens its block. -/
theorem readLine_heading (h : Fits exposed st.blocks) (number : Nat) (rest : List Line) {name params : List Char}
    (hname : IsIdentifier name) (hparams : IsParameterText params) (hcode : line.code = heading name params) :
    (readLine st number line rest).outline.bare = withFunctions st.outline.bare (if exposed then [(number, name)] else []) ∧
      (readLine st number line rest).blocks =
        { st.blocks with
          stack := ⟨if losesBody params then .plain else .functionBody, none⟩ :: st.blocks.stack } := by
  have hclass : Scan.firstOf classHead line.code = none := by rw [hcode]; exact classHead_function _
  have hprototype : Scan.firstOf prototypeHead line.code = none := by rw [hcode]; exact prototypeHead_function _
  have hfunction : functionOn? line.code = some ⟨String.ofList name, false, .bracket (params ++ [')', ' ', '{'])⟩ := by
    rw [hcode, functionOn?, Scan.firstOf, heading, functionHead_function hname]
    rfl
  have hblank : Text.allBlank line.code = false := by rw [hcode]; rfl
  have hdeclarations : ∀ o : Outline, readDeclarations { st with outline := o } number line rest =
      readFunction { st with outline := o } number line rest
        ⟨String.ofList name, false, .bracket (params ++ [')', ' ', '{'])⟩ := by
    intro o
    simp [readDeclarations, hclass, hprototype, hfunction, h.inClassBody]
  unfold readLine
  rw [hblank, if_neg (by decide), hdeclarations]
  constructor
  · have henclosing := h.enclosing
    unfold readFunction
    dsimp only
    cases hcases : st.blocks.enclosing? with
    | none =>
      obtain rfl : exposed = true := by rw [← henclosing, hcases]; rfl
      simp only [Outline.bare_addFunction, Outline.bare_addProblems, Outline.bare_declare, Outline.bare_addExports,
        Outline.bare_addImports]
      rfl
    | some block =>
      obtain rfl : exposed = false := by rw [← henclosing, hcases]; rfl
      simp only [Outline.bare_addProblems, Outline.bare_declare, Outline.bare_addExports, Outline.bare_addImports]
      simp [withFunctions]
  · rw [hcode]
    exact feed_heading h.pending hname hparams

/-- The brace that ends a function closes its block. -/
theorem readLine_closing (h : Fits exposed st.blocks) (number : Nat) (rest : List Line) (hcode : line.code = ['}'])
    {block : Block Nat} {outer : List (Block Nat)} (hstack : st.blocks.stack = block :: outer) :
    (readLine st number line rest).outline.bare = st.outline.bare ∧
      (readLine st number line rest).blocks = { st.blocks with stack := outer } := by
  have hclosing := readLine_statement h number line rest (by rw [hcode]; rfl) (by rw [hcode]; rfl)
    (by rw [hcode]; rfl)
  refine ⟨hclosing.1, ?_⟩
  rw [hclosing.2, hcode]
  simp [BlockState.feed, BlockState.step, hstack]

end

/-! ### Whole bodies -/

/-- A scan over the lines of a body registers the functions that are exposed, and leaves the blocks as they were. -/
theorem runLines_body {b : Body} (hb : b.WellFormed) {exposed : Bool} {st : BlockScan} (hst : Fits exposed st.blocks)
    (number : Nat) {lines : List Line} (hlines : lines.map Line.code = b.lines) (rest : List Line) :
    ∃ st' : BlockScan, runLines readLine st number (lines ++ rest) = runLines readLine st' (number + lines.length) rest ∧
      st'.blocks = st.blocks ∧ st'.outline.bare = withFunctions st.outline.bare (b.registered exposed number) := by
  induction b generalizing exposed st number lines rest with
  | done =>
    obtain rfl : lines = [] := by simpa [Body.lines] using hlines
    exact ⟨st, rfl, rfl, by simp [Body.registered, withFunctions]⟩
  | statement code next ihnext =>
    obtain ⟨hcode, hnext⟩ := hb
    obtain ⟨line, lines, rfl, hline, hlines⟩ := List.map_eq_cons_iff.1 hlines
    obtain ⟨houtline, hblocks⟩ := readLine_statement hst number line (lines ++ rest)
      (by rw [hline]; exact hcode.noClass) (by rw [hline]; exact hcode.noPrototype) (by rw [hline]; exact hcode.noFunction)
    rw [hline, feed_of_no_braces _ hst.pending hcode.braces.1 hcode.braces.2] at hblocks
    obtain ⟨st', hrun, hblocks', houtline'⟩ := ihnext hnext (hblocks ▸ hst) (number + 1) hlines rest
    refine ⟨st', ?_, hblocks'.trans hblocks, ?_⟩
    · rw [List.cons_append, runLines, hrun, List.length_cons]
      congr 1
      omega
    · rw [houtline', houtline]
      rfl
  | function name params body next ihbody ihnext =>
    obtain ⟨hname, hparams, hbody, hnext⟩ := hb
    obtain ⟨line, lines, rfl, hline, hlines⟩ := List.map_eq_cons_iff.1 hlines
    obtain ⟨inner, lines', rfl, hinner, hlines'⟩ := List.map_eq_append_iff.1 hlines
    obtain ⟨closing, outer, rfl, hclosing, houter⟩ := List.map_eq_cons_iff.1 hlines'
    have hlength : inner.length = body.lines.length := by rw [← hinner, List.length_map]
    -- the heading, the lines of the body, the closing brace, and what follows
    obtain ⟨houtline₁, hblocks₁⟩ := readLine_heading hst number (inner ++ closing :: outer ++ rest) hname hparams hline
    have hfits := hst.enter (losesBody params)
    rw [← hblocks₁] at hfits
    obtain ⟨st₂, hrun₂, hblocks₂, houtline₂⟩ := ihbody hbody hfits (number + 1) hinner (closing :: outer ++ rest)
    rw [← hblocks₂] at hfits
    obtain ⟨houtline₃, hblocks₃⟩ := readLine_closing hfits (number + 1 + inner.length) (outer ++ rest) hclosing
      (by rw [hblocks₂, hblocks₁])
    have hback : (readLine st₂ (number + 1 + inner.length) closing (outer ++ rest)).blocks = st.blocks := by
      rw [hblocks₃, hblocks₂, hblocks₁]
    obtain ⟨st₄, hrun₄, hblocks₄, houtline₄⟩ := ihnext hnext (hback ▸ hst) (number + 1 + inner.length + 1) houter rest
    refine ⟨st₄, ?_, hblocks₄.trans hback, ?_⟩
    · have hlines : line :: (inner ++ closing :: outer) ++ rest = line :: (inner ++ (closing :: outer ++ rest)) := by simp
      have hnumber : number + (line :: (inner ++ closing :: outer)).length =
          number + 1 + inner.length + 1 + outer.length := by
        simp only [List.length_cons, List.length_append]
        omega
      have hrest : inner ++ closing :: outer ++ rest = inner ++ (closing :: outer ++ rest) := by simp
      rw [hrest] at hrun₂
      rw [hlines, runLines, hrun₂, List.cons_append, runLines, hrun₄, hnumber]
    · have hnumber : number + body.lines.length + 2 = number + 1 + inner.length + 1 := by omega
      rw [houtline₄, houtline₃, houtline₂, houtline₁, Body.registered, withFunctions_append, withFunctions_append, hnumber]

/-! ### Texts of bodies -/

private theorem Uncommented.of_no_slash {s : List Char} (h : ∀ c ∈ s, c ∉ rules.quotes ∧ c ≠ '/') : Uncommented s where
  quotes := fun c hc => (h c hc).1
  comments := by
    refine (List.pairwise_of_forall_mem_list ?_).isChain
    intro a ha b _ hslash
    exact absurd hslash (h a ha).2

private theorem Uncommented.append {s t : List Char} (hs : Uncommented s) (ht : Uncommented t)
    (h : ∀ a ∈ s.getLast?, ∀ b ∈ t.head?, a = '/' → b ≠ '/' ∧ b ≠ '*') : Uncommented (s ++ t) where
  quotes := by
    intro c hc
    rcases List.mem_append.1 hc with hc | hc
    · exact hs.quotes c hc
    · exact ht.quotes c hc
  comments := hs.comments.append ht.comments h

private theorem uncommented_heading {name params : List Char} (hname : IsIdentifier name)
    (hparams : IsParameterText params) : Uncommented (heading name params) := by
  have hfront : Uncommented (functionWord ++ name ++ ['(']) := by
    apply Uncommented.of_no_slash
    have hword : ∀ c ∈ functionWord, c ∉ rules.quotes ∧ c ≠ '/' := by simp [functionWord, rules]
    intro c hc
    rcases List.mem_append.1 hc with hc | hc
    · rcases List.mem_append.1 hc with hc | hc
      · exact hword c hc
      · have hletter := hname.2 c hc
        refine ⟨fun hquote => ?_, ?_⟩
        · have hquotes : ∀ q ∈ rules.quotes, (isLetter q || q.isDigit) = false := by
            intro q hq
            simp only [rules, List.mem_cons, List.not_mem_nil, or_false] at hq
            rcases hq with rfl | rfl | rfl
            · rfl
            · rfl
            · rfl
          rw [hquotes c hquote] at hletter
          cases hletter
        · rintro rfl
          exact hname.notMem (by decide) hc
    · rw [List.mem_singleton.1 hc]
      decide
  have hback : Uncommented [')', ' ', '{'] := .of_no_slash (by simp [rules])
  have hheading : heading name params = functionWord ++ name ++ ['('] ++ (params ++ [')', ' ', '{']) := by
    simp only [heading, List.append_assoc, List.singleton_append]
  rw [hheading]
  refine hfront.append (hparams.uncommented.append hback ?_) ?_
  · intro a _ b hb _
    obtain rfl : ')' = b := by simpa using hb
    decide
  · intro a ha b _ hslash
    obtain rfl : '(' = a := by simpa using ha
    cases hslash

private theorem notMem_heading {name params : List Char} (hname : IsIdentifier name)
    (hparams : IsParameterText params) : '\n' ∉ heading name params := by
  have hword : '\n' ∉ functionWord := by decide
  have hletters := hname.notMem (c := '\n') (by decide)
  have hline := hparams.line
  simp only [heading, List.mem_append, List.mem_cons, List.not_mem_nil, hword, hletters, hline, false_or, or_false]
  decide

private theorem Body.WellFormed.lines {b : Body} (hb : b.WellFormed) :
    ∀ line ∈ b.lines, Uncommented line ∧ '\n' ∉ line := by
  induction b with
  | done => simp [Body.lines]
  | statement code next ihnext =>
    obtain ⟨hcode, hnext⟩ := hb
    exact List.forall_mem_cons.2 ⟨⟨hcode.uncommented, hcode.line⟩, ihnext hnext⟩
  | function name params body next ihbody ihnext =>
    obtain ⟨hname, hparams, hbody, hnext⟩ := hb
    refine List.forall_mem_cons.2 ⟨⟨uncommented_heading hname hparams, notMem_heading hname hparams⟩, ?_⟩
    refine List.forall_mem_append.2 ⟨ihbody hbody, List.forall_mem_cons.2 ⟨?_, ihnext hnext⟩⟩
    exact ⟨.of_no_slash (by simp [rules]), by decide⟩

/-- The text of uncommented lines is uncommented, and its lines are these and an empty one. -/
private theorem render_lines {lines : List (List Char)} (h : ∀ line ∈ lines, Uncommented line ∧ '\n' ∉ line) :
    Uncommented (lines.flatMap fun line => line ++ ['\n']) ∧
      Text.lines (lines.flatMap fun line => line ++ ['\n']) = lines ++ [[]] := by
  induction lines with
  | nil => exact ⟨.of_no_slash (by simp), rfl⟩
  | cons line lines ih =>
    obtain ⟨⟨hline, hend⟩, hlines⟩ := List.forall_mem_cons.1 h
    obtain ⟨huncommented, hsplit⟩ := ih hlines
    rw [List.flatMap_cons]
    constructor
    · refine (hline.append (.of_no_slash (by simp [rules])) ?_).append huncommented ?_
      · intro a _ b hb _
        obtain rfl : '\n' = b := by simpa using hb
        decide
      · intro a ha b _ hslash
        obtain rfl : '\n' = a := by simpa using ha
        cases hslash
    · rw [List.append_assoc, Text.lines_append_of_notMem hend, List.singleton_append, Text.lines_lineEnd_cons, hsplit]
      simp

/-! ### Registered functions -/

namespace Body

private theorem registered_false (b : Body) (number : Nat) : b.registered false number = [] := by
  induction b generalizing number with
  | done => rfl
  | statement code next ihnext => exact ihnext _
  | function name params body next ihbody ihnext =>
    rw [registered, Bool.false_and, ihbody, ihnext]
    rfl

private theorem registered_true_eq_nil_iff (b : Body) (number : Nat) :
    b.registered true number = [] ↔ b.holdsFunction = false := by
  induction b generalizing number with
  | done => simp [registered, holdsFunction]
  | statement code next ihnext => exact ihnext _
  | function name params body next ihbody ihnext => simp [registered, holdsFunction]

private theorem length_outermost_le (b : Body) (number : Nat) :
    (b.outermost number).length ≤ (b.registered true number).length := by
  induction b generalizing number with
  | done => exact Nat.le_refl _
  | statement code next ihnext => exact ihnext _
  | function name params body next ihbody ihnext =>
    have := ihnext (number + body.lines.length + 2)
    simp only [outermost, registered, List.length_cons, List.length_append, ↓reduceIte]
    omega

/-- The outermost functions are registered, and no other one just if the body is sealed. -/
private theorem registered_eq_outermost_iff (b : Body) (number : Nat) :
    b.registered true number = b.outermost number ↔ b.Sealed := by
  induction b generalizing number with
  | done => simp [registered, outermost, Sealed]
  | statement code next ihnext => exact ihnext _
  | function name params body next ihbody ihnext =>
    have hinner : body.registered (true && losesBody params) (number + 1) = [] ↔
        (losesBody params → body.holdsFunction = false) := by
      cases losesBody params with
      | true => simpa using registered_true_eq_nil_iff body (number + 1)
      | false => simpa using registered_false body (number + 1)
    rw [registered, outermost, Sealed, ← hinner, ← ihnext (number + body.lines.length + 2)]
    have hle := length_outermost_le next (number + body.lines.length + 2)
    generalize body.registered (true && losesBody params) (number + 1) = inner
    generalize next.registered true (number + body.lines.length + 2) = after at hle ⊢
    generalize next.outermost (number + body.lines.length + 2) = outer at hle ⊢
    simp only [↓reduceIte, List.cons_append, List.nil_append, List.cons.injEq, true_and]
    constructor
    · intro happend
      -- there is no room for an inner function
      have hlength := congrArg List.length happend
      rw [List.length_append] at hlength
      obtain rfl : inner = [] := List.length_eq_zero_iff.1 (by omega)
      exact ⟨rfl, happend⟩
    · rintro ⟨rfl, rfl⟩
      rfl

end Body

/-- A function in another one is registered if and only if all the functions around it lose their bodies: there is an
opening brace or a semicolon in their parameters.  So it is just the outermost functions that are registered where those
that lose their bodies hold no function. -/
theorem functions_registered_where_exposed {b : Body} (hb : b.WellFormed) :
    (findings b.render).outline.bare = withFunctions {} (b.registered true 1) ∧
      (b.registered true 1 = b.outermost 1 ↔ b.Sealed) := by
  refine ⟨?_, b.registered_eq_outermost_iff 1⟩
  obtain ⟨huncommented, hlines⟩ := render_lines hb.lines
  have hcodes : (Source.sourceLines rules b.render).map Line.code = b.lines ++ [[]] := by
    rw [Source.map_code_sourceLines, Body.render, mask_of_uncommented huncommented, hlines]
  obtain ⟨lines, last, hsplit, hbody, hlast⟩ := List.map_eq_append_iff.1 hcodes
  obtain ⟨blank, rest, rfl, hblank, hrest⟩ := List.map_eq_cons_iff.1 hlast
  obtain rfl : rest = [] := by simpa using hrest
  have hfits : Fits true ({} : BlockScan).blocks := ⟨by simp, rfl, rfl⟩
  obtain ⟨st, hrun, -, houtline⟩ := runLines_body hb hfits 1 hbody [blank]
  have hfinal : (runLines readLine {} 1 (Source.sourceLines rules b.render)).outline = st.outline := by
    rw [hsplit, hrun, runLines, runLines, readLine, hblank]
    rfl
  change (runLines readLine {} 1 (Source.sourceLines rules b.render)).outline.bare = _
  rw [hfinal, houtline]
  rfl

/-- A function with an empty object for a default value, a statement in it, and two more functions in one another. -/
def optionsBody : Body :=
  .function ['f'] "opts = \x7b\x7d".toList
    (.statement "x = 1;".toList (.function ['g'] [] (.function ['h'] [] .done .done) .done)) .done

/-- The function `g` comes to light, and hides `h`. -/
theorem optionsBody_registers_inner_function :
    optionsBody.WellFormed ∧ (findings optionsBody.render).outline.bare = withFunctions {} [(1, ['f']), (3, ['g'])] ∧
      ¬ optionsBody.Sealed := by
  have hletter : ∀ c : Char, isLetter c → IsIdentifier [c] := by simp +contextual [IsIdentifier]
  have hempty : IsParameterText [] := ⟨by decide, .of_no_slash (by simp), rfl⟩
  have hoptions : IsParameterText "opts = \x7b\x7d".toList := ⟨by decide, .of_no_slash (by simp [rules]), rfl⟩
  have hstatement : IsStatement "x = 1;".toList :=
    ⟨by decide, .of_no_slash (by simp [rules]), by decide, rfl, rfl, rfl⟩
  have hwell : optionsBody.WellFormed :=
    ⟨hletter 'f' rfl, hoptions, ⟨hstatement, hletter 'g' rfl, hempty, ⟨hletter 'h' rfl, hempty, trivial, trivial⟩, trivial⟩,
      trivial⟩
  have hregistered := functions_registered_where_exposed hwell
  refine ⟨hwell, hregistered.1, fun hsealed => ?_⟩
  exact absurd (hregistered.2.2 hsealed) (by decide)

end CallIndex.Extract.JavaScript
