import CallIndex.Text.Basic

/-!
# Lexemes

A source text falls into lexemes: characters of code, line ends, comments and string literals. Which of them starts at
a place is decided by the comment and string delimiters of the language, in the order line end, block comment, line
comment, string literal (a tripled quote before a single one).

* `lex` cuts a text into lexemes; their spellings in a row are the text.
* `Lexeme.masked` is the spelling with comments and the bodies of literals blanked.
-/

namespace CallIndex.Source

/-- Comment and string delimiters of a language. -/
structure LexRules where
  lineComments : List String := ["//"]
  blockComments : List (String × String) := [("/*", "*/")]
  quotes : List Char := ['"', '\'']
  multilineQuotes : List Char := []
  tripleQuotes : Bool := false
  deriving DecidableEq

/-- A piece of source text. -/
inductive Lexeme where
  /-- The end of a line. -/
  | lineEnd
  /-- One character of code. -/
  | code (c : Char)
  /-- A comment that runs to the end of its line. -/
  | lineComment (spelling : List Char)
  /-- A comment between two markers, or from its opening marker to the end of the text when it is not closed. -/
  | blockComment (spelling : List Char) (closed : Bool)
  /-- A string literal with its delimiter; the closing delimiter is missing when it is not closed. -/
  | literal (delimiter body : List Char) (closed : Bool)
  deriving DecidableEq, Repr

namespace Lexeme

/-- The characters a lexeme stands for. -/
def spelling : Lexeme → List Char
  | lineEnd => ['\n']
  | code c => [c]
  | lineComment s => s
  | blockComment s _ => s
  | literal d b closed => d ++ b ++ (if closed then d else [])

/-- Every character but the line ends replaced by a space. -/
def blank (s : List Char) : List Char :=
  s.map fun c => if c = '\n' then '\n' else ' '

/-- The characters of a lexeme with comments and the bodies of literals blanked. -/
def masked : Lexeme → List Char
  | lineEnd => ['\n']
  | code c => [c]
  | lineComment s => blank s
  | blockComment s _ => blank s
  | literal d b closed => d ++ blank b ++ (if closed then d else [])

end Lexeme

/-- The body of a literal up to its closing delimiter, and the text behind it. A backslash takes the next character
along, whatever it is; unless the literal may span lines, a line end breaks it off. -/
def closeLiteral? (delimiter : List Char) (multiline : Bool) : List Char → Option (List Char × List Char)
  | [] => none
  | [c] =>
    if c = '\\' then none
    else (Text.dropFront? delimiter [c]).map fun rest => ([], rest)
  | c :: d :: s =>
    if c = '\\' then (closeLiteral? delimiter multiline s).map fun (body, rest) => (c :: d :: body, rest)
    else match Text.dropFront? delimiter (c :: d :: s) with
      | some rest => some ([], rest)
      | none =>
        if c = '\n' && !multiline then none
        else (closeLiteral? delimiter multiline (d :: s)).map fun (body, rest) => (c :: body, rest)

theorem length_le_of_closeLiteral? {delimiter : List Char} {multiline : Bool} {s body rest : List Char}
    (h : closeLiteral? delimiter multiline s = some (body, rest)) : rest.length ≤ s.length := by
  induction s using closeLiteral?.induct delimiter multiline generalizing body with
  | case1 => simp [closeLiteral?] at h
  | case2 => simp [closeLiteral?] at h
  | case3 c hc =>
    simp only [closeLiteral?, hc, ↓reduceIte] at h
    obtain ⟨r, hr, he⟩ := Option.map_eq_some_iff.1 h
    cases he
    have := congrArg List.length (Text.eq_append_of_dropFront? hr)
    simp only [List.length_append] at this
    omega
  | case4 d s ih =>
    simp only [closeLiteral?, ↓reduceIte] at h
    obtain ⟨⟨b, r⟩, hr, he⟩ := Option.map_eq_some_iff.1 h
    obtain ⟨rfl, rfl⟩ := Prod.mk.inj he
    have := ih hr
    simp only [List.length_cons] at this ⊢
    omega
  | case5 c d s hc r hr =>
    simp only [closeLiteral?, hc, ↓reduceIte, hr] at h
    cases h
    have := congrArg List.length (Text.eq_append_of_dropFront? hr)
    simp only [List.length_append] at this
    omega
  | case6 c d s hc hn hb => simp_all [closeLiteral?]
  | case7 c d s hc hn hb ih =>
    simp only [closeLiteral?, hc, ↓reduceIte, hn, hb] at h
    obtain ⟨⟨b, r⟩, hr, he⟩ := Option.map_eq_some_iff.1 h
    obtain ⟨rfl, rfl⟩ := Prod.mk.inj he
    have := ih hr
    simp only [List.length_cons] at this ⊢
    omega

/-- The literal that the quote `q` opens in front of `s`, and the text behind it. A literal that is not closed ends
with the text when it may span lines, and else at the first line end. -/
def lexLiteral (rules : LexRules) (q : Char) (s : List Char) : Lexeme × List Char :=
  let triple := rules.tripleQuotes && [q, q].isPrefixOf s
  let delimiter := if triple then [q, q, q] else [q]
  let inner := if triple then s.drop 2 else s
  let multiline := triple || rules.multilineQuotes.contains q
  match closeLiteral? delimiter multiline inner with
  | some (body, rest) => (.literal delimiter body true, rest)
  | none =>
    if multiline then (.literal delimiter inner false, [])
    else (.literal delimiter (inner.takeWhile (· ≠ '\n')) false, inner.dropWhile (· ≠ '\n'))

/-- The comment that starts in front of `s` behind the opening marker `opener`, and the text behind it. -/
def lexBlockComment (opener closer : List Char) (s : List Char) : Lexeme × List Char :=
  match Text.cutAt? closer s with
  | some (body, rest) => (.blockComment (opener ++ body ++ closer) true, rest)
  | none => (.blockComment (opener ++ s) false, [])

/-- Does a comment with these markers start in front of `s`? Two empty markers make no comment. -/
def opensComment (markers : String × String) (s : List Char) : Bool :=
  (markers.1 ≠ "" || markers.2 ≠ "") && markers.1.toList.isPrefixOf s

/-- The first lexeme of the text `c :: s`, and the text behind it. -/
def lexOne (rules : LexRules) (c : Char) (s : List Char) : Lexeme × List Char :=
  if c = '\n' then (.lineEnd, s)
  else match rules.blockComments.find? fun markers => opensComment markers (c :: s) with
    | some (opener, closer) =>
      lexBlockComment opener.toList closer.toList ((c :: s).drop opener.toList.length)
    | none =>
      if rules.lineComments.any fun marker => marker.toList.isPrefixOf (c :: s) then
        (.lineComment ((c :: s).takeWhile (· ≠ '\n')), (c :: s).dropWhile (· ≠ '\n'))
      else if rules.quotes.contains c then lexLiteral rules c s
      else (.code c, s)

theorem length_lexLiteral_le (rules : LexRules) (q : Char) (s : List Char) :
    (lexLiteral rules q s).2.length ≤ s.length := by
  unfold lexLiteral
  have hinner : ∀ triple : Bool, (if triple then s.drop 2 else s).length ≤ s.length := by
    intro triple
    cases triple <;> simp
  simp only
  split
  · rename_i body rest h
    exact Nat.le_trans (length_le_of_closeLiteral? h) (hinner _)
  · split
    · simp
    · exact Nat.le_trans (List.dropWhile_suffix _).length_le (hinner _)

theorem length_lexBlockComment_le {c : Char} {s : List Char} {opener closer : String}
    (h : opensComment (opener, closer) (c :: s)) :
    (lexBlockComment opener.toList closer.toList ((c :: s).drop opener.toList.length)).2.length ≤ s.length := by
  unfold lexBlockComment
  split
  · rename_i body rest hc
    have hl := congrArg List.length (Text.eq_append_of_cutAt? hc)
    simp only [List.length_drop, List.length_cons, List.length_append] at hl
    have hne : opener.toList.length ≠ 0 ∨ closer.toList.length ≠ 0 := by
      simp only [opensComment, Bool.and_eq_true, Bool.or_eq_true, decide_eq_true_eq] at h
      rcases h.1 with ho | ho
      · exact Or.inl (by simpa using ho)
      · exact Or.inr (by simpa using ho)
    simp only
    omega
  · simp

/-- Every lexeme takes at least one character. -/
theorem length_lexOne_le (rules : LexRules) (c : Char) (s : List Char) :
    (lexOne rules c s).2.length ≤ s.length := by
  unfold lexOne
  split
  · exact Nat.le_refl _
  · split
    · rename_i opener closer h
      exact length_lexBlockComment_le (by simpa using List.find?_some h)
    · split
      · rename_i hc _ _ _
        have : (c :: s).dropWhile (· ≠ '\n') = s.dropWhile (· ≠ '\n') := by simp [hc]
        simp only [this]
        exact (List.dropWhile_suffix _).length_le
      · split
        · exact length_lexLiteral_le rules c s
        · exact Nat.le_refl _

/-- The lexemes of a text. -/
def lex (rules : LexRules) : List Char → List Lexeme
  | [] => []
  | c :: s =>
    have := length_lexOne_le rules c s
    (lexOne rules c s).1 :: lex rules (lexOne rules c s).2
termination_by s => s.length
decreasing_by simp only [List.length_cons]; omega

end CallIndex.Source
