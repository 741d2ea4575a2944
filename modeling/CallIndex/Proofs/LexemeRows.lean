import CallIndex.Proofs.LineBoundaries

/-!
# Lexemes in a row

A grammar for source texts.  A text is a row of lexemes: characters of code, line ends, comments and literals that are
closed.  Which of them may stand at a place is said of the text that starts there, through to its end: a literal or a
comment stands where the rules select it (`Selects`), its body runs to the first closing delimiter (`BodyBefore`), and
nothing is selected at a character of code.

Lexing reads exactly these rows.  So masking blanks a text lexeme by lexeme, and a text has no problems just when it is
such a row.

* `lexOne_of_placed` and `placed_lexOne`: one lexeme.
* `lex_of_row` and `row_lex`: the lexemes of a whole text.
* `mask_blanks_lexemes`: masking and its problems, for the languages there are.
-/

namespace CallIndex

namespace Text

/-! ### First occurrences -/

private theorem dropFront?_eq_none_iff {front s : List Char} : dropFront? front s = none ↔ ¬ front <+: s := by
  constructor
  · rintro hnone ⟨rest, rfl⟩
    rw [dropFront?_append] at hnone
    cases hnone
  · intro hfront
    cases hdrop : dropFront? front s with
    | none => rfl
    | some rest => exact absurd ⟨rest, (eq_append_of_dropFront? hdrop).symm⟩ hfront

/-- No proper part of a mark is both at its front and at its end, so two occurrences of it never overlap. -/
def Unbordered (mark : List Char) : Prop :=
  ∀ part, part <+: mark → part <:+ mark → part = [] ∨ part = mark

private theorem Unbordered.not_prefix {mark front : List Char} (hmark : Unbordered mark) (hfront : front ≠ [])
    (hfree : ¬ mark <:+: front) (rest : List Char) : ¬ mark <+: front ++ (mark ++ rest) := by
  intro hprefix
  by_cases hlength : mark.length ≤ front.length
  · exact hfree (List.prefix_of_prefix_length_le hprefix (List.prefix_append _ _) hlength).isInfix
  · -- the mark goes on behind `front`, and what it has left starts the mark that stands there
    obtain ⟨part, rfl⟩ : front <+: mark :=
      List.prefix_of_prefix_length_le (List.prefix_append _ _) hprefix (by omega)
    have hpart : part <+: front ++ part := by
      rw [List.prefix_append_right_inj] at hprefix
      exact List.prefix_of_prefix_length_le hprefix (List.prefix_append _ _) (by simp)
    rcases hmark part hpart (List.suffix_append _ _) with rfl | hwhole
    · exact hlength (by simp)
    · exact hfront (by simpa using hwhole.symm)

/-- A text without the mark runs to the mark behind it. -/
private theorem cutAt?_of_unbordered {mark body : List Char} (hmark : Unbordered mark) (hbody : ¬ mark <:+: body)
    (rest : List Char) : cutAt? mark (body ++ (mark ++ rest)) = some (body, rest) := by
  induction body with
  | nil => exact cutAt?_of_front (dropFront?_append mark rest)
  | cons c body ih =>
    have hnone : dropFront? mark (c :: (body ++ (mark ++ rest))) = none :=
      dropFront?_eq_none_iff.2 (hmark.not_prefix (List.cons_ne_nil c body) hbody rest)
    rw [List.cons_append, cutAt?_of_no_front hnone, ih fun h => hbody (h.trans (List.suffix_cons c body).isInfix)]
    rfl

/-- Before its first occurrence a mark does not occur. -/
private theorem not_infix_of_cutAt? {mark s body rest : List Char} (hmark : mark ≠ [])
    (h : cutAt? mark s = some (body, rest)) : ¬ mark <:+: body := by
  induction s generalizing body with
  | nil =>
    have hbody := (List.append_eq_nil_iff.1 (eq_append_of_cutAt? h).symm).1
    rw [(List.append_eq_nil_iff.1 hbody).1]
    exact fun hinfix => hmark (List.eq_nil_of_infix_nil hinfix)
  | cons c s ih =>
    cases hfront : dropFront? mark (c :: s) with
    | some rest' =>
      rw [cutAt?_of_front hfront] at h
      cases h
      exact fun hinfix => hmark (List.eq_nil_of_infix_nil hinfix)
    | none =>
      have hs := eq_append_of_cutAt? h
      rw [cutAt?_of_no_front hfront] at h
      obtain ⟨⟨body', rest'⟩, hcut, he⟩ := Option.map_eq_some_iff.1 h
      cases he
      rw [List.infix_cons_iff, not_or]
      refine ⟨fun hprefix => dropFront?_eq_none_iff.1 hfront ?_, ih hcut⟩
      rw [hs, List.append_assoc]
      exact hprefix.trans (List.prefix_append _ _)

end Text

namespace Source

variable {rules : LexRules} {rest : List Char}

/-! ### The grammar -/

/-- What may open in front of a text. -/
inductive Opening where
  | block (opener closer : String)
  | line
  | triple (q : Char)
  | single (q : Char)

namespace LexRules

/-- No block comment starts in front of the text. -/
def NoBlock (rules : LexRules) (text : List Char) : Prop :=
  ∀ markers ∈ rules.blockComments, ¬ markers.1.toList <+: text

/-- No line comment starts in front of the text. -/
def NoLine (rules : LexRules) (text : List Char) : Prop :=
  ∀ marker ∈ rules.lineComments, ¬ marker.toList <+: text

/-- Three quotes in front of the text count as one delimiter. -/
def Triples (rules : LexRules) (q : Char) (text : List Char) : Prop :=
  rules.tripleQuotes = true ∧ [q, q, q] <+: text

end LexRules

/-- What the rules select in front of a text: the first block comment that starts there, else a line comment, else a
literal in three quotes, else one in a single quote. -/
inductive Selects (rules : LexRules) (text : List Char) : Opening → Prop
  | block {opener closer : String} {before after : List (String × String)}
      (hrules : rules.blockComments = before ++ (opener, closer) :: after)
      (hbefore : ∀ markers ∈ before, ¬ markers.1.toList <+: text) (hopener : opener.toList <+: text) :
      Selects rules text (.block opener closer)
  | line {marker : String} (hblock : rules.NoBlock text) (hmarker : marker ∈ rules.lineComments)
      (hfront : marker.toList <+: text) : Selects rules text .line
  | triple {q : Char} (hblock : rules.NoBlock text) (hline : rules.NoLine text) (hq : q ∈ rules.quotes)
      (htriple : rules.Triples q text) : Selects rules text (.triple q)
  | single {q : Char} (hblock : rules.NoBlock text) (hline : rules.NoLine text) (hq : q ∈ rules.quotes)
      (htriple : ¬ rules.Triples q text) (hfront : [q] <+: text) : Selects rules text (.single q)

/-- The body of a literal in front of `behind`, where its closing delimiter stands: pairs of a backslash and any
character, and other characters at which the delimiter does not start.  A line end is among them only if the literal may
span lines. -/
inductive BodyBefore (delimiter : List Char) (multiline : Bool) (behind : List Char) : List Char → Prop
  | nil : BodyBefore delimiter multiline behind []
  | pair {body : List Char} (c : Char) (h : BodyBefore delimiter multiline behind body) :
      BodyBefore delimiter multiline behind ('\\' :: c :: body)
  | char {c : Char} {body : List Char} (hescape : c ≠ '\\') (hline : c = '\n' → multiline = true)
      (hfront : ¬ delimiter <+: c :: (body ++ behind)) (h : BodyBefore delimiter multiline behind body) :
      BodyBefore delimiter multiline behind (c :: body)

/-- A lexeme may stand in front of the text `rest`. -/
inductive Placed (rules : LexRules) (rest : List Char) : Lexeme → Prop
  | lineEnd : Placed rules rest .lineEnd
  | code {c : Char} (hc : c ≠ '\n') (hblock : rules.NoBlock (c :: rest)) (hline : rules.NoLine (c :: rest))
      (hquote : c ∉ rules.quotes) : Placed rules rest (.code c)
  /-- The comment runs to the end of its line or of the text. -/
  | lineComment {s : List Char} (hselect : Selects rules (s ++ rest) .line) (hs : '\n' ∉ s)
      (hend : ∀ c ∈ rest.head?, c = '\n') : Placed rules rest (.lineComment s)
  | blockComment {opener closer : String} {body : List Char}
      (hselect : Selects rules (opener.toList ++ (body ++ (closer.toList ++ rest))) (.block opener closer))
      (hbody : ¬ closer.toList <:+: body) :
      Placed rules rest (.blockComment (opener.toList ++ body ++ closer.toList) true)
  | triple {q : Char} {body : List Char}
      (hselect : Selects rules (q :: q :: q :: (body ++ (q :: q :: q :: rest))) (.triple q))
      (hbody : BodyBefore [q, q, q] true (q :: q :: q :: rest) body) : Placed rules rest (.literal [q, q, q] body true)
  | single {q : Char} {body : List Char} (hselect : Selects rules (q :: (body ++ (q :: rest))) (.single q))
      (hbody : BodyBefore [q] (rules.multilineQuotes.contains q) (q :: rest) body) :
      Placed rules rest (.literal [q] body true)

/-- Lexemes in a row, each in front of the text of those behind it. -/
inductive Row (rules : LexRules) : List Lexeme → Prop
  | nil : Row rules []
  | cons {l : Lexeme} {ls : List Lexeme} (hfirst : Placed rules (ls.flatMap Lexeme.spelling) l) (h : Row rules ls) :
      Row rules (l :: ls)

/-- Rules whose delimiters can be told apart: no marker is empty or goes beyond a line, what closes a comment does not
overlap with itself, and a quote is neither a backslash nor a line end. -/
structure LexRules.Regular (rules : LexRules) : Prop extends rules.OpensInLine where
  marker_ne : ∀ marker ∈ rules.lineComments, marker.toList ≠ []
  opener_ne : ∀ markers ∈ rules.blockComments, markers.1.toList ≠ []
  closer_ne : ∀ markers ∈ rules.blockComments, markers.2.toList ≠ []
  unbordered : ∀ markers ∈ rules.blockComments, Text.Unbordered markers.2.toList
  quote_ne : ∀ q ∈ rules.quotes, q ≠ '\n' ∧ q ≠ '\\'

/-! ### Bodies of literals -/

private theorem closeLiteral?_of_body {q : Char} {quotes : List Char} {multiline : Bool} {body : List Char}
    (hq : q ≠ '\\') (h : BodyBefore (q :: quotes) multiline (q :: quotes ++ rest) body) :
    closeLiteral? (q :: quotes) multiline (body ++ (q :: quotes ++ rest)) = some (body, rest) := by
  induction h with
  | nil => exact closeLiteral?_of_front hq (Text.dropFront?_append (q :: quotes) rest)
  | @pair body c h ih =>
    simp only [List.cons_append, closeLiteral?, ↓reduceIte] at ih ⊢
    rw [ih]
    rfl
  | @char c body hescape hline hfront h ih =>
    have hkeeps : (c = '\n' && !multiline) = false := by
      by_cases hc : c = '\n'
      · simp [hline hc]
      · simp [hc]
    rw [List.cons_append, closeLiteral?_of_no_front hescape (Text.dropFront?_eq_none_iff.2 hfront) hkeeps, ih]
    rfl

private theorem body_of_closeLiteral? {delimiter : List Char} {multiline : Bool} {s body : List Char}
    (h : closeLiteral? delimiter multiline s = some (body, rest)) :
    BodyBefore delimiter multiline (delimiter ++ rest) body := by
  induction s using closeLiteral?.induct delimiter multiline generalizing body with
  | case1 => simp [closeLiteral?] at h
  | case2 => simp [closeLiteral?] at h
  | case3 c hc =>
    simp only [closeLiteral?, hc, ↓reduceIte] at h
    obtain ⟨r, -, he⟩ := Option.map_eq_some_iff.1 h
    cases he
    exact .nil
  | case4 d s ih =>
    simp only [closeLiteral?, ↓reduceIte] at h
    obtain ⟨⟨b, r⟩, hr, he⟩ := Option.map_eq_some_iff.1 h
    obtain ⟨rfl, rfl⟩ := Prod.mk.inj he
    exact .pair d (ih hr)
  | case5 c d s hc r hr =>
    simp only [closeLiteral?, hc, ↓reduceIte, hr] at h
    cases h
    exact .nil
  | case6 c d s hc hn hb => simp_all [closeLiteral?]
  | case7 c d s hc hn hb ih =>
    simp only [closeLiteral?, hc, ↓reduceIte, hn, hb] at h
    obtain ⟨⟨b, r⟩, hr, he⟩ := Option.map_eq_some_iff.1 h
    obtain ⟨rfl, rfl⟩ := Prod.mk.inj he
    have hline : c = '\n' → multiline = true := by
      intro hc
      simpa [hc] using hb
    have hs : d :: s = b ++ (delimiter ++ r) := by rw [eq_append_of_closeLiteral? hr, List.append_assoc]
    exact .char hc hline (hs ▸ Text.dropFront?_eq_none_iff.1 hn) (ih hr)

/-! ### The lexeme in front of a text -/

private theorem Selects.mem_blockComments {text : List Char} {opener closer : String}
    (h : Selects rules text (.block opener closer)) : (opener, closer) ∈ rules.blockComments := by
  cases h with
  | block hblocks _ _ => simp [hblocks]

section Selected

variable {c : Char} {s : List Char}

private theorem opensComment_iff (hrules : rules.Regular) {markers : String × String}
    (hmem : markers ∈ rules.blockComments) : opensComment markers (c :: s) = true ↔ markers.1.toList <+: c :: s := by
  have hopener : markers.1 ≠ "" := fun he => hrules.opener_ne markers hmem (by rw [he]; rfl)
  simp [opensComment, hopener, List.isPrefixOf_iff_prefix]

private theorem find?_of_noBlock (hrules : rules.Regular) :
    (rules.blockComments.find? fun markers => opensComment markers (c :: s)) = none ↔ rules.NoBlock (c :: s) := by
  rw [List.find?_eq_none]
  exact forall₂_congr fun markers hmem => not_congr (opensComment_iff hrules hmem)

private theorem any_lineComments_iff : (rules.lineComments.any fun marker => marker.toList.isPrefixOf (c :: s)) = true ↔
    ¬ rules.NoLine (c :: s) := by
  simp only [List.any_eq_true, List.isPrefixOf_iff_prefix, LexRules.NoLine, not_forall, not_not, exists_prop]

/-- What is selected in front of a text that does not start with a line end is what is lexed there. -/
private theorem lexOne_block (hrules : rules.Regular) (hc : c ≠ '\n') {opener closer : String}
    (h : Selects rules (c :: s) (.block opener closer)) :
    lexOne rules c s = lexBlockComment opener.toList closer.toList ((c :: s).drop opener.toList.length) := by
  cases h with
  | @block _ _ before after hblocks hbefore hopener =>
    have hmem : ∀ markers ∈ before ++ [(opener, closer)], markers ∈ rules.blockComments := by
      intro markers hmarkers
      rw [hblocks, List.append_cons]
      exact List.mem_append_left after hmarkers
    have hfind : (rules.blockComments.find? fun markers => opensComment markers (c :: s)) = some (opener, closer) := by
      rw [List.find?_eq_some_iff_append]
      refine ⟨(opensComment_iff hrules (hmem _ (by simp))).2 hopener, before, after, hblocks, ?_⟩
      intro markers hmarkers
      have := mt (opensComment_iff hrules (hmem _ (List.mem_append_left _ hmarkers))).1 (hbefore markers hmarkers)
      simpa using this
    rw [lexOne, if_neg hc, hfind]

private theorem lexOne_line (hrules : rules.Regular) (hc : c ≠ '\n') (h : Selects rules (c :: s) .line) :
    lexOne rules c s = (.lineComment ((c :: s).takeWhile (· ≠ '\n')), (c :: s).dropWhile (· ≠ '\n')) := by
  cases h with
  | line hblock hmarker hfront =>
    have hany := any_lineComments_iff.2 fun hline => hline _ hmarker hfront
    rw [lexOne, if_neg hc, (find?_of_noBlock hrules).2 hblock]
    exact if_pos hany

private theorem lexOne_quote (hrules : rules.Regular) (hc : c ∈ rules.quotes) (hblock : rules.NoBlock (c :: s))
    (hline : rules.NoLine (c :: s)) : lexOne rules c s = lexLiteral rules c s := by
  rw [lexOne, if_neg (hrules.quote_ne c hc).1, (find?_of_noBlock hrules).2 hblock]
  dsimp only
  rw [if_neg (mt any_lineComments_iff.1 (not_not.2 hline)), if_pos (by simpa using hc)]

private theorem lexOne_code (hrules : rules.Regular) (hc : c ≠ '\n') (hblock : rules.NoBlock (c :: s))
    (hline : rules.NoLine (c :: s)) (hquote : c ∉ rules.quotes) : lexOne rules c s = (.code c, s) := by
  rw [lexOne, if_neg hc, (find?_of_noBlock hrules).2 hblock]
  dsimp only
  rw [if_neg (mt any_lineComments_iff.1 (not_not.2 hline)), if_neg (by simpa using hquote)]

private theorem triples_iff {q : Char} :
    rules.Triples q (q :: s) ↔ (rules.tripleQuotes && [q, q].isPrefixOf s) = true := by
  rw [Bool.and_eq_true, List.isPrefixOf_iff_prefix, LexRules.Triples, List.prefix_cons_inj]

private theorem lexLiteral_triple {q : Char} {inner body : List Char} (h : rules.Triples q (q :: q :: q :: inner))
    (hclose : closeLiteral? [q, q, q] true inner = some (body, rest)) :
    lexLiteral rules q (q :: q :: inner) = (.literal [q, q, q] body true, rest) := by
  simp only [lexLiteral, triples_iff.1 h, ↓reduceIte, Bool.true_or, List.drop_succ_cons, List.drop_zero, hclose]

private theorem lexLiteral_single {q : Char} {body : List Char} (h : ¬ rules.Triples q (q :: s))
    (hclose : closeLiteral? [q] (rules.multilineQuotes.contains q) s = some (body, rest)) :
    lexLiteral rules q s = (.literal [q] body true, rest) := by
  have htriple : (rules.tripleQuotes && [q, q].isPrefixOf s) = false := Bool.eq_false_iff.2 (mt triples_iff.2 h)
  simp only [lexLiteral, htriple, Bool.false_eq_true, ↓reduceIte, Bool.false_or, hclose]

end Selected

/-! ### One lexeme -/

/-- A run without line ends is taken up to the line end behind it. -/
private theorem takeWhile_of_inLine {s : List Char} (hs : '\n' ∉ s) (hend : ∀ c ∈ rest.head?, c = '\n') :
    (s ++ rest).takeWhile (· ≠ '\n') = s ∧ (s ++ rest).dropWhile (· ≠ '\n') = rest := by
  have hall : ∀ c ∈ s, decide (c ≠ '\n') = true := by
    intro c hc
    simpa using fun he : c = '\n' => hs (he ▸ hc)
  rw [List.takeWhile_append_of_pos hall, List.dropWhile_append_of_pos hall]
  cases rest with
  | nil => simp
  | cons c rest => simp [hend c rfl]

private theorem Placed.openKind?_eq_none {l : Lexeme} (h : Placed rules rest l) : l.openKind? = none := by
  cases h <;> rfl

/-- What starts with a line comment is not empty. -/
private theorem ne_nil_of_selects_line (hrules : rules.Regular) {s : List Char} (h : Selects rules (s ++ rest) .line)
    (hend : ∀ c ∈ rest.head?, c = '\n') : s ≠ [] := by
  rintro rfl
  cases h with
  | @line marker _ hmarker hfront =>
    cases hchars : marker.toList with
    | nil => exact hrules.marker_ne marker hmarker hchars
    | cons c front =>
      obtain ⟨behind, hrest⟩ := hfront
      rw [hchars, List.nil_append] at hrest
      obtain rfl : c = '\n' := hend c (by rw [← hrest]; rfl)
      exact hrules.lineComments marker hmarker (by simp [hchars])

/-- A lexeme that is placed in front of a text is read there. -/
theorem lexOne_of_placed (hrules : rules.Regular) {l : Lexeme} (h : Placed rules rest l) :
    ∃ c s, l.spelling ++ rest = c :: s ∧ lexOne rules c s = (l, rest) := by
  cases h with
  | lineEnd => exact ⟨'\n', rest, rfl, if_pos rfl⟩
  | @code c hc hblock hline hquote => exact ⟨c, rest, rfl, lexOne_code hrules hc hblock hline hquote⟩
  | @lineComment s hselect hs hend =>
    obtain ⟨c, s, rfl⟩ := List.exists_cons_of_ne_nil (ne_nil_of_selects_line hrules hselect hend)
    have hc : c ≠ '\n' := fun he => hs (by simp [he])
    obtain ⟨htake, hdrop⟩ := takeWhile_of_inLine hs hend
    rw [List.cons_append] at hselect htake hdrop
    exact ⟨c, s ++ rest, rfl, by rw [lexOne_line hrules hc hselect, htake, hdrop]⟩
  | @blockComment opener closer body hselect hbody =>
    have hmem := hselect.mem_blockComments
    obtain ⟨c, front, hopener⟩ := List.exists_cons_of_ne_nil (hrules.opener_ne _ hmem)
    have hc : c ≠ '\n' := fun he => hrules.blockComments _ hmem (by simp [hopener, he])
    have htext : opener.toList ++ (body ++ (closer.toList ++ rest)) = c :: (front ++ (body ++ (closer.toList ++ rest))) := by
      rw [hopener, List.cons_append]
    refine ⟨c, front ++ (body ++ (closer.toList ++ rest)), by simp [Lexeme.spelling, hopener], ?_⟩
    rw [lexOne_block hrules hc (htext ▸ hselect), ← htext, List.drop_left, lexBlockComment,
      Text.cutAt?_of_unbordered (hrules.unbordered _ hmem) hbody]
  | @triple q body hselect hbody =>
    cases hselect with
    | triple hblock hline hq htriple =>
      refine ⟨q, q :: q :: (body ++ (q :: q :: q :: rest)), by simp [Lexeme.spelling], ?_⟩
      rw [lexOne_quote hrules hq hblock hline]
      exact lexLiteral_triple htriple (closeLiteral?_of_body (hrules.quote_ne q hq).2 hbody)
  | @single q body hselect hbody =>
    cases hselect with
    | single hblock hline hq htriple _ =>
      refine ⟨q, body ++ (q :: rest), by simp [Lexeme.spelling], ?_⟩
      rw [lexOne_quote hrules hq hblock hline]
      exact lexLiteral_single htriple (closeLiteral?_of_body (hrules.quote_ne q hq).2 hbody)

private theorem placed_lexBlockComment {opener closer : String} {s : List Char} (hcloser : closer.toList ≠ [])
    (hselect : Selects rules (opener.toList ++ s) (.block opener closer))
    (hclosed : (lexBlockComment opener.toList closer.toList s).1.openKind? = none) :
    Placed rules (lexBlockComment opener.toList closer.toList s).2
      (lexBlockComment opener.toList closer.toList s).1 := by
  unfold lexBlockComment at hclosed ⊢
  cases hcut : Text.cutAt? closer.toList s with
  | none => simp [hcut, Lexeme.openKind?] at hclosed
  | some cut =>
    obtain ⟨body, rest⟩ := cut
    rw [Text.eq_append_of_cutAt? hcut, List.append_assoc] at hselect
    exact .blockComment hselect (Text.not_infix_of_cutAt? hcloser hcut)

private theorem placed_lexLiteral {q : Char} {s : List Char} (hq : q ∈ rules.quotes) (hblock : rules.NoBlock (q :: s))
    (hline : rules.NoLine (q :: s)) (hclosed : (lexLiteral rules q s).1.openKind? = none) :
    Placed rules (lexLiteral rules q s).2 (lexLiteral rules q s).1 := by
  by_cases htriple : rules.Triples q (q :: s)
  · obtain ⟨-, inner, hs⟩ := id htriple
    obtain rfl : q :: q :: inner = s := by simpa using hs
    cases hclose : closeLiteral? [q, q, q] true inner with
    | none =>
      simp only [lexLiteral, triples_iff.1 htriple, ↓reduceIte, Bool.true_or, List.drop_succ_cons, List.drop_zero,
        hclose, Lexeme.openKind?, reduceCtorEq] at hclosed
    | some closed =>
      obtain ⟨body, rest⟩ := closed
      have htext : inner = body ++ (q :: q :: q :: rest) := by simpa using eq_append_of_closeLiteral? hclose
      rw [lexLiteral_triple htriple hclose]
      rw [htext] at hblock hline htriple
      exact .triple (.triple hblock hline hq htriple) (body_of_closeLiteral? hclose)
  · cases hclose : closeLiteral? [q] (rules.multilineQuotes.contains q) s with
    | none =>
      have hnone : (rules.tripleQuotes && [q, q].isPrefixOf s) = false := Bool.eq_false_iff.2 (mt triples_iff.2 htriple)
      simp only [lexLiteral, hnone, Bool.false_eq_true, ↓reduceIte, Bool.false_or, hclose] at hclosed
      split at hclosed <;> simp [Lexeme.openKind?] at hclosed
    | some closed =>
      obtain ⟨body, rest⟩ := closed
      have htext : s = body ++ (q :: rest) := by simpa using eq_append_of_closeLiteral? hclose
      rw [lexLiteral_single htriple hclose]
      rw [htext] at hblock hline htriple
      exact .single (.single hblock hline hq htriple (by simp)) (body_of_closeLiteral? hclose)

private theorem exists_selects_of_block (hrules : rules.Regular) {c : Char} {s : List Char}
    (h : ¬ rules.NoBlock (c :: s)) :
    ∃ opener closer, Selects rules (c :: s) (.block opener closer) ∧ opener.toList <+: c :: s := by
  cases hfind : rules.blockComments.find? fun markers => opensComment markers (c :: s) with
  | none => exact absurd ((find?_of_noBlock hrules).1 hfind) h
  | some markers =>
    obtain ⟨opener, closer⟩ := markers
    obtain ⟨hopens, before, after, hblocks, hbefore⟩ := List.find?_eq_some_iff_append.1 hfind
    have hopener := (opensComment_iff hrules (List.mem_of_find?_eq_some hfind)).1 hopens
    refine ⟨opener, closer, .block hblocks (fun markers hmarkers hfront => ?_) hopener, hopener⟩
    have hmem : markers ∈ rules.blockComments := by simp [hblocks, hmarkers]
    simpa [(opensComment_iff hrules hmem).2 hfront] using hbefore markers hmarkers

/-- A lexeme that is read in front of a text, and leaves nothing open, is placed there. -/
theorem placed_lexOne (hrules : rules.Regular) {c : Char} {s : List Char}
    (hclosed : (lexOne rules c s).1.openKind? = none) : Placed rules (lexOne rules c s).2 (lexOne rules c s).1 := by
  by_cases hc : c = '\n'
  · rw [lexOne, if_pos hc]
    exact .lineEnd
  by_cases hblock : rules.NoBlock (c :: s)
  · by_cases hline : rules.NoLine (c :: s)
    · by_cases hquote : c ∈ rules.quotes
      · rw [lexOne_quote hrules hquote hblock hline] at hclosed ⊢
        exact placed_lexLiteral hquote hblock hline hclosed
      · rw [lexOne_code hrules hc hblock hline hquote]
        exact .code hc hblock hline hquote
    · obtain ⟨marker, hmarker, hfront⟩ : ∃ marker ∈ rules.lineComments, marker.toList <+: c :: s := by
        simpa [LexRules.NoLine] using hline
      have hselect : Selects rules (c :: s) .line := .line hblock hmarker hfront
      rw [lexOne_line hrules hc hselect]
      refine .lineComment (by rwa [List.takeWhile_append_dropWhile]) ?_ ?_
      · exact fun hmem => by simpa using List.mem_takeWhile_imp hmem
      · intro d hd
        have := List.head?_dropWhile_not (· ≠ '\n') (c :: s)
        rw [Option.mem_def.1 hd] at this
        simpa using this
  · obtain ⟨opener, closer, hselect, hopener⟩ := exists_selects_of_block hrules hblock
    rw [lexOne_block hrules hc hselect] at hclosed ⊢
    refine placed_lexBlockComment (hrules.closer_ne _ hselect.mem_blockComments) ?_ hclosed
    rwa [List.prefix_iff_eq_append.1 hopener]

/-! ### Whole texts -/

/-- Lexemes in a row are read again. -/
theorem lex_of_row (hrules : rules.Regular) {row : List Lexeme} (h : Row rules row) :
    lex rules (row.flatMap Lexeme.spelling) = row := by
  induction h with
  | nil => simp [lex]
  | @cons l ls hfirst _ ih =>
    obtain ⟨c, s, htext, hone⟩ := lexOne_of_placed hrules hfirst
    rw [List.flatMap_cons, htext, lex, hone, ih]

private theorem openRegionsFrom_of_row (line : Nat) {row : List Lexeme} (h : Row rules row) :
    openRegionsFrom line row = [] := by
  induction h generalizing line with
  | nil => rfl
  | cons hfirst _ ih =>
    rw [openRegionsFrom_cons, hfirst.openKind?_eq_none, ih]
    rfl

/-- The lexemes of a text that leaves nothing open stand in a row. -/
theorem row_lex (hrules : rules.Regular) {content : List Char} (hclosed : ∀ l ∈ lex rules content, l.openKind? = none) :
    Row rules (lex rules content) := by
  induction content using lex.induct rules with
  | case1 =>
    rw [lex]
    exact .nil
  | case2 c s _ ih =>
    rw [lex] at hclosed ⊢
    obtain ⟨hfirst, hrest⟩ := List.forall_mem_cons.1 hclosed
    refine .cons ?_ (ih hrest)
    rw [flatMap_spelling_lex]
    exact placed_lexOne hrules hfirst

/-! ### The languages -/

private theorem unbordered_starSlash : Text.Unbordered ['*', '/'] := by
  intro part hprefix hsuffix
  rw [List.suffix_cons_iff, List.suffix_cons_iff, List.suffix_nil] at hsuffix
  rcases hsuffix with rfl | rfl | rfl
  · exact .inr rfl
  · simp at hprefix
  · exact .inl rfl

private theorem regular_rules (language : String) : (lexRulesOf language).Regular := by
  refine ⟨opensInLine_rules language, ?_, ?_, ?_, ?_, ?_⟩ <;> unfold lexRulesOf <;> split_ifs
  all_goals simp [Extract.Python.rules, Extract.JavaScript.rules, Extract.Php.rules, unbordered_starSlash]

/-- Masking goes lexeme by lexeme.  The text of lexemes in a row is masked by blanking the comments and the bodies of the
literals among them, and has no problems; and every text without problems is the text of one such row. -/
theorem mask_blanks_lexemes (language : String) :
    (∀ row, Row (lexRulesOf language) row →
      mask (lexRulesOf language) (row.flatMap Lexeme.spelling) = row.flatMap Lexeme.masked ∧
      openRegions (lexRulesOf language) (row.flatMap Lexeme.spelling) = []) ∧
    ∀ content, openRegions (lexRulesOf language) content = [] →
      ∃! row, Row (lexRulesOf language) row ∧ row.flatMap Lexeme.spelling = content := by
  have hrules := regular_rules language
  constructor
  · intro row hrow
    have hlex := lex_of_row hrules hrow
    unfold mask openRegions
    rw [hlex]
    exact ⟨rfl, openRegionsFrom_of_row 1 hrow⟩
  · intro content hclosed
    refine ⟨lex (lexRulesOf language) content, ⟨row_lex hrules (openKind?_of_openRegions hclosed), flatMap_spelling_lex _ _⟩, ?_⟩
    rintro row ⟨hrow, rfl⟩
    exact (lex_of_row hrules hrow).symm

/-- An empty literal beside code, an escaped quote, a quote in a comment, and one in a literal of three quotes. -/
def quotedRow : List Lexeme :=
  [.code 'x', .code '=', .literal ['\''] [] true, .code '+', .literal ['\''] ['a', '\\', '\'', 'b'] true,
    .lineComment ['#', '"'], .lineEnd, .literal ['"', '"', '"'] ['q', '"', '\n'] true]

theorem quotedRow_is_masked :
    Row (lexRulesOf "python") quotedRow ∧
      quotedRow.flatMap Lexeme.spelling = "x=''+'a\\'b'#\"\n\"\"\"q\"\n\"\"\"".toList ∧
      mask (lexRulesOf "python") (quotedRow.flatMap Lexeme.spelling) =
        "x=''+'    '  \n\"\"\"  \n\"\"\"".toList ∧
      openRegions (lexRulesOf "python") (quotedRow.flatMap Lexeme.spelling) = [] := by
  have hlex : lex (lexRulesOf "python") (quotedRow.flatMap Lexeme.spelling) = quotedRow := by cbv
  have hrow : Row (lexRulesOf "python") quotedRow := by
    rw [← hlex]
    refine row_lex (regular_rules "python") ?_
    rw [hlex]
    simp [quotedRow, Lexeme.openKind?]
  obtain ⟨hmask, hregions⟩ := (mask_blanks_lexemes "python").1 quotedRow hrow
  exact ⟨hrow, rfl, hmask, hregions⟩

end Source

end CallIndex
