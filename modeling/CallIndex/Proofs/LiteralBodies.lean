import CallIndex.Proofs.Concatenation
import CallIndex.Proofs.IndentationBlocks
import CallIndex.Proofs.StoppingPlaces

/-!
# Bodies of literals

A scan tells the declarations of a source by its masked lines, and a literal between tripled quotes may run over several of
them.  Its body is blanked, so these lines declare nothing.  But the last one starts with the closing quotes, and like every
line outside of brackets it closes the scopes that are not indented less than it is.  What stands in the body makes no
difference beyond that: two bodies that leave the same declarations open give the same declarations, on other lines.

* `lex_append_of_endsInCode`: texts of which the first ends in code are lexed one after the other.
* `lines_around` and `Frame.readAll_around`: the masked lines of a literal, and the scan over them.
* `openBehind`: the declarations that are open behind a literal.
* `literal_body_keeps_declarations`: the declarations around a literal do not depend on its body otherwise.
-/

namespace CallIndex.Extract.Python

open Source
open Text (Scan)

/-! ### Texts in a row -/

private theorem lexOne_rules (c : Char) (s : List Char) : lexOne rules c s =
    if c = '\n' then (.lineEnd, s)
    else if '#' = c then (.lineComment ((c :: s).takeWhile (· ≠ '\n')), (c :: s).dropWhile (· ≠ '\n'))
    else if c = '"' ∨ c = '\'' then lexLiteral rules c s
    else (.code c, s) := by
  simp [lexOne, rules, List.isPrefixOf]

/-- A lexeme behind which code may follow at once: a line comment would take it along, and two quotes could be the first
two of three. -/
def EndsInCode : Lexeme → Prop
  | .lineComment _ => False
  | .literal delimiter body _ => delimiter.length = 1 → body ≠ []
  | _ => True

/-- What follows a literal that ends in code does not count for its opening quotes. -/
private theorem isPrefixOf_quotes_append {q : Char} (hq : q ≠ '\\') {s : List Char}
    (hclosed : (lexLiteral rules q s).1.openKind? = none)
    (hend : (lexLiteral rules q s).2 = [] → EndsInCode (lexLiteral rules q s).1) (t : List Char) :
    [q, q].isPrefixOf (s ++ t) = [q, q].isPrefixOf s := by
  rcases s with _ | ⟨c, _ | ⟨d, s⟩⟩
  · simp [lexLiteral, closeLiteral?, Lexeme.openKind?, rules] at hclosed
  · by_cases hc : q = c
    · subst hc
      simp [lexLiteral, closeLiteral?, EndsInCode, rules, Text.dropFront?, hq] at hend
    · simp [List.isPrefixOf, hc]
  · exact Text.isPrefixOf_append (by simp) t

/-- Text behind a lexeme that ends in code does not reach into it. -/
private theorem keptApart_of_endsInCode {c : Char} {s : List Char} (hclosed : (lexOne rules c s).1.openKind? = none)
    (hend : (lexOne rules c s).2 = [] → EndsInCode (lexOne rules c s).1) (t : List Char) : KeptApart rules c s t where
  blockComments := by simp [rules]
  lineComments := by simp [rules, List.isPrefixOf]
  lineEnd := by
    intro hmark
    have hmark : '#' = c := by simpa [rules, List.isPrefixOf] using hmark
    subst hmark
    rw [lexOne_rules] at hend
    by_contra hnone
    refine hend (List.dropWhile_eq_nil_iff.2 fun d hd => ?_)
    simpa using ne_of_mem_of_not_mem hd hnone
  quotes := by
    intro _ hquote hliteral
    have hescape : c ≠ '\\' := by
      rintro rfl
      simp [rules] at hquote
    rw [hliteral] at hclosed hend
    exact isPrefixOf_quotes_append hescape hclosed hend t

/-- Texts of which the first leaves nothing open and ends in code are lexed one after the other. -/
theorem lex_append_of_endsInCode {s t : List Char} (hclosed : ∀ l ∈ lex rules s, l.openKind? = none)
    (hend : ∀ l ∈ (lex rules s).getLast?, EndsInCode l) : lex rules (s ++ t) = lex rules s ++ lex rules t := by
  refine lex_append (fun s => ∀ l ∈ (lex rules s).getLast?, EndsInCode l) ?_ ?_ hend hclosed
  · intro c s hend hfirst
    refine keptApart_of_endsInCode hfirst (fun hnil => hend _ ?_) t
    rw [lex, hnil, lex]
    rfl
  · intro c s hend l hl
    refine hend l ?_
    rw [lex, List.getLast?_cons, Option.mem_def.1 hl]
    rfl

/-! ### A literal between two texts -/

/-- A literal between tripled quotes. -/
def tripled (body : List Char) : List Char :=
  ['"', '"', '"'] ++ body ++ ['"', '"', '"']

/-- A body in which no quote and no backslash stands. -/
def Plain (body : List Char) : Prop :=
  '"' ∉ body ∧ '\\' ∉ body

instance (body : List Char) : Decidable (Plain body) :=
  inferInstanceAs (Decidable (_ ∧ _))

private theorem lex_tripled {body : List Char} (hbody : Plain body) (after : List Char) :
    lex rules (tripled body ++ after) = .literal ['"', '"', '"'] body true :: lex rules after := by
  have hclose : closeLiteral? ['"', '"', '"'] true (body ++ (['"', '"', '"'] ++ after)) = some (body, after) :=
    closeLiteral?_of_notMem hbody.1 hbody.2 (by decide) after
  have hone : lexOne rules '"' (['"', '"'] ++ (body ++ (['"', '"', '"'] ++ after))) =
      (.literal ['"', '"', '"'] body true, after) := by
    rw [lexOne_rules]
    simp only [Char.reduceEq, ↓reduceIte, true_or]
    simp only [lexLiteral, rules, List.cons_append, List.nil_append] at hclose ⊢
    simp [hclose]
  have htext : tripled body ++ after = '"' :: (['"', '"'] ++ (body ++ (['"', '"', '"'] ++ after))) := by
    simp [tripled]
  rw [htext, lex, hone]

/-- Masking blanks the body of the literal, and the texts on both sides stand for themselves. -/
private theorem mask_around {before body : List Char} (hmasked : ∀ l ∈ lex rules before, l.openKind? = none)
    (hend : ∀ l ∈ (lex rules before).getLast?, EndsInCode l) (hbody : Plain body) (after : List Char) :
    mask rules (before ++ (tripled body ++ after)) =
      mask rules before ++ (tripled (Lexeme.blank body) ++ mask rules after) := by
  unfold mask
  rw [lex_append_of_endsInCode hmasked hend, lex_tripled hbody]
  simp [tripled, Lexeme.masked]

/-! ### Lines that the literal takes part in -/

private theorem stopsAt_identifier : Scan.StopsAt '"' (· = ·) identifier identifier :=
  (Scan.StopsAt.one (by decide)).bind fun a b hab => by
    subst hab
    exact (Scan.StopsAt.run (by decide)).bind fun w w' hw => .pure (by rw [hw])

private theorem stopsAt_decorator : Scan.StopsAt '"' (· = ·) decorator decorator :=
  (Scan.StopsAt.blanks (by decide)).bind fun _ _ _ => (Scan.StopsAt.char (by decide)).bind fun _ _ _ =>
    (Scan.StopsAt.blanks (by decide)).bind fun _ _ _ => (Scan.StopsAt.run1 (by decide)).bind fun w w' hw =>
      .pure (by rw [hw])

private theorem stopsAt_classHead : Scan.StopsAt '"' (fun a b => a.1 = b.1) classHead classHead :=
  (Scan.StopsAt.blanks (by decide)).bind fun _ _ _ => (Scan.StopsAt.text (by decide)).bind fun _ _ _ =>
    (Scan.StopsAt.blanks1 (by decide)).bind fun _ _ _ => stopsAt_identifier.bind fun name name' hname =>
      (Scan.StopsAt.blanks (by decide)).bind fun _ _ _ =>
        (((Scan.StopsAt.char (by decide)).bind fun _ _ _ => .rest).maybe).bind fun _ _ _ => .pure hname

private theorem stopsAt_defHead : Scan.StopsAt '"' (fun a b => a.name = b.name) defHead defHead :=
  (Scan.StopsAt.blanks (by decide)).bind fun _ _ _ =>
    (((Scan.StopsAt.text (by decide)).bind fun _ _ _ => .blanks1 (by decide)).present).bind fun _ _ _ =>
      (Scan.StopsAt.text (by decide)).bind fun _ _ _ => (Scan.StopsAt.blanks1 (by decide)).bind fun _ _ _ =>
        stopsAt_identifier.bind fun name name' hname => (Scan.StopsAt.blanks (by decide)).bind fun _ _ _ =>
          (Scan.StopsAt.char (by decide)).bind fun _ _ _ => Scan.StopsAt.rest.bind fun _ _ _ => .pure hname

/-- What a line declares is told before its first quote. -/
private theorem headOn?_quote (s y z : List Char) : headOn? (s ++ '"' :: y) = headOn? (s ++ '"' :: z) := by
  unfold headOn?
  rcases stopsAt_decorator.firstOf_cases s y z with ⟨hy, hz⟩ | ⟨a, b, hy, hz, -⟩
  · rcases stopsAt_classHead.firstOf_cases s y z with ⟨hy', hz'⟩ | ⟨a, b, hy', hz', hab⟩
    · rcases stopsAt_defHead.firstOf_cases s y z with ⟨hy'', hz''⟩ | ⟨a, b, hy'', hz'', hab⟩
      · simp only [hy, hz, hy', hz', hy'', hz'']
      · simp only [hy, hz, hy', hz', hy'', hz'', Option.map_some, hab]
    · simp only [hy, hz, hy', hz', hab]
  · simp only [hy, hz]

private theorem indentWidth_quote (s y z : List Char) : indentWidth (s ++ '"' :: y) = indentWidth (s ++ '"' :: z) := by
  induction s with
  | nil => rfl
  | cons c s ih =>
    by_cases hspace : c = ' '
    · simp [hspace, indentWidth, ih]
    · by_cases htab : c = '\t'
      · simp [htab, indentWidth, ih]
      · simp [hspace, htab, indentWidth]

/-- A text of `n` spaces. -/
def spaces (n : Nat) : List Char :=
  List.replicate n ' '

private theorem indentWidth_spaces (n : Nat) (y : List Char) : indentWidth (spaces n ++ '"' :: y) = n := by
  induction n with
  | zero => rfl
  | succ n ih =>
    rw [spaces, List.replicate_succ, List.cons_append, indentWidth]
    exact congrArg (· + 1) ih

private theorem headOn?_spaces (n : Nat) (y : List Char) : headOn? (spaces n ++ '"' :: y) = none := by
  have hdrop : ∀ t : List Char, (spaces n ++ t).dropWhile Text.isBlank = t.dropWhile Text.isBlank := by
    intro t
    induction n with
    | zero => rfl
    | succ n ih =>
      rw [spaces, List.replicate_succ, List.cons_append, List.dropWhile_cons_of_pos (by decide)]
      exact ih
  -- every head starts with blanks, so the spaces are passed over
  have hblanks : ∀ {α : Type} (k : Unit → Scan α), (Scan.blanks >>= k) (spaces n ++ ['"']) = (Scan.blanks >>= k) ['"'] := by
    intro α k
    change k () _ = k () _
    rw [hdrop]
  have hsame : headOn? (spaces n ++ ['"']) = headOn? ['"'] := by
    unfold headOn? Scan.firstOf
    have hdecorator : decorator (spaces n ++ ['"']) = decorator ['"'] := hblanks _
    have hclass : classHead (spaces n ++ ['"']) = classHead ['"'] := hblanks _
    have hdef : defHead (spaces n ++ ['"']) = defHead ['"'] := hblanks _
    rw [hdecorator, hclass, hdef]
  rw [headOn?_quote _ y [], hsame]
  rfl

/-- A text in which no bracket stands. -/
def BracketFree (s : List Char) : Prop :=
  ∀ c ∈ s, isOpening c = false ∧ isClosing c = false

private theorem BracketFree.append {s t : List Char} (hs : BracketFree s) (ht : BracketFree t) :
    BracketFree (s ++ t) := by
  intro c hc
  rcases List.mem_append.1 hc with hc | hc
  · exact hs c hc
  · exact ht c hc

private theorem bracketFree_spaces (n : Nat) : BracketFree (spaces n) := by
  intro c hc
  rw [List.eq_of_mem_replicate hc]
  decide

private theorem bracketFree_quotes : BracketFree ['"', '"', '"'] := by
  intro c hc
  simp only [List.mem_cons, List.not_mem_nil, or_false, or_self] at hc
  rw [hc]
  decide

/-- A text that closes no more brackets than are open is counted on its own. -/
private theorem depthAfter_append {depth : Nat} {s : List Char}
    (hs : s.countP isClosing ≤ depth + s.countP isOpening) (t : List Char) :
    depthAfter depth (s ++ t) = depthAfter (depthAfter depth s) t := by
  unfold depthAfter
  rw [List.countP_append, List.countP_append]
  omega

private theorem BracketFree.depthAfter_append {s : List Char} (hs : BracketFree s) (depth : Nat) (t : List Char) :
    depthAfter depth (s ++ t) = depthAfter depth t := by
  have hopening : s.countP isOpening = 0 := List.countP_eq_zero.2 fun c hc => by simp [(hs c hc).1]
  have hclosing : s.countP isClosing = 0 := List.countP_eq_zero.2 fun c hc => by simp [(hs c hc).2]
  unfold depthAfter
  rw [List.countP_append, List.countP_append, hopening, hclosing, Nat.zero_add, Nat.zero_add]

private theorem depthAfter_spaces (depth n : Nat) : depthAfter depth (spaces n) = depth := by
  have := (bracketFree_spaces n).depthAfter_append depth []
  rwa [List.append_nil] at this

namespace Frame

/-- The scopes and the outline behind a line are told before its first quote. -/
private theorem read_quote (f : Frame) (number : Nat) (s y z : List Char) : f.read number (s ++ '"' :: y) =
    { f.read number (s ++ '"' :: z) with depth := depthAfter f.depth (s ++ '"' :: y) } := by
  have hblank : ∀ t : List Char, Text.allBlank (s ++ '"' :: t) = false := by
    intro t
    have hquote : Text.isBlank '"' = false := by decide
    simp [Text.allBlank, hquote]
  unfold read readSignificant
  rw [hblank, hblank, headOn?_quote s y z, indentWidth_quote s y z]
  split
  · rfl
  · rfl

/-- A line that starts with a quote behind spaces declares nothing; outside of brackets it closes scopes. -/
private theorem read_spaces (f : Frame) (number n : Nat) (y : List Char) : f.read number (spaces n ++ '"' :: y) =
    { f with
      scopes := if 0 < f.depth then f.scopes else f.scopes.dropWhile (n ≤ ·.indent)
      depth := depthAfter f.depth ('"' :: y) } := by
  have hblank : Text.allBlank (spaces n ++ '"' :: y) = false := by
    have hquote : Text.isBlank '"' = false := by decide
    simp [Text.allBlank, hquote]
  unfold read readSignificant
  rw [hblank, headOn?_spaces, indentWidth_spaces, (bracketFree_spaces n).depthAfter_append]
  by_cases hdepth : 0 < f.depth
  · simp [hdepth]
  · simp [hdepth, dedent]

/-- Blanked lines are passed over. -/
private theorem readAll_spaces (f : Frame) (number : Nat) (lines : List (List Char)) :
    f.readAll number (lines.map fun line => spaces line.length) = f := by
  induction lines generalizing number with
  | nil => rfl
  | cons line lines ih =>
    have hblank : Text.allBlank (spaces line.length) = true := by
      have hspace : Text.isBlank ' ' = true := by decide
      simp [Text.allBlank, spaces, hspace]
    have hread : f.read number (spaces line.length) = f := by
      unfold read
      rw [hblank, depthAfter_spaces, Bool.or_true, if_pos rfl]
    rw [List.map_cons, readAll, hread, ih]

end Frame

/-! ### The lines around a literal -/

private theorem lines_blank (s : List Char) :
    Text.lines (Lexeme.blank s) = (Text.lines s).map fun line => spaces line.length := by
  induction s with
  | nil => rfl
  | cons c s ih =>
    by_cases hc : c = '\n'
    · have hblank : Lexeme.blank (c :: s) = '\n' :: Lexeme.blank s := by simp [Lexeme.blank, hc]
      rw [hblank, hc, Text.lines_lineEnd_cons, Text.lines_lineEnd_cons, ih]
      rfl
    · have hblank : Lexeme.blank (c :: s) = ' ' :: Lexeme.blank s := by simp [Lexeme.blank, hc]
      rw [hblank, Text.lines_cons (by decide), Text.lines_cons hc, ih]
      cases Text.lines s <;> rfl

section

variable {body last start behind : List Char} {init after : List (List Char)}

/-- The lines of a masked text around a literal with the lines `init` and `last`.  It starts behind `start`, the last of
the lines before it, and `behind` stands behind it on its last line. -/
theorem lines_around {masked rest : List Char} {before : List (List Char)} (hmasked : Text.lines masked = before ++ [start])
    (hbody : Text.lines body = init ++ [last]) (hrest : Text.lines rest = behind :: after) :
    Text.lines (masked ++ (tripled (Lexeme.blank body) ++ rest)) = before ++
      (init.map (fun line => spaces line.length) ++ (spaces last.length ++ (['"', '"', '"'] ++ behind)) :: after).modifyHead
        (start ++ ['"', '"', '"'] ++ ·) := by
  have hstart : '\n' ∉ start ++ ['"', '"', '"'] := by
    have hmem : start ∈ Text.lines masked := by simp [hmasked]
    simpa using Text.notMem_of_mem_lines hmem
  have hlast : '\n' ∉ spaces last.length ++ ['"', '"', '"'] := by
    simp [spaces]
  have hblank : Text.lines (Lexeme.blank body) = init.map (fun line => spaces line.length) ++ [spaces last.length] := by
    rw [lines_blank, hbody, List.map_append]
    rfl
  have htext : start ++ (tripled (Lexeme.blank body) ++ rest) =
      (start ++ ['"', '"', '"']) ++ (Lexeme.blank body ++ (['"', '"', '"'] ++ rest)) := by
    simp [tripled]
  rw [Text.lines_append hmasked, htext, Text.lines_append_of_notMem hstart, Text.lines_append hblank,
    ← List.append_assoc (spaces _), Text.lines_append_of_notMem hlast, hrest]
  simp

namespace Frame

/-- The frame behind the line on which a literal ends and `behind` follows.  The last line of a literal that spans lines
has closed scopes, unless the literal stands in brackets. -/
def behindLiteral (f : Frame) (body behind : List Char) : Frame :=
  { f with
    scopes := if '\n' ∉ body ∨ 0 < f.depth then f.scopes
      else f.scopes.dropWhile ((Text.lastLine body).length ≤ ·.indent)
    depth := depthAfter f.depth behind }

/-- A scan over the lines of a literal, which starts on the line `number` behind `start`. -/
theorem readAll_around (f : Frame) (number : Nat) (hbody : Text.lines body = init ++ [last])
    (hstart : start.countP isClosing ≤ f.depth + start.countP isOpening) :
    f.readAll number ((init.map (fun line => spaces line.length) ++
        (spaces last.length ++ (['"', '"', '"'] ++ behind)) :: after).modifyHead (start ++ ['"', '"', '"'] ++ ·)) =
      ((f.read number (start ++ ['"', '"', '"'])).behindLiteral body behind).readAll
        (number + body.count '\n' + 1) after := by
  have hlength : init.length = body.count '\n' := by
    have := congrArg List.length hbody
    rw [Text.length_lines, List.length_append, List.length_singleton] at this
    omega
  have hdepth : ∀ t, depthAfter f.depth (start ++ ['"', '"', '"'] ++ t) =
      depthAfter (depthAfter f.depth (start ++ ['"', '"', '"'])) t := by
    intro t
    apply depthAfter_append
    simpa [isOpening, isClosing] using hstart
  have hread : ∀ t, f.read number (start ++ ['"', '"', '"'] ++ t) = { f.read number (start ++ ['"', '"', '"']) with
      depth := depthAfter (f.read number (start ++ ['"', '"', '"'])).depth t } := by
    intro t
    rw [depth_read, ← hdepth, List.append_assoc]
    exact read_quote f number start ('"' :: '"' :: t) ['"', '"']
  cases init with
  | nil =>
    have hline : '\n' ∉ body := List.count_eq_zero.1 hlength.symm
    have hfree := (bracketFree_spaces last.length).append bracketFree_quotes
    rw [List.map_nil, List.nil_append, List.modifyHead_cons, readAll, hread, ← hlength, ← List.append_assoc (spaces _),
      hfree.depthAfter_append]
    simp [behindLiteral, hline]
  | cons first init =>
    have hline : '\n' ∈ body := by
      rw [← List.count_pos_iff, ← hlength]
      simp
    rw [List.map_cons, List.cons_append, List.modifyHead_cons, readAll, hread, depthAfter_spaces, readAll_append,
      readAll_spaces, readAll, List.cons_append, read_spaces, ← List.cons_append, bracketFree_quotes.depthAfter_append]
    have hnumber : number + body.count '\n' = number + 1 + init.length := by
      rw [← hlength, List.length_cons]
      omega
    simp [behindLiteral, hline, Text.lastLine_eq hbody, hnumber]

end Frame

end

/-! ### Scans with other line numbers -/

/-- The frame with its declarations on other lines. -/
def Frame.mapLines (move : Int → Int) (f : Frame) : Frame :=
  { f with outline := f.outline.mapLines move }

section

variable {move : Int → Int}

namespace Frame

private theorem enterClass_mapLines (f : Frame) {number number' : Nat} (hmove : move number = number') (indent : Nat)
    (name : String) :
    (f.mapLines move).enterClass number' indent name = (f.enterClass number indent name).mapLines move := by
  by_cases hparent : f.scopes.head?.all fun parent => parent.kind = .classBody
  · simp [enterClass, mapLines, hparent, Outline.addClass_mapLines, hmove]
  · simp [enterClass, mapLines, hparent]

private theorem enterDef_mapLines (f : Frame) {number number' : Nat} (hmove : move number = number') (indent : Nat)
    (name : String) :
    (f.mapLines move).enterDef number' indent name = (f.enterDef number indent name).mapLines move := by
  cases hparent : f.scopes.head? with
  | none => simp [enterDef, mapLines, hparent, Outline.addFunction_mapLines, hmove]
  | some parent =>
    by_cases hkind : parent.kind = .classBody
    · simp [enterDef, mapLines, hparent, hkind, Outline.addMethod_mapLines, hmove]
    · simp [enterDef, mapLines, hparent, hkind]

/-- A line moves along with what it declares. -/
private theorem read_mapLines (f : Frame) {number number' : Nat} (hmove : move number = number') (code : List Char) :
    (f.mapLines move).read number' code = (f.read number code).mapLines move := by
  have hsignificant : (f.mapLines move).readSignificant number' code = (f.readSignificant number code).mapLines move := by
    unfold readSignificant
    cases headOn? code with
    | none => rfl
    | some head =>
      cases head with
      | ofClass name => exact enterClass_mapLines (f.dedent _) hmove _ name
      | ofDef name => exact enterDef_mapLines (f.dedent _) hmove _ name
  have hdepth : (f.mapLines move).depth = f.depth := rfl
  unfold read
  rw [hsignificant, hdepth]
  split
  · rfl
  · rfl

private theorem readAll_mapLines (f : Frame) (number number' : Nat) (hmove : ∀ i : Nat, move (number + i) = number' + i)
    (codes : List (List Char)) : (f.mapLines move).readAll number' codes = (f.readAll number codes).mapLines move := by
  induction codes generalizing f number number' with
  | nil => rfl
  | cons code codes ih =>
    have hhere : move number = number' := by simpa using hmove 0
    rw [readAll, readAll, read_mapLines f hhere, ih]
    intro i
    have := hmove (i + 1)
    push_cast at this ⊢
    rw [show (number : Int) + 1 + i = number + (i + 1) by omega, this]
    omega

end Frame

end

/-! ### Declarations around a literal -/

/-- The masked lines of a text, the last of which goes on with the quotes that open a literal. -/
def linesUpTo (before : List Char) : List (List Char) :=
  Text.lines (mask rules before ++ ['"', '"', '"'])

/-- The last line closes no bracket that is not open. -/
def ClosesOpened (codes : List (List Char)) : Prop :=
  (codes.getLastD []).countP isClosing ≤ depthBefore codes (codes.length - 1) + (codes.getLastD []).countP isOpening

instance (codes : List (List Char)) : Decidable (ClosesOpened codes) :=
  inferInstanceAs (Decidable (_ ≤ _))

/-- The declarations that are open behind a literal that starts at the end of the lines.  If it spans lines and does not
stand in brackets, its last line closes those that are not indented less than this line is long. -/
def openBehind (codes : List (List Char)) (body : List Char) : List Nat :=
  if '\n' ∉ body ∨ 0 < depthBefore codes codes.length then openHeads codes codes.length
  else (openHeads codes codes.length).filter fun h => indentAt codes h < (Text.lastLine body).length

/-- Lines behind the line `number` are moved by `distance`. -/
def movedBehind (number : Nat) (distance : Int) (line : Int) : Int :=
  if line ≤ number then line else line + distance

section

variable {before body body' : List Char}

private theorem linesUpTo_eq {start : List Char} {init : List (List Char)}
    (h : Text.lines (mask rules before) = init ++ [start]) :
    linesUpTo before = init ++ [start ++ ['"', '"', '"']] := by
  have hstart : '\n' ∉ start ++ ['"', '"', '"'] := by
    have hmem : start ∈ Text.lines (mask rules before) := by simp [h]
    simpa using Text.notMem_of_mem_lines hmem
  rw [linesUpTo, Text.lines_append h, Text.lines_of_notMem hstart]

private theorem length_linesUpTo (before : List Char) : (linesUpTo before).length = (Text.lines before).length := by
  obtain ⟨init, start, hlines⟩ : ∃ init start, Text.lines (mask rules before) = init ++ [start] :=
    ⟨_, _, (Text.dropLast_append_lastLine _).symm⟩
  rw [linesUpTo_eq hlines, (forall₂_lines_mask rules before).length_eq, hlines]
  simp

/-- The declarations of a source with a literal in it, by a scan that starts behind the literal. -/
private theorem bare_findings_around (hmasked : openRegions rules before = [])
    (hend : ∀ l ∈ (lex rules before).getLast?, EndsInCode l) (hbrackets : ClosesOpened (linesUpTo before))
    (hbody : Plain body) {after behind : List Char} {rest : List (List Char)}
    (hafter : Text.lines (mask rules after) = behind :: rest) :
    (findings (before ++ (tripled body ++ after))).outline.bare =
      (((({} : Frame).readAll 1 (linesUpTo before)).behindLiteral body behind).readAll
        ((linesUpTo before).length + body.count '\n' + 1) rest).outline := by
  obtain ⟨init, start, hlines⟩ : ∃ init start, Text.lines (mask rules before) = init ++ [start] :=
    ⟨_, _, (Text.dropLast_append_lastLine _).symm⟩
  obtain ⟨init', last, hbodyLines⟩ : ∃ init' last, Text.lines body = init' ++ [last] :=
    ⟨_, _, (Text.dropLast_append_lastLine _).symm⟩
  have hupTo := linesUpTo_eq hlines
  have hdepth : (({} : Frame).readAll 1 init).depth = depthBefore (linesUpTo before) init.length := by
    rw [(tracks_readAll init).2, hupTo, depthBefore, depthBefore, List.take_length, List.take_left]
  -- the quotes behind `start` are no brackets, so what holds of the last line holds of `start`
  have hstart : start.countP isClosing ≤ (({} : Frame).readAll 1 init).depth + start.countP isOpening := by
    rw [hdepth]
    rw [ClosesOpened, hupTo] at hbrackets
    rw [hupTo]
    simpa [isOpening, isClosing] using hbrackets
  have hframe : (findings (before ++ (tripled body ++ after))).outline.bare =
      (({} : Frame).readAll 1 (Text.lines (mask rules (before ++ (tripled body ++ after))))).outline := by
    rw [← frame_readSource]
    rfl
  rw [hframe, mask_around (openKind?_of_openRegions hmasked) hend hbody, lines_around hlines hbodyLines hafter,
    Frame.readAll_append, Frame.readAll_around _ _ hbodyLines hstart, hupTo, Frame.readAll_append]
  simp [Frame.readAll, Nat.add_comm 1]

/-- The scopes behind a literal are as many as the declarations that are open there, counted from the outermost. -/
private theorem scopes_behindLiteral (codes : List (List Char)) (body behind : List Char) :
    ((({} : Frame).readAll 1 codes).behindLiteral body behind).scopes <:+ (({} : Frame).readAll 1 codes).scopes ∧
      ((({} : Frame).readAll 1 codes).behindLiteral body behind).scopes.length = (openBehind codes body).length := by
  obtain ⟨htracks, hdepth⟩ := tracks_readAll codes
  have hdedent := htracks.dedent (Text.lastLine body).length
  unfold Frame.behindLiteral openBehind
  rw [hdepth]
  dsimp only
  split
  · exact ⟨List.suffix_rfl, htracks.scopes.length_eq⟩
  · exact ⟨List.dropWhile_suffix _, hdedent.scopes.length_eq⟩

private theorem behindLiteral_congr {codes : List (List Char)} (hsame : openBehind codes body = openBehind codes body')
    (behind : List Char) :
    (({} : Frame).readAll 1 codes).behindLiteral body behind =
      (({} : Frame).readAll 1 codes).behindLiteral body' behind := by
  obtain ⟨hsuffix, hlength⟩ := scopes_behindLiteral codes body behind
  obtain ⟨hsuffix', hlength'⟩ := scopes_behindLiteral codes body' behind
  rw [hsame, ← hlength'] at hlength
  -- both are what is left of one stack, and they are equally long
  have hscopes := (List.suffix_of_suffix_length_le hsuffix hsuffix' hlength.le).eq_of_length hlength
  exact congrArg (fun scopes => { ({} : Frame).readAll 1 codes with
    scopes := scopes, depth := depthAfter (({} : Frame).readAll 1 codes).depth behind }) hscopes

/-- Two bodies of a literal that leave the same declarations open make no difference to what is declared before, around
and behind the literal; what stands behind it moves by the difference of their line ends. -/
theorem literal_body_keeps_declarations (hmasked : openRegions rules before = [])
    (hend : ∀ l ∈ (lex rules before).getLast?, EndsInCode l) (hbrackets : ClosesOpened (linesUpTo before))
    (hbody : Plain body) (hbody' : Plain body')
    (hsame : openBehind (linesUpTo before) body = openBehind (linesUpTo before) body') (after : List Char) :
    (findings (before ++ (tripled body' ++ after))).outline.bare =
      (findings (before ++ (tripled body ++ after))).outline.bare.mapLines
        (movedBehind (Text.lines before).length (body'.count '\n' - body.count '\n')) := by
  obtain ⟨behind, rest, hafter⟩ := List.exists_cons_of_ne_nil (Text.lines_ne_nil (mask rules after))
  rw [bare_findings_around hmasked hend hbrackets hbody hafter, bare_findings_around hmasked hend hbrackets hbody' hafter,
    ← length_linesUpTo, ← behindLiteral_congr hsame]
  generalize hframe : (({} : Frame).readAll 1 (linesUpTo before)).behindLiteral body behind = f
  generalize hmove : movedBehind (linesUpTo before).length (body'.count '\n' - body.count '\n') = move
  -- what stands before the literal stays on its lines, and what stands behind it moves
  have hstays : f.mapLines move = f := by
    have hbounds := (tracks_readAll (linesUpTo before)).1.ordered.bounds
    have hlines : ∀ line ∈ f.outline.lines, move line = line := by
      intro line hline
      rw [← hframe] at hline
      have := hbounds line hline
      rw [← hmove, movedBehind, if_pos (by omega)]
    rw [Frame.mapLines, Outline.mapLines_eq_self hlines]
  have hnext : ∀ i : Nat, move (((linesUpTo before).length + body.count '\n' + 1 : Nat) + i) =
      ((linesUpTo before).length + body'.count '\n' + 1 : Nat) + i := by
    intro i
    rw [← hmove, movedBehind, if_neg (by omega)]
    omega
  have hrest := Frame.readAll_mapLines f _ _ hnext rest
  rw [hstays] at hrest
  rw [hrest]
  rfl

end

/-- A method that is broken off where a literal may start. -/
def methodStart : List Char :=
  "class A:\n    def m(self):\n        x = ".toList

/-- What may follow the literal: the rest of the line and a second method. -/
def methodEnd : List Char :=
  "\n    def k(self):\n        pass\n".toList

/-- A literal that ends on a second line, deep enough, leaves the second method in its class. -/
theorem second_method_stays_behind_literal :
    openBehind (linesUpTo methodStart) "a\n        ".toList = [1, 0] ∧
      (findings (methodStart ++ (tripled "a\n        ".toList ++ methodEnd))).outline.bare =
        (findings (methodStart ++ (tripled [] ++ methodEnd))).outline.bare.mapLines
          (movedBehind (Text.lines methodStart).length (("a\n        ".toList).count '\n' - ([] : List Char).count '\n')) := by
  have hlines : linesUpTo methodStart =
      ["class A:".toList, "    def m(self):".toList, "        x = \"\"\"".toList] := by cbv
  have hmasked : openRegions rules methodStart = [] := by cbv
  have hlast : (lex rules methodStart).getLast? = some (.code ' ') := by cbv
  have hopen : openBehind (linesUpTo methodStart) "a\n        ".toList = [1, 0] := by
    rw [hlines]
    decide
  refine ⟨hopen, literal_body_keeps_declarations hmasked ?_ ?_ (by decide) (by decide) ?_ methodEnd⟩
  · simp [hlast, EndsInCode]
  · rw [hlines]
    decide
  · rw [hopen, hlines]
    decide

end CallIndex.Extract.Python
