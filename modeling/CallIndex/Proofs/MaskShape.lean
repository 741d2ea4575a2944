import CallIndex.Extract.JavaScript
import CallIndex.Extract.Php
import CallIndex.Proofs.Lexing
import CallIndex.Proofs.Recogniser
import Mathlib.Data.List.Forall2

/-!
# The shape of a masked text

Masking changes a text place by place: a character stays, or becomes a space, and line ends always stay (`Shows`).  So a
text and its masked form have the same lines of the same lengths, and a column that is found in a masked line may be
used in the raw one.

* `forall₂_mask`: a text and its masked form, place by place.
* `forall₂_lines_mask`: their lines, pairwise.
* `mask_keeps_shape`: all that masking keeps, the stretches of raw text that are read at columns of masked lines, and
  the lines of the regions that are never closed.
-/

namespace CallIndex.Source

open Text (Scan)

variable {rules : LexRules} {content : List Char}

/-! ### Place by place -/

/-- What masking may leave of the character `c`: itself or, unless it ends a line, a space. -/
def Shows (c m : Char) : Prop :=
  m = c ∨ m = ' ' ∧ c ≠ '\n'

theorem Shows.lineEnd_iff {c m : Char} (h : Shows c m) : c = '\n' ↔ m = '\n' := by
  rcases h with rfl | ⟨rfl, hc⟩
  · rfl
  · simp [hc]

private theorem forall₂_shows_self (s : List Char) : List.Forall₂ Shows s s := by
  rw [List.forall₂_same]
  exact fun _ _ => .inl rfl

private theorem forall₂_shows_blank (s : List Char) : List.Forall₂ Shows s (Lexeme.blank s) := by
  rw [Lexeme.blank, List.forall₂_map_right_iff, List.forall₂_same]
  intro c _
  by_cases hc : c = '\n'
  · exact .inl (by simp [hc])
  · exact .inr ⟨by simp [hc], hc⟩

theorem Lexeme.forall₂_masked (l : Lexeme) : List.Forall₂ Shows l.spelling l.masked := by
  cases l with
  | lineEnd => exact forall₂_shows_self _
  | code c => exact forall₂_shows_self _
  | lineComment s => exact forall₂_shows_blank s
  | blockComment s closed => exact forall₂_shows_blank s
  | literal d b closed =>
    exact List.rel_append (List.rel_append (forall₂_shows_self d) (forall₂_shows_blank b)) (forall₂_shows_self _)

/-- A text and its masked form, place by place. -/
theorem forall₂_mask (rules : LexRules) (content : List Char) : List.Forall₂ Shows content (mask rules content) := by
  have h : ∀ ls : List Lexeme, List.Forall₂ Shows (ls.flatMap Lexeme.spelling) (ls.flatMap Lexeme.masked) := by
    intro ls
    induction ls with
    | nil => exact .nil
    | cons l ls ih => exact List.rel_append l.forall₂_masked ih
  have hlex := h (lex rules content)
  rwa [flatMap_spelling_lex] at hlex

/-! ### Line by line -/

/-- Texts that have the separator at the same places fall into pieces that are related. -/
private theorem forall₂_splitAtChar {R : Char → Char → Prop} {sep : Char} (hsep : ∀ a b, R a b → (a = sep ↔ b = sep))
    {s t : List Char} (h : List.Forall₂ R s t) :
    List.Forall₂ (List.Forall₂ R) (Text.splitAtChar sep s) (Text.splitAtChar sep t) := by
  induction h with
  | nil => exact .cons .nil .nil
  | @cons a b s t hab _ ih =>
    unfold Text.splitAtChar
    by_cases ha : a = sep
    · simp only [ha, (hsep a b hab).1 ha, ↓reduceIte]
      exact .cons .nil ih
    · have hb : b ≠ sep := fun hb => ha ((hsep a b hab).2 hb)
      simp only [ha, hb, ↓reduceIte]
      generalize Text.splitAtChar sep s = ps, Text.splitAtChar sep t = qs at ih
      cases ih with
      | nil => exact .cons (.cons hab .nil) .nil
      | cons hpiece hpieces => exact .cons (.cons hab hpiece) hpieces

theorem forall₂_lines_mask (rules : LexRules) (content : List Char) :
    List.Forall₂ (List.Forall₂ Shows) (Text.lines content) (Text.lines (mask rules content)) :=
  forall₂_splitAtChar (fun _ _ h => h.lineEnd_iff) (forall₂_mask rules content)

private theorem zipWith_lines {raws codes : List (List Char)} (h : List.Forall₂ (List.Forall₂ Shows) raws codes) :
    (List.zipWith Line.mk raws codes).map Line.raw = raws ∧ (List.zipWith Line.mk raws codes).map Line.code = codes ∧
      ∀ line ∈ List.zipWith Line.mk raws codes, List.Forall₂ Shows line.raw line.code := by
  induction h with
  | nil => exact ⟨rfl, rfl, by simp⟩
  | cons hline _ ih =>
    obtain ⟨hraw, hcode, hshows⟩ := ih
    refine ⟨by simp [hraw], by simp [hcode], ?_⟩
    simp only [List.zipWith_cons_cons, List.mem_cons, forall_eq_or_imp]
    exact ⟨hline, hshows⟩

theorem map_raw_sourceLines (rules : LexRules) (content : List Char) :
    (sourceLines rules content).map Line.raw = Text.lines content :=
  (zipWith_lines (forall₂_lines_mask rules content)).1

theorem map_code_sourceLines (rules : LexRules) (content : List Char) :
    (sourceLines rules content).map Line.code = Text.lines (mask rules content) :=
  (zipWith_lines (forall₂_lines_mask rules content)).2.1

theorem forall₂_of_mem_sourceLines {line : Line} (h : line ∈ sourceLines rules content) :
    List.Forall₂ Shows line.raw line.code :=
  (zipWith_lines (forall₂_lines_mask rules content)).2.2 line h

theorem length_eq_of_mem_sourceLines {line : Line} (h : line ∈ sourceLines rules content) :
    line.raw.length = line.code.length :=
  (forall₂_of_mem_sourceLines h).length_eq

/-! ### Stretches of raw text -/

/-- A stretch of a line between two columns. -/
structure Stretch where
  line : Line
  start : Nat
  stop : Nat

/-- The raw text of a stretch. -/
def Stretch.text (x : Stretch) : List Char :=
  (x.line.raw.take x.stop).drop x.start

/-- The stretch lies in the raw text of one of the lines. -/
structure Stretch.Within (x : Stretch) (lines : List Line) : Prop where
  line_mem : x.line ∈ lines
  start_le : x.start ≤ x.stop
  stop_le : x.stop ≤ x.line.raw.length

private theorem seekClosing_cons {depth : Int} {c : Char} {s : List Char} {offset : Nat}
    (h : seekClosing depth (c :: s) = .found offset) :
    offset = 0 ∧ depth ≠ 0 ∨ ∃ next o, seekClosing next s = .found o ∧ offset = o + 1 := by
  simp only [seekClosing] at h
  generalize hnext : (if isOpening c then depth + 1 else if isClosing c then depth - 1 else depth) = next at h
  split at h
  · rename_i hc
    obtain ⟨hclosing, hzero⟩ : isClosing c = true ∧ next = 0 := by simpa using hc
    refine .inl ⟨(Closing.found.inj h).symm, fun hdepth => ?_⟩
    by_cases hopen : isOpening c <;> simp [hopen, hclosing, hdepth, hzero] at hnext
  · split at h
    · rename_i o ho
      exact .inr ⟨next, o, ho, (Closing.found.inj h).symm⟩
    · cases h

theorem lt_length_of_seekClosing {depth : Int} {s : List Char} {offset : Nat}
    (h : seekClosing depth s = .found offset) : offset < s.length := by
  induction s generalizing depth offset with
  | nil => cases h
  | cons c s ih =>
    rw [List.length_cons]
    rcases seekClosing_cons h with ⟨rfl, -⟩ | ⟨next, o, ho, rfl⟩
    · omega
    · have := ih ho
      omega

/-- Outside of all brackets the first character closes nothing. -/
theorem pos_of_seekClosing_zero {s : List Char} {offset : Nat} (h : seekClosing 0 s = .found offset) : 0 < offset := by
  cases s with
  | nil => cases h
  | cons c s =>
    rcases seekClosing_cons h with ⟨-, hdepth⟩ | ⟨next, o, -, rfl⟩
    · exact absurd rfl hdepth
    · omega

/-- The bracket at a place that counts from the front. -/
theorem bracketTextAt_natCast {lines : List Line} {index : Nat} {line : Line} (hline : lines[index]? = some line)
    (col : Nat) :
    bracketTextAt lines index col =
      match seekClosing 0 (line.code.drop col) with
      | .found offset => .ok (joinPieces [(line.raw.take (col + offset)).drop (col + 1)])
      | .pending depth =>
        match bracketPieces? (bracketLineLimit - 1) depth (lines.drop (index + 1)) with
        | none => .error (.unclosed (index + 1))
        | some pieces => .ok (joinPieces (line.raw.drop (col + 1) :: pieces)) := by
  obtain ⟨hindex, hget⟩ := List.getElem?_eq_some_iff.1 hline
  have hitems : itemsFrom? (index : Int) lines = some (line :: lines.drop (index + 1)) := by
    simp [itemsFrom?, List.drop_eq_getElem_cons hindex, hget]
  have hcode : itemsFrom? (col : Int) line.code = some (line.code.drop col) := by simp [itemsFrom?]
  have hbetween : ∀ stop : Nat, itemsBetween ((col : Int) + 1) stop line.raw = (line.raw.take stop).drop (col + 1) := by
    intro stop
    have hstart : ¬ (col : Int) + 1 < 0 := by omega
    have hstop : ¬ (stop : Int) < 0 := by omega
    simp only [itemsBetween, hstart, hstop, ↓reduceIte, Int.toNat_natCast]
    rfl
  unfold bracketTextAt
  rw [hitems]
  simp only [hcode]
  cases seekClosing 0 (line.code.drop col) with
  | found offset => simp only [← Int.natCast_add, hbetween]
  | pending depth =>
    cases hpieces : bracketPieces? (bracketLineLimit - 1) depth (lines.drop (index + 1)) with
    | none => simp only [hpieces]
    | some pieces => simp only [hpieces, hbetween, List.take_length]

section Lines

variable {lines : List Line} (hlines : ∀ line ∈ lines, line.raw.length = line.code.length)

include hlines

private theorem bracketPieces?_within {budget : Nat} {depth : Int} {rest : List Line} {pieces : List (List Char)}
    (hrest : ∀ line ∈ rest, line ∈ lines) (h : bracketPieces? budget depth rest = some pieces) :
    ∃ xs : List Stretch, pieces = xs.map Stretch.text ∧ ∀ x ∈ xs, x.Within lines := by
  induction rest generalizing budget depth pieces with
  | nil => simp [bracketPieces?] at h
  | cons line rest ih =>
    have hline := hrest line (by simp)
    cases budget with
    | zero => cases h
    | succ budget =>
      simp only [bracketPieces?] at h
      split at h
      · rename_i offset hfound
        cases h
        have hlt := lt_length_of_seekClosing hfound
        have hlength := hlines line hline
        refine ⟨[⟨line, 0, offset⟩], rfl, ?_⟩
        simp only [List.mem_singleton, forall_eq]
        exact ⟨hline, Nat.zero_le _, by dsimp only; omega⟩
      · rename_i depth' _
        obtain ⟨others, hothers, rfl⟩ := Option.map_eq_some_iff.1 h
        obtain ⟨xs, rfl, hxs⟩ := ih (fun l hl => hrest l (by simp [hl])) hothers
        refine ⟨⟨line, 0, line.raw.length⟩ :: xs, by simp [Stretch.text], ?_⟩
        simp only [List.mem_cons, forall_eq_or_imp]
        exact ⟨⟨hline, Nat.zero_le _, Nat.le_refl _⟩, hxs⟩

/-- A bracket at a place of the masked lines is read from stretches of the raw lines, or it is not closed in time. -/
private theorem bracketTextAt_within {index col : Nat} {line : Line} (hline : lines[index]? = some line)
    (hcol : col < line.code.length) :
    (∃ xs : List Stretch, bracketTextAt lines index col = .ok (joinPieces (xs.map Stretch.text)) ∧
      ∀ x ∈ xs, x.Within lines) ∨
    bracketTextAt lines index col = .error (.unclosed (index + 1)) := by
  have hmem : line ∈ lines := List.mem_of_getElem? hline
  have hlength := hlines line hmem
  rw [bracketTextAt_natCast hline]
  split
  · rename_i offset hfound
    have hlt := lt_length_of_seekClosing hfound
    have hpos := pos_of_seekClosing_zero hfound
    rw [List.length_drop] at hlt
    refine .inl ⟨[⟨line, col + 1, col + offset⟩], rfl, ?_⟩
    simp only [List.mem_singleton, forall_eq]
    exact ⟨hmem, by dsimp only; omega, by dsimp only; omega⟩
  · split
    · exact .inr rfl
    · rename_i pieces hpieces
      obtain ⟨xs, rfl, hxs⟩ := bracketPieces?_within hlines (fun l hl => List.mem_of_mem_drop hl) hpieces
      refine .inl ⟨⟨line, col + 1, line.raw.length⟩ :: xs, by simp [Stretch.text], ?_⟩
      simp only [List.mem_cons, forall_eq_or_imp]
      exact ⟨⟨hmem, by dsimp only; omega, Nat.le_refl _⟩, hxs⟩

end Lines

/-- The arguments of a call are a stretch of its line behind the parenthesis, marked when they go on behind the line. -/
private theorem argumentText_within {lines : List Line} {line : Line} (hline : line ∈ lines)
    (hlength : line.raw.length = line.code.length) {col : Nat} (hcol : col < line.code.length) :
    ∃ x : Stretch, x.Within lines ∧ x.line = line ∧ x.start = col + 1 ∧
      (argumentText line col = Text.trim x.text ∨ argumentText line col = "...".toList ∨
        argumentText line col = Text.trim x.text ++ " ...".toList) := by
  unfold argumentText
  split
  · rename_i offset hfound
    have hlt := lt_length_of_seekClosing hfound
    have hpos := pos_of_seekClosing_zero hfound
    rw [List.length_drop] at hlt
    refine ⟨⟨line, col + 1, col + offset⟩, ⟨hline, by dsimp only; omega, by dsimp only; omega⟩, rfl, rfl, .inl ?_⟩
    have hstop : col + offset - (col + 1) = offset - 1 := by omega
    rw [Stretch.text, List.drop_take, hstop]
  · refine ⟨⟨line, col + 1, line.raw.length⟩, ⟨hline, by dsimp only; omega, Nat.le_refl _⟩, rfl, rfl, .inr ?_⟩
    have htext : Stretch.text ⟨line, col + 1, line.raw.length⟩ = line.raw.drop (col + 1) := by simp [Stretch.text]
    rw [htext]
    dsimp only
    split
    · exact .inl rfl
    · exact .inr rfl

/-- The text from behind a quote up to the next quote in the masked line. -/
private theorem quoted_within {lines : List Line} {line : Line} (hline : line ∈ lines)
    (hlength : line.raw.length = line.code.length) {stop length : Nat} {quote : Char}
    (h : (line.code.drop stop).findIdx? (· = quote) = some length) :
    ∃ x : Stretch, x.Within lines ∧ (line.raw.drop stop).take length = x.text := by
  obtain ⟨hlt, -⟩ := List.findIdx?_eq_some_iff_getElem.1 h
  rw [List.length_drop] at hlt
  refine ⟨⟨line, stop, stop + length⟩, ⟨hline, by dsimp only; omega, by dsimp only; omega⟩, ?_⟩
  rw [Stretch.text, List.drop_take, Nat.add_sub_cancel_left]

private theorem moduleNames_within {lines : List Line} {line : Line} (hline : line ∈ lines)
    (hlength : line.raw.length = line.code.length) :
    ∃ xs : List Stretch, Extract.JavaScript.moduleNames line = xs.map (fun x => String.ofList x.text) ∧
      ∀ x ∈ xs, x.Within lines := by
  unfold Extract.JavaScript.moduleNames
  induction Scan.hits Extract.JavaScript.moduleQuote line.code with
  | nil => exact ⟨[], rfl, by simp⟩
  | cons hit hits ih =>
    obtain ⟨xs, hxs, hwithin⟩ := ih
    rw [List.filterMap_cons]
    cases hclose : (line.code.drop hit.stop).findIdx? (· = hit.value) with
    | none => exact ⟨xs, hxs, hwithin⟩
    | some length =>
      obtain ⟨x, hx, htext⟩ := quoted_within hline hlength hclose
      refine ⟨x :: xs, by simp [hxs, htext], ?_⟩
      simp only [List.mem_cons, forall_eq_or_imp]
      exact ⟨hx, hwithin⟩

private theorem includedFile?_within {lines : List Line} {line : Line} (hline : line ∈ lines)
    (hlength : line.raw.length = line.code.length) {file : String} (h : Extract.Php.includedFile? line = some file) :
    ∃ x : Stretch, x.Within lines ∧ file = String.ofList x.text := by
  unfold Extract.Php.includedFile? at h
  obtain ⟨hit, -, h⟩ := Option.bind_eq_some_iff.1 h
  obtain ⟨length, hclose, h⟩ := Option.bind_eq_some_iff.1 h
  cases h
  obtain ⟨x, hx, htext⟩ := quoted_within hline hlength hclose
  exact ⟨x, hx, by rw [htext]⟩

end CallIndex.Source

/-! ### Columns of calls -/

namespace CallIndex.Call

open Text (Scan)

theorem Separator.eq_append_of_read? {s rest : List Char} {sep : Separator} (h : read? s = some (sep, rest)) :
    s = sep.spelling ++ rest := by
  unfold read? at h
  split at h <;> cases h <;> rfl

private theorem eq_append_of_wordBehind? {mark s word rest : List Char} (h : wordBehind? mark s = some (word, rest)) :
    ∃ w, w ≠ [] ∧ word = mark ++ w ∧ s = w ++ rest := by
  cases s with
  | nil => cases h
  | cons c s =>
    simp only [wordBehind?] at h
    split at h
    · cases h
      exact ⟨_, List.cons_ne_nil _ _, rfl, by simp⟩
    · cases h

/-- A name is what has been read. -/
private theorem eq_append_of_scanSegment {s segment rest : List Char} (h : scanSegment s = some (segment, rest)) :
    segment ≠ [] ∧ s = segment ++ rest := by
  unfold scanSegment at h
  split at h
  all_goals
    obtain ⟨w, hw, rfl, rfl⟩ := eq_append_of_wordBehind? h
    exact ⟨by simp [hw], rfl⟩

private theorem eq_append_of_scanLinks {s rest : List Char} {links : List (Separator × List Char)}
    (h : scanLinks s = some (links, rest)) :
    s = (links.flatMap fun (sep, segment) => sep.spelling ++ segment) ++ rest := by
  fun_induction scanLinks s generalizing links with
  | case1 s hnone =>
    cases h
    rfl
  | case2 s sep t hsep hnone => cases h
  | case3 s sep t hsep segment t' hsegment hlt ih =>
    obtain ⟨⟨links', r⟩, hlinks, he⟩ := Option.map_eq_some_iff.1 h
    obtain ⟨rfl, rfl⟩ := Prod.mk.inj he
    rw [Separator.eq_append_of_read? hsep, (eq_append_of_scanSegment hsegment).2, ih hlinks]
    simp

/-- A callee is read with the blanks and the parenthesis behind it. -/
theorem eq_append_of_scanCallee {before s rest : List Char} {chain : Chain}
    (h : scanCallee before s = some (chain, rest)) :
    ∃ blanks, chain.render ≠ [] ∧ (∀ c ∈ blanks, Text.isBlank c) ∧ s = chain.render ++ blanks ++ '(' :: rest := by
  unfold scanCallee at h
  split at h
  · cases h
  obtain ⟨chain', s₂, hchain, h⟩ := Scan.bind_eq_some h
  obtain ⟨_, s₃, hblanks, h⟩ := Scan.bind_eq_some h
  obtain ⟨_, s₄, hparenthesis, h⟩ := Scan.bind_eq_some h
  cases h
  obtain ⟨root, t, hroot, hchain⟩ := Scan.bind_eq_some hchain
  obtain ⟨links, t', hlinks, hchain⟩ := Scan.bind_eq_some hchain
  cases hchain
  cases hblanks
  obtain ⟨hne, rfl⟩ := eq_append_of_scanSegment hroot
  have ht := eq_append_of_scanLinks hlinks
  have hopen : s₂.dropWhile Text.isBlank = '(' :: rest := by
    unfold Scan.char at hparenthesis
    split at hparenthesis
    · cases hparenthesis
    · rename_i d u hu
      split at hparenthesis
      · rename_i hd
        cases hparenthesis
        rw [hu, hd]
      · cases hparenthesis
  refine ⟨s₂.takeWhile Text.isBlank, by simp [Chain.render, hne], fun c hc => List.mem_takeWhile_imp hc, ?_⟩
  rw [← hopen, List.append_assoc, List.takeWhile_append_dropWhile, ht, Chain.render, List.append_assoc]

theorem advances_scanCallee : Scan.Advances scanCallee := by
  intro before s chain rest h
  obtain ⟨blanks, hne, -, rfl⟩ := eq_append_of_scanCallee h
  exact ⟨chain.render ++ blanks ++ ['('], by simp, by simp⟩

/-- In front of the place where a callee stops there is its parenthesis. -/
private theorem parenthesis_of_mem_hits {code : List Char} {hit : Scan.Hit Chain}
    (h : hit ∈ Scan.hits scanCallee code) : 0 < hit.stop ∧ code[hit.stop - 1]? = some '(' := by
  obtain ⟨left, u, r, rfl, hu, -, hstop, hread⟩ := Scan.exists_of_mem_hits advances_scanCallee h
  obtain ⟨blanks, -, -, hs⟩ := eq_append_of_scanCallee hread
  have hu' : u = hit.value.render ++ blanks ++ ['('] := by
    have hright : u ++ r = hit.value.render ++ blanks ++ ['('] ++ r := by simpa using hs
    exact List.append_cancel_right hright
  have hlength : u.length = hit.value.render.length + blanks.length + 1 := by
    simp [hu', Nat.add_assoc]
  have hplace : hit.stop - 1 = (left ++ (hit.value.render ++ blanks)).length := by
    simp only [List.length_append]
    omega
  refine ⟨by omega, ?_⟩
  rw [hplace, hu']
  simp

end CallIndex.Call

namespace CallIndex.Source

/-! ### What masking keeps -/

/-- What masking keeps of a text, and what it reports. -/
structure KeepsShape (rules : LexRules) (content : List Char) : Prop where
  /-- Each step of the lexer takes a character at least, and none is lost. -/
  progress : ∀ l ∈ lex rules content, l.spelling ≠ []
  spelling_eq : (lex rules content).flatMap Lexeme.spelling = content
  /-- The masked text is as long, has the same character or a space everywhere, and the same line ends. -/
  length_eq : (mask rules content).length = content.length
  same_or_space : ∀ (i : Nat) (c : Char), content[i]? = some c →
    (mask rules content)[i]? = some c ∨ (mask rules content)[i]? = some ' '
  lineEnd_iff : ∀ i : Nat, (mask rules content)[i]? = some '\n' ↔ content[i]? = some '\n'
  /-- All lines of the text and of the masked text are paired, and the paired ones are of equal length. -/
  raw_eq : (sourceLines rules content).map Line.raw = Text.lines content
  code_eq : (sourceLines rules content).map Line.code = Text.lines (mask rules content)
  lengths_eq : ∀ line ∈ sourceLines rules content, line.raw.length = line.code.length
  /-- A bracket at any place of the masked lines is read from stretches within the raw lines; no place is missing. -/
  bracket_within : ∀ (index col : Nat) (line : Line), (sourceLines rules content)[index]? = some line →
    col < line.code.length →
    (∃ xs : List Stretch, bracketTextAt (sourceLines rules content) index col = .ok (joinPieces (xs.map Stretch.text)) ∧
      ∀ x ∈ xs, x.Within (sourceLines rules content)) ∨
    bracketTextAt (sourceLines rules content) index col = .error (.unclosed (index + 1))
  /-- The column at which the arguments of a call are read is that of its parenthesis. -/
  call_column : ∀ line ∈ sourceLines rules content, ∀ hit ∈ Text.Scan.hits Call.scanCallee line.code,
    0 < hit.stop ∧ hit.stop - 1 < line.raw.length ∧ line.code[hit.stop - 1]? = some '('
  arguments_within : ∀ line ∈ sourceLines rules content, ∀ col < line.code.length,
    ∃ x : Stretch, x.Within (sourceLines rules content) ∧ x.line = line ∧ x.start = col + 1 ∧
      (argumentText line col = Text.trim x.text ∨ argumentText line col = "...".toList ∨
        argumentText line col = Text.trim x.text ++ " ...".toList)
  /-- The names of modules and included files are stretches of raw lines. -/
  modules_within : ∀ line ∈ sourceLines rules content, ∃ xs : List Stretch,
    Extract.JavaScript.moduleNames line = xs.map (fun x => String.ofList x.text) ∧
      ∀ x ∈ xs, x.Within (sourceLines rules content)
  included_within : ∀ line ∈ sourceLines rules content, ∀ file, Extract.Php.includedFile? line = some file →
    ∃ x : Stretch, x.Within (sourceLines rules content) ∧ file = String.ofList x.text
  /-- The regions reported are those that open at certain places and are not closed behind them, in the order of the
  places, and each with the number of the line in which its place lies. -/
  regions_eq : openRegions rules content = (openPlaces 0 (lex rules content)).map fun p =>
    ⟨p.2, 1 + (content.take p.1).count '\n'⟩
  places_increasing : (openPlaces 0 (lex rules content)).Pairwise fun p q => p.1 < q.1
  unclosed : ∀ p ∈ openPlaces 0 (lex rules content), Unclosed rules p.2 (content.drop p.1)

/-- Masking keeps the shape of every text, whatever the delimiters of the language. -/
theorem mask_keeps_shape (rules : LexRules) (content : List Char) : KeepsShape rules content := by
  have hshows := forall₂_mask rules content
  have hlength : (mask rules content).length = content.length := hshows.length_eq.symm
  have hplace : ∀ (i : Nat) (c : Char), content[i]? = some c → ∃ m, (mask rules content)[i]? = some m ∧ Shows c m := by
    intro i c hc
    obtain ⟨hi, rfl⟩ := List.getElem?_eq_some_iff.1 hc
    have hi' : i < (mask rules content).length := hlength ▸ hi
    exact ⟨_, List.getElem?_eq_getElem hi', List.Forall₂.get hshows hi hi'⟩
  have hlines : ∀ line ∈ sourceLines rules content, line.raw.length = line.code.length :=
    fun _ => length_eq_of_mem_sourceLines
  exact {
    progress := fun _ => spelling_ne_nil
    spelling_eq := flatMap_spelling_lex rules content
    length_eq := hlength
    same_or_space := by
      intro i c hc
      obtain ⟨m, hm, rfl | ⟨rfl, -⟩⟩ := hplace i c hc
      · exact .inl hm
      · exact .inr hm
    lineEnd_iff := by
      intro i
      cases hc : content[i]? with
      | none =>
        have hi : (mask rules content)[i]? = none := by
          rw [List.getElem?_eq_none_iff] at hc ⊢
          omega
        rw [hi]
      | some c =>
        obtain ⟨m, hm, hcm⟩ := hplace i c hc
        rw [hm, Option.some.injEq, Option.some.injEq, hcm.lineEnd_iff]
    raw_eq := map_raw_sourceLines rules content
    code_eq := map_code_sourceLines rules content
    lengths_eq := hlines
    bracket_within := fun _ _ _ hline hcol => bracketTextAt_within hlines hline hcol
    call_column := by
      intro line hline hit hhit
      obtain ⟨hpos, hparenthesis⟩ := Call.parenthesis_of_mem_hits hhit
      obtain ⟨hlt, -⟩ := List.getElem?_eq_some_iff.1 hparenthesis
      exact ⟨hpos, hlines line hline ▸ hlt, hparenthesis⟩
    arguments_within := fun line hline col hcol => argumentText_within hline (hlines line hline) hcol
    modules_within := fun line hline => moduleNames_within hline (hlines line hline)
    included_within := fun line hline file hfile => includedFile?_within hline (hlines line hline) hfile
    regions_eq := openRegions_eq rules content
    places_increasing := pairwise_openPlaces fun _ => spelling_ne_nil
    unclosed := fun _ => unclosed_of_mem_openPlaces }

end CallIndex.Source
