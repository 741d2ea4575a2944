import CallIndex.Proofs.Lexing
import Mathlib.Data.List.Find
import Mathlib.Data.List.TakeWhile

/-!
# Texts put together

What a text is cut into when another is put behind it: its lines up to the last one, which goes on with the other text, and
the literals that are closed in it.

* `lines_append`: the lines of two texts in a row.
* `closeLiteral?_append`: a literal that is closed stays so.
* `lexOne_append` and `lex_append`: a text that is kept apart does not change the lexemes before it.
-/

namespace CallIndex.Text

/-! ### Pieces -/

private theorem splitAtChar_ne_nil (sep : Char) (s : List Char) : splitAtChar sep s ≠ [] := by
  cases s with
  | nil => simp [splitAtChar]
  | cons c s =>
    unfold splitAtChar
    split
    · simp
    · split <;> simp

/-- A character that ends no piece stands at the start of the first piece. -/
private theorem splitAtChar_cons {sep c : Char} (hc : c ≠ sep) (s : List Char) :
    splitAtChar sep (c :: s) = (splitAtChar sep s).modifyHead (c :: ·) := by
  have hne := splitAtChar_ne_nil sep s
  rw [splitAtChar, if_neg hc]
  split
  · contradiction
  · rename_i heq
    rw [heq]
    rfl

theorem splitAtChar_append_of_notMem {sep : Char} {s : List Char} (h : sep ∉ s) (t : List Char) :
    splitAtChar sep (s ++ t) = (splitAtChar sep t).modifyHead (s ++ ·) := by
  induction s with
  | nil =>
    rw [List.nil_append]
    cases splitAtChar sep t <;> rfl
  | cons c s ih =>
    obtain ⟨hc, hs⟩ := not_or.1 fun hmem => h (List.mem_cons.2 hmem)
    rw [List.cons_append, splitAtChar_cons (Ne.symm hc), ih hs]
    cases splitAtChar sep t <;> rfl

private theorem splitAtChar_of_notMem {sep : Char} {s : List Char} (h : sep ∉ s) : splitAtChar sep s = [s] := by
  have happend := splitAtChar_append_of_notMem h []
  rw [List.append_nil] at happend
  rw [happend, splitAtChar, List.modifyHead_cons, List.append_nil]

/-! ### Lines -/

theorem lines_ne_nil (s : List Char) : lines s ≠ [] :=
  splitAtChar_ne_nil '\n' s

@[simp] theorem lines_lineEnd_cons (s : List Char) : lines ('\n' :: s) = [] :: lines s := by
  simp [lines, splitAtChar]

/-- A character that ends no line stands at the start of the first line. -/
theorem lines_cons {c : Char} (hc : c ≠ '\n') (s : List Char) : lines (c :: s) = (lines s).modifyHead (c :: ·) :=
  splitAtChar_cons hc s

/-- The last line of a text, which a following text goes on with. -/
def lastLine (s : List Char) : List Char :=
  (lines s).getLastD []

theorem dropLast_append_lastLine (s : List Char) : (lines s).dropLast ++ [lastLine s] = lines s := by
  have hne := lines_ne_nil s
  rw [lastLine, List.getLastD_eq_getLast?, List.getLast?_eq_some_getLast hne]
  exact List.dropLast_append_getLast hne

theorem lastLine_eq {s last : List Char} {init : List (List Char)} (h : lines s = init ++ [last]) : lastLine s = last := by
  rw [lastLine, h, List.getLastD_concat]

/-- A text put behind another goes on with its last line. -/
theorem lines_append {s last : List Char} {init : List (List Char)} (h : lines s = init ++ [last]) (t : List Char) :
    lines (s ++ t) = init ++ lines (last ++ t) := by
  induction s generalizing init last with
  | nil =>
    obtain ⟨rfl, hlast⟩ := List.append_eq_singleton_iff.1 h.symm |>.resolve_right (by simp)
    obtain rfl := List.singleton_inj.1 hlast
    rfl
  | cons c s ih =>
    obtain ⟨init', last', hs⟩ : ∃ init' last', lines s = init' ++ [last'] :=
      ⟨_, _, (dropLast_append_lastLine s).symm⟩
    rw [List.cons_append]
    by_cases hc : c = '\n'
    · rw [hc, lines_lineEnd_cons, hs, ← List.cons_append] at h
      obtain ⟨rfl, hlast⟩ := List.append_inj' h rfl
      obtain rfl := List.singleton_inj.1 hlast
      rw [hc, lines_lineEnd_cons, ih hs, List.cons_append]
    · rw [lines_cons hc, hs] at h
      rw [lines_cons hc, ih hs]
      cases init' with
      | nil =>
        -- the text is one line so far
        obtain ⟨rfl, hlast⟩ := List.append_eq_singleton_iff.1 h.symm |>.resolve_right (by simp)
        obtain rfl := List.singleton_inj.1 hlast
        rw [List.nil_append, List.nil_append, List.cons_append, lines_cons hc]
      | cons first init' =>
        rw [List.cons_append, List.modifyHead_cons, ← List.cons_append] at h
        obtain ⟨rfl, hlast⟩ := List.append_inj' h rfl
        obtain rfl := List.singleton_inj.1 hlast
        rfl

theorem lines_of_notMem {s : List Char} (h : '\n' ∉ s) : lines s = [s] :=
  splitAtChar_of_notMem h

theorem lines_append_of_notMem {s : List Char} (h : '\n' ∉ s) (t : List Char) :
    lines (s ++ t) = (lines t).modifyHead (s ++ ·) :=
  splitAtChar_append_of_notMem h t

theorem notMem_of_mem_lines {s line : List Char} (h : line ∈ lines s) : '\n' ∉ line := by
  induction s generalizing line with
  | nil =>
    obtain rfl : line = [] := by simpa [lines, splitAtChar] using h
    simp
  | cons c s ih =>
    by_cases hc : c = '\n'
    · rw [hc, lines_lineEnd_cons, List.mem_cons] at h
      rcases h with rfl | h
      · simp
      · exact ih h
    · rw [lines_cons hc] at h
      cases hs : lines s with
      | nil => exact absurd hs (lines_ne_nil s)
      | cons first rest =>
        rw [hs, List.modifyHead_cons, List.mem_cons] at h
        rcases h with rfl | h
        · rw [List.mem_cons, not_or]
          exact ⟨Ne.symm hc, ih (by simp [hs])⟩
        · exact ih (by simp [hs, h])

theorem length_lines (s : List Char) : (lines s).length = s.count '\n' + 1 := by
  induction s with
  | nil => rfl
  | cons c s ih =>
    by_cases hc : c = '\n'
    · rw [hc, lines_lineEnd_cons, List.length_cons, ih, List.count_cons_self]
    · rw [lines_cons hc, List.length_modifyHead, ih, List.count_cons_of_ne (by simpa using hc)]

/-! ### Fronts -/

private theorem dropFront?_append_of_eq_some {front s rest : List Char} (h : dropFront? front s = some rest)
    (t : List Char) :
    dropFront? front (s ++ t) = some (rest ++ t) := by
  induction front generalizing s with
  | nil =>
    obtain rfl : s = rest := by simpa [dropFront?] using h
    rfl
  | cons a front ih =>
    cases s with
    | nil => simp [dropFront?] at h
    | cons b s =>
      by_cases hab : a = b
      · simp only [dropFront?, hab, ↓reduceIte, List.cons_append] at h ⊢
        exact ih h
      · simp [dropFront?, hab] at h

/-- A text that is as long as the front and does not start with it does not do so with more behind it. -/
private theorem dropFront?_append_of_eq_none {front s : List Char} (h : dropFront? front s = none)
    (hlength : front.length ≤ s.length) (t : List Char) : dropFront? front (s ++ t) = none := by
  induction front generalizing s with
  | nil => simp [dropFront?] at h
  | cons a front ih =>
    cases s with
    | nil => simp at hlength
    | cons b s =>
      by_cases hab : a = b
      · simp only [dropFront?, hab, ↓reduceIte, List.cons_append] at h ⊢
        exact ih h (by simpa using hlength)
      · simp [dropFront?, hab]

theorem isPrefixOf_append {front s : List Char} (hlength : front.length ≤ s.length) (t : List Char) :
    front.isPrefixOf (s ++ t) = front.isPrefixOf s := by
  induction front generalizing s with
  | nil => simp
  | cons a front ih =>
    cases s with
    | nil => simp at hlength
    | cons b s =>
      rw [List.cons_append, List.isPrefixOf_cons_cons, List.isPrefixOf_cons_cons, ih (by simpa using hlength)]

/-- A run of characters that stops in a text stops there with more text behind it. -/
private theorem takeWhile_append_of_dropWhile_ne_nil {P : Char → Bool} {s : List Char} (h : s.dropWhile P ≠ [])
    (t : List Char) :
    (s ++ t).takeWhile P = s.takeWhile P ∧ (s ++ t).dropWhile P = s.dropWhile P ++ t := by
  induction s with
  | nil => simp at h
  | cons c s ih =>
    by_cases hc : P c
    · rw [List.dropWhile_cons_of_pos hc] at h
      obtain ⟨htake, hdrop⟩ := ih h
      rw [List.cons_append, List.takeWhile_cons_of_pos hc, List.takeWhile_cons_of_pos hc, List.dropWhile_cons_of_pos hc,
        List.dropWhile_cons_of_pos hc, htake, hdrop]
      exact ⟨rfl, rfl⟩
    · rw [List.cons_append, List.takeWhile_cons_of_neg hc, List.takeWhile_cons_of_neg hc, List.dropWhile_cons_of_neg hc,
        List.dropWhile_cons_of_neg hc]
      exact ⟨rfl, rfl⟩

/-! ### Marks -/

theorem cutAt?_of_front {mark s rest : List Char} (h : dropFront? mark s = some rest) :
    cutAt? mark s = some ([], rest) := by
  rw [cutAt?.eq_def, h]

theorem cutAt?_of_no_front {mark s : List Char} {c : Char} (h : dropFront? mark (c :: s) = none) :
    cutAt? mark (c :: s) = (cutAt? mark s).map fun (before, after) => (c :: before, after) := by
  rw [cutAt?.eq_def, h]

/-- The first occurrence of a mark is the first one with more text behind it. -/
private theorem cutAt?_append {mark s before after : List Char} (h : cutAt? mark s = some (before, after))
    (t : List Char) :
    cutAt? mark (s ++ t) = some (before, after ++ t) := by
  induction s generalizing before with
  | nil =>
    cases hfront : dropFront? mark [] with
    | none =>
      rw [cutAt?.eq_def, hfront] at h
      cases h
    | some rest =>
      rw [cutAt?_of_front hfront] at h
      cases h
      exact cutAt?_of_front (dropFront?_append_of_eq_some hfront t)
  | cons c s ih =>
    have hlength := congrArg List.length (eq_append_of_cutAt? h)
    simp only [List.length_append] at hlength
    cases hfront : dropFront? mark (c :: s) with
    | none =>
      rw [cutAt?_of_no_front hfront] at h
      obtain ⟨⟨b, a⟩, hb, he⟩ := Option.map_eq_some_iff.1 h
      cases he
      -- the mark that occurs further on is not longer than the text, so none reaches beyond it from here
      have hnone := dropFront?_append_of_eq_none hfront (by omega) t
      rw [List.cons_append] at hnone ⊢
      rw [cutAt?_of_no_front hnone, ih hb]
      rfl
    | some rest =>
      rw [cutAt?_of_front hfront] at h
      cases h
      exact cutAt?_of_front (dropFront?_append_of_eq_some hfront t)

end CallIndex.Text

namespace CallIndex.Source

/-! ### Lexemes -/

variable {rules : LexRules}

theorem closeLiteral?_of_front {delimiter : List Char} {multiline : Bool} {c : Char} {s rest : List Char} (hc : c ≠ '\\')
    (h : Text.dropFront? delimiter (c :: s) = some rest) :
    closeLiteral? delimiter multiline (c :: s) = some ([], rest) := by
  cases s <;> simp [closeLiteral?, hc, h]

theorem closeLiteral?_of_no_front {delimiter : List Char} {multiline : Bool} {c : Char} {s : List Char} (hc : c ≠ '\\')
    (h : Text.dropFront? delimiter (c :: s) = none) (hline : (c = '\n' && !multiline) = false) :
    closeLiteral? delimiter multiline (c :: s) =
      (closeLiteral? delimiter multiline s).map fun (body, rest) => (c :: body, rest) := by
  cases s with
  | nil => simp [closeLiteral?, h]
  | cons d s => simp only [closeLiteral?, hc, h, hline, ↓reduceIte, Bool.false_eq_true]

/-- A literal that is closed stays so with more text behind it. -/
theorem closeLiteral?_append {delimiter : List Char} {multiline : Bool} {s body rest : List Char}
    (h : closeLiteral? delimiter multiline s = some (body, rest)) (t : List Char) :
    closeLiteral? delimiter multiline (s ++ t) = some (body, rest ++ t) := by
  induction s using closeLiteral?.induct delimiter multiline generalizing body with
  | case1 => simp [closeLiteral?] at h
  | case2 => simp [closeLiteral?] at h
  | case3 c hc =>
    simp only [closeLiteral?, hc, ↓reduceIte] at h
    obtain ⟨r, hr, he⟩ := Option.map_eq_some_iff.1 h
    obtain ⟨rfl, rfl⟩ := Prod.mk.inj he
    exact closeLiteral?_of_front hc (Text.dropFront?_append_of_eq_some hr t)
  | case4 d s ih =>
    simp only [closeLiteral?, ↓reduceIte, List.cons_append] at h ⊢
    obtain ⟨⟨b, r⟩, hr, he⟩ := Option.map_eq_some_iff.1 h
    obtain ⟨rfl, rfl⟩ := Prod.mk.inj he
    rw [ih hr]
    rfl
  | case5 c d s hc r hr =>
    simp only [closeLiteral?, hc, ↓reduceIte, hr] at h
    obtain ⟨rfl, rfl⟩ := Prod.mk.inj (Option.some.inj h)
    exact closeLiteral?_of_front hc (Text.dropFront?_append_of_eq_some hr t)
  | case6 c d s hc hn hb => simp_all [closeLiteral?]
  | case7 c d s hc hn hb ih =>
    simp only [closeLiteral?, hc, ↓reduceIte, hn, hb] at h
    obtain ⟨⟨b, r⟩, hr, he⟩ := Option.map_eq_some_iff.1 h
    obtain ⟨rfl, rfl⟩ := Prod.mk.inj he
    -- the delimiter that closes the literal further on is long enough to tell that none starts here
    have hlength : delimiter.length ≤ (c :: d :: s).length := by
      have := congrArg List.length (eq_append_of_closeLiteral? hr)
      simp only [List.length_append, List.length_cons] at this ⊢
      omega
    have hnone : Text.dropFront? delimiter (c :: (d :: s ++ t)) = none := Text.dropFront?_append_of_eq_none hn hlength t
    rw [List.cons_append, closeLiteral?_of_no_front hc hnone (by simpa using hb), ih hr]
    rfl

/-- A body in which neither the quote nor a backslash stands runs to the next delimiter. -/
theorem closeLiteral?_of_notMem {q : Char} {quotes body : List Char} (hq : q ∉ body) (hescape : '\\' ∉ body)
    (hne : q ≠ '\\') (rest : List Char) :
    closeLiteral? (q :: quotes) true (body ++ (q :: quotes ++ rest)) = some (body, rest) := by
  induction body with
  | nil =>
    exact closeLiteral?_of_front hne (Text.dropFront?_append (q :: quotes) rest)
  | cons c body ih =>
    obtain ⟨hqc, hq⟩ := not_or.1 fun hmem => hq (List.mem_cons.2 hmem)
    obtain ⟨hc, hescape⟩ := not_or.1 fun hmem => hescape (List.mem_cons.2 hmem)
    have hnone : Text.dropFront? (q :: quotes) (c :: (body ++ (q :: quotes ++ rest))) = none := by
      simp [Text.dropFront?, hqc]
    rw [List.cons_append, closeLiteral?_of_no_front (Ne.symm hc) hnone (by simp), ih hq hescape]
    rfl

/-- A closed literal is read alike with more text behind it, if the quotes in front of it are as many. -/
private theorem lexLiteral_append {q : Char} {s : List Char} (hclosed : (lexLiteral rules q s).1.openKind? = none)
    {t : List Char} (hquotes : [q, q].isPrefixOf (s ++ t) = [q, q].isPrefixOf s) :
    lexLiteral rules q (s ++ t) = ((lexLiteral rules q s).1, (lexLiteral rules q s).2 ++ t) := by
  unfold lexLiteral at hclosed ⊢
  dsimp only at hclosed ⊢
  rw [hquotes]
  have hinner : (if rules.tripleQuotes && [q, q].isPrefixOf s then (s ++ t).drop 2 else s ++ t) =
      (if rules.tripleQuotes && [q, q].isPrefixOf s then s.drop 2 else s) ++ t := by
    split
    · rename_i htriple
      obtain ⟨s', rfl⟩ := List.isPrefixOf_iff_prefix.1 (Bool.and_eq_true_iff.1 htriple).2
      rfl
    · rfl
  rw [hinner]
  generalize (if rules.tripleQuotes && [q, q].isPrefixOf s then s.drop 2 else s) = inner at hclosed ⊢
  generalize (if rules.tripleQuotes && [q, q].isPrefixOf s then [q, q, q] else [q]) = delimiter at hclosed ⊢
  split at hclosed
  · rename_i body rest hclose
    rw [closeLiteral?_append hclose]
  · split at hclosed <;> simp [Lexeme.openKind?] at hclosed

private theorem lexBlockComment_append {opener closer s : List Char}
    (hclosed : (lexBlockComment opener closer s).1.openKind? = none) (t : List Char) :
    lexBlockComment opener closer (s ++ t) =
      ((lexBlockComment opener closer s).1, (lexBlockComment opener closer s).2 ++ t) := by
  unfold lexBlockComment at hclosed ⊢
  split at hclosed
  · rename_i body rest hcut
    rw [Text.cutAt?_append hcut]
  · cases hclosed

/-- The text `t` does not reach into the first lexeme of `c :: s`: it completes no mark that opens a comment and no quotes
that open a literal, and a line comment ends before it. -/
structure KeptApart (rules : LexRules) (c : Char) (s t : List Char) : Prop where
  blockComments : ∀ markers ∈ rules.blockComments,
    markers.1.toList.isPrefixOf (c :: (s ++ t)) = markers.1.toList.isPrefixOf (c :: s)
  lineComments : ∀ marker ∈ rules.lineComments,
    marker.toList.isPrefixOf (c :: (s ++ t)) = marker.toList.isPrefixOf (c :: s)
  lineEnd : (rules.lineComments.any fun marker => marker.toList.isPrefixOf (c :: s)) → '\n' ∈ c :: s
  quotes : c ≠ '\n' → c ∈ rules.quotes → lexOne rules c s = lexLiteral rules c s →
    [c, c].isPrefixOf (s ++ t) = [c, c].isPrefixOf s

/-- A closed lexeme is the same with more text behind it, if that is kept apart. -/
theorem lexOne_append {c : Char} {s t : List Char} (hapart : KeptApart rules c s t)
    (hclosed : (lexOne rules c s).1.openKind? = none) :
    lexOne rules c (s ++ t) = ((lexOne rules c s).1, (lexOne rules c s).2 ++ t) := by
  have hblocks : (rules.blockComments.find? fun markers => opensComment markers (c :: (s ++ t))) =
      rules.blockComments.find? fun markers => opensComment markers (c :: s) := by
    apply List.find?_congr
    intro markers hmarkers
    rw [opensComment, opensComment, hapart.blockComments markers hmarkers]
  have hlines : (rules.lineComments.any fun marker => marker.toList.isPrefixOf (c :: (s ++ t))) =
      rules.lineComments.any fun marker => marker.toList.isPrefixOf (c :: s) := by
    rw [Bool.eq_iff_iff, List.any_eq_true, List.any_eq_true]
    refine exists_congr fun marker => and_congr_right fun hmarker => ?_
    rw [hapart.lineComments marker hmarker]
  have hquotes := hapart.quotes
  unfold lexOne at hclosed hquotes ⊢
  rw [hblocks, hlines]
  split
  · rfl
  · rename_i hc
    rw [if_neg hc] at hclosed hquotes
    split
    · rename_i opener closer hfind
      rw [hfind] at hclosed
      have hfront : opener.toList <+: c :: s := by
        have := List.find?_some hfind
        simp only [opensComment, Bool.and_eq_true] at this
        exact List.isPrefixOf_iff_prefix.1 this.2
      rw [← List.cons_append, List.drop_append_of_le_length hfront.length_le]
      exact lexBlockComment_append hclosed t
    · rename_i hfind
      rw [hfind] at hclosed hquotes
      dsimp only at hclosed hquotes
      split
      · rename_i hmark
        have hstop : (c :: s).dropWhile (· ≠ '\n') ≠ [] := by
          rw [ne_eq, List.dropWhile_eq_nil_iff]
          intro hall
          simpa using hall '\n' (hapart.lineEnd hmark)
        obtain ⟨htake, hdrop⟩ := Text.takeWhile_append_of_dropWhile_ne_nil hstop t
        rw [← List.cons_append, htake, hdrop]
      · rename_i hmark
        rw [if_neg hmark] at hclosed hquotes
        split
        · rename_i hquote
          rw [if_pos hquote] at hclosed hquotes
          exact lexLiteral_append hclosed (hquotes hc (List.contains_iff_mem.1 hquote) rfl)
        · rfl

/-- Texts of which the first leaves nothing open are lexed one after the other, if what is left of the first keeps the
second apart at each lexeme. -/
theorem lex_append (P : List Char → Prop) {t : List Char}
    (hapart : ∀ {c s}, P (c :: s) → (lexOne rules c s).1.openKind? = none → KeptApart rules c s t)
    (hrest : ∀ {c s}, P (c :: s) → P (lexOne rules c s).2) {s : List Char} (hs : P s)
    (hclosed : ∀ l ∈ lex rules s, l.openKind? = none) : lex rules (s ++ t) = lex rules s ++ lex rules t := by
  induction s using lex.induct rules with
  | case1 => simp [lex]
  | case2 c s _ ih =>
    rw [lex] at hclosed
    obtain ⟨hfirst, hclosed⟩ := List.forall_mem_cons.1 hclosed
    rw [List.cons_append, lex, lexOne_append (hapart hs hfirst) hfirst, lex]
    rw [ih (hrest hs) hclosed]
    rfl

end CallIndex.Source
