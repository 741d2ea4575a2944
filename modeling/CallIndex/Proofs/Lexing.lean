import CallIndex.Source.Mask
import Mathlib.Data.List.Basic

/-!
# The lexemes of a text

Lexing cuts a text into pieces without loss, and each piece takes at least one character.  So a text can be read from
any place at which a lexeme starts, and the places of the regions that are left open can be counted off.

* `flatMap_spelling_lex`: the spellings of the lexemes in a row are the text.
* `lex_drop`: behind its first lexemes a text is lexed as if it stood alone.
* `openRegions_eq`: each region that is never closed is listed with the number of the line it starts on.
-/

namespace CallIndex.Source

variable {rules : LexRules} {content : List Char}

/-! ### Spellings -/

theorem eq_append_of_closeLiteral? {delimiter : List Char} {multiline : Bool} {s body rest : List Char}
    (h : closeLiteral? delimiter multiline s = some (body, rest)) : s = body ++ delimiter ++ rest := by
  induction s using closeLiteral?.induct delimiter multiline generalizing body with
  | case1 => simp [closeLiteral?] at h
  | case2 => simp [closeLiteral?] at h
  | case3 c hc =>
    simp only [closeLiteral?, hc, ↓reduceIte] at h
    obtain ⟨r, hr, he⟩ := Option.map_eq_some_iff.1 h
    cases he
    simpa using Text.eq_append_of_dropFront? hr
  | case4 d s ih =>
    simp only [closeLiteral?, ↓reduceIte] at h
    obtain ⟨⟨b, r⟩, hr, he⟩ := Option.map_eq_some_iff.1 h
    obtain ⟨rfl, rfl⟩ := Prod.mk.inj he
    simpa using ih hr
  | case5 c d s hc r hr =>
    simp only [closeLiteral?, hc, ↓reduceIte, hr] at h
    cases h
    simpa using Text.eq_append_of_dropFront? hr
  | case6 c d s hc hn hb => simp_all [closeLiteral?]
  | case7 c d s hc hn hb ih =>
    simp only [closeLiteral?, hc, ↓reduceIte, hn, hb] at h
    obtain ⟨⟨b, r⟩, hr, he⟩ := Option.map_eq_some_iff.1 h
    obtain ⟨rfl, rfl⟩ := Prod.mk.inj he
    simpa using ih hr

/-- The delimiter of the literal that the quote `q` opens, and the text behind the delimiter, whatever it is. -/
private theorem delimiter_append (triple : Bool) {q : Char} {s : List Char} (h : triple = true → [q, q].isPrefixOf s) :
    (if triple then [q, q, q] else [q]) ++ (if triple then s.drop 2 else s) = q :: s := by
  cases triple with
  | false => rfl
  | true =>
    obtain ⟨t, rfl⟩ := List.isPrefixOf_iff_prefix.1 (h rfl)
    rfl

private theorem spelling_lexLiteral (rules : LexRules) (q : Char) (s : List Char) :
    (lexLiteral rules q s).1.spelling ++ (lexLiteral rules q s).2 = q :: s := by
  unfold lexLiteral
  dsimp only
  have hfront := delimiter_append (rules.tripleQuotes && [q, q].isPrefixOf s) (q := q) (s := s)
    fun h => (Bool.and_eq_true _ _ ▸ h).2
  generalize (rules.tripleQuotes && [q, q].isPrefixOf s) = triple at hfront ⊢
  split
  · rename_i body rest h
    rw [← hfront, eq_append_of_closeLiteral? h]
    simp [Lexeme.spelling]
  · split
    · simpa [Lexeme.spelling] using hfront
    · rw [← hfront]
      simp [Lexeme.spelling]

private theorem spelling_lexBlockComment (opener closer s : List Char) :
    (lexBlockComment opener closer s).1.spelling ++ (lexBlockComment opener closer s).2 = opener ++ s := by
  unfold lexBlockComment
  split
  · rename_i body rest h
    rw [Text.eq_append_of_cutAt? h]
    simp [Lexeme.spelling]
  · simp [Lexeme.spelling]

theorem spelling_lexOne (rules : LexRules) (c : Char) (s : List Char) :
    (lexOne rules c s).1.spelling ++ (lexOne rules c s).2 = c :: s := by
  unfold lexOne
  split
  · rename_i hc
    rw [hc]
    rfl
  · split
    · rename_i opener closer h
      have hopens : opensComment (opener, closer) (c :: s) := by simpa using List.find?_some h
      simp only [opensComment, Bool.and_eq_true] at hopens
      obtain ⟨t, ht⟩ := List.isPrefixOf_iff_prefix.1 hopens.2
      rw [spelling_lexBlockComment, ← ht]
      simp
    · split
      · exact List.takeWhile_append_dropWhile
      · split
        · exact spelling_lexLiteral rules c s
        · rfl

/-- The spellings of the lexemes in a row are the text. -/
theorem flatMap_spelling_lex (rules : LexRules) (content : List Char) :
    (lex rules content).flatMap Lexeme.spelling = content := by
  induction content using lex.induct rules with
  | case1 => simp [lex]
  | case2 c s _ ih => rw [lex, List.flatMap_cons, ih, spelling_lexOne]

/-- A lexeme takes at least one character. -/
theorem spelling_lexOne_ne_nil (rules : LexRules) (c : Char) (s : List Char) : (lexOne rules c s).1.spelling ≠ [] := by
  intro h
  have hlength := congrArg List.length (spelling_lexOne rules c s)
  have hle := length_lexOne_le rules c s
  rw [h, List.nil_append, List.length_cons] at hlength
  omega

theorem spelling_ne_nil {l : Lexeme} (h : l ∈ lex rules content) : l.spelling ≠ [] := by
  induction content using lex.induct rules with
  | case1 => simp [lex] at h
  | case2 c s _ ih =>
    rw [lex, List.mem_cons] at h
    rcases h with rfl | h
    · exact spelling_lexOne_ne_nil rules c s
    · exact ih h

/-- Behind its first lexemes a text is lexed as if it stood alone. -/
theorem lex_drop {before after : List Lexeme} (h : lex rules content = before ++ after) :
    lex rules (content.drop (before.flatMap Lexeme.spelling).length) = after := by
  induction before generalizing content with
  | nil => simpa using h
  | cons l before ih =>
    cases content with
    | nil => simp [lex] at h
    | cons c s =>
      rw [lex, List.cons_append, List.cons.injEq] at h
      rw [← spelling_lexOne rules c s, ← h.1, List.flatMap_cons, List.length_append, ← List.drop_drop, List.drop_left]
      exact ih h.2

/-! ### Regions that are left open -/

/-- The kind of the region that a lexeme leaves open. -/
def Lexeme.openKind? : Lexeme → Option RegionKind
  | blockComment _ false => some .comment
  | literal _ _ false => some .literal
  | _ => none

theorem openRegionsFrom_cons (line : Nat) (l : Lexeme) (rest : List Lexeme) :
    openRegionsFrom line (l :: rest) =
      (l.openKind?.map (⟨·, line⟩)).toList ++ openRegionsFrom (line + l.spelling.count '\n') rest := by
  cases l with
  | lineEnd => rfl
  | code c => rfl
  | lineComment s => rfl
  | blockComment s closed => cases closed <;> rfl
  | literal d b closed => cases closed <;> rfl

/-- Where no region is left open no lexeme leaves one open. -/
theorem openKind?_of_openRegions (h : openRegions rules content = []) : ∀ l ∈ lex rules content, l.openKind? = none := by
  have hall : ∀ (line : Nat) (ls : List Lexeme), openRegionsFrom line ls = [] → ∀ l ∈ ls, l.openKind? = none := by
    intro line ls hnil
    induction ls generalizing line with
    | nil => simp
    | cons l ls ih =>
      rw [openRegionsFrom_cons, List.append_eq_nil_iff] at hnil
      rw [List.forall_mem_cons]
      refine ⟨?_, ih _ hnil.2⟩
      cases hkind : l.openKind? with
      | none => rfl
      | some kind => simp [hkind] at hnil
  exact hall 1 _ h

/-- The places where the lexemes that start at `place` leave a region open. -/
def openPlaces (place : Nat) : List Lexeme → List (Nat × RegionKind)
  | [] => []
  | l :: rest => (l.openKind?.map (place, ·)).toList ++ openPlaces (place + l.spelling.length) rest

private theorem openRegionsFrom_eq (before : List Char) (ls : List Lexeme) :
    openRegionsFrom (1 + before.count '\n') ls = (openPlaces before.length ls).map fun p =>
      ⟨p.2, 1 + ((before ++ ls.flatMap Lexeme.spelling).take p.1).count '\n'⟩ := by
  induction ls generalizing before with
  | nil => rfl
  | cons l rest ih =>
    have hrest := ih (before ++ l.spelling)
    rw [List.count_append, ← Nat.add_assoc, List.length_append, List.append_assoc] at hrest
    rw [openRegionsFrom_cons, openPlaces, List.map_append, hrest, List.flatMap_cons]
    congr 1
    cases l.openKind? with
    | none => rfl
    | some kind => simp

/-- Each region that is never closed is listed with the number of the line it starts on. -/
theorem openRegions_eq (rules : LexRules) (content : List Char) :
    openRegions rules content = (openPlaces 0 (lex rules content)).map fun p =>
      ⟨p.2, 1 + (content.take p.1).count '\n'⟩ := by
  have h := openRegionsFrom_eq [] (lex rules content)
  rwa [List.count_nil, List.nil_append, flatMap_spelling_lex] at h

private theorem mem_openPlaces {place start : Nat} {kind : RegionKind} {ls : List Lexeme} :
    (place, kind) ∈ openPlaces start ls ↔ ∃ before l after, ls = before ++ l :: after ∧
      place = start + (before.flatMap Lexeme.spelling).length ∧ l.openKind? = some kind := by
  induction ls generalizing start with
  | nil => simp [openPlaces]
  | cons l rest ih =>
    rw [openPlaces, List.mem_append, ih]
    constructor
    · rintro (h | ⟨before, l', after, rfl, rfl, hkind⟩)
      · obtain ⟨k, hk, he⟩ := Option.map_eq_some_iff.1 (Option.mem_toList.1 h)
        obtain ⟨rfl, rfl⟩ := Prod.mk.inj he
        exact ⟨[], l, rest, rfl, rfl, hk⟩
      · exact ⟨l :: before, l', after, rfl, by simp; omega, hkind⟩
    · rintro ⟨_ | ⟨l₀, before⟩, l', after, he, rfl, hkind⟩
      · obtain ⟨rfl, rfl⟩ := List.cons.inj he
        exact .inl (by simp [hkind])
      · obtain ⟨rfl, rfl⟩ := List.cons.inj he
        exact .inr ⟨before, l', after, rfl, by simp; omega, hkind⟩

/-- The places are in order, as long as every lexeme takes a character. -/
theorem pairwise_openPlaces {start : Nat} {ls : List Lexeme} (h : ∀ l ∈ ls, l.spelling ≠ []) :
    (openPlaces start ls).Pairwise fun p q => p.1 < q.1 := by
  induction ls generalizing start with
  | nil => exact .nil
  | cons l rest ih =>
    have hl : 0 < l.spelling.length := List.length_pos_iff.2 (h l (by simp))
    rw [openPlaces, List.pairwise_append]
    refine ⟨?_, ih fun x hx => h x (by simp [hx]), ?_⟩
    · cases l.openKind? <;> simp
    · intro p hp q hq
      obtain ⟨k, -, rfl⟩ := Option.map_eq_some_iff.1 (Option.mem_toList.1 hp)
      obtain ⟨before, l', after, -, hplace, -⟩ := mem_openPlaces.1 hq
      dsimp only
      omega

/-- A region of some kind opens in front of a text and is not closed in it.  A literal whose quote is tripled where that
counts is delimited by three quotes and may span lines. -/
inductive Unclosed (rules : LexRules) : RegionKind → List Char → Prop
  | comment {opener closer : String} {rest : List Char} (h : (opener, closer) ∈ rules.blockComments)
      (hrest : Text.cutAt? closer.toList rest = none) : Unclosed rules .comment (opener.toList ++ rest)
  | single {q : Char} {rest : List Char} (hq : q ∈ rules.quotes)
      (htriple : (rules.tripleQuotes && [q, q].isPrefixOf rest) = false)
      (hrest : closeLiteral? [q] (rules.multilineQuotes.contains q) rest = none) : Unclosed rules .literal (q :: rest)
  | triple {q : Char} {rest : List Char} (hq : q ∈ rules.quotes) (htriple : rules.tripleQuotes)
      (hrest : closeLiteral? [q, q, q] true rest = none) : Unclosed rules .literal (q :: q :: q :: rest)

private theorem unclosed_of_lexLiteral {q : Char} {s : List Char} {kind : RegionKind} (hq : q ∈ rules.quotes)
    (h : (lexLiteral rules q s).1.openKind? = some kind) : Unclosed rules kind (q :: s) := by
  unfold lexLiteral at h
  dsimp only at h
  cases htriple : rules.tripleQuotes && [q, q].isPrefixOf s with
  | false =>
    simp only [htriple, Bool.false_or, Bool.false_eq_true, ↓reduceIte] at h
    split at h
    · simp [Lexeme.openKind?] at h
    · rename_i hclose
      have hkind : kind = .literal := by
        split at h <;> simpa [Lexeme.openKind?] using h.symm
      exact hkind ▸ .single hq htriple hclose
  | true =>
    simp only [htriple, Bool.true_or, ↓reduceIte] at h
    obtain ⟨hrules, hfront⟩ := Bool.and_eq_true_iff.1 htriple
    obtain ⟨t, rfl⟩ := List.isPrefixOf_iff_prefix.1 hfront
    split at h
    · simp [Lexeme.openKind?] at h
    · rename_i hclose
      have hkind : kind = .literal := by simpa [Lexeme.openKind?] using h.symm
      exact hkind ▸ .triple hq hrules (by simpa using hclose)

private theorem unclosed_of_lexOne {c : Char} {s : List Char} {kind : RegionKind}
    (h : (lexOne rules c s).1.openKind? = some kind) : Unclosed rules kind (c :: s) := by
  unfold lexOne at h
  split at h
  · cases h
  · split at h
    · rename_i opener closer hfind
      have hopens : opensComment (opener, closer) (c :: s) := by simpa using List.find?_some hfind
      simp only [opensComment, Bool.and_eq_true] at hopens
      obtain ⟨t, ht⟩ := List.isPrefixOf_iff_prefix.1 hopens.2
      rw [← ht, List.drop_left] at h
      unfold lexBlockComment at h
      split at h
      · cases h
      · rename_i hcut
        have hkind : kind = .comment := by simpa [Lexeme.openKind?] using h.symm
        exact hkind ▸ ht ▸ .comment (List.mem_of_find?_eq_some hfind) hcut
    · split at h
      · cases h
      · split at h
        · rename_i hq
          exact unclosed_of_lexLiteral (by simpa using hq) h
        · cases h

/-- At each of the places a region opens that the rest of the text does not close. -/
theorem unclosed_of_mem_openPlaces {place : Nat} {kind : RegionKind}
    (h : (place, kind) ∈ openPlaces 0 (lex rules content)) : Unclosed rules kind (content.drop place) := by
  obtain ⟨before, l, after, hlex, rfl, hkind⟩ := mem_openPlaces.1 h
  have hdrop := lex_drop hlex
  rw [Nat.zero_add]
  cases hrest : content.drop (before.flatMap Lexeme.spelling).length with
  | nil =>
    rw [hrest, lex] at hdrop
    cases hdrop
  | cons c s =>
    rw [hrest, lex, List.cons.injEq] at hdrop
    exact unclosed_of_lexOne (hdrop.1 ▸ hkind)

end CallIndex.Source
