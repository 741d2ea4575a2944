import CallIndex.Proofs.Concatenation
import CallIndex.Proofs.MaskShape
import CallIndex.Extract.Python
import Mathlib.Data.List.Chain

/-!
# Hidden text

Masking hides the text of comments and the bodies of literals.  A comment begins with a character of no word, and the body
of a literal stands behind a quote, so what is hidden never goes on with a word of the code before it (`KeepsWords`).  This
is shown lexeme by lexeme and then for whole texts and their lines, each taken as a list of places: a character and what
masking leaves of it.

* `separate_lexOne`: a lexeme keeps the words before it and in it.
* `isChain_zip_mask`: hidden characters do not go on with the words of the code before them.
* `isChain_cells`: the same for a line of a source.
-/

namespace CallIndex.Source

open Text (isWord)

/-! ### Characters side by side -/

/-- The character `c` neither belongs to a word nor introduces one. -/
def EndsWords (c : Char) : Prop :=
  isWord c = false ∧ c ≠ '$'

/-- Characters of a text, each with the one that masking leaves in its place, such that the second of them does not go on
with a word in code when it is hidden itself. -/
def KeepsWords (x y : Char × Char) : Prop :=
  y.1 ≠ y.2 → EndsWords x.2 ∨ isWord y.1 = false

/-- The text of a lexeme and what masking leaves of it, place by place. -/
def Lexeme.cells (l : Lexeme) : List (Char × Char) :=
  l.spelling.zip l.masked

/-- What delimits comments and literals belongs to no word. -/
structure LexRules.Delimits (rules : LexRules) : Prop where
  lineComments : ∀ marker ∈ rules.lineComments, marker.toList.head?.any fun c => !isWord c
  blockComments : ∀ markers ∈ rules.blockComments, markers.1.toList.head?.any fun c => !isWord c
  quotes : ∀ q ∈ rules.quotes, EndsWords q

variable {rules : LexRules}

private theorem endsWords_of_mem_blank {s : List Char} {c : Char} (h : c ∈ Lexeme.blank s) : EndsWords c := by
  obtain ⟨d, -, rfl⟩ := List.mem_map.1 h
  by_cases hd : d = '\n'
  · rw [if_pos hd]
    exact ⟨by decide, by decide⟩
  · rw [if_neg hd]
    exact ⟨by decide, by decide⟩

/-- Where no word goes on there is nothing to keep. -/
private theorem isChain_of_endsWords {cells : List (Char × Char)} (h : ∀ x ∈ cells, EndsWords x.2) :
    cells.IsChain KeepsWords := by
  refine (List.pairwise_of_forall_mem_list ?_).isChain
  intro x hx y _ _
  exact .inl (h x hx)

/-- A lexeme keeps the words before it and in it. -/
structure Lexeme.Separate (l : Lexeme) : Prop where
  chain : l.cells.IsChain KeepsWords
  head : ∀ x ∈ l.cells.head?, x.1 ≠ x.2 → isWord x.1 = false

private theorem Lexeme.Separate.of_masked {l : Lexeme} (h : ∀ c ∈ l.masked, EndsWords c)
    (hhead : ∀ c ∈ l.spelling.head?, c ∈ l.masked.head? ∨ isWord c = false) : l.Separate where
  chain := isChain_of_endsWords fun x hx => h x.2 (List.of_mem_zip hx).2
  head := by
    intro x hx hhidden
    unfold Lexeme.cells at hx
    cases hspelling : l.spelling with
    | nil => simp [hspelling] at hx
    | cons c s =>
      cases hmasked : l.masked with
      | nil => simp [hmasked] at hx
      | cons m t =>
        obtain rfl : (c, m) = x := by simpa [hspelling, hmasked] using hx
        rcases hhead c (by simp [hspelling]) with hmem | hword
        · exact absurd (by simpa [hmasked] using hmem.symm) hhidden
        · exact hword

private theorem Lexeme.separate_single {l : Lexeme} {c : Char} (hspelling : l.spelling = [c])
    (hmasked : l.masked = [c]) : l.Separate where
  chain := by simp [Lexeme.cells, hspelling, hmasked]
  head := by simp [Lexeme.cells, hspelling, hmasked]

private theorem separate_lexLiteral (h : rules.Delimits) {q : Char} (hq : q ∈ rules.quotes) (s : List Char) :
    (lexLiteral rules q s).1.Separate := by
  have hliteral : ∀ (triple closed : Bool) (body : List Char),
      (Lexeme.literal (if triple then [q, q, q] else [q]) body closed).Separate := by
    intro triple closed body
    have hdelimiter : ∀ c ∈ (if triple then [q, q, q] else [q]), c = q := by
      cases triple <;> simp
    apply Lexeme.Separate.of_masked
    · intro c hc
      simp only [Lexeme.masked, List.mem_append] at hc
      rcases hc with (hc | hc) | hc
      · rw [hdelimiter c hc]
        exact h.quotes q hq
      · exact endsWords_of_mem_blank hc
      · split at hc
        · rw [hdelimiter c hc]
          exact h.quotes q hq
        · cases hc
    · cases triple <;> simp [Lexeme.spelling, Lexeme.masked]
  unfold lexLiteral
  dsimp only
  split
  · exact hliteral _ true _
  · split
    · exact hliteral _ false _
    · exact hliteral _ false _

private theorem separate_comment {l : Lexeme} {s : List Char} (hspelling : l.spelling = s)
    (hmasked : l.masked = Lexeme.blank s) (hhead : s.head?.any fun c => !isWord c) : l.Separate := by
  apply Lexeme.Separate.of_masked
  · intro c hc
    rw [hmasked] at hc
    exact endsWords_of_mem_blank hc
  · intro c hc
    rw [hspelling, Option.mem_def] at hc
    exact .inr (by simpa [hc] using hhead)

theorem separate_lexOne (h : rules.Delimits) (c : Char) (s : List Char) : (lexOne rules c s).1.Separate := by
  unfold lexOne
  split
  · exact Lexeme.separate_single rfl rfl
  · rename_i hline
    split
    · rename_i opener closer hfind
      have hhead := h.blockComments _ (List.mem_of_find?_eq_some hfind)
      unfold lexBlockComment
      have happend : ∀ t : List Char, (opener.toList ++ t).head?.any fun c => !isWord c := by
        intro t
        cases hopener : opener.toList with
        | nil => simp [hopener] at hhead
        | cons d r => simpa [hopener] using hhead
      split
      · refine separate_comment rfl rfl ?_
        rw [List.append_assoc]
        exact happend _
      · exact separate_comment rfl rfl (happend _)
    · split
      · rename_i hmarker
        obtain ⟨marker, hmem, hfront⟩ := List.any_eq_true.1 hmarker
        have hhead := h.lineComments marker hmem
        refine separate_comment rfl rfl ?_
        have hc : isWord c = false := by
          cases hchars : marker.toList with
          | nil => simp [hchars] at hhead
          | cons d r =>
            rw [hchars, List.isPrefixOf_cons_cons] at hfront
            obtain rfl : d = c := by simpa using (Bool.and_eq_true_iff.1 hfront).1
            simpa [hchars] using hhead
        simp [Lexeme.spelling, hline, hc]
      · split
        · rename_i hq
          exact separate_lexLiteral h (by simpa using hq) s
        · exact Lexeme.separate_single rfl rfl

/-! ### Whole texts -/

private theorem Lexeme.length_masked (l : Lexeme) : l.masked.length = l.spelling.length :=
  l.forall₂_masked.length_eq.symm

/-- A text and its masked form, place by place, lexeme by lexeme. -/
private theorem zip_mask (rules : LexRules) (content : List Char) :
    content.zip (mask rules content) = (lex rules content).flatMap Lexeme.cells := by
  have hzip : ∀ ls : List Lexeme,
      (ls.flatMap Lexeme.spelling).zip (ls.flatMap Lexeme.masked) = ls.flatMap Lexeme.cells := by
    intro ls
    induction ls with
    | nil => rfl
    | cons l ls ih =>
      rw [List.flatMap_cons, List.flatMap_cons, List.flatMap_cons, List.zip_append l.length_masked.symm, ih]
      rfl
  have := hzip (lex rules content)
  rwa [flatMap_spelling_lex] at this

/-- Hidden characters do not go on with the words of the code before them. -/
theorem isChain_zip_mask (h : rules.Delimits) (content : List Char) :
    (content.zip (mask rules content)).IsChain KeepsWords := by
  rw [zip_mask]
  -- the first place of each text keeps the word before it, whatever that is
  suffices hboth : ((lex rules content).flatMap Lexeme.cells).IsChain KeepsWords ∧
      ∀ x ∈ ((lex rules content).flatMap Lexeme.cells).head?, x.1 ≠ x.2 → isWord x.1 = false from hboth.1
  induction content using lex.induct rules with
  | case1 => simp [lex]
  | case2 c s _ ih =>
    rw [lex, List.flatMap_cons]
    have hfirst := separate_lexOne h c s
    refine ⟨hfirst.chain.append ih.1 fun x _ y hy hhidden => .inr (ih.2 y hy hhidden), ?_⟩
    have hne : (lexOne rules c s).1.cells ≠ [] := by
      intro hnil
      have hlength := congrArg List.length hnil
      rw [Lexeme.cells, List.length_zip, Lexeme.length_masked, Nat.min_self, List.length_nil,
        List.length_eq_zero_iff] at hlength
      exact spelling_lexOne_ne_nil rules c s hlength
    rw [List.head?_append_of_ne_nil _ hne]
    exact hfirst.head

/-- Lines that are split at the same places are stretches of the two texts, place by place, and the first ones stand at
their fronts. -/
private theorem zip_lines_within {s t : List Char} (h : List.Forall₂ Shows s t) :
    (∀ x ∈ (Text.lines s).zip (Text.lines t), x.1.zip x.2 <:+: s.zip t) ∧
      ∀ x ∈ ((Text.lines s).zip (Text.lines t)).head?, x.1.zip x.2 <+: s.zip t := by
  induction h with
  | nil => simp [Text.lines, Text.splitAtChar]
  | @cons c m s t hcm _ ih =>
    obtain ⟨hwithin, hfront⟩ := ih
    obtain ⟨p, ps, hp⟩ := List.exists_cons_of_ne_nil (Text.lines_ne_nil s)
    obtain ⟨q, qs, hq⟩ := List.exists_cons_of_ne_nil (Text.lines_ne_nil t)
    rw [hp, hq, List.zip_cons_cons, List.forall_mem_cons] at hwithin
    rw [hp, hq, List.zip_cons_cons] at hfront
    have hfirst : p.zip q <+: s.zip t := hfront (p, q) rfl
    by_cases hc : c = '\n'
    · obtain rfl : m = '\n' := hcm.lineEnd_iff.1 hc
      rw [hc, Text.lines_lineEnd_cons, Text.lines_lineEnd_cons, hp, hq]
      constructor
      · rw [List.zip_cons_cons, List.zip_cons_cons, List.forall_mem_cons, List.forall_mem_cons]
        refine ⟨List.nil_prefix.isInfix, hfirst.isInfix.trans (List.suffix_cons _ _).isInfix, fun x hx => ?_⟩
        exact (hwithin.2 x hx).trans (List.suffix_cons _ _).isInfix
      · simp
    · have hm : m ≠ '\n' := fun hm => hc (hcm.lineEnd_iff.2 hm)
      rw [Text.lines_cons hc, Text.lines_cons hm, hp, hq]
      have hcons : (c :: p).zip (m :: q) <+: (c :: s).zip (m :: t) := List.prefix_cons_inj _ |>.2 hfirst
      constructor
      · rw [List.modifyHead_cons, List.modifyHead_cons, List.zip_cons_cons, List.forall_mem_cons]
        refine ⟨hcons.isInfix, fun x hx => ?_⟩
        exact (hwithin.2 x hx).trans (List.suffix_cons _ _).isInfix
      · intro x hx
        obtain rfl : (c :: p, m :: q) = x := by simpa using hx
        exact hcons

/-- A line of a source, place by place. -/
def Line.cells (line : Line) : List (Char × Char) :=
  line.raw.zip line.code

/-- Hidden characters do not go on with the words of the code before them, in any line of a source. -/
theorem isChain_cells (h : rules.Delimits) {content : List Char} {line : Line} (hline : line ∈ sourceLines rules content) :
    line.cells.IsChain KeepsWords := by
  have hzip : (line.raw, line.code) ∈ (Text.lines content).zip (Text.lines (mask rules content)) := by
    rw [sourceLines, ← List.map_uncurry_zip_eq_zipWith] at hline
    obtain ⟨⟨raw, code⟩, hmem, rfl⟩ := List.mem_map.1 hline
    exact hmem
  have hwithin := (zip_lines_within (forall₂_mask rules content)).1 _ hzip
  exact List.IsChain.infix (isChain_zip_mask h content) hwithin

end CallIndex.Source

namespace CallIndex.Extract

theorem Python.delimits_rules : Python.rules.Delimits :=
  ⟨by decide, by decide, by simpa [Python.rules, Source.EndsWords] using ⟨rfl, rfl⟩⟩

theorem Php.delimits_rules : Php.rules.Delimits :=
  ⟨by decide, by decide, by simpa [Php.rules, Source.EndsWords] using ⟨rfl, rfl⟩⟩

end CallIndex.Extract
