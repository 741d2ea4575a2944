import CallIndex.Proofs.CodeStructure
import CallIndex.Proofs.Concatenation

/-!
# Masking at line boundaries

Comments and literals may run over lines, and what closes them is searched in the whole rest of a text.  Still, where a
text ends with a line and leaves no region open, its last lexeme ends with it: no delimiter goes on behind a line end, and
a delimiter that has been found stays the first one whatever follows.  So the lexemes of two such texts in a row are those
of the first and then those of the second.

* `lex_append_of_endsLine`: a text of whole lines and any text behind it are lexed one after the other.
* `openRegionsFrom_append` and `openRegionsFrom_add`: the regions that are left open in lexemes in a row.
* `mask_composes_at_line_ends`: masking and its problems, for the languages there are.
-/

namespace CallIndex

namespace Text

/-! ### Texts that end a line -/

/-- A text of whole lines: it is empty or ends with a line end. -/
def EndsLine (s : List Char) : Prop :=
  ∀ c ∈ s.getLast?, c = '\n'

instance (s : List Char) : Decidable (EndsLine s) :=
  decidable_of_iff (s.getLast?.all (· = '\n')) <| by
    cases h : s.getLast? <;> simp [EndsLine, h]

private theorem EndsLine.mem {s : List Char} (h : EndsLine s) (hne : s ≠ []) : '\n' ∈ s := by
  have hlast := List.getLast?_eq_some_getLast hne
  rw [← h _ hlast]
  exact List.getLast_mem hne

private theorem EndsLine.of_suffix {s t : List Char} (h : EndsLine s) (hsuffix : t <:+ s) : EndsLine t := by
  obtain ⟨u, rfl⟩ := hsuffix
  intro c hc
  apply h c
  rw [List.getLast?_append, Option.mem_def.1 hc]
  rfl

/-- A front without line ends does not reach beyond the end of a line. -/
private theorem EndsLine.isPrefixOf_append {s front : List Char} (h : EndsLine s) (hne : s ≠ []) (hfront : '\n' ∉ front)
    (t : List Char) : front.isPrefixOf (s ++ t) = front.isPrefixOf s := by
  by_cases hlength : front.length ≤ s.length
  · exact Text.isPrefixOf_append hlength t
  · have hlong : ¬ front <+: s := fun hprefix => hlength hprefix.length_le
    have hreach : ¬ front <+: s ++ t := by
      intro hprefix
      have hwhole : s <+: front := List.prefix_of_prefix_length_le (List.prefix_append s t) hprefix (by omega)
      exact hfront (hwhole.subset (h.mem hne))
    rw [Bool.eq_iff_iff, List.isPrefixOf_iff_prefix, List.isPrefixOf_iff_prefix]
    exact iff_of_false hreach hlong

end Text

namespace Source

open Text (EndsLine)

variable {rules : LexRules}

/-! ### Lexemes in a row -/

/-- What opens a comment holds no line end. -/
structure LexRules.OpensInLine (rules : LexRules) : Prop where
  lineComments : ∀ marker ∈ rules.lineComments, '\n' ∉ marker.toList
  blockComments : ∀ markers ∈ rules.blockComments, '\n' ∉ markers.1.toList

/-- Text behind the end of a line does not reach into the lexemes of the line. -/
private theorem LexRules.OpensInLine.keptApart (hrules : rules.OpensInLine) {c : Char} {s : List Char}
    (hline : EndsLine (c :: s)) (t : List Char) : KeptApart rules c s t where
  blockComments := fun markers hmarkers => hline.isPrefixOf_append (by simp) (hrules.blockComments markers hmarkers) t
  lineComments := fun marker hmarker => hline.isPrefixOf_append (by simp) (hrules.lineComments marker hmarker) t
  lineEnd := fun _ => hline.mem (by simp)
  quotes := by
    intro hc _ _
    have hbehind : s ≠ [] := by
      rintro rfl
      exact hc (hline c rfl)
    exact (hline.of_suffix (List.suffix_cons c s)).isPrefixOf_append hbehind (by simpa using Ne.symm hc) t

private theorem suffix_lexOne (rules : LexRules) (c : Char) (s : List Char) : (lexOne rules c s).2 <:+ c :: s :=
  ⟨_, spelling_lexOne rules c s⟩

/-- Texts of which the first ends a line and leaves nothing open are lexed one after the other. -/
theorem lex_append_of_endsLine (hrules : rules.OpensInLine) {s : List Char} (hline : EndsLine s)
    (hclosed : ∀ l ∈ lex rules s, l.openKind? = none) (t : List Char) :
    lex rules (s ++ t) = lex rules s ++ lex rules t :=
  lex_append EndsLine (fun hline _ => hrules.keptApart hline t)
    (fun hline => hline.of_suffix (suffix_lexOne rules _ _)) hline hclosed

/-! ### Regions of lexemes in a row -/

/-- The region, as many lines further down. -/
def OpenRegion.moveDown (r : OpenRegion) (count : Nat) : OpenRegion :=
  { r with line := r.line + count }

theorem openRegionsFrom_append (line : Nat) (ls ls' : List Lexeme) :
    openRegionsFrom line (ls ++ ls') = openRegionsFrom line ls ++
      openRegionsFrom (line + (ls.flatMap Lexeme.spelling).count '\n') ls' := by
  induction ls generalizing line with
  | nil => rfl
  | cons l ls ih =>
    rw [List.cons_append, openRegionsFrom_cons, openRegionsFrom_cons, ih, List.flatMap_cons, List.count_append,
      List.append_assoc, Nat.add_assoc]

/-- Lexemes that start further down leave the same regions open there. -/
theorem openRegionsFrom_add (line count : Nat) (ls : List Lexeme) :
    openRegionsFrom (line + count) ls = (openRegionsFrom line ls).map (·.moveDown count) := by
  induction ls generalizing line with
  | nil => rfl
  | cons l ls ih =>
    rw [openRegionsFrom_cons, openRegionsFrom_cons, Nat.add_right_comm, ih, List.map_append]
    congr 1
    cases l.openKind? <;> rfl

/-! ### The languages -/

theorem opensInLine_rules (language : String) : (lexRulesOf language).OpensInLine := by
  unfold lexRulesOf
  split_ifs
  · exact ⟨by simp [Extract.Python.rules], by simp [Extract.Python.rules]⟩
  · exact ⟨by simp [Extract.JavaScript.rules], by simp [Extract.JavaScript.rules]⟩
  · exact ⟨by simp [Extract.Php.rules], by simp [Extract.Php.rules]⟩
  · exact ⟨by simp, by simp⟩

/-- A text of whole lines that leaves no region open and any text behind it are masked one after the other, and the
regions that are left open are those of the second text, as many lines further down as the first one has. -/
theorem mask_composes_at_line_ends (language : String) {a : List Char} (hline : EndsLine a)
    (hclosed : openRegions (lexRulesOf language) a = []) (b : List Char) :
    mask (lexRulesOf language) (a ++ b) = mask (lexRulesOf language) a ++ mask (lexRulesOf language) b ∧
      openRegions (lexRulesOf language) (a ++ b) =
        (openRegions (lexRulesOf language) b).map (·.moveDown (a.count '\n')) := by
  have hlex := lex_append_of_endsLine (opensInLine_rules language) hline (openKind?_of_openRegions hclosed) b
  constructor
  · unfold mask
    rw [hlex, List.flatMap_append]
  · unfold openRegions at hclosed ⊢
    rw [hlex, openRegionsFrom_append, hclosed, List.nil_append, flatMap_spelling_lex, openRegionsFrom_add]

/-- A literal and a comment over two lines each, with an escaped quote in the one and a quote in the other. -/
def wholeLines : List Char :=
  "x = `1\n\\`2`; /* '\n*/ f()\n".toList

theorem whole_lines_compose :
    EndsLine wholeLines ∧ openRegions (lexRulesOf "javascript") wholeLines = [] ∧
      mask (lexRulesOf "javascript") (wholeLines ++ "g('\n/*".toList) =
        mask (lexRulesOf "javascript") wholeLines ++ mask (lexRulesOf "javascript") "g('\n/*".toList ∧
      openRegions (lexRulesOf "javascript") (wholeLines ++ "g('\n/*".toList) = [⟨.literal, 4⟩, ⟨.comment, 5⟩] := by
  have hline : EndsLine wholeLines := by decide
  have hclosed : openRegions (lexRulesOf "javascript") wholeLines = [] := by cbv
  have hbehind : openRegions (lexRulesOf "javascript") "g('\n/*".toList = [⟨.literal, 1⟩, ⟨.comment, 2⟩] := by cbv
  obtain ⟨hmask, hregions⟩ := mask_composes_at_line_ends "javascript" hline hclosed "g('\n/*".toList
  rw [hbehind] at hregions
  exact ⟨hline, hclosed, hmask, hregions⟩

end Source

end CallIndex
