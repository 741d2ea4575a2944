import CallIndex.Proofs.ParameterReaders
import Mathlib.Data.List.Infix

/-!
# Parameter names

The closing bracket of a list of parameters is found in the masked text, but the names are read off the raw text.  So a
comment or a literal in the list can reach them: a comma or a bracket in it counts, and a comment before the name of a
parameter stands in the way of the name.  Text is harmless (`Python.Harmless`, `Php.Harmless`) if it does none of this, and
a source is quiet if all the text that it hides in parameters is harmless.

A quiet source is compared with its own code, line by line: with the lines that show their masked text as raw text
(`Line.codeOnly`).  Two sources with the same masked text have these lines in common.

* `Source.bracketCells?`: a bracketed text and its masked form, place by place.
* `PartReader.Ignores.names_eq`: the names of the parameters of a quiet signature are those in its code.
* `ReadsSignatures.sameSignatures`: scans that look at the names of parameters only find the same in quiet sources.
* `quiet_text_keeps_parameters`: quiet sources with the same masked text have the same functions and methods, parameters
  included.
-/

namespace CallIndex

open Text (Scan isWord isBlank)
open Source (Line)

namespace Source

/-! ### Bracketed text, place by place -/

section Views

variable {α β : Type}

/-- The pieces of a view of the lines, line by line, to the closing bracket, `budget` lines at most. -/
def viewPieces? (view : Line → List α) (budget : Nat) (depth : Int) : List Line → Option (List (List α))
  | [] => none
  | line :: rest =>
    match budget with
    | 0 => none
    | budget + 1 =>
      match seekClosing depth line.code with
      | .found offset => some [(view line).take offset]
      | .pending depth => (viewPieces? view budget depth rest).map (view line :: ·)

/-- What a view of the lines shows of the bracket at column `col` of the first line, line by line. -/
def bracketView? (view : Line → List α) (col : Nat) : List Line → Option (List (List α))
  | [] => none
  | line :: rest =>
    match seekClosing 0 (line.code.drop col) with
    | .found offset => some [((view line).take (col + offset)).drop (col + 1)]
    | .pending depth => (viewPieces? view (bracketLineLimit - 1) depth rest).map ((view line).drop (col + 1) :: ·)

private theorem bracketPieces?_eq (budget : Nat) (depth : Int) (lines : List Line) :
    bracketPieces? budget depth lines = viewPieces? Line.raw budget depth lines := by
  induction lines generalizing budget depth with
  | nil => rw [bracketPieces?, viewPieces?]
  | cons line rest ih =>
    cases budget with
    | zero => rfl
    | succ budget =>
      rw [bracketPieces?, viewPieces?]
      cases seekClosing depth line.code with
      | found offset => rfl
      | pending depth => exact congrArg (Option.map _) (ih budget depth)

/-- Bracketed text is what the raw lines show of the bracket. -/
private theorem bracketText?_eq (lines : List Line) (col : Nat) :
    bracketText? lines col = (bracketView? Line.raw col lines).map joinPieces := by
  cases lines with
  | nil => rfl
  | cons line rest =>
    have htext := bracketTextAt_natCast (show (line :: rest)[0]? = some line from rfl) col
    rw [Int.natCast_zero] at htext
    rw [bracketText?, htext, bracketView?]
    cases seekClosing 0 (line.code.drop col) with
    | found offset => rfl
    | pending depth =>
      simp only [bracketPieces?_eq]
      cases hpieces : viewPieces? Line.raw (bracketLineLimit - 1) depth rest <;> simp [hpieces, Except.toOption]

section Map

variable {view : Line → List α} {view' : Line → List β} {f : α → β} {g : Line → Line}

private theorem viewPieces?_map (budget : Nat) (depth : Int) {lines : List Line}
    (h : ∀ line ∈ lines, (g line).code = line.code ∧ view' (g line) = (view line).map f) :
    viewPieces? view' budget depth (lines.map g) = (viewPieces? view budget depth lines).map (List.map (List.map f)) := by
  induction lines generalizing budget depth with
  | nil => simp [viewPieces?]
  | cons line rest ih =>
    cases budget with
    | zero => rfl
    | succ budget =>
      obtain ⟨hcode, hview⟩ := h line (by simp)
      rw [List.map_cons, viewPieces?, viewPieces?, hcode]
      cases seekClosing depth line.code with
      | found offset => simp [hview]
      | pending depth =>
        simp only [ih budget depth fun l hl => h l (by simp [hl]), hview]
        cases viewPieces? view budget depth rest <;> rfl

/-- What another view shows, of lines with the same code. -/
private theorem bracketView?_map (col : Nat) {lines : List Line}
    (h : ∀ line ∈ lines, (g line).code = line.code ∧ view' (g line) = (view line).map f) :
    bracketView? view' col (lines.map g) = (bracketView? view col lines).map (List.map (List.map f)) := by
  cases lines with
  | nil => rfl
  | cons line rest =>
    obtain ⟨hcode, hview⟩ := h line (by simp)
    rw [List.map_cons, bracketView?, bracketView?, hcode]
    cases seekClosing 0 (line.code.drop col) with
    | found offset => simp [hview]
    | pending depth =>
      have hrest := viewPieces?_map (bracketLineLimit - 1) depth fun l hl => h l (List.mem_cons_of_mem line hl)
      simp only [hrest, hview]
      cases viewPieces? view (bracketLineLimit - 1) depth rest <;> simp

end Map

variable {view : Line → List α} {pieces : List (List α)} {piece : List α}

private theorem mem_viewPieces? {budget : Nat} {depth : Int} {lines : List Line}
    (h : viewPieces? view budget depth lines = some pieces) (hpiece : piece ∈ pieces) :
    ∃ line ∈ lines, piece <:+: view line := by
  induction lines generalizing budget depth pieces with
  | nil => simp [viewPieces?] at h
  | cons line rest ih =>
    cases budget with
    | zero => cases h
    | succ budget =>
      rw [viewPieces?] at h
      split at h
      · rename_i offset _
        cases h
        rw [List.mem_singleton.1 hpiece]
        exact ⟨line, by simp, (List.take_prefix _ _).isInfix⟩
      · obtain ⟨others, hothers, rfl⟩ := Option.map_eq_some_iff.1 h
        rcases List.mem_cons.1 hpiece with rfl | hpiece
        · exact ⟨line, by simp, List.infix_rfl⟩
        · obtain ⟨l, hl, hin⟩ := ih hothers hpiece
          exact ⟨l, by simp [hl], hin⟩

/-- Every piece is a stretch of one of the lines. -/
private theorem mem_bracketView? {col : Nat} {lines : List Line} (h : bracketView? view col lines = some pieces)
    (hpiece : piece ∈ pieces) : ∃ line ∈ lines, piece <:+: view line := by
  cases lines with
  | nil => cases h
  | cons line rest =>
    rw [bracketView?] at h
    split at h
    · cases h
      rw [List.mem_singleton.1 hpiece]
      exact ⟨line, by simp, (List.drop_suffix _ _).isInfix.trans (List.take_prefix _ _).isInfix⟩
    · obtain ⟨others, hothers, rfl⟩ := Option.map_eq_some_iff.1 h
      rcases List.mem_cons.1 hpiece with rfl | hpiece
      · exact ⟨line, by simp, (List.drop_suffix _ _).isInfix⟩
      · obtain ⟨l, hl, hin⟩ := mem_viewPieces? hothers hpiece
        exact ⟨l, by simp [hl], hin⟩

end Views

/-- The text in the bracket at column `col` of the first line and its masked form, place by place, with a space behind
each line. -/
def bracketCells? (lines : List Line) (col : Nat) : Option (List (Char × Char)) :=
  (bracketView? Line.cells col lines).map fun pieces => pieces.flatMap (· ++ [(' ', ' ')])

/-- Hidden characters of a bracket do not go on with the words of the code before them. -/
private theorem isChain_bracketCells {lines : List Line} {col : Nat} {cells : List (Char × Char)}
    (hlines : ∀ line ∈ lines, line.cells.IsChain KeepsWords) (h : bracketCells? lines col = some cells) :
    cells.IsChain KeepsWords := by
  obtain ⟨pieces, hpieces, rfl⟩ := Option.map_eq_some_iff.1 h
  have hchain : ∀ piece ∈ pieces, piece.IsChain KeepsWords := by
    intro piece hpiece
    obtain ⟨line, hline, hin⟩ := mem_bracketView? hpieces hpiece
    exact List.IsChain.infix (hlines line hline) hin
  clear h hpieces
  induction pieces with
  | nil => exact .nil
  | cons piece pieces ih =>
    rw [List.flatMap_cons]
    have hpiece : (piece ++ [(' ', ' ')]).IsChain KeepsWords := by
      refine (hchain piece (by simp)).append (.singleton _) fun x _ y hy hhidden => ?_
      obtain rfl : (' ', ' ') = y := by simpa using hy
      exact absurd rfl hhidden
    refine hpiece.append (ih fun p hp => hchain p (by simp [hp])) fun x hx y _ _ => .inl ?_
    obtain rfl : (' ', ' ') = x := by simpa using hx
    exact ⟨by decide, by decide⟩

/-- Hidden characters of a bracket become spaces. -/
private theorem shows_of_mem_bracketCells {lines : List Line} {col : Nat} {cells : List (Char × Char)}
    (hlines : ∀ line ∈ lines, List.Forall₂ Shows line.raw line.code) (h : bracketCells? lines col = some cells)
    {x : Char × Char} (hx : x ∈ cells) : Shows x.1 x.2 := by
  obtain ⟨pieces, hpieces, rfl⟩ := Option.map_eq_some_iff.1 h
  obtain ⟨piece, hpiece, hx⟩ := List.mem_flatMap.1 hx
  rcases List.mem_append.1 hx with hx | hx
  · obtain ⟨line, hline, hin⟩ := mem_bracketView? hpieces hpiece
    exact (List.forall₂_iff_zip.1 (hlines line hline)).2 (hin.subset hx)
  · rw [List.mem_singleton.1 hx]
    exact .inl rfl

/-- A line as if it hid nothing. -/
def Line.codeOnly (line : Line) : Line :=
  ⟨line.code, line.code⟩

/-- Sources with the same code have the same lines of code. -/
private theorem map_codeOnly_sourceLines {rules : LexRules} {content content' : List Char}
    (h : mask rules content = mask rules content') :
    (sourceLines rules content).map Line.codeOnly = (sourceLines rules content').map Line.codeOnly := by
  have hcodes : ∀ content, (sourceLines rules content).map Line.codeOnly =
      (Text.lines (mask rules content)).map fun code => ⟨code, code⟩ := by
    intro content
    rw [← map_code_sourceLines, List.map_map]
    rfl
  rw [hcodes, hcodes, h]

private theorem map_fst_cells {line : Line} (h : line.raw.length = line.code.length) :
    line.cells.map Prod.fst = line.raw :=
  List.map_fst_zip (Nat.le_of_eq h)

private theorem map_snd_cells {line : Line} (h : line.raw.length = line.code.length) :
    line.cells.map Prod.snd = line.code :=
  List.map_snd_zip (Nat.le_of_eq h.symm)

end Source

namespace Extract

open Source (Shows KeepsWords EndsWords bracketCells? bracketView? joinPieces)

/-! ### Names in brackets -/

namespace PartReader

variable {σ : Type} {r : PartReader σ} {name? : List Char → Option String} {lines : List Line}

/-- The names in a bracket, when one side of the places is taken for the raw text. -/
private theorem SkipsBlanks.names_bracketParts (h : r.SkipsBlanks)
    (hname : ∀ part, name? (Text.trim part) = r.name? (r.after part)) (g : Line → Line) (side : Char × Char → Char)
    (hside : side (' ', ' ') = ' ') (hg : ∀ line ∈ lines, (g line).code = line.code ∧ (g line).raw = line.cells.map side)
    (number col : Nat) : (bracketParts number (lines.map g) col).1.filterMap name? =
      ((bracketCells? lines col).map fun cells => r.result (r.readAll (cells.map side))).getD [] := by
  rw [bracketParts, Source.bracketText?_eq, Source.bracketView?_map col hg, bracketCells?]
  cases bracketView? Line.cells col lines with
  | none => rfl
  | some pieces =>
    have hspaced : (pieces.flatMap (· ++ [(' ', ' ')])).map side =
        (pieces.map (List.map side)).flatMap fun piece => piece ++ [' '] := by
      rw [List.map_flatMap, List.flatMap_map]
      simp [hside]
    simp only [Option.map_some, Option.getD_some]
    rw [h.filterMap_splitTopLevel hname, h.result_joinPieces, hspaced]

/-- The names in a bracket are those in its code, if the text and its masked form are read alike. -/
private theorem SkipsBlanks.names_codeOnly (h : r.SkipsBlanks)
    (hname : ∀ part, name? (Text.trim part) = r.name? (r.after part))
    (hlines : ∀ line ∈ lines, line.raw.length = line.code.length) (number : Nat) {col : Nat}
    (hread : ∀ cells ∈ bracketCells? lines col, r.readAll (cells.map Prod.fst) = r.readAll (cells.map Prod.snd)) :
    (bracketParts number lines col).1.filterMap name? =
      (bracketParts number (lines.map Line.codeOnly) col).1.filterMap name? := by
  have hraw := h.names_bracketParts hname id Prod.fst rfl
    (fun line hline => ⟨rfl, (Source.map_fst_cells (hlines line hline)).symm⟩) number col
  have hcode := h.names_bracketParts hname Line.codeOnly Prod.snd rfl
    (fun line hline => ⟨rfl, (Source.map_snd_cells (hlines line hline)).symm⟩) number col
  rw [List.map_id] at hraw
  rw [hraw, hcode]
  cases hcells : bracketCells? lines col with
  | none => rfl
  | some cells => simp [hread cells hcells]

/-- A reader that is in the middle of a word has just read a character of it, so a hidden character does not go on with
the word. -/
private theorem isWord_eq_false_of_hidden (InWord : σ → Prop) (hstart : ¬ InWord r.start)
    (hstep : ∀ st c, InWord (r.step st c) → ¬ EndsWords c) {before after : List (Char × Char)} {x : Char × Char}
    (hchain : (before ++ x :: after).IsChain KeepsWords) (hx : x.1 ≠ x.2)
    (hword : InWord (r.readAll (before.map Prod.snd)).part) : isWord x.1 = false := by
  induction before using List.reverseRecOn with
  | nil => exact absurd hword hstart
  | append_singleton before y _ =>
    have hkeeps : KeepsWords y x := by
      rw [List.append_assoc, List.singleton_append] at hchain
      exact (List.isChain_append_cons_cons.1 hchain).2.1
    have hread : (r.readAll ((before ++ [y]).map Prod.snd)) = r.read (r.readAll (before.map Prod.snd)) y.2 := by
      rw [List.map_append]
      exact List.foldl_append
    -- a comma would have begun a new part, and then no word is being read
    rcases hkeeps hx with hends | hno
    · rw [hread, read] at hword
      split at hword
      · exact absurd hword hstart
      · exact absurd hends (hstep _ _ hword)
    · exact hno

end PartReader

/-! ### Harmless text -/

/-- All hidden characters of a text are harmless behind the code that stands before them. -/
def Hides (Harmless : List Char → Char → Prop) (cells : List (Char × Char)) : Prop :=
  ∀ i : Fin cells.length, (cells.get i).1 ≠ (cells.get i).2 →
    Harmless ((cells.take i).map Prod.snd) (cells.get i).1

instance {Harmless : List Char → Char → Prop} [∀ before c, Decidable (Harmless before c)] (cells : List (Char × Char)) :
    Decidable (Hides Harmless cells) :=
  inferInstanceAs (Decidable (∀ _, _))

private theorem Hides.of_append {Harmless : List Char → Char → Prop} {before after : List (Char × Char)}
    {x : Char × Char}
    (h : Hides Harmless (before ++ x :: after)) (hx : x.1 ≠ x.2) : Harmless (before.map Prod.snd) x.1 := by
  have hi := h ⟨before.length, by simp⟩
  simpa [hx] using hi

/-- The parameters of the function that the first line declares, as places; `column?` tells where they begin in the code
of the line. -/
def signature? (column? : List Char → Option Nat) : List Line → Option (List (Char × Char))
  | [] => none
  | line :: rest => (column? line.code).bind (bracketCells? (line :: rest))

/-- Whatever the lines hide in parameters is harmless. -/
def QuietSignatures (column? : List Char → Option Nat) (Harmless : List Char → Char → Prop) (lines : List Line) : Prop :=
  ∀ here ∈ lines.tails, ∀ cells ∈ signature? column? here, Hides Harmless cells

instance {column? : List Char → Option Nat} {Harmless : List Char → Char → Prop}
    [∀ before c, Decidable (Harmless before c)] (lines : List Line) :
    Decidable (QuietSignatures column? Harmless lines) :=
  inferInstanceAs (Decidable (∀ _ ∈ _, _))

section Lines

variable {rules : Source.LexRules} {content : List Char} {σ : Type} {r : PartReader σ} {name? : List Char → Option String}
  {column? : List Char → Option Nat} {Harmless : List Char → Char → Prop}

/-- What a reader has to make of harmless text: it is no mark, and does to its part what a space does. -/
def PartReader.Ignores (r : PartReader σ) (Harmless : List Char → Char → Prop) : Prop :=
  ∀ {before after : List (Char × Char)} {x : Char × Char}, (before ++ x :: after).IsChain KeepsWords → x.1 ≠ x.2 →
    Harmless (before.map Prod.snd) x.1 → isMark x.1 = false ∧
      r.step (r.readAll (before.map Prod.snd)).part x.1 = r.step (r.readAll (before.map Prod.snd)).part ' '

/-- The names of the parameters of a quiet signature are those in its code. -/
theorem PartReader.Ignores.names_eq (hr : r.Ignores Harmless) (hskips : r.SkipsBlanks)
    (hname : ∀ part, name? (Text.trim part) = r.name? (r.after part)) (hrules : rules.Delimits)
    (hquiet : QuietSignatures column? Harmless (Source.sourceLines rules content)) {line : Line} {rest : List Line}
    (hlines : line :: rest <:+ Source.sourceLines rules content) {col : Nat} (hcol : column? line.code = some col)
    (number : Nat) : (bracketParts number (line :: rest) col).1.filterMap name? =
      (bracketParts number ((line :: rest).map Line.codeOnly) col).1.filterMap name? := by
  have hmem : ∀ l ∈ line :: rest, l ∈ Source.sourceLines rules content := fun l hl => hlines.subset hl
  apply hskips.names_codeOnly hname fun l hl => Source.length_eq_of_mem_sourceLines (hmem l hl)
  intro cells hcells
  have hhides : Hides Harmless cells := by
    apply hquiet _ ((List.mem_tails _ _).2 hlines) cells
    rw [signature?, hcol]
    exact hcells
  have hchain : cells.IsChain KeepsWords :=
    Source.isChain_bracketCells (fun l hl => Source.isChain_cells hrules (hmem l hl)) hcells
  have hshows : ∀ x ∈ cells, Shows x.1 x.2 := fun x hx =>
    Source.shows_of_mem_bracketCells (fun l hl => Source.forall₂_of_mem_sourceLines (hmem l hl)) hcells hx
  apply PartReader.readAll_eq_of_hidden
  rintro before x after rfl hx
  refine ⟨?_, hr hchain hx (hhides.of_append hx)⟩
  rcases hshows x (by simp) with heq | ⟨hspace, -⟩
  · exact absurd heq.symm hx
  · exact hspace

end Lines

private theorem WordState.step_of_not_isWord {w : WordState} {c : Char}
    (h : ∀ soFar, w = .going soFar → isWord c = false) : w.step c = w.step ' ' := by
  cases w with
  | going soFar => rw [step, step, h soFar rfl]; rfl
  | ended word => rfl

namespace Python

/-- Hidden text that does not touch the parameters: it is no mark, and something of its part stands before it, stars and
blanks apart. -/
def Harmless (before : List Char) (c : Char) : Prop :=
  isMark c = false ∧ (PartReader.lastPart before).any fun d => d ≠ '*' && !isBlank d

instance (before : List Char) (c : Char) : Decidable (Harmless before c) :=
  inferInstanceAs (Decidable (_ ∧ _))

namespace NameState

/-- A word is being read. -/
def InWord : NameState → Prop
  | name (.going _) => True
  | _ => False

private theorem not_endsWords_of_inWord {st : NameState} {c : Char} (h : (st.step c).InWord) : ¬ EndsWords c := by
  have hbegin : (begin c).InWord → isWord c := by
    unfold begin
    split
    · rename_i hc
      exact fun _ => (Bool.and_eq_true_iff.1 hc).1
    · exact fun h => h.elim
  have hword : isWord c := by
    cases st with
    | start =>
      rw [step] at h
      split_ifs at h
      · cases h
      · cases h
      · exact hbegin h
    | star =>
      rw [step] at h
      split_ifs at h
      · cases h
      · exact hbegin h
    | waiting =>
      rw [step] at h
      split_ifs at h
      · cases h
      · exact hbegin h
    | name word =>
      cases word with
      | going soFar =>
        rw [step, WordState.step] at h
        split_ifs at h with hc
        · exact hc
        · cases h
      | ended word => cases h
    | failed => cases h
  intro hends
  rw [hends.1] at hword
  cases hword

/-- The name has begun, or there is none. -/
def Decided : NameState → Prop
  | name _ => True
  | failed => True
  | _ => False

private theorem decided_begin (c : Char) : (begin c).Decided := by
  unfold begin
  split <;> trivial

private theorem Decided.foldl {st : NameState} (h : st.Decided) (s : List Char) : (s.foldl step st).Decided := by
  cases st with
  | name word =>
    rw [foldl_name]
    trivial
  | failed =>
    rw [foldl_failed]
    trivial
  | start => cases h
  | star => cases h
  | waiting => cases h

private theorem decided_foldl {s : List Char} (h : s.any fun d => d ≠ '*' && !isBlank d) (st : NameState) :
    (s.foldl step st).Decided := by
  obtain ⟨c, hc, hother⟩ := List.any_eq_true.1 h
  obtain ⟨hstar, hblank⟩ : c ≠ '*' ∧ isBlank c = false := by simpa using hother
  obtain ⟨front, back, rfl⟩ := List.append_of_mem hc
  rw [List.foldl_append, List.foldl_cons]
  apply Decided.foldl
  cases front.foldl step st with
  | name word => trivial
  | failed => trivial
  | start => simpa [step, hstar, hblank] using decided_begin c
  | star => simpa [step, hstar, hblank] using decided_begin c
  | waiting => simpa [step, hblank] using decided_begin c

end NameState

private theorem ignores_nameReader : nameReader.Ignores Harmless := by
  rintro before after x hchain hx ⟨hmark, hother⟩
  refine ⟨hmark, ?_⟩
  -- the name has begun or cannot begin any more, and hidden text does not go on with it
  have hdecided : ((nameReader.readAll (before.map Prod.snd)).part).Decided := by
    rw [PartReader.part_readAll]
    exact NameState.decided_foldl hother _
  have hword := PartReader.isWord_eq_false_of_hidden (r := nameReader) NameState.InWord id
    (fun _ _ => NameState.not_endsWords_of_inWord) hchain hx
  cases hpart : (nameReader.readAll (before.map Prod.snd)).part with
  | name word =>
    refine congrArg NameState.name (WordState.step_of_not_isWord ?_)
    rintro soFar rfl
    rw [hpart] at hword
    exact hword trivial
  | failed => rfl
  | _ => simp [hpart, NameState.Decided] at hdecided

end Python

namespace Php

/-- Hidden text that does not touch the parameters: it is no mark, and no dollar sign unless its part has a variable
already. -/
def Harmless (before : List Char) (c : Char) : Prop :=
  isMark c = false ∧ (c = '$' → (parameterName? (PartReader.lastPart before)).isSome)

instance (before : List Char) (c : Char) : Decidable (Harmless before c) :=
  inferInstanceAs (Decidable (_ ∧ _))

namespace VariableState

/-- A variable is being read. -/
def InWord : VariableState → Prop
  | sigil => True
  | name (.going _) => True
  | _ => False

private theorem not_endsWords_of_inWord {st : VariableState} {c : Char} (h : (st.step c).InWord) : ¬ EndsWords c := by
  have hword : isWord c ∨ c = '$' := by
    cases st with
    | seeking =>
      rw [step] at h
      split_ifs at h with hc
      · exact .inr hc
      · cases h
    | sigil =>
      rw [step] at h
      split_ifs at h with hword hc
      · exact .inl hword
      · exact .inr hc
      · cases h
    | name word =>
      cases word with
      | going soFar =>
        rw [step, WordState.step] at h
        split_ifs at h with hc
        · exact .inl hc
        · cases h
      | ended word => cases h
  rintro ⟨hno, hsigil⟩
  rcases hword with hword | hc
  · rw [hno] at hword
    cases hword
  · exact hsigil hc

end VariableState

private theorem ignores_variableReader : variableReader.Ignores Harmless := by
  rintro before after x hchain hx ⟨hmark, hsigil⟩
  refine ⟨hmark, ?_⟩
  have hword := PartReader.isWord_eq_false_of_hidden (r := variableReader) VariableState.InWord id
    (fun _ _ => VariableState.not_endsWords_of_inWord) hchain hx
  rw [parameterName?_eq, ← PartReader.part_readAll] at hsigil
  cases hpart : (variableReader.readAll (before.map Prod.snd)).part with
  | name word =>
    refine congrArg VariableState.name (WordState.step_of_not_isWord ?_)
    rintro soFar rfl
    rw [hpart] at hword
    exact hword trivial
  | seeking =>
    have hc : x.1 ≠ '$' := by
      intro hc
      have := hsigil hc
      rw [hpart] at this
      cases this
    simp [variableReader, VariableState.step, hc]
  | sigil =>
    have hc : x.1 ≠ '$' := by
      intro hc
      have := hsigil hc
      rw [hpart] at this
      cases this
    rw [hpart] at hword
    have hspace : isWord ' ' = false := by decide
    simp [variableReader, VariableState.step, hc, hword trivial, hspace]

end Php

/-! ### Two scans with the same signatures -/

/-- Two outlines have the same functions and methods. -/
structure Outline.SameSignatures (o o' : Outline) : Prop where
  functions : o.functions = o'.functions
  methods : o.methods = o'.methods

namespace Outline.SameSignatures

variable {o o' : Outline}

private theorem addFunction (h : SameSignatures o o') (f : FunctionDecl) :
    SameSignatures (o.addFunction f) (o'.addFunction f) :=
  ⟨congrArg (· ++ [f]) h.functions, h.methods⟩

private theorem addMethod (h : SameSignatures o o') (owner : Option Nat) (m : MethodDecl) :
    SameSignatures (o.addMethod owner m) (o'.addMethod owner m) :=
  ⟨h.functions, congrArg (· ++ [m]) h.methods⟩

private theorem addExports (h : SameSignatures o o') (names : List String) :
    SameSignatures (o.addExports names) (o'.addExports names) :=
  ⟨h.functions, h.methods⟩

private theorem trans_symm {p : Outline} (h : SameSignatures o p) (h' : SameSignatures o' p) : SameSignatures o o' :=
  ⟨h.functions.trans h'.functions.symm, h.methods.trans h'.methods.symm⟩

/-- Outlines with the signatures of two outlines that have the same ones. -/
private theorem transport {p p' : Outline} (h : SameSignatures o o') (hp : SameSignatures p o)
    (hp' : SameSignatures p' o') : SameSignatures p p' :=
  ⟨hp.functions.trans (h.functions.trans hp'.functions.symm), hp.methods.trans (h.methods.trans hp'.methods.symm)⟩

private theorem declareWith (h : SameSignatures o o') (number : Nat) (name : String)
    (problems problems' : List Problem) : SameSignatures (problems.foldl Outline.addProblem (o.declare number name))
      (problems'.foldl Outline.addProblem (o'.declare number name)) := by
  rw [foldl_addProblem, foldl_addProblem]
  exact ⟨h.functions, h.methods⟩

end Outline.SameSignatures

section Scans

variable {σ τ : Type} {readLine : τ → Nat → Line → List Line → τ} {outline : τ → Outline} {Alike : τ → τ → Prop}
  {column? : List Char → Option Nat} {name? : List Char → Option String}

/-- A scan takes from raw text no more of a signature than the names that `name?` reads off the parts of the bracket at
`column?`: with the same names there, one line keeps the signatures of two scans the same. -/
structure ReadsSignatures (readLine : τ → Nat → Line → List Line → τ) (outline : τ → Outline) (Alike : τ → τ → Prop)
    (column? : List Char → Option Nat) (name? : List Char → Option String) : Prop where
  alike : ∀ {st st' line line'}, Alike st st' → ∀ number, line.code = line'.code → ∀ rest rest',
    Alike (readLine st number line rest) (readLine st' number line' rest')
  signatures : ∀ {st st' line line' rest rest'} (number : Nat), Alike st st' →
    (outline st).SameSignatures (outline st') → line.code = line'.code →
    (∀ col, column? line.code = some col → (bracketParts number (line :: rest) col).1.filterMap name? =
      (bracketParts number (line' :: rest') col).1.filterMap name?) →
    (outline (readLine st number line rest)).SameSignatures (outline (readLine st' number line' rest'))

variable {rules : Source.LexRules} {r : PartReader σ} {Harmless : List Char → Char → Prop} {content content' : List Char}

/-- A quiet source has the signatures of its code. -/
private theorem ReadsSignatures.codeOnly (h : ReadsSignatures readLine outline Alike column? name?) (hr : r.Ignores Harmless)
    (hskips : r.SkipsBlanks) (hname : ∀ part, name? (Text.trim part) = r.name? (r.after part)) (hrules : rules.Delimits)
    (hquiet : QuietSignatures column? Harmless (Source.sourceLines rules content)) {st : τ} (hst : Alike st st) :
    (outline (runLines readLine st 1 (Source.sourceLines rules content))).SameSignatures
      (outline (runLines readLine st 1 ((Source.sourceLines rules content).map Line.codeOnly))) := by
  refine (runLines_related readLine (fun lines lines' _ st st' => lines <:+ Source.sourceLines rules content ∧
    lines' = lines.map Line.codeOnly ∧ Alike st st' ∧ (outline st).SameSignatures (outline st')) ?_
    (List.length_map _).symm st st ⟨List.suffix_rfl, rfl, hst, rfl, rfl⟩).2.2.2
  rintro st st' number line _ rest _ ⟨hlines, hmap, halike, hsame⟩
  obtain ⟨rfl, rfl⟩ := List.cons.inj hmap
  have hcode : line.code = line.codeOnly.code := rfl
  refine ⟨(List.suffix_cons line rest).trans hlines, rfl, h.alike halike number hcode rest _, ?_⟩
  exact h.signatures number halike hsame hcode fun col hcol =>
    hr.names_eq hskips hname hrules hquiet hlines hcol number

/-- Quiet sources with the same masked text have the signatures of their common code. -/
theorem ReadsSignatures.sameSignatures (h : ReadsSignatures readLine outline Alike column? name?)
    (hr : r.Ignores Harmless) (hskips : r.SkipsBlanks)
    (hname : ∀ part, name? (Text.trim part) = r.name? (r.after part)) (hrules : rules.Delimits)
    (hquiet : QuietSignatures column? Harmless (Source.sourceLines rules content))
    (hquiet' : QuietSignatures column? Harmless (Source.sourceLines rules content'))
    (hmask : Source.mask rules content = Source.mask rules content') {st : τ} (hst : Alike st st) :
    (outline (runLines readLine st 1 (Source.sourceLines rules content))).SameSignatures
      (outline (runLines readLine st 1 (Source.sourceLines rules content'))) := by
  have hcode := h.codeOnly hr hskips hname hrules hquiet hst
  rw [Source.map_codeOnly_sourceLines hmask] at hcode
  exact hcode.trans_symm (h.codeOnly hr hskips hname hrules hquiet' hst)

end Scans

namespace Python

/-- The column at which the parameters of a `def` line begin. -/
def column? (code : List Char) : Option Nat :=
  (Scan.firstOf defHead code).map fun head => code.length - head.behind.length - 1

/-- Whatever a source hides in parameters is harmless. -/
def Quiet (content : List Char) : Prop :=
  QuietSignatures column? Harmless (Source.sourceLines rules content)

instance (content : List Char) : Decidable (Quiet content) :=
  inferInstanceAs (Decidable (QuietSignatures _ _ _))

variable {st st' : State} {line line' : Line} {rest rest' : List Line}

private theorem readDef_sameSignatures (halike : State.Alike st st') (h : st.outline.SameSignatures st'.outline)
    (number indent : Nat) {head : DefHead}
    (hparams : (parameters number line rest head.behind).1 = (parameters number line' rest' head.behind).1) :
    (readDef st number indent line rest head).outline.SameSignatures
      (readDef st' number indent line' rest' head).outline := by
  unfold readDef
  generalize parameters number line rest head.behind = found, parameters number line' rest' head.behind = found' at *
  obtain ⟨params, problems⟩ := found
  obtain ⟨params', problems'⟩ := found'
  obtain rfl : params = params' := hparams
  have houtline := h.declareWith number head.name problems problems'
  simp only [halike.scopes, halike.decorators]
  split
  · exact houtline.addFunction _
  · split
    · exact houtline.addMethod _ _
    · exact houtline

private theorem readClass_signatures (st : State) (number indent : Nat) (line : Line) (rest : List Line) (name : String)
    (behind : Option (List Char)) :
    (readClass st number indent line rest name behind).outline.SameSignatures st.outline := by
  unfold readClass
  dsimp only
  split
  · rw [Outline.foldl_addProblem]
    exact ⟨rfl, rfl⟩
  · exact ⟨rfl, rfl⟩

private theorem readStatement_signatures (o : Outline) (parent : Option Scope) (number : Nat) (line : Line)
    (rest : List Line) : (readStatement o parent number line rest).SameSignatures o := by
  unfold readStatement
  split
  · exact ⟨rfl, rfl⟩
  · split
    · exact ⟨rfl, rfl⟩
    · split
      · split
        · dsimp only
          rw [Outline.foldl_addProblem]
          exact ⟨rfl, rfl⟩
        · exact ⟨rfl, rfl⟩
      · split
        · exact ⟨rfl, rfl⟩
        · split
          · exact ⟨rfl, rfl⟩
          · exact ⟨rfl, rfl⟩

/-- One line keeps the signatures of two scans the same, if it has the same parameters in both. -/
private theorem readsSignatures :
    ReadsSignatures readLine State.outline State.Alike column? (Scan.firstOf parameterName) where
  alike := readLine_alike
  signatures := by
    intro st st' line line' rest rest' number halike h hcode hparams
    unfold readLine
    rw [← hcode, halike.depth]
    split
    · exact h
    · unfold readSignificant
      rw [← hcode]
      dsimp only
      have hpopped : State.Alike { st with scopes := st.scopes.dropWhile (Source.indentWidth line.code ≤ ·.indent) }
          { st' with scopes := st'.scopes.dropWhile (Source.indentWidth line.code ≤ ·.indent) } :=
        ⟨halike.outline, by rw [halike.scopes], halike.decorators, halike.depth⟩
      split
      · exact h
      · split
        · exact h.transport (readClass_signatures _ number _ line rest _ _)
            (readClass_signatures _ number _ line' rest' _ _)
        · split
          · rename_i head hhead
            refine readDef_sameSignatures hpopped h number _ ?_
            unfold parameters
            rw [← hcode]
            exact hparams _ (congrArg (Option.map _) hhead)
          · exact h.transport (readStatement_signatures _ _ number line rest)
              (readStatement_signatures _ _ number line' rest')

end Python

namespace Php

/-- The column at which the parameters of a `function` line begin. -/
def column? (code : List Char) : Option Nat :=
  (Scan.firstOf functionHead code).map fun head => code.length - head.behind.length - 1

/-- Whatever a source hides in parameters is harmless. -/
def Quiet (content : List Char) : Prop :=
  QuietSignatures column? Harmless (Source.sourceLines rules content)

instance (content : List Char) : Decidable (Quiet content) :=
  inferInstanceAs (Decidable (QuietSignatures _ _ _))

variable {st st' : BlockScan} {line line' : Line} {rest rest' : List Line}

private theorem readFunction_sameSignatures (halike : BlockScan.Alike st st')
    (h : st.outline.SameSignatures st'.outline) (number : Nat) {head : FunctionHead} (hcode : line.code = line'.code)
    (hparams : (bracketParts number (line :: rest) (line.code.length - head.behind.length - 1)).1.filterMap
        parameterName? =
      (bracketParts number (line' :: rest') (line.code.length - head.behind.length - 1)).1.filterMap parameterName?) :
    (readFunction st number line rest head).outline.SameSignatures
      (readFunction st' number line' rest' head).outline := by
  unfold readFunction
  rw [← hcode]
  generalize bracketParts number (line :: rest) (line.code.length - head.behind.length - 1) = found,
    bracketParts number (line' :: rest') (line.code.length - head.behind.length - 1) = found' at *
  have houtline := h.declareWith number head.name found.2 found'.2
  have hnames := ((halike.outline.declare number head.name).addProblems found.2 found'.2).className_eq
  simp only [halike.blocks, hnames, hparams]
  split
  · split
    · exact houtline.addMethod _ _
    · exact houtline
  · split
    · exact (houtline.addFunction _).addExports _
    · exact houtline

private theorem readDeclarations_sameSignatures (halike : BlockScan.Alike st st')
    (h : st.outline.SameSignatures st'.outline) (number : Nat) (hcode : line.code = line'.code)
    (hparams : ∀ col, column? line.code = some col → (bracketParts number (line :: rest) col).1.filterMap parameterName? =
      (bracketParts number (line' :: rest') col).1.filterMap parameterName?) :
    (readDeclarations st number line rest).outline.SameSignatures
      (readDeclarations st' number line' rest').outline := by
  have hclass : ∀ (st : BlockScan) (head : ClassHead), (readClass st number head).outline.SameSignatures st.outline := by
    intro st head
    unfold readClass
    dsimp only
    split <;> exact ⟨rfl, rfl⟩
  have hproperties : ∀ (o : Outline) (blocks : BlockState Nat) (code : List Char),
      (readProperties o blocks code).SameSignatures o := by
    intro o blocks code
    unfold readProperties
    split
    · exact ⟨rfl, rfl⟩
    · split <;> exact ⟨rfl, rfl⟩
  have himports : BlockScan.Alike { st with outline := st.outline.addImports (includedFile? line).toList }
      { st' with outline := st'.outline.addImports (includedFile? line').toList } :=
    ⟨halike.outline.addImports (by simp) (length_includedFile? hcode), halike.blocks⟩
  have himported : (st.outline.addImports (includedFile? line).toList).SameSignatures
      (st'.outline.addImports (includedFile? line').toList) :=
    ⟨h.functions, h.methods⟩
  unfold readDeclarations
  rw [← hcode]
  dsimp only
  split
  · exact himported.transport (hclass _ _) (hclass _ _)
  · split
    · rename_i head hhead
      exact readFunction_sameSignatures himports himported number hcode (hparams _ (congrArg (Option.map _) hhead))
    · exact himported.transport (hproperties _ _ _) (hproperties _ _ _)

/-- One line keeps the signatures of two scans the same, if it has the same parameters in both. -/
private theorem readsSignatures :
    ReadsSignatures readLine BlockScan.outline BlockScan.Alike column? parameterName? where
  alike := readLine_alike
  signatures := by
    intro st st' line line' rest rest' number halike h hcode hparams
    unfold readLine
    rw [← hcode]
    split
    · exact h
    · unfold readSignificant
      rw [← hcode]
      split
      · exact h
      · exact h
      · rw [← halike.blocks]
        dsimp only
        split
        · exact ⟨h.functions, h.methods⟩
        · exact readDeclarations_sameSignatures halike h number hcode hparams

end Php

end Extract

/-! ### Whole sources -/

/-- Whatever a source hides in the parameters of its functions and methods is harmless. -/
def QuietIn (language : String) (content : List Char) : Prop :=
  if language = "python" then Extract.Python.Quiet content else Extract.Php.Quiet content

/-- What stands in comments and strings does not reach the parameters of functions and methods if it is harmless: two
quiet texts with the same masked text have the same functions and methods. -/
theorem quiet_text_keeps_parameters (language path content content' : String)
    (hlanguage : language = "python" ∨ language = "php")
    (hmask : Source.mask (lexRulesOf language) content.toList = Source.mask (lexRulesOf language) content'.toList)
    (hquiet : QuietIn language content.toList) (hquiet' : QuietIn language content'.toList) :
    (summarize language path content).1.functions = (summarize language path content').1.functions ∧
      (summarize language path content).1.methods = (summarize language path content').1.methods := by
  suffices hsame : (findingsIn language content.toList).outline.SameSignatures
      (findingsIn language content'.toList).outline from ⟨hsame.functions, hsame.methods⟩
  rcases hlanguage with rfl | rfl
  · exact Extract.Python.readsSignatures.sameSignatures Extract.Python.ignores_nameReader
      Extract.Python.skipsBlanks_nameReader Extract.Python.firstOf_parameterName_trim Extract.Python.delimits_rules
      hquiet hquiet' hmask (.refl {})
  · exact Extract.Php.readsSignatures.sameSignatures Extract.Php.ignores_variableReader
      Extract.Php.skipsBlanks_variableReader Extract.Php.parameterName?_trim Extract.Php.delimits_rules
      hquiet hquiet' hmask (.refl {})

instance (language : String) (content : List Char) : Decidable (QuietIn language content) :=
  inferInstanceAs (Decidable (ite _ _ _))

/-- A default and a comment behind a name may read otherwise. -/
theorem default_and_comment_keep_parameters :
    (Source.mask (lexRulesOf "python") "def f(a='x',\n b=1 # one\n):\n".toList =
        Source.mask (lexRulesOf "python") "def f(a='y',\n b=1 # two\n):\n".toList ∧
      QuietIn "python" "def f(a='x',\n b=1 # one\n):\n".toList ∧
      QuietIn "python" "def f(a='y',\n b=1 # two\n):\n".toList) ∧
    (summarize "python" "a.py" "def f(a='x',\n b=1 # one\n):\n").1.functions =
      (summarize "python" "a.py" "def f(a='y',\n b=1 # two\n):\n").1.functions := by
  have hquiet : Source.mask (lexRulesOf "python") "def f(a='x',\n b=1 # one\n):\n".toList =
        Source.mask (lexRulesOf "python") "def f(a='y',\n b=1 # two\n):\n".toList ∧
      QuietIn "python" "def f(a='x',\n b=1 # one\n):\n".toList ∧
      QuietIn "python" "def f(a='y',\n b=1 # two\n):\n".toList := by
    decide +kernel
  exact ⟨hquiet, (quiet_text_keeps_parameters "python" "a.py" _ _ (.inl rfl) hquiet.1 hquiet.2.1 hquiet.2.2).1⟩

-- What is not harmless: a comma adds a parameter, a bracket hides one, a comment before a name hides it, and a variable in a
-- comment takes its place.
example :
    (Extract.Python.findings "def f(a=',b'):".toList).outline.functions.map (·.parameters) = [["a", "b"]] ∧
    (Extract.Python.findings "def f(a='(', b):".toList).outline.functions.map (·.parameters) = [["a"]] ∧
    (Extract.Python.findings "def f(#x\n a):".toList).outline.functions.map (·.parameters) = [[]] ∧
    (Extract.Php.findings "function f(/*$x*/ $a) \x7b".toList).outline.functions.map (·.parameters) = [["x"]] := by
  decide +kernel

end CallIndex
