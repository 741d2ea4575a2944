import CallIndex.Proofs.ArgumentLists

/-!
# Parts outside of brackets

A list of parameters or arguments is split at its commas outside of all brackets.  The depth takes no notice of the
kinds of brackets, a closing bracket with nothing to close leaves it at zero, and at the end of the list brackets may
still be open.  So not every list of texts comes from a split, and those that do are the rows (`IsRow`): in a row only
the last part may leave a bracket open, because a comma behind an open bracket parts nothing.

* `allClosed_iff`: the depth is zero where every end of the text closes as many brackets as it opens, or more.
* `splitTopLevel_append_comma`: the texts on both sides of a comma outside of brackets are split on their own.
* `isRow_splitTopLevel`: every text is split into a row.
* `splitTopLevel_join_eq_iff`: the lists of texts that come back when they are joined and split are the rows.
-/

namespace CallIndex

namespace Text

/-! ### Trimmed texts -/

/-- A text that neither begins nor ends with a blank. -/
structure Trimmed (s : List Char) : Prop where
  front : s.head?.any isBlank = false
  back : s.getLast?.any isBlank = false

private theorem trimmed_trim (s : List Char) : Trimmed (trim s) where
  front := by
    cases hc : (trim s).head? with
    | none => rfl
    | some c => exact not_isBlank_head?_trim hc
  back := by
    cases hc : (trim s).getLast? with
    | none => rfl
    | some c => exact not_isBlank_getLast?_trim hc

private theorem Trimmed.trim_eq {s : List Char} (h : Trimmed s) : trim s = s := by
  apply trim_eq_self
  · intro c hc
    simpa [hc] using h.front
  · intro c hc
    simpa [hc] using h.back

private theorem trim_cons_of_isBlank {c : Char} (hc : isBlank c) (s : List Char) : trim (c :: s) = trim s := by
  rw [trim, trimLeft, List.dropWhile_cons_of_pos hc, ← trimLeft, ← trim]

end Text

namespace Source

open Text (isBlank Trimmed)

/-! ### Depth -/

/-- The number of opening brackets of a text, of all kinds together. -/
def openings (s : List Char) : Nat :=
  s.countP (· ∈ ['(', '[', '{', '<'])

/-- The number of closing brackets of a text, of all kinds together. -/
def closings (s : List Char) : Nat :=
  s.countP (· ∈ [')', ']', '}', '>'])

/-- No bracket is open behind the text.  Kinds do not matter, and a closing bracket with nothing to close counts for
nothing: every end of the text closes as many brackets as it opens, or more. -/
def AllClosed (s : List Char) : Prop :=
  ∀ t, t <:+ s → openings t ≤ closings t

private theorem allClosed_nil : AllClosed [] := by
  intro t ht
  rw [List.suffix_nil.1 ht]
  exact Nat.le_refl 0

private theorem allClosed_cons {c : Char} {s : List Char} :
    AllClosed (c :: s) ↔ openings (c :: s) ≤ closings (c :: s) ∧ AllClosed s := by
  constructor
  · intro h
    exact ⟨h _ List.suffix_rfl, fun t ht => h t (List.suffix_cons_iff.2 (.inr ht))⟩
  · rintro ⟨hfirst, hrest⟩ t ht
    rcases List.suffix_cons_iff.1 ht with rfl | ht
    · exact hfirst
    · exact hrest t ht

/-- What one character does to the depth and to the two counts. -/
private theorem levelAfter_cases (c : Char) :
    (∀ depth s, levelAfter depth c = depth + 1 ∧ openings (c :: s) = openings s + 1 ∧ closings (c :: s) = closings s) ∨
    (∀ depth s, levelAfter depth c = depth - 1 ∧ openings (c :: s) = openings s ∧ closings (c :: s) = closings s + 1) ∨
    (∀ depth s, levelAfter depth c = depth ∧ openings (c :: s) = openings s ∧ closings (c :: s) = closings s) := by
  have hopens : (c ∈ ['(', '[', '{', '<']) ↔ opensLevel c = true := by simp [opensLevel, isOpening, or_assoc]
  have hcloses : (c ∈ [')', ']', '}', '>']) ↔ closesLevel c = true := by simp [closesLevel, isClosing, or_assoc]
  simp only [openings, closings, List.countP_cons, hopens, hcloses, levelAfter]
  by_cases ho : opensLevel c = true
  · have hc : closesLevel c = false := by
      simp only [opensLevel, isOpening, Bool.or_eq_true, decide_eq_true_eq] at ho
      rcases ho with ((rfl | rfl) | rfl) | rfl <;> rfl
    simp [ho, hc]
  · by_cases hc : closesLevel c = true
    · simp [ho, hc]
    · simp [ho, hc]

/-- The depth that is kept at zero or above tells by counting whether all brackets are closed. -/
private theorem foldl_levelAfter_eq_zero_iff {depth : Nat} {s : List Char} :
    s.foldl levelAfter depth = 0 ↔ depth + openings s ≤ closings s ∧ AllClosed s := by
  induction s generalizing depth with
  | nil => simp [openings, closings, allClosed_nil]
  | cons c s ih =>
    have hself : AllClosed s → openings s ≤ closings s := fun h => h s List.suffix_rfl
    rw [List.foldl_cons, ih, allClosed_cons]
    rcases levelAfter_cases c with h | h | h
    all_goals
      obtain ⟨hlevel, hopenings, hclosings⟩ := h depth s
      rw [hlevel, hopenings, hclosings]
      constructor
      · rintro ⟨hcount, hrest⟩
        have := hself hrest
        exact ⟨by omega, by omega, hrest⟩
      · rintro ⟨hcount, -, hrest⟩
        have := hself hrest
        exact ⟨by omega, hrest⟩

theorem allClosed_iff {s : List Char} : AllClosed s ↔ s.foldl levelAfter 0 = 0 := by
  rw [foldl_levelAfter_eq_zero_iff, Nat.zero_add]
  exact ⟨fun h => ⟨h s List.suffix_rfl, h⟩, fun h => h.2⟩

instance (s : List Char) : Decidable (AllClosed s) :=
  decidable_of_iff (s.foldl levelAfter 0 = 0) allClosed_iff.symm

private theorem foldl_levelAfter_of_isBlank {s : List Char} (hs : ∀ c ∈ s, isBlank c) (depth : Nat) :
    s.foldl levelAfter depth = depth := by
  induction s with
  | nil => rfl
  | cons c s ih =>
    rw [List.foldl_cons, levelAfter_of_isBlank (hs c (by simp))]
    exact ih fun d hd => hs d (by simp [hd])

private theorem AllClosed.trim {s : List Char} (h : AllClosed s) : AllClosed (Text.trim s) := by
  obtain ⟨front, back, hfront, hback, hs⟩ := Text.exists_trim s
  rw [allClosed_iff] at h ⊢
  rw [hs, List.foldl_append, foldl_levelAfter_of_isBlank hfront, List.foldl_append,
    foldl_levelAfter_of_isBlank hback] at h
  exact h

/-! ### Texts without a comma outside of brackets -/

/-- A text in which a bracket is open before every comma. -/
def Undivided (s : List Char) : Prop :=
  ∀ i < s.length, s[i]? = some ',' → ¬ AllClosed (s.take i)

instance (s : List Char) : Decidable (Undivided s) :=
  inferInstanceAs (Decidable (∀ i < s.length, s[i]? = some ',' → ¬ AllClosed (s.take i)))

/-- A text, read from depth `depth` on, in which every comma stands in brackets.  The induction over a text goes
through places where brackets are open, so it needs the depth at its start. -/
def UndividedFrom (depth : Nat) (s : List Char) : Prop :=
  ∀ i < s.length, s[i]? = some ',' → (s.take i).foldl levelAfter depth ≠ 0

private theorem undivided_iff {s : List Char} : Undivided s ↔ UndividedFrom 0 s := by
  simp only [Undivided, UndividedFrom, allClosed_iff, ne_eq]

private theorem undividedFrom_nil (depth : Nat) : UndividedFrom depth [] := by
  intro i hi
  exact absurd hi (Nat.not_lt_zero i)

private theorem undividedFrom_cons {depth : Nat} {c : Char} {s : List Char} :
    UndividedFrom depth (c :: s) ↔ (c = ',' → depth ≠ 0) ∧ UndividedFrom (levelAfter depth c) s := by
  constructor
  · intro h
    refine ⟨?_, ?_⟩
    · rintro rfl
      exact h 0 (by simp) rfl
    · intro i hi hcomma
      exact h (i + 1) (Nat.succ_lt_succ hi) hcomma
  · rintro ⟨hfirst, hrest⟩ i hi hcomma
    cases i with
    | zero => exact hfirst (Option.some.inj hcomma)
    | succ i => exact hrest i (Nat.lt_of_succ_lt_succ hi) hcomma

private theorem undividedFrom_append {depth : Nat} {s t : List Char} :
    UndividedFrom depth (s ++ t) ↔ UndividedFrom depth s ∧ UndividedFrom (s.foldl levelAfter depth) t := by
  induction s generalizing depth with
  | nil => simp [undividedFrom_nil]
  | cons c s ih => rw [List.cons_append, undividedFrom_cons, undividedFrom_cons, ih, List.foldl_cons, and_assoc]

private theorem Undivided.trim {s : List Char} (h : Undivided s) : Undivided (Text.trim s) := by
  obtain ⟨front, back, hfront, -, hs⟩ := Text.exists_trim s
  rw [undivided_iff] at h ⊢
  rw [hs, undividedFrom_append, foldl_levelAfter_of_isBlank hfront, undividedFrom_append] at h
  exact h.2.1

/-- A text that is divided has a first comma outside of brackets. -/
private theorem exists_comma_of_not_undividedFrom {depth : Nat} {s : List Char} (h : ¬ UndividedFrom depth s) :
    ∃ front back, s = front ++ ',' :: back ∧ UndividedFrom depth front ∧ front.foldl levelAfter depth = 0 := by
  induction s generalizing depth with
  | nil => exact absurd (undividedFrom_nil depth) h
  | cons c s ih =>
    by_cases hfirst : c = ',' ∧ depth = 0
    · obtain ⟨rfl, rfl⟩ := hfirst
      exact ⟨[], s, rfl, undividedFrom_nil 0, rfl⟩
    · have hc : c = ',' → depth ≠ 0 := fun hc hzero => hfirst ⟨hc, hzero⟩
      have hrest : ¬ UndividedFrom (levelAfter depth c) s := fun hrest => h (undividedFrom_cons.2 ⟨hc, hrest⟩)
      obtain ⟨front, back, rfl, hfront, hlevel⟩ := ih hrest
      exact ⟨c :: front, back, rfl, undividedFrom_cons.2 ⟨hc, hfront⟩, hlevel⟩

private theorem exists_comma_of_not_undivided {s : List Char} (h : ¬ Undivided s) :
    ∃ front back, s = front ++ ',' :: back ∧ Undivided front ∧ AllClosed front := by
  rw [undivided_iff] at h
  obtain ⟨front, back, hs, hfront, hlevel⟩ := exists_comma_of_not_undividedFrom h
  exact ⟨front, back, hs, undivided_iff.2 hfront, allClosed_iff.2 hlevel⟩

/-! ### Pieces -/

private theorem levelPieces_ne_nil (depth : Nat) (s : List Char) : levelPieces (· = ',') depth s ≠ [] := by
  cases s with
  | nil => simp [levelPieces]
  | cons c s =>
    rw [levelPieces]
    split
    · simp
    · split <;> simp

private theorem levelPieces_of_undividedFrom {depth : Nat} {s : List Char} (h : UndividedFrom depth s) :
    levelPieces (· = ',') depth s = [s] := by
  induction s generalizing depth with
  | nil => rfl
  | cons c s ih =>
    obtain ⟨hfirst, hrest⟩ := undividedFrom_cons.1 h
    have hinside : ¬ (decide (c = ',') && decide (levelAfter depth c = 0)) = true := by
      rw [Bool.and_eq_true, decide_eq_true_eq, decide_eq_true_eq]
      rintro ⟨rfl, hzero⟩
      exact hfirst rfl hzero
    rw [levelPieces, if_neg hinside, ih hrest]

/-- The texts on both sides of a comma outside of brackets have their pieces on their own. -/
private theorem levelPieces_append_comma {depth : Nat} {s : List Char} (h : s.foldl levelAfter depth = 0)
    (t : List Char) :
    levelPieces (· = ',') depth (s ++ ',' :: t) = levelPieces (· = ',') depth s ++ levelPieces (· = ',') 0 t := by
  induction s generalizing depth with
  | nil =>
    obtain rfl : depth = 0 := h
    rfl
  | cons c s ih =>
    rw [List.cons_append, levelPieces, levelPieces, ih h]
    split
    · rfl
    · cases hpieces : levelPieces (· = ',') (levelAfter depth c) s with
      | nil => exact absurd hpieces (levelPieces_ne_nil _ s)
      | cons piece pieces => rfl

private theorem splitTopLevel_of_undivided {s : List Char} (h : Undivided s) :
    splitTopLevel s = [Text.trim s].filter (!·.isEmpty) := by
  rw [splitTopLevel, splitTopLevelBy, levelPieces_of_undividedFrom (undivided_iff.1 h), List.map_singleton]

theorem splitTopLevel_append_comma {s : List Char} (h : AllClosed s) (t : List Char) :
    splitTopLevel (s ++ ',' :: t) = splitTopLevel s ++ splitTopLevel t := by
  unfold splitTopLevel splitTopLevelBy
  rw [levelPieces_append_comma (allClosed_iff.1 h), List.map_append, List.filter_append]

private theorem splitTopLevel_cons_of_isBlank {c : Char} (hc : isBlank c) (s : List Char) :
    splitTopLevel (c :: s) = splitTopLevel s := by
  have hcomma : c ≠ ',' := by
    rintro rfl
    cases hc
  unfold splitTopLevel splitTopLevelBy
  rw [levelPieces, if_neg (by simp [hcomma]), levelAfter_of_isBlank hc]
  cases hpieces : levelPieces (· = ',') 0 s with
  | nil => exact absurd hpieces (levelPieces_ne_nil 0 s)
  | cons piece pieces => rw [List.map_cons, List.map_cons, Text.trim_cons_of_isBlank hc]

/-! ### Rows of parts -/

/-- A text that can be a part of a list: it is trimmed, not empty, and not divided itself. -/
structure IsPart (s : List Char) : Prop where
  ne_nil : s ≠ []
  trimmed : Trimmed s
  undivided : Undivided s

private theorem IsPart.splitTopLevel_eq {s : List Char} (h : IsPart s) : splitTopLevel s = [s] := by
  rw [splitTopLevel_of_undivided h.undivided, h.trimmed.trim_eq]
  simp [h.ne_nil]

/-- Parts of which at most the last leaves brackets open. -/
structure IsRow (parts : List (List Char)) : Prop where
  isPart : ∀ part ∈ parts, IsPart part
  allClosed : ∀ part ∈ parts.dropLast, AllClosed part

private theorem isRow_nil : IsRow [] where
  isPart := by simp
  allClosed := by simp

private theorem isRow_singleton {part : List Char} (h : IsPart part) : IsRow [part] where
  isPart := by simpa using h
  allClosed := by simp

private theorem IsRow.cons {part : List Char} {parts : List (List Char)} (hpart : IsPart part)
    (hclosed : AllClosed part) (h : IsRow parts) : IsRow (part :: parts) where
  isPart := by
    intro p hp
    rcases List.mem_cons.1 hp with rfl | hp
    · exact hpart
    · exact h.isPart p hp
  allClosed := by
    intro p hp
    cases parts with
    | nil => simp at hp
    | cons q parts =>
      rw [List.dropLast_cons_cons] at hp
      rcases List.mem_cons.1 hp with rfl | hp
      · exact hclosed
      · exact h.allClosed p hp

/-- A text that is not divided gives one part, or none if it is blank. -/
private theorem splitTopLevel_eq_or_of_undivided {s : List Char} (h : Undivided s) :
    splitTopLevel s = [] ∨ splitTopLevel s = [Text.trim s] ∧ IsPart (Text.trim s) := by
  rw [splitTopLevel_of_undivided h]
  by_cases hblank : Text.trim s = []
  · left
    simp [hblank]
  · right
    exact ⟨by simp [hblank], hblank, Text.trimmed_trim s, h.trim⟩

/-- Every text is split into a row. -/
theorem isRow_splitTopLevel (s : List Char) : IsRow (splitTopLevel s) := by
  by_cases hs : Undivided s
  · rcases splitTopLevel_eq_or_of_undivided hs with hnone | ⟨hone, hpart⟩
    · rw [hnone]
      exact isRow_nil
    · rw [hone]
      exact isRow_singleton hpart
  · -- the text before the first comma is closed, and the induction goes on behind the comma
    obtain ⟨front, back, rfl, hfront, hclosed⟩ := exists_comma_of_not_undivided hs
    have hback : IsRow (splitTopLevel back) := isRow_splitTopLevel back
    rw [splitTopLevel_append_comma hclosed]
    rcases splitTopLevel_eq_or_of_undivided hfront with hnone | ⟨hone, hpart⟩
    · rw [hnone]
      exact hback
    · rw [hone]
      exact hback.cons hpart hclosed.trim
termination_by s.length
decreasing_by
  subst_vars
  simp only [List.length_append, List.length_cons]
  omega

/-- A row comes back when its parts are joined and split. -/
private theorem IsRow.splitTopLevel_join {parts : List (List Char)} (h : IsRow parts) :
    splitTopLevel (List.intercalate [',', ' '] parts) = parts := by
  induction parts with
  | nil => rfl
  | cons part parts ih =>
    have hpart : splitTopLevel part = [part] := (h.isPart part (by simp)).splitTopLevel_eq
    cases parts with
    | nil =>
      rw [List.intercalate_singleton]
      exact hpart
    | cons next parts =>
      have hclosed : AllClosed part := h.allClosed part (by simp)
      have hrest : IsRow (next :: parts) := by
        refine ⟨fun p hp => h.isPart p (by simp [hp]), fun p hp => h.allClosed p ?_⟩
        rw [List.dropLast_cons_cons]
        exact List.mem_cons_of_mem part hp
      have hjoin : List.intercalate [',', ' '] (part :: next :: parts) =
          part ++ ',' :: ' ' :: List.intercalate [',', ' '] (next :: parts) := by
        rw [List.intercalate_cons_cons, List.append_assoc]
        rfl
      calc splitTopLevel (List.intercalate [',', ' '] (part :: next :: parts))
          = splitTopLevel part ++ splitTopLevel (' ' :: List.intercalate [',', ' '] (next :: parts)) := by
            rw [hjoin, splitTopLevel_append_comma hclosed]
        _ = [part] ++ splitTopLevel (List.intercalate [',', ' '] (next :: parts)) := by
            rw [hpart, splitTopLevel_cons_of_isBlank (by decide)]
        _ = part :: next :: parts := by
            rw [ih hrest]
            rfl

/-- The rows are the lists of texts that come back when they are joined and split. -/
theorem splitTopLevel_join_eq_iff {parts : List (List Char)} :
    splitTopLevel (List.intercalate [',', ' '] parts) = parts ↔ IsRow parts := by
  constructor
  · intro h
    rw [← h]
    exact isRow_splitTopLevel _
  · exact IsRow.splitTopLevel_join

/-- Splitting is stable under joining.  The parts of a text, whatever its brackets, are trimmed and not empty, and joined
they are split into the same parts.  Trimmed texts that are not empty, leave no bracket open and hold no comma outside of
brackets are split apart again when they are joined. -/
theorem parts_survive_joining :
    (∀ t, splitTopLevel (List.intercalate [',', ' '] (splitTopLevel t)) = splitTopLevel t) ∧
      (∀ t, ∀ part ∈ splitTopLevel t, part ≠ [] ∧ Trimmed part) ∧
      ∀ parts : List (List Char),
        (∀ part ∈ parts, part ≠ [] ∧ Trimmed part ∧ AllClosed part ∧ Undivided part) →
          splitTopLevel (List.intercalate [',', ' '] parts) = parts := by
  refine ⟨?_, ?_, ?_⟩
  · intro t
    exact splitTopLevel_join_eq_iff.2 (isRow_splitTopLevel t)
  · intro t part hmem
    have hpart := (isRow_splitTopLevel t).isPart part hmem
    exact ⟨hpart.ne_nil, hpart.trimmed⟩
  · intro parts h
    apply splitTopLevel_join_eq_iff.2
    refine ⟨?_, ?_⟩
    · intro part hmem
      obtain ⟨hne, htrimmed, -, hundivided⟩ := h part hmem
      exact ⟨hne, htrimmed, hundivided⟩
    · intro part hmem
      obtain ⟨-, -, hclosed, -⟩ := h part (List.dropLast_subset parts hmem)
      exact hclosed

/-- Brackets of mixed kinds, a closing bracket with nothing to close, and an open bracket in the last part. -/
theorem parts_survive_joining_mixed_brackets :
    splitTopLevel ",a ) , ,f(x, [y), z], g(, h ".toList = ["a )".toList, "f(x, [y), z]".toList, "g(, h".toList] ∧
      splitTopLevel "a ), f(x, [y), z], g(, h".toList = ["a )".toList, "f(x, [y), z]".toList, "g(, h".toList] ∧
      (∀ part ∈ ["m<k, v>".toList, "a ) b".toList, "f(x, [y), z]".toList],
        part ≠ [] ∧ Trimmed part ∧ AllClosed part ∧ Undivided part) ∧
      splitTopLevel "m<k, v>, a ) b, f(x, [y), z]".toList =
        ["m<k, v>".toList, "a ) b".toList, "f(x, [y), z]".toList] := by
  obtain ⟨hstable, -, hjoined⟩ := parts_survive_joining
  have hsplit : splitTopLevel ",a ) , ,f(x, [y), z], g(, h ".toList =
      ["a )".toList, "f(x, [y), z]".toList, "g(, h".toList] := by decide
  have hagain := hstable ",a ) , ,f(x, [y), z], g(, h ".toList
  rw [hsplit] at hagain
  have hparts : ∀ part ∈ ["m<k, v>".toList, "a ) b".toList, "f(x, [y), z]".toList],
      part ≠ [] ∧ Trimmed part ∧ AllClosed part ∧ Undivided part := by
    intro part hmem
    simp only [List.mem_cons, List.not_mem_nil, or_false] at hmem
    rcases hmem with rfl | rfl | rfl <;> exact ⟨by decide, ⟨by decide, by decide⟩, by decide, by decide⟩
  exact ⟨hsplit, hagain, hparts, hjoined _ hparts⟩

end Source

end CallIndex
