import CallIndex.Text.CharClass

/-!
# Texts as lists of characters

Cutting and joining of texts: trimming blanks, splitting at a character, at blanks or at the first occurrence of a
shorter text.

* `trim` cuts off blanks and nothing else, and what it leaves neither begins nor ends with one.
* `splitAtChar` never gives the empty list, and its pieces joined by the separator are the text.
* `cutAt?` gives the text before and after the first occurrence.
-/

namespace CallIndex.Text

/-- The text without its leading blanks. -/
def trimLeft (s : List Char) : List Char :=
  s.dropWhile isBlank

/-- The text without its trailing blanks. -/
def trimRight (s : List Char) : List Char :=
  (s.reverse.dropWhile isBlank).reverse

/-- The text without its leading and trailing blanks. -/
def trim (s : List Char) : List Char :=
  trimRight (trimLeft s)

/-- `trim` on strings. -/
def trimmed (s : String) : String :=
  String.ofList (trim s.toList)

theorem exists_blanks_append_trimLeft (s : List Char) :
    ∃ front, (∀ c ∈ front, isBlank c) ∧ s = front ++ trimLeft s :=
  ⟨s.takeWhile isBlank, fun c hc => List.all_eq_true.1 List.all_takeWhile c hc, List.takeWhile_append_dropWhile.symm⟩

theorem exists_trimRight_append_blanks (s : List Char) :
    ∃ back, (∀ c ∈ back, isBlank c) ∧ s = trimRight s ++ back := by
  refine ⟨(s.reverse.takeWhile isBlank).reverse, fun c hc => ?_, ?_⟩
  · exact List.all_eq_true.1 List.all_takeWhile c (List.mem_reverse.1 hc)
  · rw [trimRight, ← List.reverse_append, List.takeWhile_append_dropWhile, List.reverse_reverse]

theorem exists_trim (s : List Char) :
    ∃ front back, (∀ c ∈ front, isBlank c) ∧ (∀ c ∈ back, isBlank c) ∧ s = front ++ (trim s ++ back) := by
  obtain ⟨front, hfront, hs⟩ := exists_blanks_append_trimLeft s
  obtain ⟨back, hback, ht⟩ := exists_trimRight_append_blanks (trimLeft s)
  exact ⟨front, back, hfront, hback, by rw [trim, ← ht, ← hs]⟩

private theorem not_isBlank_head?_dropWhile {s : List Char} {c : Char} (hc : (s.dropWhile isBlank).head? = some c) :
    isBlank c = false := by
  have hnot := List.head?_dropWhile_not isBlank s
  rw [hc] at hnot
  simpa using hnot

theorem not_isBlank_head?_trim {s : List Char} {c : Char} (hc : (trim s).head? = some c) : isBlank c = false := by
  obtain ⟨back, -, hs⟩ := exists_trimRight_append_blanks (trimLeft s)
  have hhead : (trimLeft s).head? = some c := by
    rw [hs, List.head?_append, ← trim, hc]
    rfl
  exact not_isBlank_head?_dropWhile hhead

theorem not_isBlank_getLast?_trim {s : List Char} {c : Char} (hc : (trim s).getLast? = some c) :
    isBlank c = false := by
  rw [trim, trimRight, List.getLast?_reverse] at hc
  exact not_isBlank_head?_dropWhile hc

/-- A text without a blank at either end stays as it is. -/
theorem trim_eq_self {s : List Char} (hhead : ∀ c, s.head? = some c → isBlank c = false)
    (hlast : ∀ c, s.getLast? = some c → isBlank c = false) : trim s = s := by
  have hkeep : ∀ l : List Char, (∀ c, l.head? = some c → isBlank c = false) → l.dropWhile isBlank = l := by
    intro l hl
    cases l with
    | nil => rfl
    | cons c l => rw [List.dropWhile_cons_of_neg (by simp [hl c rfl])]
  rw [trim, trimLeft, hkeep s hhead, trimRight, hkeep, List.reverse_reverse]
  intro c hc
  exact hlast c (by rw [← hc, List.head?_reverse])

/-- A text of blanks only. -/
def allBlank (s : List Char) : Bool :=
  s.all isBlank

/-- The pieces of a text between the occurrences of `sep`. -/
def splitAtChar (sep : Char) : List Char → List (List Char)
  | [] => [[]]
  | c :: rest =>
    if c = sep then [] :: splitAtChar sep rest
    else match splitAtChar sep rest with
      | [] => [[c]]
      | piece :: pieces => (c :: piece) :: pieces

/-- The lines of a text; only a line feed ends a line. -/
def lines (s : List Char) : List (List Char) :=
  splitAtChar '\n' s

/-- The text with a line feed alone at the end of every line, where there was a carriage return or both. -/
def withLineFeeds : List Char → List Char
  | '\r' :: '\n' :: s => '\n' :: withLineFeeds s
  | '\r' :: s => '\n' :: withLineFeeds s
  | c :: s => c :: withLineFeeds s
  | [] => []

/-- The words of a text between runs of blanks. -/
def words (s : List Char) : List (List Char) :=
  (go s).filter (!·.isEmpty)
where
  go : List Char → List (List Char)
    | [] => [[]]
    | c :: rest =>
      if isBlank c then [] :: go rest
      else match go rest with
        | [] => [[c]]
        | piece :: pieces => (c :: piece) :: pieces

/-- The rest of `s` after the leading `front`, when `s` starts with it. -/
def dropFront? (front s : List Char) : Option (List Char) :=
  match front, s with
  | [], s => some s
  | _ :: _, [] => none
  | a :: front, b :: s => if a = b then dropFront? front s else none

theorem eq_append_of_dropFront? {front s rest : List Char} (h : dropFront? front s = some rest) :
    s = front ++ rest := by
  induction front generalizing s with
  | nil => simpa [dropFront?] using h
  | cons a front ih =>
    cases s with
    | nil => simp [dropFront?] at h
    | cons b s =>
      simp only [dropFront?] at h
      split at h
      · rename_i hab
        rw [hab, ih h, List.cons_append]
      · cases h

theorem dropFront?_append (front rest : List Char) : dropFront? front (front ++ rest) = some rest := by
  induction front with
  | nil => rfl
  | cons a front ih => simpa [dropFront?] using ih

/-- The text before and the text after the first occurrence of `mark`. -/
def cutAt? (mark : List Char) (s : List Char) : Option (List Char × List Char) :=
  match dropFront? mark s with
  | some rest => some ([], rest)
  | none =>
    match s with
    | [] => none
    | c :: s => (cutAt? mark s).map fun (before, after) => (c :: before, after)

theorem eq_append_of_cutAt? {mark s before after : List Char} (h : cutAt? mark s = some (before, after)) :
    s = before ++ mark ++ after := by
  induction s generalizing before with
  | nil =>
    unfold cutAt? at h
    split at h
    · rename_i rest hr
      cases h
      simpa using eq_append_of_dropFront? hr
    · cases h
  | cons c s ih =>
    unfold cutAt? at h
    split at h
    · rename_i rest hr
      cases h
      simpa using eq_append_of_dropFront? hr
    · obtain ⟨⟨b, a⟩, hb, he⟩ := Option.map_eq_some_iff.1 h
      cases he
      rw [ih hb]
      simp

/-- The text before and the text after the last occurrence of `mark`. -/
def cutAtLast? (mark : List Char) (s : List Char) : Option (List Char × List Char) :=
  match s with
  | [] => (dropFront? mark []).map fun rest => ([], rest)
  | c :: s' =>
    match cutAtLast? mark s' with
    | some (before, after) => some (c :: before, after)
    | none => (dropFront? mark s).map fun rest => ([], rest)

/-- Does `mark` occur in `s`? -/
def occurs (mark s : List Char) : Bool :=
  (cutAt? mark s).isSome

/-- The texts with `sep` between neighbours. -/
def join (sep : String) (parts : List String) : String :=
  String.intercalate sep parts

/-- `count` copies of `s` after one another. -/
def repeated (count : Nat) (s : String) : String :=
  String.join (List.replicate count s)

end CallIndex.Text
