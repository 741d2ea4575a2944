import CallIndex.Proofs.ParameterReaders

/-!
# Lists of arguments

The arguments of a call stand between its parenthesis and the bracket that closes it, and are parted by the commas of
the code outside of all brackets (`argumentPieces`).  The count of a signature check goes another way: the raw text is
split again, without its masked form, and with angle brackets taken for brackets.  Both ways agree where nothing misleads
the second one (`Quiet`).

* `seekClosing_eq_found_iff`: the closing bracket is the first place where the brackets balance.
* `openBrackets_le_level`: the splitter never takes a place for an outer one that lies in brackets.
* `Quiet.length_splitTopLevel`: the splitter counts the arguments.
-/

namespace CallIndex.Source

open Text (isBlank)

/-! ### Open brackets -/

/-- The number of brackets that are open behind a text. -/
def openBrackets (s : List Char) : Int :=
  s.countP isOpening - s.countP isClosing

theorem openBrackets_append (s t : List Char) : openBrackets (s ++ t) = openBrackets s + openBrackets t := by
  simp only [openBrackets, List.countP_append]
  omega

private theorem isClosing_eq_false_of_isOpening {c : Char} (h : isOpening c = true) : isClosing c = false := by
  simp only [isOpening, Bool.or_eq_true, decide_eq_true_eq] at h
  rcases h with (rfl | rfl) | rfl <;> rfl

theorem openBrackets_singleton (c : Char) :
    openBrackets [c] = if isOpening c then 1 else if isClosing c then -1 else 0 := by
  cases hopen : isOpening c with
  | true => simp [openBrackets, hopen, isClosing_eq_false_of_isOpening hopen]
  | false => cases hclose : isClosing c <;> simp [openBrackets, hopen, hclose]

theorem openBrackets_cons (c : Char) (s : List Char) : openBrackets (c :: s) = openBrackets [c] + openBrackets s :=
  openBrackets_append [c] s

/-- The bracket at the front of the code is closed at this offset: there the brackets balance for the first time. -/
structure ClosesAt (code : List Char) (offset : Nat) : Prop where
  lt_length : offset < code.length
  before : ∀ i, 0 < i → i ≤ offset → 0 < openBrackets (code.take i)
  balanced : openBrackets (code.take (offset + 1)) = 0

/-- A place found in a text, counted from `n` characters before the text. -/
def Closing.behind (n : Nat) : Closing → Closing
  | found offset => .found (offset + n)
  | pending depth => .pending depth

/-- One character: it closes the last bracket, or the bracket is looked for behind it at the depth there. -/
theorem seekClosing_cons_eq (depth : Int) (c : Char) (s : List Char) :
    seekClosing depth (c :: s) =
      if isClosing c = true ∧ depth + openBrackets [c] = 0 then .found 0
      else (seekClosing (depth + openBrackets [c]) s).behind 1 := by
  have hnext : (if isOpening c then depth + 1 else if isClosing c then depth - 1 else depth) =
      depth + openBrackets [c] := by
    rw [openBrackets_singleton]
    split_ifs <;> omega
  simp only [seekClosing, hnext, Bool.and_eq_true, decide_eq_true_eq]
  rfl

theorem seekClosing_cons_iff {depth : Int} {c : Char} {s : List Char} {offset : Nat} :
    seekClosing depth (c :: s) = .found offset ↔
      (isClosing c = true ∧ depth + openBrackets [c] = 0) ∧ offset = 0 ∨
      ¬ (isClosing c = true ∧ depth + openBrackets [c] = 0) ∧
        ∃ o, seekClosing (depth + openBrackets [c]) s = .found o ∧ offset = o + 1 := by
  rw [seekClosing_cons_eq]
  by_cases hclosed : isClosing c = true ∧ depth + openBrackets [c] = 0
  · simpa [hclosed] using eq_comm
  · cases seekClosing (depth + openBrackets [c]) s with
    | found o => simpa [hclosed, Closing.behind] using eq_comm
    | pending d => simp [hclosed, Closing.behind]

/-- Inside of brackets, the depth behind a character is zero only where it closes the last one. -/
private theorem openBrackets_singleton_pos {depth : Int} (hdepth : 0 < depth) {c : Char} :
    (isClosing c = true ∧ depth + openBrackets [c] = 0) ∨ 0 < depth + openBrackets [c] := by
  rw [openBrackets_singleton]
  cases hopening : isOpening c with
  | true =>
    right
    rw [if_pos rfl]
    omega
  | false =>
    cases hclosing : isClosing c with
    | true =>
      simp only [Bool.false_eq_true, ↓reduceIte, true_and]
      omega
    | false =>
      simp only [Bool.false_eq_true, ↓reduceIte]
      omega

/-- The bracket that is looked for is at the first place behind which the depth is zero. -/
theorem seekClosing_eq_found_iff {depth : Int} (hdepth : 0 < depth) {s : List Char} {offset : Nat} :
    seekClosing depth s = .found offset ↔
      offset < s.length ∧ (∀ i ≤ offset, 0 < depth + openBrackets (s.take i)) ∧
        depth + openBrackets (s.take (offset + 1)) = 0 := by
  induction s generalizing depth offset with
  | nil => simp [seekClosing]
  | cons c s ih =>
    have hzero : depth + openBrackets ((c :: s).take 0) = depth := Int.add_zero depth
    have hstep : ∀ i, depth + openBrackets ((c :: s).take (i + 1)) =
        depth + openBrackets [c] + openBrackets (s.take i) := by
      intro i
      rw [List.take_succ_cons, openBrackets_cons, Int.add_assoc]
    have hnil : openBrackets (s.take 0) = 0 := rfl
    rw [seekClosing_cons_iff]
    rcases openBrackets_singleton_pos hdepth with hclosed | hpos
    · constructor
      · rintro (⟨-, rfl⟩ | ⟨hopen, -⟩)
        · refine ⟨by simp, fun i hi => ?_, by rw [hstep, hclosed.2, hnil]; rfl⟩
          rw [Nat.le_zero.1 hi, hzero]
          exact hdepth
        · exact absurd hclosed hopen
      · rintro ⟨-, hbefore, -⟩
        refine .inl ⟨hclosed, ?_⟩
        by_contra hoffset
        have := hbefore 1 (by omega)
        rw [hstep, hnil] at this
        omega
    · have hopen : ¬ (isClosing c = true ∧ depth + openBrackets [c] = 0) := fun h => by omega
      constructor
      · rintro (⟨hclosed, -⟩ | ⟨-, o, ho, rfl⟩)
        · exact absurd hclosed hopen
        · obtain ⟨hlt, hbefore, hbalanced⟩ := (ih hpos).1 ho
          refine ⟨by simpa using hlt, fun i hi => ?_, by rw [hstep, hbalanced]⟩
          cases i with
          | zero => rwa [hzero]
          | succ i =>
            rw [hstep]
            exact hbefore i (by omega)
      · rintro ⟨hlt, hbefore, hbalanced⟩
        cases offset with
        | zero =>
          rw [hstep, hnil] at hbalanced
          omega
        | succ o =>
          refine .inr ⟨hopen, o, (ih hpos).2 ⟨by simpa using hlt, fun i hi => ?_, by rw [← hstep, hbalanced]⟩, rfl⟩
          rw [← hstep]
          exact hbefore (i + 1) (by omega)

/-- The arguments of a call end at the bracket that closes the parenthesis. -/
theorem seekClosing_parenthesis_iff {rest : List Char} {offset : Nat} :
    seekClosing 0 ('(' :: rest) = .found offset ↔ ClosesAt ('(' :: rest) offset := by
  have hstep : ∀ i, openBrackets (('(' :: rest).take (i + 1)) = 1 + openBrackets (rest.take i) :=
    fun i => openBrackets_cons '(' _
  have hopen : ¬ (isClosing '(' = true ∧ 0 + openBrackets ['('] = 0) := by decide
  rw [seekClosing_cons_iff]
  constructor
  · rintro (⟨hclosed, -⟩ | ⟨-, o, ho, rfl⟩)
    · exact absurd hclosed hopen
    · obtain ⟨hlt, hbefore, hbalanced⟩ := (seekClosing_eq_found_iff (by decide)).1 ho
      refine ⟨by simpa using hlt, fun i hpos hi => ?_, by rw [hstep]; exact hbalanced⟩
      obtain ⟨i, rfl⟩ := Nat.exists_eq_add_one.2 hpos
      rw [hstep]
      exact hbefore i (by omega)
  · rintro ⟨hlt, hbefore, hbalanced⟩
    cases offset with
    | zero => cases hbalanced
    | succ o =>
      refine .inr ⟨hopen, o, (seekClosing_eq_found_iff (by decide)).2 ⟨by simpa using hlt, fun i hi => ?_, ?_⟩, rfl⟩
      · have := hbefore (i + 1) (by omega) (by omega)
        rwa [hstep] at this
      · rwa [hstep] at hbalanced

/-- Inside of the list of arguments no more brackets are closed than opened. -/
theorem ClosesAt.openBrackets_nonneg {code : List Char} {offset : Nat} (h : ClosesAt code offset)
    (hfront : code.head? = some '(') (i : Nat) : 0 ≤ openBrackets (((code.drop 1).take (offset - 1)).take i) := by
  obtain ⟨rest, rfl⟩ : ∃ rest, code = '(' :: rest := List.head?_eq_some_iff.1 hfront
  cases offset with
  | zero => cases h.balanced
  | succ o =>
    have := h.before (min i o + 1) (by omega) (by omega)
    rw [List.take_succ_cons, openBrackets_cons] at this
    rw [Nat.add_sub_cancel, List.take_take, List.drop_one, List.tail_cons]
    have hparenthesis : openBrackets ['('] = 1 := rfl
    omega

/-! ### Arguments -/

/-- Does the character at place `i` of a list of arguments part two of them?  It is a comma of the code outside of all
brackets. -/
def partsAt (code : List Char) (i : Nat) : Bool :=
  code[i]? = some ',' && openBrackets (code.take i) = 0

/-- The pieces of a list of arguments, as they are written. -/
def argumentPieces (raw code : List Char) : List (List Char) :=
  (raw.zipIdx.splitOnP fun x => partsAt code x.2).map (·.map Prod.fst)

/-- The number of arguments in a list: of the pieces that are not blank. -/
def argumentCount (raw code : List Char) : Nat :=
  (argumentPieces raw code).countP fun piece => piece.any (!isBlank ·)

/-- Nothing in the list of arguments misleads a count that sees neither strings nor comments, takes angle brackets for
brackets, and three dots at the end for a list that goes on. -/
structure Quiet (raw code : List Char) : Prop where
  /-- Strings and comments hold no brackets, and commas only where they stand in brackets themselves. -/
  hidden : ∀ i c, raw[i]? = some c → code[i]? ≠ some c →
    opensLevel c = false ∧ closesLevel c = false ∧ (c = ',' → 0 < openBrackets (code.take i))
  /-- No comma that parts two arguments stands behind a less-than sign. -/
  less : ∀ i, partsAt code i = true → '<' ∉ code.take i
  /-- Greater-than signs stand outside of all brackets. -/
  greater : ∀ i, code[i]? = some '>' → openBrackets (code.take i) = 0
  dots : ¬ "...".toList <:+ Text.trim raw

private theorem quiet_iff {raw code : List Char} : Quiet raw code ↔
    (∀ i < raw.length, code[i]? ≠ raw[i]? →
      (raw[i]?.any fun c => opensLevel c || closesLevel c) = false ∧
      (raw[i]? = some ',' → 0 < openBrackets (code.take i))) ∧
    (∀ i < code.length, (partsAt code i = true → '<' ∉ code.take i) ∧
      (code[i]? = some '>' → openBrackets (code.take i) = 0)) ∧
    ¬ "...".toList <:+ Text.trim raw := by
  constructor
  · intro h
    refine ⟨fun i hi hhidden => ?_, fun i _ => ⟨h.less i, h.greater i⟩, h.dots⟩
    rw [List.getElem?_eq_getElem hi] at hhidden ⊢
    obtain ⟨hopens, hcloses, hcomma⟩ := h.hidden i raw[i] (List.getElem?_eq_getElem hi) hhidden
    exact ⟨by simp [hopens, hcloses], fun hc => hcomma (Option.some.inj hc)⟩
  · rintro ⟨hhidden, hcode, hdots⟩
    refine ⟨fun i c hc hne => ?_, fun i hparts => ?_, fun i hgreater => ?_, hdots⟩
    · obtain ⟨hany, hcomma⟩ := hhidden i (List.getElem?_eq_some_iff.1 hc).1 (hc ▸ hne)
      rw [hc] at hany hcomma
      obtain ⟨hopens, hcloses⟩ : opensLevel c = false ∧ closesLevel c = false := by simpa using hany
      exact ⟨hopens, hcloses, fun h => hcomma (congrArg some h)⟩
    · have hcomma : code[i]? = some ',' := by
        simp only [partsAt, Bool.and_eq_true, decide_eq_true_eq] at hparts
        exact hparts.1
      exact (hcode i (List.getElem?_eq_some_iff.1 hcomma).1).1 hparts
    · exact (hcode i (List.getElem?_eq_some_iff.1 hgreater).1).2 hgreater

instance (raw code : List Char) : Decidable (Quiet raw code) :=
  decidable_of_iff _ quiet_iff.symm

/-! ### Levels -/

/-- The pieces of a text are those between the places at which the splitter parts them. -/
private theorem levelPieces_eq_splitOnP {parts : Nat → Bool} {depth k : Nat} {s : List Char}
    (h : ∀ i c, s[i]? = some c → parts (k + i) = (c = ',' && (s.take (i + 1)).foldl levelAfter depth = 0)) :
    levelPieces (· = ',') depth s = ((s.zipIdx k).splitOnP fun x => parts x.2).map (·.map Prod.fst) := by
  induction s generalizing depth k with
  | nil => simp [levelPieces]
  | cons c s ih =>
    have hfirst : parts k = (c = ',' && levelAfter depth c = 0) := h 0 c rfl
    have hrest : levelPieces (· = ',') (levelAfter depth c) s =
        ((s.zipIdx (k + 1)).splitOnP fun x => parts x.2).map (·.map Prod.fst) := by
      apply ih
      intro i d hd
      rw [Nat.add_assoc, Nat.add_comm 1 i]
      exact h (i + 1) d hd
    rw [levelPieces, hrest, List.zipIdx_cons, List.splitOnP_cons_eq_if_modifyHead]
    dsimp only
    rw [hfirst]
    split
    · rfl
    · obtain ⟨piece, pieces, hpieces⟩ := List.exists_cons_of_ne_nil
        (List.splitOnP_ne_nil (fun x : Char × Nat => parts x.2) (s.zipIdx (k + 1)))
      rw [hpieces]
      rfl

/-- Brackets and angle brackets, one after the other. -/
private theorem levelAfter_eq (depth : Nat) (c : Char) :
    levelAfter depth c = if isOpening c then depth + 1 else if isClosing c then depth - 1
      else if c = '<' then depth + 1 else if c = '>' then depth - 1 else depth := by
  by_cases hless : c = '<'
  · subst hless
    rfl
  · simp only [levelAfter, opensLevel, closesLevel, hless, decide_false, Bool.or_false, ↓reduceIte]
    by_cases hgreater : c = '>'
    · subst hgreater
      rfl
    · simp only [hgreater, decide_false, Bool.or_false, ↓reduceIte]

/-- One character keeps the splitter at least as deep as the brackets, and as deep unless it is a less-than sign. -/
private theorem openBrackets_le_levelAfter {brackets : Int} {depth : Nat} {c : Char} (hle : brackets ≤ depth)
    (hnext : 0 ≤ brackets + openBrackets [c]) (hgreater : c = '>' → brackets = 0) :
    brackets + openBrackets [c] ≤ levelAfter depth c ∧
      (c ≠ '<' → brackets = depth → brackets + openBrackets [c] = levelAfter depth c) := by
  rw [openBrackets_singleton] at hnext ⊢
  rw [levelAfter_eq]
  split_ifs at hnext ⊢ with hopening hclosing hless hmore
  · exact ⟨by omega, fun _ hsame => by omega⟩
  · exact ⟨by omega, fun _ hsame => by omega⟩
  · exact ⟨by omega, fun hne _ => absurd hless hne⟩
  · have := hgreater hmore
    exact ⟨by omega, fun _ hsame => by omega⟩
  · exact ⟨by omega, fun _ hsame => by omega⟩

/-- The splitter is at least as deep as the brackets, and as deep unless there are less-than signs. -/
theorem openBrackets_le_level {code : List Char} (hopen : ∀ i, 0 ≤ openBrackets (code.take i))
    (hgreater : ∀ i, code[i]? = some '>' → openBrackets (code.take i) = 0) (n : Nat) :
    openBrackets (code.take n) ≤ (code.take n).foldl levelAfter 0 ∧
      ('<' ∉ code.take n → openBrackets (code.take n) = (code.take n).foldl levelAfter 0) := by
  induction n with
  | zero => exact ⟨Int.le_refl 0, fun _ => rfl⟩
  | succ n ih =>
    have hnext := hopen (n + 1)
    rw [List.take_add_one] at hnext ⊢
    cases hc : code[n]? with
    | none => simpa [hc] using ih
    | some c =>
      rw [hc] at hnext
      simp only [Option.toList_some, openBrackets_append, List.foldl_append, List.foldl_cons, List.foldl_nil,
        List.mem_append, List.mem_singleton, not_or] at hnext ⊢
      obtain ⟨hle, hsame⟩ := openBrackets_le_levelAfter ih.1 hnext fun h => hgreater n (h ▸ hc)
      exact ⟨hle, fun hless => hsame (Ne.symm hless.2) (ih.2 hless.1)⟩

/-! ### The count of the splitter -/

private theorem trim_eq_nil_iff {s : List Char} : Text.trim s = [] ↔ ∀ c ∈ s, isBlank c = true := by
  obtain ⟨front, back, hfront, hback, hs⟩ := Text.exists_trim s
  constructor
  · intro hnil c hc
    rw [hs, hnil, List.nil_append] at hc
    rcases List.mem_append.1 hc with hc | hc
    · exact hfront c hc
    · exact hback c hc
  · intro hblank
    cases htrim : Text.trim s with
    | nil => rfl
    | cons c t =>
      have hmem : c ∈ s := by
        rw [hs, htrim]
        simp
      have hfirst : isBlank c = false := Text.not_isBlank_head?_trim (by rw [htrim, List.head?_cons])
      exact absurd (hblank c hmem) (by simp [hfirst])

/-- The splitter counts the pieces that are not blank. -/
theorem length_splitTopLevel (s : List Char) :
    (splitTopLevel s).length = (levelPieces (· = ',') 0 s).countP fun piece => piece.any (!isBlank ·) := by
  rw [splitTopLevel, splitTopLevelBy, ← List.countP_eq_length_filter, List.countP_map]
  apply List.countP_congr
  intro piece _
  rw [Function.comp_apply, Bool.not_eq_true', List.isEmpty_eq_false_iff, ne_eq, trim_eq_nil_iff]
  simp

/-- Tells of each part whether it holds anything but blanks. -/
def partSeen : Extract.PartReader Bool where
  start := false
  step seen c := seen || !isBlank c
  name? seen := if seen then some "" else none

private theorem skipsBlanks_partSeen : partSeen.SkipsBlanks where
  step_blank := fun seen c hc => by
    have hspace : isBlank ' ' = true := rfl
    simp [partSeen, hc, hspace]
  step_step := fun seen => by cases seen <;> rfl
  step_start := rfl
  name?_step := fun seen => by cases seen <;> rfl
  name?_start := rfl

private theorem after_partSeen (part : List Char) : partSeen.after part = part.any (!isBlank ·) := by
  have hfoldl : ∀ seen : Bool, part.foldl partSeen.step seen = (seen || part.any (!isBlank ·)) := by
    induction part with
    | nil => simp
    | cons c part ih =>
      intro seen
      rw [List.foldl_cons, ih, List.any_cons, ← Bool.or_assoc]
      rfl
  exact (hfoldl false).trans (Bool.false_or _)

/-- Blanks at the ends of a text do not change its count. -/
private theorem length_splitTopLevel_trim (s : List Char) :
    (splitTopLevel (Text.trim s)).length = (splitTopLevel s).length := by
  have hlength : ∀ t, (splitTopLevel t).length = (partSeen.result (partSeen.readAll t)).length := by
    intro t
    have hnames : (splitTopLevel t).filterMap (fun text => if text.isEmpty then none else some "") =
        partSeen.result (partSeen.readAll t) := by
      apply skipsBlanks_partSeen.filterMap_splitTopLevel
      intro part
      rw [after_partSeen, partSeen]
      cases hany : part.any (!isBlank ·) with
      | false => simp [trim_eq_nil_iff.2 (by simpa using hany)]
      | true =>
        have hne : Text.trim part ≠ [] := by
          rw [ne_eq, trim_eq_nil_iff]
          simpa using hany
        simp [hne]
    rw [← hnames, List.length_filterMap_eq_countP, eq_comm, List.countP_eq_length]
    intro part hpart
    have hne : (!part.isEmpty) = true := (List.mem_filter.1 hpart).2
    simpa using hne
  rw [hlength, hlength, skipsBlanks_partSeen.result_trim]

section Quiet

variable {raw code : List Char} (hshows : List.Forall₂ Shows raw code) (h : Quiet raw code)
include hshows h

/-- A place of the list, where a hidden character opens and closes nothing. -/
private theorem Quiet.place {i : Nat} {c : Char} (hc : raw[i]? = some c) :
    code[i]? = some c ∨ code[i]? = some ' ' ∧ ∀ depth, levelAfter depth c = depth := by
  obtain ⟨hi, rfl⟩ := List.getElem?_eq_some_iff.1 hc
  have hi' : i < code.length := hshows.length_eq ▸ hi
  have hget : code[i]? = some code[i] := List.getElem?_eq_getElem hi'
  rcases (hshows.get hi hi' : Shows raw[i] code[i]) with hsame | ⟨hspace, -⟩
  · exact .inl (hget.trans (congrArg some hsame))
  · by_cases hsame : code[i]? = some raw[i]
    · exact .inl hsame
    · obtain ⟨hopens, hcloses, -⟩ := h.hidden i _ hc hsame
      refine .inr ⟨hget.trans (congrArg some hspace), fun depth => ?_⟩
      simp [levelAfter, hopens, hcloses]

/-- Hidden characters do not change the depth of the splitter. -/
private theorem Quiet.level_eq (n : Nat) : (raw.take n).foldl levelAfter 0 = (code.take n).foldl levelAfter 0 := by
  induction n with
  | zero => rfl
  | succ n ih =>
    rw [List.take_add_one, List.take_add_one, List.foldl_append, List.foldl_append, ih]
    cases hc : raw[n]? with
    | none =>
      have hnone : code[n]? = none := by
        rw [List.getElem?_eq_none_iff] at hc ⊢
        rwa [← hshows.length_eq]
      rw [hnone]
    | some c =>
      rcases h.place hshows hc with hsame | ⟨hspace, hlevel⟩
      · rw [hsame]
      · rw [hspace]
        exact hlevel _

/-- The splitter parts arguments at the commas of the code outside of all brackets. -/
private theorem Quiet.partsAt_eq (hopen : ∀ i, 0 ≤ openBrackets (code.take i)) {i : Nat} {c : Char}
    (hc : raw[i]? = some c) : partsAt code i = (c = ',' && (raw.take (i + 1)).foldl levelAfter 0 = 0) := by
  obtain ⟨hle, heq⟩ := openBrackets_le_level hopen h.greater i
  have hnonneg := hopen i
  by_cases hcomma : c = ','
  · subst hcomma
    have hlevel : (raw.take (i + 1)).foldl levelAfter 0 = (code.take i).foldl levelAfter 0 := by
      rw [List.take_add_one, hc, List.foldl_append, h.level_eq hshows]
      rfl
    rw [Bool.eq_iff_iff, hlevel]
    simp only [decide_true, Bool.true_and, decide_eq_true_eq]
    constructor
    · intro hparts
      have hzero := heq (h.less i hparts)
      simp only [partsAt, Bool.and_eq_true, decide_eq_true_eq] at hparts
      omega
    · intro hzero
      have hbrackets : openBrackets (code.take i) = 0 := by omega
      have hcode : code[i]? = some ',' := by
        by_contra hhidden
        have := (h.hidden i ',' hc hhidden).2.2 rfl
        omega
      simp [partsAt, hcode, hbrackets]
  · have hcode : code[i]? ≠ some ',' := by
      rcases h.place hshows hc with hsame | ⟨hspace, -⟩
      · simpa [hsame] using hcomma
      · simp [hspace]
    simp [partsAt, hcode, hcomma]

/-- The splitter counts the arguments of the list. -/
theorem Quiet.length_splitTopLevel (hopen : ∀ i, 0 ≤ openBrackets (code.take i)) :
    (splitTopLevel (Text.trim raw)).length = argumentCount raw code := by
  rw [length_splitTopLevel_trim, Source.length_splitTopLevel, argumentCount, argumentPieces]
  congr 1
  apply levelPieces_eq_splitOnP
  intro i c hc
  rw [Nat.zero_add]
  exact h.partsAt_eq hshows hopen hc

end Quiet

-- a comma in a string and one behind a comparison are taken for what they are not
example : argumentCount "\"a, b\"".toList "\"    \"".toList = 1 ∧ (splitTopLevel "\"a, b\"".toList).length = 2 ∧
    argumentCount "1 < 2, 3".toList "1 < 2, 3".toList = 2 ∧ (splitTopLevel "1 < 2, 3".toList).length = 1 := by
  decide

end CallIndex.Source
