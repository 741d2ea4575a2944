import CallIndex.Block
import Mathlib.Combinatorics.Enumerative.DyckWord

/-!
# Braces in a stream of code

Texts that are read and blocks that are announced between them make one stream.  In the stream an opening and a closing
brace are partners when the braces between them form a balanced word.  The level of a stretch, its opening braces less its
closing ones, tells which braces have no partner: behind an open brace the level never falls below zero, and before a lone
closing brace it never rises above zero.

Reading the stream keeps the open braces, each with the block that was announced for it, and counts the lone ones.

* `isOpen_iff` and `isLone_iff`: braces without partners by levels.
* `countsOpen`: behind an open brace the level is the number of open braces that follow.
* `Tracks.take`: reading one more signal.
* `blocks_follow_braces`: the state after any announcements and texts.
-/

namespace CallIndex.Braces

variable {ω : Type}

/-! ### Streams -/

/-- What a stream is made of. -/
inductive Signal (ω : Type) where
  | announce (block : Block ω)
  | char (c : Char)

namespace Signal

def isOpening : Signal ω → Bool
  | announce _ => false
  | char c => c = '{'

def isClosing : Signal ω → Bool
  | announce _ => false
  | char c => c = '}'

/-- Does the signal put an end to what was announced before? -/
def settles : Signal ω → Bool
  | announce _ => true
  | char c => c = '{' || c = ';'

def block? : Signal ω → Option (Block ω)
  | announce b => some b
  | char _ => none

/-- An opening brace goes up and a closing one down. -/
def dyckStep? : Signal ω → Option DyckStep
  | announce _ => none
  | char c => if c = '{' then some .U else if c = '}' then some .D else none

end Signal

/-- What is done with a block state: a block is announced, or a text is read. -/
inductive Move (ω : Type) where
  | announce (kind : BlockKind) (owner : Option ω)
  | feed (code : List Char)

namespace Move

def apply (st : BlockState ω) : Move ω → BlockState ω
  | announce kind owner => st.announce kind owner
  | feed code => st.feed code

def signals : Move ω → List (Signal ω)
  | announce kind owner => [.announce ⟨kind, owner⟩]
  | feed code => code.map .char

end Move

/-- The characters that were read, with the announcements between them. -/
def stream (moves : List (Move ω)) : List (Signal ω) :=
  moves.flatMap Move.signals

/-- A fresh state after some moves. -/
def run (moves : List (Move ω)) : BlockState ω :=
  moves.foldl Move.apply {}

variable {s t : List (Signal ω)} {x : Signal ω} {i j : Nat}

/-- The braces of a stream. -/
def braces (s : List (Signal ω)) : List DyckStep :=
  s.filterMap Signal.dyckStep?

/-- The braces of a stream form a balanced word. -/
def Balanced (s : List (Signal ω)) : Prop :=
  ∃ w : DyckWord, w.toList = braces s

/-- The opening brace at place `i` and the closing brace at place `j` belong together. -/
def Partners (s : List (Signal ω)) (i j : Nat) : Prop :=
  i < j ∧ s[i]?.any Signal.isOpening ∧ s[j]?.any Signal.isClosing ∧ Balanced ((s.take j).drop (i + 1))

/-- An opening brace without a partner. -/
def IsOpen (s : List (Signal ω)) (i : Nat) : Prop :=
  s[i]?.any Signal.isOpening ∧ ∀ j < s.length, ¬ Partners s i j

/-- A closing brace without a partner. -/
def IsLone (s : List (Signal ω)) (j : Nat) : Prop :=
  s[j]?.any Signal.isClosing ∧ ∀ i < s.length, ¬ Partners s i j

/-! ### Levels -/

/-- The opening braces of a stretch less the closing ones. -/
def level (s : List (Signal ω)) : Int :=
  (braces s).count .U - (braces s).count .D

@[simp] theorem level_nil : level ([] : List (Signal ω)) = 0 := rfl

@[simp] theorem level_append (s t : List (Signal ω)) : level (s ++ t) = level s + level t := by
  simp only [level, braces, List.filterMap_append, List.count_append]
  omega

private theorem level_opening (h : x.isOpening) : level [x] = 1 := by
  cases x with
  | announce b => cases h
  | char c =>
    obtain rfl : c = '{' := by simpa [Signal.isOpening] using h
    rfl

private theorem level_closing (h : x.isClosing) : level [x] = -1 := by
  cases x with
  | announce b => cases h
  | char c =>
    obtain rfl : c = '}' := by simpa [Signal.isClosing] using h
    rfl

private theorem level_idle (ho : x.isOpening = false) (hc : x.isClosing = false) : level [x] = 0 := by
  cases x with
  | announce b => rfl
  | char c =>
    have ho : c ≠ '{' := by simpa [Signal.isOpening] using ho
    have hc : c ≠ '}' := by simpa [Signal.isClosing] using hc
    simp [level, braces, Signal.dyckStep?, ho, hc]

private theorem isClosing_of_level_neg (h : level [x] < 0) : x.isClosing := by
  by_contra hc
  by_cases ho : x.isOpening
  · rw [level_opening ho] at h
    omega
  · rw [level_idle (by simpa using ho) (by simpa using hc)] at h
    omega

private theorem isOpening_of_level_pos (h : 0 < level [x]) : x.isOpening := by
  by_contra ho
  by_cases hc : x.isClosing
  · rw [level_closing hc] at h
    omega
  · rw [level_idle (by simpa using ho) (by simpa using hc)] at h
    omega

/-- A stretch is balanced when its level is zero and never falls below zero on the way. -/
private theorem balanced_iff : Balanced s ↔ level s = 0 ∧ ∀ t, t <+: s → 0 ≤ level t := by
  constructor
  · rintro ⟨w, hw⟩
    constructor
    · have := w.count_U_eq_count_D
      rw [hw] at this
      rw [level, this]
      omega
    · intro t ht
      have hprefix : braces t = (braces s).take (braces t).length :=
        List.prefix_iff_eq_take.1 (ht.filterMap Signal.dyckStep?)
      have := w.count_D_le_count_U (braces t).length
      rw [hw, ← hprefix] at this
      rw [level]
      omega
  · rintro ⟨hzero, hprefix⟩
    refine ⟨⟨braces s, ?_, fun n => ?_⟩, rfl⟩
    · rw [level] at hzero
      omega
    · obtain ⟨t, ht, hbraces⟩ := List.prefix_filterMap_iff.1 (List.take_prefix n (braces s))
      have := hprefix t ht
      rw [level, braces, ← hbraces] at this
      omega

/-- Levels from the left and from the right of a stretch at level zero. -/
private theorem level_prefix_iff (hzero : level s = 0) :
    (∀ t, t <+: s → 0 ≤ level t) ↔ ∀ t, t <:+ s → level t ≤ 0 := by
  constructor
  · rintro h t ⟨front, rfl⟩
    have := h front (List.prefix_append _ _)
    rw [level_append] at hzero
    omega
  · rintro h t ⟨rest, rfl⟩
    have := h rest (List.suffix_append _ _)
    rw [level_append] at hzero
    omega

/-! ### Partners -/

/-- Where the level falls below zero for the first time, a closing brace stands behind a balanced stretch. -/
private theorem exists_closing (ht : t <+: s) (hlevel : level t < 0) :
    ∃ mid y rest, s = mid ++ y :: rest ∧ y.isClosing ∧ Balanced mid := by
  induction s using List.reverseRecOn generalizing t with
  | nil =>
    rw [List.prefix_nil.1 ht] at hlevel
    simp at hlevel
  | append_singleton s x ih =>
    by_cases hs : ∃ t, t <+: s ∧ level t < 0
    · obtain ⟨t, ht, hlevel⟩ := hs
      obtain ⟨mid, y, rest, rfl, hy, hmid⟩ := ih ht hlevel
      exact ⟨mid, y, rest ++ [x], by simp, hy, hmid⟩
    · have hnonneg : ∀ t, t <+: s → 0 ≤ level t := fun t ht => by
        by_contra hneg
        exact hs ⟨t, ht, by omega⟩
      -- the level falls below zero at the last signal
      rcases List.prefix_concat_iff.1 ht with rfl | ht
      · rw [level_append] at hlevel
        have hwhole := hnonneg s List.prefix_rfl
        have hx := isClosing_of_level_neg (x := x) (by omega)
        rw [level_closing hx] at hlevel
        exact ⟨s, x, [], rfl, hx, balanced_iff.2 ⟨by omega, hnonneg⟩⟩
      · have := hnonneg t ht
        omega

/-- Where the level rises above zero for the last time, an opening brace stands before a balanced stretch. -/
private theorem exists_opening (ht : t <:+ s) (hlevel : 0 < level t) :
    ∃ front x mid, s = front ++ x :: mid ∧ x.isOpening ∧ Balanced mid := by
  induction s generalizing t with
  | nil =>
    rw [List.suffix_nil.1 ht] at hlevel
    simp at hlevel
  | cons x s ih =>
    by_cases hs : ∃ t, t <:+ s ∧ 0 < level t
    · obtain ⟨t, ht, hlevel⟩ := hs
      obtain ⟨front, y, mid, rfl, hy, hmid⟩ := ih ht hlevel
      exact ⟨x :: front, y, mid, rfl, hy, hmid⟩
    · have hnonpos : ∀ t, t <:+ s → level t ≤ 0 := fun t ht => by
        by_contra hpos
        exact hs ⟨t, ht, by omega⟩
      rcases List.suffix_cons_iff.1 ht with rfl | ht
      · rw [← List.singleton_append, level_append] at hlevel
        have hwhole := hnonpos s List.suffix_rfl
        have hx := isOpening_of_level_pos (x := x) (by omega)
        rw [level_opening hx] at hlevel
        have hzero : level s = 0 := by omega
        exact ⟨[], x, s, rfl, hx, balanced_iff.2 ⟨hzero, (level_prefix_iff hzero).2 hnonpos⟩⟩
      · have := hnonpos t ht
        omega

private theorem any_getElem?_iff {f : Signal ω → Bool} : s[i]?.any f = true ↔ ∃ x, s[i]? = some x ∧ f x = true := by
  cases s[i]? <;> simp

private theorem lt_length_of_any {f : Signal ω → Bool} (h : s[i]?.any f) : i < s.length := by
  obtain ⟨x, hx, -⟩ := any_getElem?_iff.1 h
  exact (List.getElem?_eq_some_iff.1 hx).1

/-- An opening brace is open when the level behind it never falls below zero. -/
theorem isOpen_iff : IsOpen s i ↔ s[i]?.any Signal.isOpening ∧ ∀ t, t <+: s.drop (i + 1) → 0 ≤ level t := by
  refine and_congr_right fun hi => ⟨fun hfree t ht => ?_, fun hlevel j _ hpartners => ?_⟩
  · by_contra hneg
    obtain ⟨mid, y, rest, hdrop, hy, hmid⟩ := exists_closing ht (by omega)
    have hj : s[i + 1 + mid.length]? = some y := by
      rw [← List.getElem?_drop, hdrop]
      simp
    refine hfree (i + 1 + mid.length) (List.getElem?_eq_some_iff.1 hj).1 ⟨by omega, hi, by rw [hj]; exact hy, ?_⟩
    rw [List.drop_take, hdrop]
    simpa using hmid
  · obtain ⟨hij, -, hj, hbetween⟩ := hpartners
    obtain ⟨y, hy, hclosing⟩ := any_getElem?_iff.1 hj
    -- the partner takes the level below zero
    have hnext : (s.drop (i + 1)).take (j - i) = (s.take j).drop (i + 1) ++ [y] := by
      rw [List.drop_take, show j - i = j - (i + 1) + 1 by omega, List.take_add_one, List.getElem?_drop,
        show i + 1 + (j - (i + 1)) = j by omega, hy]
      rfl
    have := hlevel _ (List.take_prefix (j - i) _)
    rw [hnext, level_append, (balanced_iff.1 hbetween).1, level_closing hclosing] at this
    omega

/-- A closing brace is lone when the level before it never rises above zero. -/
theorem isLone_iff : IsLone s j ↔ s[j]?.any Signal.isClosing ∧ ∀ t, t <:+ s.take j → level t ≤ 0 := by
  refine and_congr_right fun hj => ⟨fun hfree t ht => ?_, fun hlevel i _ hpartners => ?_⟩
  · by_contra hpos
    obtain ⟨front, x, mid, htake, hx, hmid⟩ := exists_opening ht (by omega)
    have hlength := congrArg List.length htake
    simp only [List.length_take, List.length_append, List.length_cons] at hlength
    have hi : s[front.length]? = some x := by
      rw [← List.getElem?_take_of_lt (show front.length < j by omega), htake]
      simp
    refine hfree front.length (by omega) ⟨by omega, by rw [hi]; exact hx, hj, ?_⟩
    rw [htake]
    simpa using hmid
  · obtain ⟨hij, hi, -, hbetween⟩ := hpartners
    obtain ⟨x, hx, hopening⟩ := any_getElem?_iff.1 hi
    have hnext : (s.take j).drop i = [x] ++ (s.take j).drop (i + 1) := by
      rw [List.drop_eq_getElem?_toList_append, List.getElem?_take_of_lt hij, hx]
      rfl
    have := hlevel _ (List.drop_suffix i (s.take j))
    rw [hnext, level_append, (balanced_iff.1 hbetween).1, level_opening hopening] at this
    omega

/-! ### The places of the braces without partners -/

instance : DecidablePred (Balanced (ω := ω)) := fun s =>
  decidable_of_iff (level s = 0 ∧ ∀ n ≤ s.length, 0 ≤ level (s.take n)) <| by
    rw [balanced_iff]
    refine and_congr_right fun _ => ⟨fun h t ht => ?_, fun h n _ => h _ (List.take_prefix n s)⟩
    rw [List.prefix_iff_eq_take.1 ht]
    exact h _ ht.length_le

instance (s : List (Signal ω)) (i j : Nat) : Decidable (Partners s i j) :=
  inferInstanceAs (Decidable (_ ∧ _))

instance (s : List (Signal ω)) : DecidablePred (IsOpen s) := fun _ =>
  inferInstanceAs (Decidable (_ ∧ _))

instance (s : List (Signal ω)) : DecidablePred (IsLone s) := fun _ =>
  inferInstanceAs (Decidable (_ ∧ _))

/-- The places of the opening braces without partners, in order. -/
def openPlaces (s : List (Signal ω)) : List Nat :=
  (List.range s.length).filter fun i => IsOpen s i

/-- The places of the closing braces without partners, in order. -/
def lonePlaces (s : List (Signal ω)) : List Nat :=
  (List.range s.length).filter fun j => IsLone s j

private theorem mem_openPlaces : i ∈ openPlaces s ↔ IsOpen s i := by
  rw [openPlaces, List.mem_filter, List.mem_range, decide_eq_true_eq, and_iff_right_iff_imp]
  exact fun h => lt_length_of_any h.1

private theorem mem_lonePlaces : j ∈ lonePlaces s ↔ IsLone s j := by
  rw [lonePlaces, List.mem_filter, List.mem_range, decide_eq_true_eq, and_iff_right_iff_imp]
  exact fun h => lt_length_of_any h.1

private theorem lt_length_of_mem_openPlaces (h : i ∈ openPlaces s) : i < s.length :=
  List.mem_range.1 (List.mem_filter.1 h).1

/-- Nothing is open when no stretch up to the end has more opening than closing braces. -/
private theorem openPlaces_eq_nil_iff : openPlaces s = [] ↔ ∀ t, t <:+ s → level t ≤ 0 := by
  constructor
  · intro hnil t ht
    by_contra hpos
    obtain ⟨front, x, mid, rfl, hx, hmid⟩ := exists_opening ht (by omega)
    have hopen : front.length ∈ openPlaces (front ++ x :: mid) := by
      rw [mem_openPlaces, isOpen_iff]
      exact ⟨by simpa using hx, by simpa using (balanced_iff.1 hmid).2⟩
    rw [hnil] at hopen
    cases hopen
  · intro hlevel
    rw [List.eq_nil_iff_forall_not_mem]
    intro i hi
    obtain ⟨hopening, hbehind⟩ := isOpen_iff.1 (mem_openPlaces.1 hi)
    obtain ⟨x, hx, hopening⟩ := any_getElem?_iff.1 hopening
    have hstretch := hlevel _ (List.drop_suffix i s)
    have := hbehind _ List.prefix_rfl
    rw [List.drop_eq_getElem?_toList_append, hx, level_append, Option.toList_some, level_opening hopening] at hstretch
    omega

/-- No closing brace is lone when no stretch from the start has more closing than opening braces. -/
private theorem lonePlaces_eq_nil_iff : lonePlaces s = [] ↔ ∀ t, t <+: s → 0 ≤ level t := by
  constructor
  · intro hnil t ht
    by_contra hneg
    obtain ⟨mid, y, rest, rfl, hy, hmid⟩ := exists_closing ht (by omega)
    obtain ⟨hzero, hprefix⟩ := balanced_iff.1 hmid
    have hlone : mid.length ∈ lonePlaces (mid ++ y :: rest) := by
      rw [mem_lonePlaces, isLone_iff]
      exact ⟨by simpa using hy, by simpa using (level_prefix_iff hzero).1 hprefix⟩
    rw [hnil] at hlone
    cases hlone
  · intro hlevel
    rw [List.eq_nil_iff_forall_not_mem]
    intro j hj
    obtain ⟨hclosing, hbefore⟩ := isLone_iff.1 (mem_lonePlaces.1 hj)
    obtain ⟨y, hy, hclosing⟩ := any_getElem?_iff.1 hclosing
    have hstretch := hlevel _ (List.take_prefix (j + 1) s)
    have := hbefore _ List.suffix_rfl
    rw [List.take_add_one, hy, level_append, Option.toList_some, level_closing hclosing] at hstretch
    omega

/-- The braces are balanced when each has a partner. -/
private theorem balanced_iff_partners : Balanced s ↔ openPlaces s = [] ∧ lonePlaces s = [] := by
  rw [balanced_iff, openPlaces_eq_nil_iff, lonePlaces_eq_nil_iff]
  constructor
  · rintro ⟨hzero, hprefix⟩
    exact ⟨(level_prefix_iff hzero).1 hprefix, hprefix⟩
  · rintro ⟨hsuffix, hprefix⟩
    have hle := hsuffix s List.suffix_rfl
    have hge := hprefix s List.prefix_rfl
    exact ⟨by omega, hprefix⟩

/-! ### One more signal -/

/-- A further signal can close what is open, and be open itself. -/
private theorem openPlaces_concat (s : List (Signal ω)) (x : Signal ω) :
    openPlaces (s ++ [x]) = (openPlaces s).filter (fun i => 0 ≤ level (s.drop (i + 1)) + level [x]) ++
      if x.isOpening then [s.length] else [] := by
  have hlast : IsOpen (s ++ [x]) s.length ↔ x.isOpening := by
    rw [isOpen_iff]
    simp
  have hfront : ∀ i ∈ List.range s.length,
      decide (IsOpen (s ++ [x]) i) = (decide (0 ≤ level (s.drop (i + 1)) + level [x]) && decide (IsOpen s i)) := by
    intro i hi
    have hi := List.mem_range.1 hi
    rw [← Bool.decide_and, decide_eq_decide, isOpen_iff, isOpen_iff, List.getElem?_append_left hi,
      List.drop_append_of_le_length hi]
    simp only [List.prefix_concat_iff, or_imp, forall_and, forall_eq, level_append]
    tauto
  rw [openPlaces, openPlaces, List.length_append, List.length_singleton, List.range_succ, List.filter_append,
    List.filter_congr hfront, List.filter_filter, List.filter_singleton]
  simp only [hlast, Bool.decide_eq_true, Bool.cond_eq_ite]

/-- A closing brace is lone when nothing is open before it. -/
private theorem lonePlaces_concat (s : List (Signal ω)) (x : Signal ω) :
    lonePlaces (s ++ [x]) = lonePlaces s ++ if x.isClosing && (openPlaces s).isEmpty then [s.length] else [] := by
  have hlast : IsLone (s ++ [x]) s.length ↔ (x.isClosing && (openPlaces s).isEmpty) = true := by
    rw [isLone_iff, Bool.and_eq_true, List.isEmpty_iff, openPlaces_eq_nil_iff]
    simp
  have hfront : ∀ j ∈ List.range s.length, decide (IsLone (s ++ [x]) j) = decide (IsLone s j) := by
    intro j hj
    have hj := List.mem_range.1 hj
    rw [decide_eq_decide, isLone_iff, isLone_iff, List.getElem?_append_left hj,
      List.take_append_of_le_length (Nat.le_of_lt hj)]
  rw [lonePlaces, lonePlaces, List.length_append, List.length_singleton, List.range_succ, List.filter_append,
    List.filter_congr hfront, List.filter_singleton]
  simp only [hlast, Bool.decide_eq_true, Bool.cond_eq_ite]

private theorem level_drop_nonneg (h : i ∈ openPlaces s) : 0 ≤ level (s.drop (i + 1)) :=
  (isOpen_iff.1 (mem_openPlaces.1 h)).2 _ List.prefix_rfl

private theorem openPlaces_concat_opening (h : x.isOpening) : openPlaces (s ++ [x]) = openPlaces s ++ [s.length] := by
  rw [openPlaces_concat, if_pos h, level_opening h, List.filter_eq_self.2]
  intro i hi
  have := level_drop_nonneg hi
  exact decide_eq_true (by omega)

private theorem openPlaces_concat_idle (ho : x.isOpening = false) (hc : x.isClosing = false) :
    openPlaces (s ++ [x]) = openPlaces s := by
  rw [openPlaces_concat, if_neg (by simp [ho]), level_idle ho hc, List.append_nil, List.filter_eq_self.2]
  intro i hi
  have := level_drop_nonneg hi
  exact decide_eq_true (by omega)

/-- The level behind each open brace is the number of open braces that follow. -/
def CountsOpen (s : List (Signal ω)) : Prop :=
  ∀ before i after, openPlaces s = before ++ i :: after → level (s.drop (i + 1)) = after.length

/-- A closing brace is the partner of the last open one. -/
private theorem openPlaces_concat_closing (hcounts : CountsOpen s) (h : x.isClosing) :
    openPlaces (s ++ [x]) = (openPlaces s).dropLast := by
  have ho : x.isOpening = false := by
    by_contra ho
    have := level_opening (by simpa using ho)
    rw [level_closing h] at this
    omega
  rw [openPlaces_concat, if_neg (by simp [ho]), level_closing h, List.append_nil]
  rcases List.eq_nil_or_concat (openPlaces s) with hnil | ⟨before, last, hplaces⟩
  · simp [hnil]
  · have hkeep : ∀ i ∈ before, decide (0 ≤ level (s.drop (i + 1)) + -1) = true := by
      intro i hi
      obtain ⟨front, rest, rfl⟩ := List.append_of_mem hi
      have := hcounts front i (rest ++ [last]) (by simp [hplaces])
      rw [List.length_append, List.length_singleton] at this
      exact decide_eq_true (by omega)
    have hlast : level (s.drop (last + 1)) = 0 := hcounts before last [] (by simp [hplaces])
    rw [hplaces, List.concat_eq_append, List.filter_append, List.filter_eq_self.2 hkeep, List.filter_singleton, hlast,
      List.dropLast_concat]
    simp

theorem countsOpen (s : List (Signal ω)) : CountsOpen s := by
  induction s using List.reverseRecOn with
  | nil =>
    intro before i after h
    simp [openPlaces] at h
  | append_singleton s x ih =>
    have hdrop : ∀ i ∈ openPlaces s, (s ++ [x]).drop (i + 1) = s.drop (i + 1) ++ [x] := fun i hi =>
      List.drop_append_of_le_length (lt_length_of_mem_openPlaces hi)
    intro before i after h
    by_cases ho : x.isOpening
    · rw [openPlaces_concat_opening ho] at h
      rcases List.eq_nil_or_concat after with rfl | ⟨after, last, rfl⟩
      · obtain ⟨-, hi⟩ := List.append_inj' h rfl
        obtain rfl := List.singleton_inj.1 hi
        simp
      · rw [List.concat_eq_append, ← List.cons_append, ← List.append_assoc] at h
        obtain ⟨hplaces, -⟩ := List.append_inj' h rfl
        rw [hdrop i (by simp [hplaces]), level_append, ih _ _ _ hplaces, level_opening ho]
        simp
    · have ho : x.isOpening = false := by simpa using ho
      by_cases hc : x.isClosing
      · rw [openPlaces_concat_closing ih hc] at h
        rcases List.eq_nil_or_concat (openPlaces s) with hnil | ⟨front, last, hplaces⟩
        · simp [hnil] at h
        · rw [hplaces, List.concat_eq_append, List.dropLast_concat] at h
          rw [h, List.concat_eq_append, List.append_assoc, List.cons_append] at hplaces
          rw [hdrop i (by simp [hplaces]), level_append, ih _ _ _ hplaces, level_closing hc]
          simp
      · have hc : x.isClosing = false := by simpa using hc
        rw [openPlaces_concat_idle ho hc] at h
        rw [hdrop i (by simp [h]), level_append, ih _ _ _ h, level_idle ho hc]
        simp

/-! ### Labels -/

/-- The block that a stream has announced last, if neither an opening brace nor a semicolon follows. -/
def Announced (s : List (Signal ω)) (b : Block ω) : Prop :=
  ∃ front rest, s = front ++ .announce b :: rest ∧ ∀ x ∈ rest, x.settles = false

/-- The label of a brace that opens behind a stream. -/
def Labelled (s : List (Signal ω)) (b : Block ω) : Prop :=
  Announced s b ∨ (∀ b', ¬ Announced s b') ∧ b = ⟨.plain, none⟩

/-- What is announced at the end of a stream. -/
def announced? (s : List (Signal ω)) : Option (Block ω) :=
  (s.reverse.find? Signal.settles).bind Signal.block?

private theorem announced?_concat (s : List (Signal ω)) (x : Signal ω) :
    announced? (s ++ [x]) = if x.settles then x.block? else announced? s := by
  unfold announced?
  rw [List.reverse_concat, List.find?_cons]
  cases x.settles <;> rfl

private theorem announced?_eq_some_iff {b : Block ω} : announced? s = some b ↔ Announced s b := by
  constructor
  · intro h
    obtain ⟨x, hx, hb⟩ := Option.bind_eq_some_iff.1 h
    obtain ⟨-, after, before, hs, hafter⟩ := List.find?_eq_some_iff_append.1 hx
    cases x with
    | char c => cases hb
    | announce b' =>
      obtain rfl : b' = b := by simpa [Signal.block?] using hb
      refine ⟨before.reverse, after.reverse, by simpa using congrArg List.reverse hs, fun x hx => ?_⟩
      simpa using hafter x (List.mem_reverse.1 hx)
  · rintro ⟨front, rest, rfl, hrest⟩
    have hfind : (front ++ .announce b :: rest).reverse.find? Signal.settles = some (.announce b) := by
      rw [List.find?_eq_some_iff_append]
      exact ⟨rfl, rest.reverse, front.reverse, by simp, fun x hx => by simp [hrest x (List.mem_reverse.1 hx)]⟩
    rw [announced?, hfind]
    rfl

/-- The label of the brace at place `i`. -/
def label (s : List (Signal ω)) (i : Nat) : Block ω :=
  (announced? (s.take i)).getD ⟨.plain, none⟩

private theorem labelled_label (s : List (Signal ω)) (i : Nat) : Labelled (s.take i) (label s i) := by
  unfold label
  cases h : announced? (s.take i) with
  | none => exact .inr ⟨fun b' hb => by simp [announced?_eq_some_iff.2 hb] at h, rfl⟩
  | some b => exact .inl (announced?_eq_some_iff.1 h)

private theorem label_concat (hi : i ≤ s.length) : label (s ++ [x]) i = label s i := by
  rw [label, label, List.take_append_of_le_length hi]

private theorem map_label_concat (x : Signal ω) {places : List Nat} (h : places ⊆ openPlaces s) :
    places.map (label (s ++ [x])) = places.map (label s) :=
  List.map_congr_left fun _ hi => label_concat (Nat.le_of_lt (lt_length_of_mem_openPlaces (h hi)))

/-! ### Reading the stream -/

/-- Takes a signal in. -/
def take (st : BlockState ω) : Signal ω → BlockState ω
  | .announce b => st.announce b.kind b.owner
  | .char c => st.step c

/-- A state holds the open braces of a stream with their labels, counts the lone ones, and keeps what is announced. -/
structure Tracks (s : List (Signal ω)) (st : BlockState ω) : Prop where
  stack : st.stack.reverse = (openPlaces s).map (label s)
  unmatched : st.unmatched = (lonePlaces s).length
  pending : st.pending = announced? s

namespace Tracks

variable {st : BlockState ω}

/-- A signal that is no brace. -/
private theorem idle (h : Tracks s st) (ho : x.isOpening = false) (hc : x.isClosing = false)
    {pending : Option (Block ω)}
    (hpending : pending = announced? (s ++ [x])) : Tracks (s ++ [x]) { st with pending := pending } where
  stack := by rw [openPlaces_concat_idle ho hc, map_label_concat x (List.Subset.refl _), h.stack]
  unmatched := by
    rw [lonePlaces_concat, hc, h.unmatched]
    simp
  pending := hpending

private theorem opening (h : Tracks s st) : Tracks (s ++ [.char '{']) (st.step '{') where
  stack := by
    have hlabel : label (s ++ [.char '{']) s.length = st.pending.getD ⟨.plain, none⟩ := by
      rw [label_concat (Nat.le_refl _), label, List.take_length, h.pending]
    rw [openPlaces_concat_opening rfl, List.map_append, map_label_concat _ (List.Subset.refl _), ← h.stack,
      List.map_singleton, hlabel]
    exact List.reverse_cons
  unmatched := by
    rw [lonePlaces_concat]
    exact h.unmatched.trans (by simp [Signal.isClosing])
  pending := by
    rw [announced?_concat]
    rfl

private theorem closing (h : Tracks s st) : Tracks (s ++ [.char '}']) (st.step '}') := by
  have hplaces := openPlaces_concat_closing (countsOpen s) (x := .char '}') rfl
  have hpending : st.pending = announced? (s ++ [.char '}']) := by
    rw [announced?_concat]
    exact h.pending
  have hstack := h.stack
  obtain ⟨stack, unmatched, pending⟩ := st
  cases stack with
  | nil =>
    -- nothing is open, so the brace is lone
    have hnil : openPlaces s = [] := by simpa using hstack.symm
    refine ⟨?_, ?_, hpending⟩
    · rw [hplaces, hnil]
      rfl
    · rw [lonePlaces_concat, hnil, List.length_append, ← h.unmatched]
      rfl
  | cons b outer =>
    have hne : openPlaces s ≠ [] := by
      rintro hnil
      simp [hnil] at hstack
    refine ⟨?_, ?_, hpending⟩
    · rw [hplaces, map_label_concat _ (List.dropLast_subset _), List.map_dropLast, ← hstack, List.reverse_cons,
        List.dropLast_concat]
      rfl
    · rw [lonePlaces_concat, List.isEmpty_eq_false_iff.2 hne, Bool.and_false]
      exact h.unmatched.trans (by simp)

/-- Reading one more signal. -/
theorem take (h : Tracks s st) (x : Signal ω) : Tracks (s ++ [x]) (Braces.take st x) := by
  cases x with
  | announce b =>
    refine h.idle rfl rfl ?_
    rw [announced?_concat]
    rfl
  | char c =>
    by_cases hopen : c = '{'
    · exact hopen ▸ h.opening
    by_cases hclose : c = '}'
    · exact hclose ▸ h.closing
    have hpending : (if c = ';' then none else st.pending) = announced? (s ++ [.char c]) := by
      rw [announced?_concat, h.pending]
      by_cases hsemi : c = ';' <;> simp [Signal.settles, Signal.block?, hopen, hsemi]
    have hstep : st.step c = { st with pending := if c = ';' then none else st.pending } := by
      by_cases hsemi : c = ';' <;> simp [BlockState.step, hopen, hclose, hsemi]
    rw [Braces.take, hstep]
    exact h.idle (by simpa [Signal.isOpening] using hopen) (by simpa [Signal.isClosing] using hclose) hpending

end Tracks

/-- What a fresh state holds after a stream. -/
private theorem tracks_foldl (s : List (Signal ω)) : Tracks s (s.foldl take {}) := by
  induction s using List.reverseRecOn with
  | nil => exact ⟨rfl, rfl, rfl⟩
  | append_singleton s x ih =>
    rw [List.foldl_append]
    exact ih.take x

private theorem run_eq_foldl (moves : List (Move ω)) : run moves = (stream moves).foldl take {} := by
  have hmove : ∀ (st : BlockState ω) (m : Move ω), m.signals.foldl take st = m.apply st := by
    intro st m
    cases m with
    | announce kind owner => rfl
    | feed code => exact List.foldl_map
  rw [run, stream, List.foldl_flatMap]
  simp only [hmove]

/-- A state after a stream, where `labels` are the labels of the open braces, outermost first. -/
structure Follows (s : List (Signal ω)) (st : BlockState ω) (labels : List (Block ω)) : Prop where
  labelled : List.Forall₂ (fun i b => Labelled (s.take i) b) (openPlaces s) labels
  stack : st.stack.reverse = labels
  unmatched : st.unmatched = (lonePlaces s).length
  problems : st.problems = [] ↔ Balanced s
  /-- What is asked of the state depends on the labels alone. -/
  enclosing : st.enclosing? = (labels.filter fun b => b.kind = .classBody || b.kind = .functionBody).getLast?
  nearestClass : st.nearestClass? = ((labels.filter fun b => b.kind = .classBody).getLast?).bind (·.owner)
  inClassBody : st.inClassBody = labels.getLast?.any fun b => b.kind = .classBody

private theorem find?_eq_getLast? (p : Block ω → Bool) (stack : List (Block ω)) :
    stack.find? p = (stack.reverse.filter p).getLast? := by
  rw [List.filter_reverse, List.getLast?_reverse, List.head?_filter]

private theorem problems_eq_nil_iff {st : BlockState ω} : st.problems = [] ↔ st.stack = [] ∧ st.unmatched = 0 := by
  unfold BlockState.problems
  cases st.stack <;> by_cases h : st.unmatched = 0 <;> simp [h]

private theorem Tracks.follows {st : BlockState ω} (h : Tracks s st) : Follows s st ((openPlaces s).map (label s)) where
  labelled := by
    rw [List.forall₂_map_right_iff, List.forall₂_same]
    exact fun i _ => labelled_label s i
  stack := h.stack
  unmatched := h.unmatched
  problems := by
    rw [problems_eq_nil_iff, balanced_iff_partners, h.unmatched, List.length_eq_zero_iff, ← List.reverse_eq_nil_iff,
      h.stack, List.map_eq_nil_iff]
  enclosing := by rw [← h.stack, ← find?_eq_getLast?, BlockState.enclosing?]
  nearestClass := by rw [← h.stack, ← find?_eq_getLast?, BlockState.nearestClass?]
  inClassBody := by rw [← h.stack, List.getLast?_reverse, BlockState.inClassBody, BlockState.innermost?]

/-- After any announcements and texts the state holds the open braces of the stream with the right labels, counts the
lone closing braces, and has no problems just when the braces are balanced; how the stream was cut into texts does not
matter. -/
theorem blocks_follow_braces (moves : List (Move ω)) :
    (∃ labels, Follows (stream moves) (run moves) labels) ∧
      ∀ moves', stream moves' = stream moves → run moves' = run moves := by
  constructor
  · rw [run_eq_foldl]
    exact ⟨_, (tracks_foldl (stream moves)).follows⟩
  · intro moves' hstream
    rw [run_eq_foldl, run_eq_foldl, hstream]

/-- A lone closing brace, a class whose brace comes in the next text, and an announcement that a semicolon drops. -/
def wholeTexts : List (Move String) :=
  [.feed ['}'], .announce .classBody (some "A"), .feed ['A', ' ', '{'], .announce .functionBody none, .feed [';', '{']]

/-- The same stream in shorter texts. -/
def cutTexts : List (Move String) :=
  [.feed ['}'], .feed [], .announce .classBody (some "A"), .feed ['A'], .feed [' ', '{'], .announce .functionBody none,
    .feed [';'], .feed ['{']]

theorem cutTexts_follow_braces :
    stream cutTexts = stream wholeTexts ∧ run cutTexts = run wholeTexts ∧
      Follows (stream wholeTexts) (run wholeTexts) [⟨.classBody, some "A"⟩, ⟨.plain, none⟩] := by
  have hstream : stream cutTexts = stream wholeTexts := rfl
  obtain ⟨⟨labels, hfollows⟩, hcut⟩ := blocks_follow_braces wholeTexts
  have hlabels : labels = [⟨.classBody, some "A"⟩, ⟨.plain, none⟩] := hfollows.stack.symm
  exact ⟨hstream, hcut cutTexts hstream, hlabels ▸ hfollows⟩

end CallIndex.Braces
