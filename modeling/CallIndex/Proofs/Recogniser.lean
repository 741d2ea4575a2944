import CallIndex.Text.Scan
import Mathlib.Data.List.TakeWhile

/-!
# What recognisers give

Two things are said of a recogniser: which values it gives, whatever it reads (`Scan.Yields`), and that it takes a text
from the front that is not empty (`Scan.Advances`).  The first is composed along the sequence of a recogniser's parts;
the second tells where in a text its hits lie.

* `Scan.Yields.bind` and `Scan.Yields.bind_right`: the values of two parts in a row.
* `Scan.exists_of_mem_hits`: a hit lies where the recogniser has read, and stops where it has stopped.
* `Scan.mem_hits_of_read`: where nothing is read from inside a hit, every value is found that can be read anywhere.
-/

namespace CallIndex.Text.Scan

variable {α β : Type} {p : Scan α} {Q : α → Prop} {R : β → Prop}

/-! ### Values -/

/-- Every value that `p` gives satisfies `Q`. -/
def Yields (p : Scan α) (Q : α → Prop) : Prop :=
  ∀ s a r, p s = some (a, r) → Q a

theorem bind_eq_some {f : α → Scan β} {s r : List Char} {b : β} (h : (p >>= f) s = some (b, r)) :
    ∃ a t, p s = some (a, t) ∧ f a t = some (b, r) := by
  obtain ⟨⟨a, t⟩, hp, hf⟩ := Option.bind_eq_some_iff.1 h
  exact ⟨a, t, hp, hf⟩

theorem bind_of_eq_some {f : α → Scan β} {s r : List Char} {a : α} (h : p s = some (a, r)) : (p >>= f) s = f a r := by
  change (p s).bind (fun x => f x.1 x.2) = f a r
  rw [h]
  rfl

namespace Yields

theorem pure {a : α} (h : Q a) : Yields (Pure.pure a) Q := by
  intro s b r hs
  cases hs
  exact h

/-- What the first part gives may be used in the second. -/
theorem bind {f : α → Scan β} (hp : Yields p Q) (hf : ∀ a, Q a → Yields (f a) R) : Yields (p >>= f) R := by
  intro s b r hs
  obtain ⟨a, t, ha, hb⟩ := bind_eq_some hs
  exact hf a (hp s a t ha) t b r hb

/-- The value is that of the second part, whatever the first part gives. -/
theorem bind_right {f : α → Scan β} (hf : ∀ a, Yields (f a) R) : Yields (p >>= f) R := by
  intro s b r hs
  obtain ⟨a, t, -, hb⟩ := bind_eq_some hs
  exact hf a t b r hb

theorem of_firstOf (hp : Yields p Q) {s : List Char} {a : α} (h : firstOf p s = some a) : Q a := by
  obtain ⟨⟨b, r⟩, hb, rfl⟩ := Option.map_eq_some_iff.1 h
  exact hp s b r hb

theorem one (P : Char → Bool) : Yields (Scan.one P) fun c => P c := by
  intro s c r hs
  cases s with
  | nil => cases hs
  | cons d s =>
    simp only [Scan.one] at hs
    split at hs
    · cases hs
      assumption
    · cases hs

theorem run (P : Char → Bool) : Yields (Scan.run P) fun w => ∀ c ∈ w, P c := by
  intro s w r hs
  cases hs
  exact fun c hc => List.mem_takeWhile_imp hc

theorem run1 (P : Char → Bool) : Yields (Scan.run1 P) fun w => w ≠ [] ∧ ∀ c ∈ w, P c := by
  intro s w r hs
  simp only [Scan.run1] at hs
  split at hs
  · cases hs
  · rename_i hne
    cases hs
    exact ⟨fun h => hne (List.isEmpty_iff.2 h), fun c hc => List.mem_takeWhile_imp hc⟩

end Yields

/-! ### Places -/

/-- What `p` reads is a text from the front that is not empty, whatever stands before it. -/
def Advances (p : List Char → Scan α) : Prop :=
  ∀ before s a r, p before s = some (a, r) → ∃ u, u ≠ [] ∧ s = u ++ r

private theorem exists_of_mem_hitsFrom {p : List Char → Scan α} (hp : Advances p) {col : Nat} {before s : List Char}
    {hit : Hit α} (h : hit ∈ hitsFrom p col before s) :
    ∃ left u r, s = left ++ (u ++ r) ∧ u ≠ [] ∧ hit.start = col + left.length ∧
      hit.stop = col + left.length + u.length ∧ p (left.reverse ++ before) (u ++ r) = some (hit.value, r) := by
  induction col, before, s using hitsFrom.induct p with
  | case1 => simp [hitsFrom] at h
  | case2 col before c tail hnone ih =>
    rw [hitsFrom, hnone] at h
    obtain ⟨left, u, r, rfl, hu, hstart, hstop, hvalue⟩ := ih h
    refine ⟨c :: left, u, r, rfl, hu, ?_, ?_, ?_⟩
    · rw [hstart, List.length_cons]
      omega
    · rw [hstop, List.length_cons]
      omega
    · simpa using hvalue
  | case3 col before c tail value r hread used hlt ih =>
    obtain ⟨u, hu, hs⟩ := hp before _ value r hread
    have hused : used = u.length := by
      have := congrArg List.length hs
      simp only [List.length_append] at this
      omega
    rw [hitsFrom, hread] at h
    simp only [hlt, ↓reduceIte, List.mem_cons] at h
    rcases h with rfl | h
    · refine ⟨[], u, r, hs, hu, rfl, ?_, by simpa [hs] using hread⟩
      change col + used = _
      rw [hused]
      rfl
    · -- the next hit lies behind what has been read here
      obtain ⟨left, u', r', hr, hu', hstart, hstop, hvalue⟩ := ih h
      have htake : (c :: tail).take used = u := by rw [hused, hs, List.take_left]
      refine ⟨u ++ left, u', r', ?_, hu', ?_, ?_, ?_⟩
      · rw [hs, hr, List.append_assoc]
      · rw [hstart, hused, List.length_append]
        omega
      · rw [hstop, hused, List.length_append]
        omega
      · rw [htake] at hvalue
        simpa using hvalue
  | case4 col before c tail value r hread hlt ih =>
    obtain ⟨u, hu, hs⟩ := hp before _ value r hread
    have hpos : 0 < u.length := List.length_pos_iff.2 hu
    have := congrArg List.length hs
    simp only [List.length_append, List.length_cons] at this
    omega

/-- A hit lies where the recogniser has read, and stops where it has stopped. -/
theorem exists_of_mem_hits {p : List Char → Scan α} (hp : Advances p) {s : List Char} {hit : Hit α}
    (h : hit ∈ hits p s) :
    ∃ left u r, s = left ++ (u ++ r) ∧ u ≠ [] ∧ hit.start = left.length ∧ hit.stop = left.length + u.length ∧
      p left.reverse (u ++ r) = some (hit.value, r) := by
  obtain ⟨left, u, r, hs, hu, hstart, hstop, hvalue⟩ := exists_of_mem_hitsFrom hp h
  exact ⟨left, u, r, hs, hu, by omega, by omega, by simpa using hvalue⟩

/-- Hits are listed from left to right. -/
private theorem pairwise_hitsFrom {p : List Char → Scan α} (hp : Advances p) (col : Nat) (before s : List Char) :
    (hitsFrom p col before s).Pairwise fun a b => a.start < b.start := by
  induction col, before, s using hitsFrom.induct p with
  | case1 => simp [hitsFrom]
  | case2 col before c tail hnone ih =>
    rw [hitsFrom, hnone]
    exact ih
  | case3 col before c tail value r hread used hlt ih =>
    rw [hitsFrom, hread]
    simp only [hlt, ↓reduceIte, List.pairwise_cons]
    refine ⟨fun hit hhit => ?_, ih⟩
    obtain ⟨left, -, -, -, -, hstart, -⟩ := exists_of_mem_hitsFrom hp hhit
    simp only [List.length_cons] at hstart
    omega
  | case4 col before c tail value r hread hlt ih =>
    obtain ⟨u, hu, hs⟩ := hp before _ value r hread
    have := congrArg List.length hs
    have hpos : 0 < u.length := List.length_pos_iff.2 hu
    simp only [List.length_append, List.length_cons] at this
    omega

theorem pairwise_hits {p : List Char → Scan α} (hp : Advances p) (s : List Char) :
    (hits p s).Pairwise fun a b => a.start < b.start :=
  pairwise_hitsFrom hp 0 [] s

/-- Nothing is read from a place inside of what `p` has read. -/
def Apart (p : List Char → Scan α) : Prop :=
  ∀ before u v a r, p before (u ++ v) = some (a, r) → u ≠ [] → r.length < v.length → p (u.reverse ++ before) v = none

private theorem hitsFrom_cons_of_none {p : List Char → Scan α} {col : Nat} {before : List Char} {c : Char}
    {tail : List Char} (h : p before (c :: tail) = none) :
    hitsFrom p col before (c :: tail) = hitsFrom p (col + 1) (c :: before) tail := by
  rw [hitsFrom, h]

private theorem hitsFrom_append_of_read {p : List Char → Scan α} {col : Nat} {before u r : List Char} {a : α}
    (hu : u ≠ []) (h : p before (u ++ r) = some (a, r)) :
    hitsFrom p col before (u ++ r) =
      ⟨col, col + u.length, a⟩ :: hitsFrom p (col + u.length) (u.reverse ++ before) r := by
  cases u with
  | nil => contradiction
  | cons c u =>
    have hlength : (c :: (u ++ r)).length - r.length = (c :: u).length := by
      simp only [List.length_cons, List.length_append]
      omega
    have htake : (c :: (u ++ r)).take (c :: u).length = c :: u := List.take_left
    rw [List.cons_append] at h ⊢
    rw [hitsFrom, h]
    simp only [hlength, htake, List.length_append, Nat.le_add_left, ↓reduceIte]

private theorem mem_hitsFrom_of_read {p : List Char → Scan α} (hp : Advances p) (hapart : Apart p) (col : Nat)
    (before left : List Char) {s r : List Char} {a : α} (h : p (left.reverse ++ before) s = some (a, r)) :
    ⟨col + left.length, col + left.length + (s.length - r.length), a⟩ ∈ hitsFrom p col before (left ++ s) := by
  -- on the text to the left of the place: it is passed over character by character, or hit by hit
  induction hn : left.length using Nat.strong_induction_on generalizing left col before with
  | _ n ih =>
    cases left with
    | nil =>
      rw [List.reverse_nil, List.nil_append] at h
      obtain ⟨u, hu, rfl⟩ := hp _ _ _ _ h
      rw [List.nil_append, hitsFrom_append_of_read hu h, ← hn]
      have hlength : (u ++ r).length - r.length = u.length := by simp
      rw [hlength]
      exact List.mem_cons_self ..
    | cons c left =>
      cases hread : p before (c :: left ++ s) with
      | none =>
        rw [List.cons_append] at hread
        rw [List.cons_append, hitsFrom_cons_of_none hread, ← hn, List.length_cons, Nat.add_comm left.length 1,
          ← Nat.add_assoc]
        exact ih left.length (by simp [← hn]) (col + 1) (c :: before) left (by simpa using h) rfl
      | some x =>
        obtain ⟨b, r'⟩ := x
        obtain ⟨u, hu, ht⟩ := hp _ _ _ _ hread
        have hpos : 0 < u.length := List.length_pos_iff.2 hu
        rw [ht] at hread ⊢
        rw [hitsFrom_append_of_read hu hread]
        apply List.mem_cons_of_mem
        rcases List.append_eq_append_iff.1 ht with ⟨mid, rfl, rfl⟩ | ⟨mid, hleft, rfl⟩
        · cases mid with
          | nil =>
            rw [List.append_nil] at hread ⊢
            rw [← hn]
            exact ih 0 (by simp [← hn]) (col + (c :: left).length) _ [] (by simpa using h) rfl
          | cons d mid =>
            -- the place would lie inside of what has been read
            rw [List.append_assoc] at hread
            have hnone := hapart _ _ _ _ _ hread (by simp) (by simp only [List.length_append, List.length_cons]; omega)
            rw [h] at hnone
            cases hnone
        · rw [hleft, List.length_append] at hn
          rw [hleft] at h
          rw [← hn, ← Nat.add_assoc]
          exact ih mid.length (by omega) (col + u.length) (u.reverse ++ before) mid (by simpa using h) rfl

/-- Where nothing is read from inside a hit, every value is found that can be read anywhere. -/
theorem mem_hits_of_read {p : List Char → Scan α} (hp : Advances p) (hapart : Apart p) {left s : List Char} {a : α}
    {r : List Char} (h : p left.reverse s = some (a, r)) :
    ⟨left.length, left.length + (s.length - r.length), a⟩ ∈ hits p (left ++ s) := by
  have := mem_hitsFrom_of_read hp hapart 0 [] left (by simpa using h)
  simpa [hits] using this

end CallIndex.Text.Scan
