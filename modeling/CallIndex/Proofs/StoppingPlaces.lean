import CallIndex.Text.Scan
import Mathlib.Data.List.TakeWhile

/-!
# Where recognisers stop

A recogniser whose parts take no character `c` never looks behind the first `c` that it meets.  Two texts that agree up to
that character are then read alike (`Scan.StopsAt`): the values that do not show the rest of the text are the same.  The
relation is composed along the sequence of a recogniser's parts.

* `Scan.StopsAt.bind` and `Scan.StopsAt.orElse` compose.
* `Scan.StopsAt.firstOf_cases`: the values at the fronts of the two texts.
-/

namespace CallIndex.Text.Scan

/-- Two recognisers read two texts that agree up to the character `c` alike: both fail, or both stop at one place before
the character, with values that `R` relates. -/
def StopsAt (c : Char) {α β : Type} (R : α → β → Prop) (p : Scan α) (q : Scan β) : Prop :=
  ∀ s y z, p (s ++ c :: y) = none ∧ q (s ++ c :: z) = none ∨
    ∃ a b r, p (s ++ c :: y) = some (a, r ++ c :: y) ∧ q (s ++ c :: z) = some (b, r ++ c :: z) ∧ R a b

namespace StopsAt

variable {c : Char} {α β α' β' : Type} {R : α → β → Prop} {S : α' → β' → Prop} {p p₂ : Scan α} {q q₂ : Scan β}

theorem pure {a : α} {b : β} (h : R a b) : StopsAt c R (Pure.pure a) (Pure.pure b) :=
  fun s _ _ => .inr ⟨a, b, s, rfl, rfl, h⟩

theorem bind {f : α → Scan α'} {g : β → Scan β'} (hp : StopsAt c R p q) (hf : ∀ a b, R a b → StopsAt c S (f a) (g b)) :
    StopsAt c S (p >>= f) (q >>= g) := by
  intro s y z
  change (p _).bind (fun x => f x.1 x.2) = none ∧ (q _).bind (fun x => g x.1 x.2) = none ∨
    ∃ a b r, (p _).bind (fun x => f x.1 x.2) = some (a, _) ∧ (q _).bind (fun x => g x.1 x.2) = some (b, _) ∧ S a b
  rcases hp s y z with ⟨hnone, hnone'⟩ | ⟨a, b, r, ha, hb, hab⟩
  · exact .inl ⟨by rw [hnone]; rfl, by rw [hnone']; rfl⟩
  · rw [ha, hb]
    exact hf a b hab r y z

theorem orElse (hp : StopsAt c R p q) (hp₂ : StopsAt c R p₂ q₂) : StopsAt c R (p <|> p₂) (q <|> q₂) := by
  intro s y z
  have hleft : ∀ {γ : Type} (p p₂ : Scan γ) (t : List Char), (p <|> p₂) t = (p t).orElse fun _ => p₂ t :=
    fun _ _ _ => rfl
  rw [hleft, hleft]
  rcases hp s y z with ⟨hnone, hnone'⟩ | ⟨a, b, r, ha, hb, hab⟩
  · rw [hnone, hnone']
    exact hp₂ s y z
  · rw [ha, hb]
    exact .inr ⟨a, b, r, rfl, rfl, hab⟩

theorem maybe (hp : StopsAt c R p q) : StopsAt c (fun _ _ => True) (Scan.maybe p) (Scan.maybe q) :=
  orElse (bind hp fun _ _ _ => pure trivial) (pure trivial)

theorem present (hp : StopsAt c R p q) : StopsAt c (· = ·) (Scan.present p) (Scan.present q) :=
  orElse (bind hp fun _ _ _ => pure rfl) (pure rfl)

/-- Looking at what is still to be read takes nothing. -/
theorem rest : StopsAt c (fun _ _ => True) Scan.rest Scan.rest :=
  fun s _ _ => .inr ⟨_, _, s, rfl, rfl, trivial⟩

theorem one {P : Char → Bool} (hc : P c = false) : StopsAt c (· = ·) (Scan.one P) (Scan.one P) := by
  rintro (_ | ⟨d, s⟩) y z
  · exact .inl ⟨by simp [Scan.one, hc], by simp [Scan.one, hc]⟩
  · cases hd : P d with
    | true => exact .inr ⟨d, d, s, by simp [Scan.one, hd], by simp [Scan.one, hd], rfl⟩
    | false => exact .inl ⟨by simp [Scan.one, hd], by simp [Scan.one, hd]⟩

theorem char {d : Char} (hc : c ≠ d) : StopsAt c (· = ·) (Scan.char d) (Scan.char d) := by
  rintro (_ | ⟨e, s⟩) y z
  · exact .inl ⟨by simp [Scan.char, hc], by simp [Scan.char, hc]⟩
  · by_cases he : e = d
    · exact .inr ⟨(), (), s, by simp [Scan.char, he], by simp [Scan.char, he], rfl⟩
    · exact .inl ⟨by simp [Scan.char, he], by simp [Scan.char, he]⟩

theorem text {t : String} (hc : c ∉ t.toList) : StopsAt c (· = ·) (Scan.text t) (Scan.text t) := by
  unfold Scan.text
  generalize t.toList = front at hc
  intro s y z
  -- the front is read off character by character, and the stop is none of them
  induction front generalizing s with
  | nil => exact .inr ⟨(), (), s, rfl, rfl, rfl⟩
  | cons d front ih =>
    obtain ⟨hd, hfront⟩ := not_or.1 fun h => hc (List.mem_cons.2 h)
    cases s with
    | nil => exact .inl ⟨by simp [dropFront?, Ne.symm hd], by simp [dropFront?, Ne.symm hd]⟩
    | cons e s =>
      by_cases he : d = e
      · simpa [dropFront?, he] using ih hfront s
      · exact .inl ⟨by simp [dropFront?, he], by simp [dropFront?, he]⟩

private theorem takeWhile_append_stop {P : Char → Bool} (hc : P c = false) (s y : List Char) :
    (s ++ c :: y).takeWhile P = s.takeWhile P ∧ (s ++ c :: y).dropWhile P = s.dropWhile P ++ c :: y := by
  induction s with
  | nil => simp [hc]
  | cons d s ih => cases hd : P d <;> simp [hd, ih]

theorem run {P : Char → Bool} (hc : P c = false) : StopsAt c (· = ·) (Scan.run P) (Scan.run P) := by
  intro s y z
  obtain ⟨htake, hdrop⟩ := takeWhile_append_stop hc s y
  obtain ⟨htake', hdrop'⟩ := takeWhile_append_stop hc s z
  exact .inr ⟨_, _, s.dropWhile P, by rw [Scan.run, hdrop], by rw [Scan.run, hdrop'], by rw [htake, htake']⟩

theorem run1 {P : Char → Bool} (hc : P c = false) : StopsAt c (· = ·) (Scan.run1 P) (Scan.run1 P) := by
  intro s y z
  obtain ⟨htake, hdrop⟩ := takeWhile_append_stop hc s y
  obtain ⟨htake', hdrop'⟩ := takeWhile_append_stop hc s z
  simp only [Scan.run1, htake, hdrop, htake', hdrop']
  split
  · exact .inl ⟨rfl, rfl⟩
  · exact .inr ⟨_, _, s.dropWhile P, rfl, rfl, rfl⟩

theorem blanks (hc : isBlank c = false) : StopsAt c (· = ·) Scan.blanks Scan.blanks := by
  intro s y z
  refine .inr ⟨(), (), s.dropWhile isBlank, ?_, ?_, rfl⟩
  · rw [Scan.blanks, (takeWhile_append_stop hc s y).2]
  · rw [Scan.blanks, (takeWhile_append_stop hc s z).2]

theorem blanks1 (hc : isBlank c = false) : StopsAt c (· = ·) Scan.blanks1 Scan.blanks1 := by
  rintro (_ | ⟨d, s⟩) y z
  · exact .inl ⟨by simp [Scan.blanks1, hc], by simp [Scan.blanks1, hc]⟩
  · cases hd : isBlank d with
    | true =>
      refine .inr ⟨(), (), s.dropWhile isBlank, ?_, ?_, rfl⟩
      · simp [Scan.blanks1, hd, (takeWhile_append_stop hc s y).2]
      · simp [Scan.blanks1, hd, (takeWhile_append_stop hc s z).2]
    | false => exact .inl ⟨by simp [Scan.blanks1, hd], by simp [Scan.blanks1, hd]⟩

/-- What is found at the front of a text does not change behind the character, up to `R`. -/
theorem firstOf_cases (hp : StopsAt c R p q) (s y z : List Char) :
    firstOf p (s ++ c :: y) = none ∧ firstOf q (s ++ c :: z) = none ∨
      ∃ a b, firstOf p (s ++ c :: y) = some a ∧ firstOf q (s ++ c :: z) = some b ∧ R a b := by
  unfold firstOf
  rcases hp s y z with ⟨hnone, hnone'⟩ | ⟨a, b, r, ha, hb, hab⟩
  · exact .inl ⟨by rw [hnone]; rfl, by rw [hnone']; rfl⟩
  · exact .inr ⟨a, b, by rw [ha]; rfl, by rw [hb]; rfl, hab⟩

end StopsAt

end CallIndex.Text.Scan
