import Mathlib.Data.List.Basic

/-!
# Outcomes

An operation that can fail gives a value or an error.

* `bind_eq_ok` takes a successful sequence of two operations apart, and `exists_bind_ok` puts one together.
* `SameUpToOrder`: two operations fail with the same error, or list the same elements.
-/

namespace CallIndex

variable {ε α β : Type}

theorem bind_eq_ok {m : Except ε α} {f : α → Except ε β} {b : β} (h : (m >>= f) = .ok b) :
    ∃ a, m = .ok a ∧ f a = .ok b := by
  cases m with
  | error e => cases h
  | ok a => exact ⟨a, rfl, h⟩

theorem exists_bind_ok {m : Except ε α} {f : α → Except ε β} (hm : ∃ a, m = .ok a)
    (hf : ∀ a, ∃ b, f a = .ok b) : ∃ b, (m >>= f) = .ok b := by
  obtain ⟨a, rfl⟩ := hm
  exact hf a

theorem map_eq_ok {m : Except ε α} {f : α → β} {b : β} (h : m.map f = .ok b) : ∃ a, m = .ok a ∧ f a = b := by
  cases m with
  | error e => cases h
  | ok a =>
    cases h
    exact ⟨a, rfl, rfl⟩

theorem mapError_eq_ok {ε' : Type} {m : Except ε α} {f : ε → ε'} {a : α} (h : m.mapError f = .ok a) : m = .ok a := by
  cases m with
  | error e => cases h
  | ok a' =>
    cases h
    rfl

theorem length_of_mapM_eq_ok {f : α → Except ε β} {l : List α} {found : List β} (h : l.mapM f = .ok found) :
    found.length = l.length := by
  induction l generalizing found with
  | nil =>
    cases h
    rfl
  | cons a l ih =>
    rw [List.mapM_cons] at h
    obtain ⟨b, -, h⟩ := bind_eq_ok h
    obtain ⟨rest, hrest, h⟩ := bind_eq_ok h
    cases h
    rw [List.length_cons, List.length_cons, ih hrest]

theorem exists_of_mem_mapM {f : α → Except ε β} {l : List α} {found : List β} (h : l.mapM f = .ok found) {a : α}
    (ha : a ∈ l) : ∃ b ∈ found, f a = .ok b := by
  induction l generalizing found with
  | nil => cases ha
  | cons a' l ih =>
    rw [List.mapM_cons] at h
    obtain ⟨b, hb, h⟩ := bind_eq_ok h
    obtain ⟨rest, hrest, h⟩ := bind_eq_ok h
    cases h
    rcases List.mem_cons.1 ha with rfl | ha
    · exact ⟨b, List.mem_cons_self, hb⟩
    · obtain ⟨b', hb', hf⟩ := ih hrest ha
      exact ⟨b', List.mem_cons_of_mem _ hb', hf⟩

/-! ### Lists up to order -/

/-- Two operations fail with the same error, or give the same list in some order. -/
inductive SameUpToOrder : Except ε (List α) → Except ε (List α) → Prop
  | ok {l l' : List α} (h : l.Perm l') : SameUpToOrder (.ok l) (.ok l')
  | error (e : ε) : SameUpToOrder (.error e) (.error e)

namespace SameUpToOrder

variable {x y z : Except ε (List α)}

theorem refl (x : Except ε (List α)) : SameUpToOrder x x := by
  cases x with
  | error e => exact .error e
  | ok l => exact .ok (.refl l)

theorem trans (h : SameUpToOrder x y) (h' : SameUpToOrder y z) : SameUpToOrder x z := by
  cases h with
  | error e => exact h'
  | ok hl =>
    cases h' with
    | ok hl' => exact .ok (hl.trans hl')

theorem bind {f g : List α → Except ε (List β)} (h : SameUpToOrder x y)
    (hf : ∀ l l', l.Perm l' → SameUpToOrder (f l) (g l')) : SameUpToOrder (x >>= f) (y >>= g) := by
  cases h with
  | error e => exact .error e
  | ok hl => exact hf _ _ hl

theorem mapError {ε' : Type} (h : SameUpToOrder x y) (f : ε → ε') :
    SameUpToOrder (x.mapError f) (y.mapError f) := by
  cases h with
  | error e => exact .error (f e)
  | ok hl => exact .ok hl

end SameUpToOrder

end CallIndex
