import CallIndex.Registry
import Mathlib.Data.List.Forall2
import Mathlib.Data.List.Nodup

/-!
# Readings of a registry

A registry is determined by its pairs, and a reading finds exactly the pair of its key.

* `Registry.get?_eq_some_iff` and `Registry.get?_eq_none_iff` say what a reading finds.
* `Registry.pairs_set_of_notMem`, `Registry.pairs_set_of_mem` and `Registry.get?_erase_of_ne` say what an update leaves.
* `Registry.get?_of_pairs` reads a registry whose pairs are listed by two functions.
* `Registry.perm_of_get?_eq`: registries with the same readings differ in the order of their pairs only.
* `Registry.Beside`: two registries that are updated at the same keys keep the same keys in the same order.
-/

namespace CallIndex.Registry

variable {α : Type}

theorem get?_eq_none_iff {r : Registry α} {key : String} : r.get? key = none ↔ key ∉ r.keys := by
  simp only [get?, keys, Option.map_eq_none_iff, List.find?_eq_none, decide_eq_true_eq, List.mem_map, not_exists,
    not_and]

/-- A reading of a registry whose pairs are listed. -/
theorem get?_of_pairs {β : Type} {r : Registry α} {l : List β} {f : β → String} {g : β → α}
    (h : r.pairs = l.map fun b => (f b, g b)) (key : String) :
    r.get? key = (l.find? fun b => f b = key).map g := by
  simp only [get?, h, List.find?_map, Option.map_map]
  rfl

/-- Distinct keys: a pair of the registry is what a reading of its key finds. -/
theorem get?_eq_some_iff {r : Registry α} {key : String} {value : α} :
    r.get? key = some value ↔ (key, value) ∈ r.pairs := by
  constructor
  · intro h
    obtain ⟨p, hp, rfl⟩ := Option.map_eq_some_iff.1 h
    have hk : p.1 = key := by simpa using List.find?_some hp
    subst hk
    exact List.mem_of_find?_eq_some hp
  · intro h
    have hnd := r.nodup_keys
    unfold get?
    generalize r.pairs = pairs at h hnd
    induction pairs with
    | nil => cases h
    | cons p ps ih =>
      rw [List.map_cons, List.nodup_cons] at hnd
      rcases List.mem_cons.1 h with rfl | h
      · simp
      · have hne : p.1 ≠ key := fun e => hnd.1 (e ▸ List.mem_map.2 ⟨_, h, rfl⟩)
        simpa [hne] using ih h hnd.2

theorem pairs_set_of_notMem {r : Registry α} {key : String} (h : key ∉ r.keys) (value : α) :
    (r.set key value).pairs = r.pairs ++ [(key, value)] := by
  have hc : ¬ r.contains key = true := fun hc => h ((contains_iff_mem_keys r key).1 hc)
  simp [set, hc]

theorem pairs_set_of_mem {r : Registry α} {key : String} (h : key ∈ r.keys) (value : α) :
    (r.set key value).pairs = r.pairs.map fun p => if p.1 = key then (key, value) else p := by
  have hc := (contains_iff_mem_keys r key).2 h
  simp [set, hc]

theorem get?_erase_of_ne {r : Registry α} {key other : String} (h : other ≠ key) :
    (r.erase key).get? other = r.get? other := by
  apply Option.ext
  intro value
  rw [get?_eq_some_iff, get?_eq_some_iff]
  simp only [erase, List.mem_filter, ne_eq, decide_not, Bool.not_eq_eq_eq_not, Bool.not_true, decide_eq_false_iff_not]
  exact ⟨fun hm => hm.1, fun hm => ⟨hm, h⟩⟩

theorem contains_eq_isSome (r : Registry α) (key : String) : r.contains key = (r.get? key).isSome := by
  rw [Bool.eq_iff_iff, contains_iff_mem_keys, Option.isSome_iff_ne_none, ne_eq, get?_eq_none_iff, not_not]

/-! ### Registries up to order -/

private theorem nodup_pairs (r : Registry α) : r.pairs.Nodup :=
  List.Nodup.of_map _ r.nodup_keys

/-- Registries with the same readings have the same pairs, in some order. -/
theorem perm_of_get?_eq {r r' : Registry α} (h : ∀ key, r.get? key = r'.get? key) : r.pairs.Perm r'.pairs := by
  rw [List.perm_ext_iff_of_nodup r.nodup_pairs r'.nodup_pairs]
  rintro ⟨key, value⟩
  rw [← get?_eq_some_iff, ← get?_eq_some_iff, h]

theorem perm_set (r : Registry α) (key : String) (value : α) :
    (r.set key value).pairs.Perm ((r.erase key).pairs ++ [(key, value)]) := by
  have hkey : key ∉ (r.erase key).keys := get?_eq_none_iff.1 (get?_erase_self r key)
  rw [← pairs_set_of_notMem hkey]
  apply perm_of_get?_eq
  intro other
  by_cases h : other = key
  · rw [h, get?_set_self, get?_set_self]
  · rw [get?_set_of_ne _ h, get?_set_of_ne _ h, get?_erase_of_ne h]

/-! ### Registries side by side -/

variable {β : Type} {R : α → β → Prop} {r : Registry α} {r' : Registry β}

/-- Two registries have the same keys in the same order, and related values. -/
def Beside (R : α → β → Prop) (r : Registry α) (r' : Registry β) : Prop :=
  List.Forall₂ (fun p q => p.1 = q.1 ∧ R p.2 q.2) r.pairs r'.pairs

theorem beside_empty : Beside R empty empty :=
  .nil

namespace Beside

theorem keys_eq (h : Beside R r r') : r'.keys = r.keys := by
  unfold Beside at h
  unfold keys
  generalize r.pairs = ps, r'.pairs = qs at h
  induction h with
  | nil => rfl
  | cons hpq _ ih => rw [List.map_cons, List.map_cons, ih, hpq.1]

theorem map_values {γ : Type} {f : α → γ} {g : β → γ} (h : Beside R r r') (hR : ∀ a b, R a b → f a = g b) :
    r.values.map f = r'.values.map g := by
  unfold Beside at h
  unfold values
  generalize r.pairs = ps, r'.pairs = qs at h
  induction h with
  | nil => rfl
  | cons hpq _ ih => simp only [List.map_cons, hR _ _ hpq.2, ih]

/-- Where the one registry has a value, the other one has a related value. -/
theorem get?_of_get? (h : Beside R r r') {key : String} {a : α} (ha : r.get? key = some a) :
    ∃ b, r'.get? key = some b ∧ R a b := by
  unfold Beside at h
  unfold get? at ha ⊢
  generalize r.pairs = ps, r'.pairs = qs at h ha
  induction h with
  | nil => cases ha
  | @cons p q _ _ hpq _ ih =>
    rw [List.find?_cons] at ha ⊢
    by_cases hk : p.1 = key
    · have hk' : q.1 = key := hpq.1 ▸ hk
      simp only [hk, decide_true, Option.map_some, Option.some.injEq] at ha
      subst ha
      exact ⟨q.2, by simp [hk'], hpq.2⟩
    · have hk' : q.1 ≠ key := hpq.1 ▸ hk
      simp only [hk, hk', decide_false] at ha ⊢
      exact ih ha

theorem get?_none (h : Beside R r r') {key : String} (hn : r.get? key = none) : r'.get? key = none := by
  rw [get?_eq_none_iff] at hn ⊢
  rwa [h.keys_eq]

/-- What stands beside registries with the same readings has the same readings, when it is determined by them. -/
theorem get?_eq {s : Registry α} {s' : Registry β} (h : Beside R r r') (hs : Beside R s s')
    (hR : ∀ a b b', R a b → R a b' → b = b') (hget : ∀ key, r.get? key = s.get? key) (key : String) :
    r'.get? key = s'.get? key := by
  cases ha : r.get? key with
  | none => rw [h.get?_none ha, hs.get?_none (hget key ▸ ha)]
  | some a =>
    obtain ⟨b, hb, hab⟩ := h.get?_of_get? ha
    obtain ⟨b', hb', hab'⟩ := hs.get?_of_get? (hget key ▸ ha)
    rw [hb, hb', hR a b b' hab hab']

theorem set (h : Beside R r r') (key : String) {a : α} {b : β} (hR : R a b) :
    Beside R (r.set key a) (r'.set key b) := by
  have hkeys := h.keys_eq
  unfold Beside at h ⊢
  by_cases hk : key ∈ r.keys
  · rw [pairs_set_of_mem hk, pairs_set_of_mem (hkeys ▸ hk), List.forall₂_map_left_iff, List.forall₂_map_right_iff]
    refine h.imp fun p q hpq => ?_
    by_cases hp : p.1 = key
    · simp [hp, hpq.1 ▸ hp, hR]
    · simp [hpq.1 ▸ hp, hpq]
  · rw [pairs_set_of_notMem hk, pairs_set_of_notMem (hkeys ▸ hk)]
    exact List.rel_append h (.cons ⟨rfl, hR⟩ .nil)

theorem erase (h : Beside R r r') (key : String) : Beside R (r.erase key) (r'.erase key) := by
  refine List.rel_filter (fun p q hpq => ?_) h
  simp [hpq.1]

end Beside

end CallIndex.Registry
