/-!
# Registries

A registry holds values under string keys in the order in which the keys were first entered. Setting a key that is
there keeps its place; a key that was erased and is set again goes to the end. No key occurs twice.

* `Registry.get?_set_self` and `Registry.get?_set_of_ne` say what a later reading finds.
* `Registry.keys_set_of_mem` and `Registry.keys_set_of_notMem` say what happens to the order.
-/

namespace CallIndex

/-- Values under distinct string keys, in order of entry. -/
structure Registry (α : Type) where
  pairs : List (String × α)
  nodup_keys : (pairs.map Prod.fst).Nodup

namespace Registry

variable {α : Type}

/-- The registry without entries. -/
def empty : Registry α := ⟨[], List.nodup_nil⟩

instance : Inhabited (Registry α) := ⟨empty⟩

/-- The keys in order. -/
def keys (r : Registry α) : List String :=
  r.pairs.map Prod.fst

/-- The values in order. -/
def values (r : Registry α) : List α :=
  r.pairs.map Prod.snd

/-- The value under a key. -/
def get? (r : Registry α) (key : String) : Option α :=
  (r.pairs.find? fun p => p.1 = key).map Prod.snd

/-- Is there a value under the key? -/
def contains (r : Registry α) (key : String) : Bool :=
  r.pairs.any fun p => p.1 = key

/-- The number of entries. -/
def size (r : Registry α) : Nat :=
  r.pairs.length

theorem contains_iff_mem_keys (r : Registry α) (key : String) : r.contains key = true ↔ key ∈ r.keys := by
  simp only [contains, keys, List.any_eq_true, List.mem_map, decide_eq_true_eq]

private theorem map_fst_replace (pairs : List (String × α)) (key : String) (value : α) :
    (pairs.map fun p => if p.1 = key then (key, value) else p).map Prod.fst = pairs.map Prod.fst := by
  induction pairs with
  | nil => rfl
  | cons p ps ih =>
    simp only [List.map_cons, ih]
    by_cases h : p.1 = key <;> simp [h]

/-- Puts a value under a key: in place of the old value, or at the end. -/
def set (r : Registry α) (key : String) (value : α) : Registry α :=
  if h : r.contains key then
    { pairs := r.pairs.map fun p => if p.1 = key then (key, value) else p
      nodup_keys := by rw [map_fst_replace]; exact r.nodup_keys }
  else
    { pairs := r.pairs ++ [(key, value)]
      nodup_keys := by
        have hn : key ∉ r.pairs.map Prod.fst := fun hm => h ((contains_iff_mem_keys r key).2 hm)
        rw [List.map_append, List.nodup_append]
        refine ⟨r.nodup_keys, by simp, ?_⟩
        intro a ha b hb
        simp only [List.map_cons, List.map_nil, List.mem_singleton] at hb
        subst hb
        exact fun hab => hn (hab ▸ ha) }

/-- Removes a key and its value. -/
def erase (r : Registry α) (key : String) : Registry α :=
  { pairs := r.pairs.filter fun p => p.1 ≠ key
    nodup_keys := List.Nodup.sublist (List.Sublist.map Prod.fst List.filter_sublist) r.nodup_keys }

theorem keys_set_of_mem (r : Registry α) {key : String} (h : key ∈ r.keys) (value : α) :
    (r.set key value).keys = r.keys := by
  have hc := (contains_iff_mem_keys r key).2 h
  simp only [set, hc, ↓reduceDIte, keys]
  exact map_fst_replace _ _ _

theorem keys_set_of_notMem (r : Registry α) {key : String} (h : key ∉ r.keys) (value : α) :
    (r.set key value).keys = r.keys ++ [key] := by
  have hc : ¬ r.contains key = true := fun hc => h ((contains_iff_mem_keys r key).1 hc)
  simp [set, hc, keys]

theorem keys_erase (r : Registry α) (key : String) : (r.erase key).keys = r.keys.filter (· ≠ key) := by
  simp [erase, keys, List.filter_map, Function.comp_def]

theorem get?_set_self (r : Registry α) (key : String) (value : α) : (r.set key value).get? key = some value := by
  by_cases h : r.contains key
  · simp only [set, h, ↓reduceDIte, get?]
    obtain ⟨p, hp, hk⟩ := List.any_eq_true.1 h
    simp only [decide_eq_true_eq] at hk
    have : ∀ l : List (String × α), p ∈ l →
        ((l.map fun q => if q.1 = key then (key, value) else q).find? fun q => q.1 = key).map Prod.snd = some value := by
      intro l hl
      induction l with
      | nil => cases hl
      | cons q l ih =>
        by_cases hq : q.1 = key
        · simp [hq]
        · have hne : p ≠ q := fun e => hq (e ▸ hk)
          have hl' : p ∈ l := (List.mem_cons.1 hl).resolve_left hne
          simpa [hq] using ih hl'
    exact this _ hp
  · have hn : ∀ q ∈ r.pairs, ¬ q.1 = key := by
      intro q hq e
      exact h (List.any_eq_true.2 ⟨q, hq, by simpa using e⟩)
    have hf : r.pairs.find? (fun q => decide (q.1 = key)) = none := by
      rw [List.find?_eq_none]
      intro q hq
      simpa using hn q hq
    simp [set, h, get?, List.find?_append, hf]

theorem get?_set_of_ne (r : Registry α) {key other : String} (h : other ≠ key) (value : α) :
    (r.set key value).get? other = r.get? other := by
  by_cases hc : r.contains key
  · simp only [set, hc, ↓reduceDIte, get?]
    congr 1
    induction r.pairs with
    | nil => rfl
    | cons q l ih =>
      by_cases hq : q.1 = key
      · have h1 : ¬ key = other := fun e => h e.symm
        have h2 : ¬ q.1 = other := fun e => h1 (hq ▸ e)
        simp [hq, h1, ih]
      · simp only [List.map_cons, hq, ↓reduceIte, List.find?_cons, ih]
  · have h1 : ¬ key = other := fun e => h e.symm
    simp [set, hc, get?, List.find?_append, h1]

theorem get?_erase_self (r : Registry α) (key : String) : (r.erase key).get? key = none := by
  simp [erase, get?, List.find?_eq_none]

end Registry

end CallIndex
