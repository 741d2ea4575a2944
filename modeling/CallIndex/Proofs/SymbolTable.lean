import CallIndex.Proofs.Outcome
import CallIndex.Proofs.Registry
import CallIndex.Symbol.Table
import Mathlib.Data.List.Nodup

/-!
# What a symbol table holds

A table holds a list of entries when its entries stand under their keys in the order of the list, and the keys of each
qualified name are listed in that order (`SymbolTable.Holds`).  Then a listed key is never dangling, and the lookup of
a qualified name finds what a scan of all entries finds.

Taking entries out and entering entries act on the list that is held:

* `SymbolTable.Holds.forgetAll` removes the entries of some keys;
* `SymbolTable.Holds.enterAll` appends the entries of a file, where repeated keys are collapsed (`settle`).
-/

namespace CallIndex

/-! ### Collapsing repeated keys -/

/-- Entries with one key collapsed: the last of them, in the place of the first. -/
def settle (es : List SymbolEntry) : List SymbolEntry :=
  (es.map SymbolEntry.key).eraseDups.filterMap fun k => es.findRev? fun e => e.key = k

private theorem findRev?_append_singleton (es : List SymbolEntry) (e : SymbolEntry) (k : String) :
    ((es ++ [e]).findRev? fun x => x.key = k) = if e.key = k then some e else es.findRev? fun x => x.key = k := by
  by_cases h : e.key = k <;> simp [h]

private theorem findRev?_isSome {es : List SymbolEntry} {k : String} (h : k ∈ es.map SymbolEntry.key) :
    ∃ e, (es.findRev? fun x => x.key = k) = some e ∧ e.key = k := by
  obtain ⟨x, hx, hk⟩ := List.mem_map.1 h
  cases hf : es.findRev? fun x => x.key = k with
  | none =>
    rw [List.findRev?_eq_find?_reverse, List.find?_eq_none] at hf
    exact absurd hk (by simpa using hf x (List.mem_reverse.2 hx))
  | some e =>
    rw [List.findRev?_eq_find?_reverse] at hf
    exact ⟨e, rfl, by simpa using List.find?_some hf⟩

theorem mem_settle {es : List SymbolEntry} {e : SymbolEntry} :
    e ∈ settle es ↔ (es.findRev? fun x => x.key = e.key) = some e := by
  unfold settle
  rw [List.mem_filterMap]
  constructor
  · rintro ⟨k, -, hk⟩
    have he : e.key = k := by
      rw [List.findRev?_eq_find?_reverse] at hk
      simpa using List.find?_some hk
    rw [he, hk]
  · intro h
    have hm : e ∈ es := by
      rw [List.findRev?_eq_find?_reverse] at h
      exact List.mem_reverse.1 (List.mem_of_find?_eq_some h)
    exact ⟨e.key, List.mem_eraseDups.2 (List.mem_map.2 ⟨e, hm, rfl⟩), h⟩

theorem mem_of_mem_settle {es : List SymbolEntry} {e : SymbolEntry} (h : e ∈ settle es) : e ∈ es := by
  rw [mem_settle, List.findRev?_eq_find?_reverse] at h
  exact List.mem_reverse.1 (List.mem_of_find?_eq_some h)

theorem map_key_settle (es : List SymbolEntry) :
    (settle es).map SymbolEntry.key = (es.map SymbolEntry.key).eraseDups := by
  unfold settle
  rw [List.map_filterMap]
  have hsome : ∀ k ∈ (es.map SymbolEntry.key).eraseDups,
      ((es.findRev? fun e => e.key = k).map SymbolEntry.key) = some k := by
    intro k hk
    obtain ⟨e, he, hek⟩ := findRev?_isSome (List.mem_eraseDups.1 hk)
    rw [he, Option.map_some, hek]
  rw [List.filterMap_congr hsome, List.filterMap_some]

private theorem eraseDups_append_singleton (ks : List String) (k : String) :
    (ks ++ [k]).eraseDups = if k ∈ ks then ks.eraseDups else ks.eraseDups ++ [k] := by
  rw [List.eraseDups_append]
  by_cases h : k ∈ ks
  · simp [List.removeAll, h]
  · simp [List.removeAll, h, List.eraseDups_cons]

/-- One more entry replaces the one with its key, or comes last. -/
private theorem settle_append_singleton (es : List SymbolEntry) (e : SymbolEntry) :
    settle (es ++ [e]) =
      if e.key ∈ es.map SymbolEntry.key then (settle es).map fun x => if x.key = e.key then e else x
      else settle es ++ [e] := by
  have hkeys : (es ++ [e]).map SymbolEntry.key = es.map SymbolEntry.key ++ [e.key] := by simp
  have hold : ∀ k ∈ (es.map SymbolEntry.key).eraseDups,
      ((es ++ [e]).findRev? fun x => x.key = k) =
        (es.findRev? fun x => x.key = k).map fun x => if x.key = e.key then e else x := by
    intro k hk
    obtain ⟨x, hx, hxk⟩ := findRev?_isSome (List.mem_eraseDups.1 hk)
    rw [findRev?_append_singleton, hx, Option.map_some, hxk]
    by_cases hek : e.key = k
    · rw [if_pos hek, if_pos hek.symm]
    · rw [if_neg hek, if_neg (Ne.symm hek)]
  -- the keys met before keep their places, and only the one of `e` finds something else
  have hfront : ((es.map SymbolEntry.key).eraseDups.filterMap fun k => (es ++ [e]).findRev? fun x => x.key = k) =
      (settle es).map fun x => if x.key = e.key then e else x := by
    rw [List.filterMap_congr hold, ← List.map_filterMap]
    rfl
  rw [settle, hkeys, eraseDups_append_singleton]
  split
  · exact hfront
  · rename_i hmem
    have hsame : (settle es).map (fun x => if x.key = e.key then e else x) = settle es := by
      rw [List.map_congr_left (g := id), List.map_id]
      intro x hx
      have hne : x.key ≠ e.key := fun hk => hmem (hk ▸ List.mem_map.2 ⟨x, mem_of_mem_settle hx, rfl⟩)
      rw [if_neg hne, id]
    rw [List.filterMap_append, hfront, hsame]
    simp

/-! ### The entries that a table holds -/

namespace SymbolTable

/-- The entries of a list that a trimmed query names. -/
def scan (L : List SymbolEntry) (query : String) : List SymbolEntry :=
  if query = "" then []
  else match L.find? fun e => e.key = query with
    | some e => [e]
    | none =>
      match Text.cutAtLast? "::".toList query.toList with
      | some (className, []) =>
        L.filter fun e => (e.kind = .classKind && e.name = String.ofList className) ||
          e.className? = some (String.ofList className)
      | some _ => L.filter fun e => e.qualifiedName = query
      | none => L.filter fun e => e.name = query

/-- The table holds the entries `L` in this order, and lists the keys of each qualified name in this order. -/
structure Holds (t : SymbolTable) (L : List SymbolEntry) : Prop where
  pairs_eq : t.entries.pairs = L.map fun e => (e.key, e)
  bucket_eq : ∀ q, (t.byName.get? q).getD [] = (L.filter fun e => e.qualifiedName = q).map SymbolEntry.key
  bucket_ne : ∀ q, t.byName.get? q ≠ some []

theorem holds_nil : Holds {} [] :=
  ⟨rfl, fun _ => rfl, fun _ => by simp [Registry.get?, Registry.empty]⟩

namespace Holds

variable {t : SymbolTable} {L : List SymbolEntry}

theorem keys_eq (h : Holds t L) : t.entries.keys = L.map SymbolEntry.key := by
  simp [Registry.keys, h.pairs_eq, Function.comp_def]

theorem values_eq (h : Holds t L) : t.entries.values = L := by
  simp [Registry.values, h.pairs_eq, Function.comp_def]

theorem nodup (h : Holds t L) : (L.map SymbolEntry.key).Nodup :=
  h.keys_eq ▸ t.entries.nodup_keys

theorem eq_of_key (h : Holds t L) {e e' : SymbolEntry} (he : e ∈ L) (he' : e' ∈ L) (hk : e.key = e'.key) : e = e' :=
  List.inj_on_of_nodup_map h.nodup he he' hk

theorem get?_of_mem (h : Holds t L) {e : SymbolEntry} (he : e ∈ L) : t.entries.get? e.key = some e := by
  rw [Registry.get?_eq_some_iff, h.pairs_eq]
  exact List.mem_map.2 ⟨e, he, rfl⟩

private theorem fetch_of_mem (h : Holds t L) {e : SymbolEntry} (he : e ∈ L) : t.fetch e.key = .ok e := by
  rw [fetch, h.get?_of_mem he]

/-- The keys of held entries lead to these entries. -/
theorem mapM_fetch (h : Holds t L) {M : List SymbolEntry} (hM : ∀ e ∈ M, e ∈ L) :
    (M.map SymbolEntry.key).mapM t.fetch = .ok M := by
  induction M with
  | nil => rfl
  | cons e M ih =>
    rw [List.map_cons, List.mapM_cons, h.fetch_of_mem (hM e (by simp)), ih fun x hx => hM x (by simp [hx])]
    rfl

/-- The lookup of a qualified name is a scan of the entries. -/
theorem withQualifiedName_eq (h : Holds t L) (q : String) :
    t.withQualifiedName q = .ok (L.filter fun e => e.qualifiedName = q) := by
  rw [withQualifiedName, h.bucket_eq]
  exact h.mapM_fetch fun e he => (List.mem_filter.1 he).1

/-- A listed bucket is not empty, has no key twice, and its keys are those of entries. -/
theorem bucket_spec (h : Holds t L) {q : String} {ks : List String} (hq : t.byName.get? q = some ks) :
    ks ≠ [] ∧ ks.Nodup ∧ ∀ k ∈ ks, k ∈ t.entries.keys := by
  have hks : ks = (L.filter fun e => e.qualifiedName = q).map SymbolEntry.key := by
    rw [← h.bucket_eq, hq, Option.getD_some]
  have hsub : ((L.filter fun e => e.qualifiedName = q).map SymbolEntry.key).Sublist (L.map SymbolEntry.key) :=
    List.filter_sublist.map _
  refine ⟨fun he => h.bucket_ne q (he ▸ hq), ?_, ?_⟩
  · rw [hks]
    exact h.nodup.sublist hsub
  · intro k hk
    rw [h.keys_eq]
    exact hsub.subset (hks ▸ hk)

theorem get?_eq_find? (h : Holds t L) (k : String) : t.entries.get? k = L.find? fun e => e.key = k := by
  rw [Registry.get?_of_pairs h.pairs_eq, Option.map_id']

/-- A query finds what a scan of the entries finds, whether or not it goes through the names. -/
private theorem lookup_eq (h : Holds t L) (query : String) : t.lookup query = .ok (scan L query) := by
  unfold SymbolTable.lookup scan
  rw [h.get?_eq_find?, h.values_eq]
  split
  · rfl
  · cases L.find? fun e => e.key = query with
    | some e => rfl
    | none =>
      rcases Text.cutAtLast? "::".toList query.toList with _ | ⟨className, _ | ⟨c, member⟩⟩
      · rfl
      · rfl
      · exact h.withQualifiedName_eq query

theorem find_eq (h : Holds t L) (query : String) (kind : Option SymbolKind) :
    t.find query kind = .ok ((scan L (Text.trimmed query)).filter fun e => kind.all (e.kind = ·)) := by
  rw [SymbolTable.find, h.lookup_eq]
  rfl

/-! ### Taking entries out -/

private theorem pairs_erase_eq (h : Holds t L) (k : String) :
    (t.entries.erase k).pairs = (L.filter fun x => x.key ≠ k).map fun e => (e.key, e) := by
  simp only [Registry.erase, h.pairs_eq, List.filter_map]
  rfl

private theorem erase_bucket (h : Holds t L) (e : SymbolEntry) :
    ((t.byName.get? e.qualifiedName).getD []).erase e.key =
      ((L.filter fun x => x.key ≠ e.key).filter fun x => x.qualifiedName = e.qualifiedName).map SymbolEntry.key := by
  have hnd : ((L.filter fun x => x.qualifiedName = e.qualifiedName).map SymbolEntry.key).Nodup :=
    h.nodup.sublist (List.filter_sublist.map _)
  rw [h.bucket_eq, hnd.erase_eq_filter, List.filter_map, List.filter_filter, List.filter_filter]
  congr 1
  apply List.filter_congr
  intro x _
  by_cases hk : x.key = e.key <;> by_cases hq : x.qualifiedName = e.qualifiedName <;> simp [hk, hq]

private theorem bucket_of_ne (h : Holds t L) {e : SymbolEntry} (he : e ∈ L) {q : String} (hq : q ≠ e.qualifiedName) :
    ((L.filter fun x => x.key ≠ e.key).filter fun x => x.qualifiedName = q) =
      L.filter fun x => x.qualifiedName = q := by
  rw [List.filter_filter]
  apply List.filter_congr
  intro x hx
  by_cases hk : x.key = e.key
  · have hxe := h.eq_of_key hx he hk
    simp [hxe, hq.symm]
  · simp [hk]

private theorem forget (h : Holds t L) {e : SymbolEntry} (he : e ∈ L) :
    Holds (t.forget e.key e) (L.filter fun x => x.key ≠ e.key) := by
  have hrem := h.erase_bucket e
  have hread : ∀ q, q ≠ e.qualifiedName → (t.forget e.key e).byName.get? q = t.byName.get? q := by
    intro q hq
    unfold SymbolTable.forget
    dsimp only
    split
    · exact Registry.get?_erase_of_ne hq
    · exact Registry.get?_set_of_ne _ hq _
  have hself : (((t.forget e.key e).byName.get? e.qualifiedName).getD [] =
      ((L.filter fun x => x.key ≠ e.key).filter fun x => x.qualifiedName = e.qualifiedName).map SymbolEntry.key) ∧
      (t.forget e.key e).byName.get? e.qualifiedName ≠ some [] := by
    unfold SymbolTable.forget
    dsimp only
    rw [hrem]
    split
    · rename_i hnil
      rw [Registry.get?_erase_self, List.isEmpty_iff.1 hnil]
      exact ⟨rfl, by simp⟩
    · rename_i hnil
      rw [Registry.get?_set_self]
      exact ⟨rfl, fun hs => hnil (by rw [Option.some.inj hs]; rfl)⟩
  refine ⟨h.pairs_erase_eq e.key, ?_, ?_⟩
  · intro q
    by_cases hq : q = e.qualifiedName
    · rw [hq]
      exact hself.1
    · rw [hread q hq, h.bucket_of_ne he hq]
      exact h.bucket_eq q
  · intro q
    by_cases hq : q = e.qualifiedName
    · rw [hq]
      exact hself.2
    · rw [hread q hq]
      exact h.bucket_ne q

/-- Keys of held entries are taken out to the last, and the other entries stay in order. -/
theorem forgetAll {keys : List String} (h : Holds t L) (hk : ∀ k ∈ keys, k ∈ L.map SymbolEntry.key)
    (hnd : keys.Nodup) :
    ∃ t', t.forgetAll keys = (t', .ok ()) ∧ Holds t' (L.filter fun x => x.key ∉ keys) ∧ t'.byFile = t.byFile := by
  induction keys generalizing t L with
  | nil => exact ⟨t, rfl, by simpa using h, rfl⟩
  | cons k keys ih =>
    obtain ⟨e, he, rfl⟩ := List.mem_map.1 (hk k (by simp))
    rw [List.nodup_cons] at hnd
    have hrest : ∀ k ∈ keys, k ∈ (L.filter fun x => x.key ≠ e.key).map SymbolEntry.key := by
      intro k hkm
      obtain ⟨x, hx, rfl⟩ := List.mem_map.1 (hk k (by simp [hkm]))
      have hne : x.key ≠ e.key := fun hxe => hnd.1 (hxe ▸ hkm)
      exact List.mem_map.2 ⟨x, List.mem_filter.2 ⟨hx, by simpa using hne⟩, rfl⟩
    obtain ⟨t', ht', hholds, hfile⟩ := ih (h.forget he) hrest hnd.2
    refine ⟨t', ?_, ?_, hfile⟩
    · rw [SymbolTable.forgetAll, h.get?_of_mem he]
      exact ht'
    · rw [List.filter_filter] at hholds
      convert hholds using 2
      funext x
      simp only [List.mem_cons, not_or, ne_eq, Bool.decide_and, Bool.and_comm]

/-! ### Entering entries -/

private theorem append (h : Holds t L) {e : SymbolEntry} (hk : e.key ∉ L.map SymbolEntry.key) (keys : List String) :
    ∃ t', t.enter keys e = (t', keys ++ [e.key]) ∧ Holds t' (L ++ [e]) ∧ t'.byFile = t.byFile := by
  have hn : e.key ∉ t.entries.keys := h.keys_eq ▸ hk
  have hc : ¬ t.entries.contains e.key = true := fun hc => hn ((Registry.contains_iff_mem_keys _ _).1 hc)
  rw [enter, if_neg hc]
  refine ⟨_, rfl, ⟨?_, ?_, ?_⟩, rfl⟩
  · rw [Registry.pairs_set_of_notMem hn, h.pairs_eq, List.map_append]
    rfl
  · intro q
    rw [List.filter_append, List.map_append, ← h.bucket_eq]
    by_cases hq : q = e.qualifiedName
    · subst hq
      rw [Registry.get?_set_self]
      simp
    · rw [Registry.get?_set_of_ne _ hq]
      simp [Ne.symm hq]
  · intro q
    by_cases hq : q = e.qualifiedName
    · subst hq
      rw [Registry.get?_set_self]
      simp
    · rw [Registry.get?_set_of_ne _ hq]
      exact h.bucket_ne q

private theorem replace (h : Holds t L) {e : SymbolEntry} (hk : e.key ∈ L.map SymbolEntry.key)
    (hq : ∀ x ∈ L, x.key = e.key → x.qualifiedName = e.qualifiedName) (keys : List String) :
    ∃ t', t.enter keys e = (t', keys) ∧ Holds t' (L.map fun x => if x.key = e.key then e else x) ∧
      t'.byFile = t.byFile := by
  have hm : e.key ∈ t.entries.keys := h.keys_eq ▸ hk
  have hc := (Registry.contains_iff_mem_keys _ _).2 hm
  rw [enter, if_pos hc]
  refine ⟨_, rfl, ⟨?_, ?_, h.bucket_ne⟩, rfl⟩
  · rw [Registry.pairs_set_of_mem hm, h.pairs_eq, List.map_map, List.map_map]
    apply List.map_congr_left
    intro x _
    by_cases hx : x.key = e.key <;> simp [hx]
  · -- neither the names nor the keys change, so the buckets stay as they are
    intro q
    have hname : (L.filter ((fun x => decide (x.qualifiedName = q)) ∘ fun x => if x.key = e.key then e else x)) =
        L.filter fun x => x.qualifiedName = q := by
      apply List.filter_congr
      intro x hx
      by_cases hxe : x.key = e.key
      · simp [hxe, hq x hx hxe]
      · simp [hxe]
    rw [List.filter_map, hname, List.map_map]
    refine (h.bucket_eq q).trans (List.map_congr_left fun x _ => ?_)
    by_cases hx : x.key = e.key <;> simp [hx]

/-- The entries of a file are appended with repeated keys collapsed. Of the file's entries `done` are in the table. -/
theorem enterAll {done es : List SymbolEntry} (h : Holds t (L ++ settle done))
    (hL : ∀ e ∈ es, e.key ∉ L.map SymbolEntry.key)
    (hq : ∀ x ∈ done ++ es, ∀ e ∈ done ++ es, x.key = e.key → x.qualifiedName = e.qualifiedName) :
    ∃ t', t.enterAll ((settle done).map SymbolEntry.key) es = (t', (settle (done ++ es)).map SymbolEntry.key) ∧
      Holds t' (L ++ settle (done ++ es)) ∧ t'.byFile = t.byFile := by
  induction es generalizing t done with
  | nil => exact ⟨t, by simp [SymbolTable.enterAll], by simpa using h, rfl⟩
  | cons e es ih =>
    have heL := hL e (by simp)
    -- what one entry does to the part of the file that is there already
    have hstep : ∃ t', t.enter ((settle done).map SymbolEntry.key) e =
        (t', (settle (done ++ [e])).map SymbolEntry.key) ∧ Holds t' (L ++ settle (done ++ [e])) ∧
        t'.byFile = t.byFile := by
      rw [settle_append_singleton]
      by_cases hm : e.key ∈ done.map SymbolEntry.key
      · have hk : e.key ∈ (L ++ settle done).map SymbolEntry.key := by
          rw [List.map_append, map_key_settle, List.mem_append]
          exact Or.inr (List.mem_eraseDups.2 hm)
        have hname : ∀ x ∈ L ++ settle done, x.key = e.key → x.qualifiedName = e.qualifiedName := by
          intro x hx hxe
          rcases List.mem_append.1 hx with hx | hx
          · exact absurd (List.mem_map.2 ⟨x, hx, hxe⟩) heL
          · exact hq x (by simp [mem_of_mem_settle hx]) e (by simp) hxe
        obtain ⟨t', ht', hh, hf⟩ := h.replace hk hname ((settle done).map SymbolEntry.key)
        have hLmap : (L.map fun x => if x.key = e.key then e else x) = L := by
          rw [List.map_congr_left (g := id), List.map_id]
          intro x hx
          rw [if_neg fun hxe => heL (List.mem_map.2 ⟨x, hx, hxe⟩), id]
        have hkeys : ((settle done).map fun x => if x.key = e.key then e else x).map SymbolEntry.key =
            (settle done).map SymbolEntry.key := by
          rw [List.map_map]
          apply List.map_congr_left
          intro x _
          by_cases hx : x.key = e.key <;> simp [hx]
        rw [if_pos hm, hkeys]
        rw [List.map_append, hLmap] at hh
        exact ⟨t', ht', hh, hf⟩
      · have hk : e.key ∉ (L ++ settle done).map SymbolEntry.key := by
          rw [List.map_append, map_key_settle, List.mem_append, List.mem_eraseDups]
          exact not_or.2 ⟨heL, hm⟩
        obtain ⟨t', ht', hh, hf⟩ := h.append hk ((settle done).map SymbolEntry.key)
        rw [if_neg hm, List.map_append]
        rw [List.append_assoc] at hh
        exact ⟨t', ht', hh, hf⟩
    obtain ⟨t₁, ht₁, hh₁, hf₁⟩ := hstep
    obtain ⟨t₂, ht₂, hh₂, hf₂⟩ := ih hh₁ (fun x hx => hL x (by simp [hx])) (by simpa using hq)
    rw [List.append_assoc, List.singleton_append] at ht₂ hh₂
    refine ⟨t₂, ?_, hh₂, hf₂.trans hf₁⟩
    rw [SymbolTable.enterAll, ht₁]
    exact ht₂

end Holds

/-! ### What any table finds -/

/-- The keys listed under names are those of entries. -/
def Closed (t : SymbolTable) : Prop :=
  ∀ q ks, t.byName.get? q = some ks → ∀ k ∈ ks, k ∈ t.entries.keys

variable {t : SymbolTable}

private theorem closed_iff : t.Closed ↔ ∀ p ∈ t.byName.pairs, ∀ k ∈ p.2, k ∈ t.entries.keys :=
  ⟨fun h p hp => h p.1 p.2 (Registry.get?_eq_some_iff.2 hp),
    fun h q ks hq => h (q, ks) (Registry.get?_eq_some_iff.1 hq)⟩

instance (t : SymbolTable) : Decidable t.Closed :=
  decidable_of_iff _ closed_iff.symm

theorem Holds.closed {L : List SymbolEntry} (h : t.Holds L) : t.Closed :=
  fun _ _ hq => (h.bucket_spec hq).2.2

private theorem fetch_eq_ok {k : String} {e : SymbolEntry} (h : t.fetch k = .ok e) : t.entries.get? k = some e := by
  unfold fetch at h
  split at h
  · rename_i e' he'
    cases h
    exact he'
  · cases h

private theorem mapM_fetch_ok {ks : List String} (h : ∀ k ∈ ks, k ∈ t.entries.keys) :
    ∃ es, ks.mapM t.fetch = .ok es := by
  induction ks with
  | nil => exact ⟨[], rfl⟩
  | cons k ks ih =>
    obtain ⟨es, hes⟩ := ih fun k' hk' => h k' (by simp [hk'])
    obtain ⟨e, he⟩ : ∃ e, t.entries.get? k = some e := by
      rw [← Option.ne_none_iff_exists', ne_eq, Registry.get?_eq_none_iff, not_not]
      exact h k (by simp)
    exact ⟨e :: es, by rw [List.mapM_cons, fetch, he, hes]; rfl⟩

private theorem mem_values_of_mapM_fetch {ks : List String} {es : List SymbolEntry} (h : ks.mapM t.fetch = .ok es)
    {e : SymbolEntry} (he : e ∈ es) : e ∈ t.entries.values := by
  induction ks generalizing es with
  | nil =>
    cases h
    cases he
  | cons k ks ih =>
    rw [List.mapM_cons] at h
    obtain ⟨e', hk, h⟩ := bind_eq_ok h
    obtain ⟨es', hks, h⟩ := bind_eq_ok h
    cases h
    rcases List.mem_cons.1 he with rfl | he
    · exact List.mem_map.2 ⟨(k, e), Registry.get?_eq_some_iff.1 (fetch_eq_ok hk), rfl⟩
    · exact ih hks he

theorem mem_values_of_inFile {path : String} {es : List SymbolEntry} (h : t.inFile path = .ok es) {e : SymbolEntry}
    (he : e ∈ es) : e ∈ t.entries.values :=
  mem_values_of_mapM_fetch h he

/-- What a query finds are entries of the table. -/
private theorem mem_values_of_lookup {query : String} {es : List SymbolEntry} (h : t.lookup query = .ok es)
    {e : SymbolEntry} (he : e ∈ es) : e ∈ t.entries.values := by
  unfold lookup at h
  split at h
  · cases h
    cases he
  · split at h
    · rename_i e' hget
      cases h
      rcases List.mem_singleton.1 he with rfl
      exact List.mem_map.2 ⟨_, Registry.get?_eq_some_iff.1 hget, rfl⟩
    · split at h
      · cases h
        exact (List.mem_filter.1 he).1
      · exact mem_values_of_mapM_fetch h he
      · cases h
        exact (List.mem_filter.1 he).1

private theorem mem_values_of_find {query : String} {kind : Option SymbolKind} {es : List SymbolEntry}
    (h : t.find query kind = .ok es) {e : SymbolEntry} (he : e ∈ es) : e ∈ t.entries.values := by
  obtain ⟨found, hl, rfl⟩ := map_eq_ok h
  exact mem_values_of_lookup hl (List.mem_filter.1 he).1

theorem mem_values_of_resolve {symbol : String} {es : List SymbolEntry} (h : t.resolve symbol = .ok es)
    {e : SymbolEntry} (he : e ∈ es) : e ∈ t.entries.values := by
  unfold resolve at h
  split at h
  · exact mem_values_of_find h he
  · obtain ⟨functions, hf, h⟩ := bind_eq_ok h
    split at h
    · exact mem_values_of_find h he
    · cases h
      exact mem_values_of_find hf he

namespace Closed

private theorem lookup_ok (h : t.Closed) (query : String) : ∃ es, t.lookup query = .ok es := by
  unfold lookup
  split
  · exact ⟨_, rfl⟩
  · split
    · exact ⟨_, rfl⟩
    · split
      · exact ⟨_, rfl⟩
      · apply mapM_fetch_ok
        cases hq : t.byName.get? query with
        | none => simp
        | some ks => exact h query ks hq
      · exact ⟨_, rfl⟩

theorem find_ok (h : t.Closed) (query : String) (kind : Option SymbolKind) : ∃ es, t.find query kind = .ok es := by
  obtain ⟨es, hes⟩ := h.lookup_ok (Text.trimmed query)
  exact ⟨_, by rw [find, hes]; rfl⟩

theorem resolve_ok (h : t.Closed) (symbol : String) : ∃ es, t.resolve symbol = .ok es := by
  unfold resolve
  split
  · exact h.find_ok symbol none
  · refine exists_bind_ok (h.find_ok symbol (some .functionKind)) fun functions => ?_
    split
    · exact h.find_ok symbol none
    · exact ⟨_, rfl⟩

end Closed

end SymbolTable

end CallIndex
