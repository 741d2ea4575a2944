import CallIndex.Proofs.GroundedRuns
import CallIndex.Proofs.NameChains
import CallIndex.Proofs.SummaryShape
import CallIndex.Proofs.TraceShape

/-!
# Targets of calls

The chain of a call is written without blanks, for it is read name by name and separator by separator.  Names of
declarations hold no blanks either.  So in every run the target of a call is a text without blanks, and trimming does
not change it (`Text.Solid`).

* `Chain.render_cut`: a chain that is cut from a text is that text.
* `Call.spelled_target`: the target of a call is spelled in characters of the call and of the owner, and in colons.
* `Workspace.Reached.solid_of_mem_callTargets`: what the calls of a run lead to.
-/

namespace CallIndex

open Text (Scan isWord isBlank)
open Source (Line)

/-! ### Texts without blanks -/

namespace Text

/-- A text that is not empty and holds no blanks. -/
structure Solid (s : List Char) : Prop where
  ne_nil : s ≠ []
  chars : ∀ c ∈ s, isBlank c = false

theorem Solid.trim_eq {s : List Char} (h : Solid s) : trim s = s :=
  trim_eq_self (fun c hc => h.chars c (List.mem_of_mem_head? hc)) fun c hc => h.chars c (List.mem_of_getLast? hc)

theorem Solid.trimmed_eq {s : String} (h : Solid s.toList) : trimmed s = s := by
  rw [trimmed, h.trim_eq, String.ofList_toList]

/-- Two colons between texts without blanks. -/
theorem solid_colons {front member : List Char} (hfront : ∀ c ∈ front, isBlank c = false)
    (hmember : ∀ c ∈ member, isBlank c = false) : Solid (front ++ "::".toList ++ member) := by
  refine ⟨by simp, ?_⟩
  intro c hc
  simp only [List.mem_append] at hc
  rcases hc with (hc | hc) | hc
  · exact hfront c hc
  · obtain rfl : c = ':' := by simpa using hc
    rfl
  · exact hmember c hc

end Text

open Text (Solid)

namespace SymbolEntry.Named

variable {e : SymbolEntry}

theorem solid (h : e.Named) : Solid e.name.toList where
  ne_nil := fun hs => h.name.ne_empty (String.toList_eq_nil_iff.1 hs)
  chars := fun c hc => not_isBlank_of_isNameChar (h.name.chars c hc)

/-- The class that a self-reference refers to is written in characters of names. -/
theorem ownerClass_chars (h : e.Named) {owner : String} (howner : e.ownerClass? = some owner) :
    ∀ c ∈ owner.toList, isNameChar c = true := by
  obtain ⟨path, declaration⟩ := e
  cases declaration with
  | ofClass d =>
    cases howner
    exact h.name.chars
  | ofFunction f => cases howner
  | ofMethod m =>
    cases howner
    exact h.owner m.className rfl

end SymbolEntry.Named

namespace Call

/-! ### Chains as they are written -/

theorem Chain.solid_render {chain : Chain} (h : chain.OfNames) : Solid chain.render where
  ne_nil := by simp [Chain.render, ne_nil_of_isSegment h.root]
  chars := h.not_isBlank_of_mem_render

variable {keywords : List String} {declared : List (Nat × String)}

/-- The call is written as a chain of names. -/
def IsChain (raw : String) : Prop :=
  ∃ chain : Chain, chain.OfNames ∧ raw = String.ofList chain.render

theorem IsChain.solid {raw : String} (h : IsChain raw) : Solid raw.toList := by
  obtain ⟨chain, hnames, rfl⟩ := h
  rw [String.toList_ofList]
  exact Chain.solid_render hnames

private theorem isChain_of_mem_lineCalls {number : Nat} {line : Line} {o : Occurrence}
    (h : o ∈ lineCalls keywords declared number line) : IsChain o.callee := by
  obtain ⟨hit, hmem, hhit⟩ := List.mem_filterMap.1 h
  obtain ⟨left, u, r, -, -, -, -, hread⟩ := Scan.exists_of_mem_hits advances_scanCallee hmem
  split at hhit
  · cases hhit
    exact ⟨_, (scanCallee_eq_some_iff.1 hread).2.1, rfl⟩
  · cases hhit

private theorem isChain_of_mem_scanCallsFrom {number : Nat} {lines : List Line} {o : Occurrence}
    (h : o ∈ scanCallsFrom keywords declared number lines) : IsChain o.callee := by
  induction lines generalizing number with
  | nil => cases h
  | cons line rest ih =>
    rcases List.mem_append.1 h with h | h
    · exact isChain_of_mem_lineCalls h
    · exact ih h

/-! ### Targets of chains -/

/-- A chain that is cut from a text is that text. -/
theorem Chain.render_cut (s : List Char) : (cut s).render = s := by
  fun_induction cut s with
  | case1 s sep rest hsep hlt tail ih =>
    rw [Separator.eq_append_of_read? hsep, ← ih]
    simp [render, tail]
  | case2 hnone => rfl
  | case3 c s hnone tail ih =>
    rw [render, List.cons_append]
    exact congrArg (c :: ·) ih

private theorem mem_of_mem_bareName {c : Char} {s : List Char} (h : c ∈ bareName s) : c ∈ s :=
  (List.dropWhile_sublist _).subset h

namespace Chain

variable {chain : Chain} {c : Char}

private theorem mem_render_of_root (h : c ∈ chain.root) : c ∈ chain.render :=
  List.mem_append_left _ h

private theorem mem_render_of_link {l : Separator × List Char} (hl : l ∈ chain.links) (h : c ∈ l.2) :
    c ∈ chain.render :=
  List.mem_append_right _ (List.mem_flatMap.2 ⟨l, hl, List.mem_append_right _ h⟩)

/-- A chain with a separator is not empty. -/
private theorem render_ne_nil {l : Separator × List Char} (hl : l ∈ chain.links) : chain.render ≠ [] := by
  intro hnil
  obtain ⟨-, hnil⟩ := List.append_eq_nil_iff.1 hnil
  obtain ⟨sep, segment⟩ := l
  have hspelling := (List.append_eq_nil_iff.1 (List.flatMap_eq_nil_iff.1 hnil _ hl)).1
  cases sep <;> cases hspelling

end Chain

/-- The target of a chain is spelled in characters of the chain and in colons. -/
private theorem spelled_chainTarget {externals : List String} {chain : Chain} {t : List Char}
    (hchain : chain.render ≠ [])
    (h : chainTarget externals chain = some t) : t ≠ [] ∧ ∀ c ∈ t, c ∈ chain.render ∨ c = ':' := by
  unfold chainTarget at h
  split at h
  · rename_i hnone
    cases h
    have hrender : chain.render = chain.root := by
      rw [Chain.render, List.getLast?_eq_none_iff.1 hnone, List.flatMap_nil, List.append_nil]
    exact ⟨hrender ▸ hchain, fun c hc => .inl (hrender ▸ hc)⟩
  · rename_i sep last hlast
    have hmem : (sep, last) ∈ chain.links := List.mem_of_getLast? hlast
    split at h
    · cases h
      exact ⟨hchain, fun c hc => .inl hc⟩
    · dsimp only at h
      split at h
      · cases h
      · cases h
        refine ⟨by simp, fun c hc => ?_⟩
        simp only [List.mem_append] at hc
        rcases hc with (hc | hc) | hc
        · left
          replace hc := mem_of_mem_bareName hc
          cases hleft : chain.links.dropLast.getLast? with
          | none =>
            rw [hleft] at hc
            exact Chain.mem_render_of_root hc
          | some l =>
            rw [hleft] at hc
            have hl : l ∈ chain.links := List.dropLast_subset _ (List.mem_of_getLast? hleft)
            exact Chain.mem_render_of_link hl hc
        · exact .inr (by simpa using hc)
        · exact .inl (Chain.mem_render_of_link hmem (mem_of_mem_bareName hc))

/-- The target of a call is spelled in characters of the call and of the owner, and in colons. -/
theorem spelled_target {externals : List String} {raw t : String} {owner : Option String} (hraw : Solid raw.toList)
    (h : target? externals raw owner = some t) :
    t.toList ≠ [] ∧ ∀ c ∈ t.toList, c ∈ raw.toList ∨ c = ':' ∨ ∃ o, owner = some o ∧ c ∈ o.toList := by
  have hne := hraw.ne_nil
  unfold target? at h
  rw [hraw.trim_eq] at h
  rw [← Chain.render_cut raw.toList] at hne ⊢
  revert h hne
  generalize Chain.cut raw.toList = chain
  intro h hchain
  have hplain : ∀ rest : Chain, rest.render ≠ [] → (∀ c ∈ rest.render, c ∈ chain.render) →
      (chainTarget externals rest).map String.ofList = some t →
      t.toList ≠ [] ∧ ∀ c ∈ t.toList, c ∈ chain.render ∨ c = ':' ∨ ∃ o, owner = some o ∧ c ∈ o.toList := by
    intro rest hrest hsub h
    obtain ⟨w, hw, rfl⟩ := Option.map_eq_some_iff.1 h
    rw [String.toList_ofList]
    obtain ⟨hw, hspelled⟩ := spelled_chainTarget hrest hw
    exact ⟨hw, fun c hc => (hspelled c hc).imp (hsub c) .inl⟩
  obtain ⟨root, links⟩ := chain
  dsimp only at h
  split at h
  · match links, hchain, h, hplain with
    | [], hchain, h, _ =>
      cases h
      rw [Chain.render, List.flatMap_nil, List.append_nil] at hchain ⊢
      rw [String.toList_ofList]
      exact ⟨hchain, fun c hc => .inl hc⟩
    | [(sep, member)], hchain, h, _ =>
      obtain ⟨o, ho, rfl⟩ := Option.map_eq_some_iff.1 h
      refine ⟨by simp, fun c hc => ?_⟩
      simp only [String.toList_append, String.toList_ofList, List.mem_append] at hc
      rcases hc with (hc | hc) | hc
      · exact .inr (.inr ⟨o, ho, hc⟩)
      · exact .inr (.inl (by simpa using hc))
      · exact .inl (Chain.mem_render_of_link (List.mem_singleton_self _) (mem_of_mem_bareName hc))
    | (sep, first) :: link :: more, hchain, h, hplain =>
      -- what is left behind the self-reference still has a separator
      refine hplain _ (Chain.render_ne_nil (List.mem_cons_self ..)) (fun c hc => ?_) h
      simp only [Chain.render, List.flatMap_cons, List.mem_append] at hc ⊢
      tauto
  · exact hplain _ hchain (fun _ hc => hc) h

/-- The target of a call that is written without blanks has none. -/
private theorem solid_target {externals : List String} {raw t : String} {owner : Option String}
    (hraw : Solid raw.toList) (howner : ∀ o, owner = some o → ∀ c ∈ o.toList, isBlank c = false)
    (h : target? externals raw owner = some t) : Solid t.toList := by
  obtain ⟨hne, hspelled⟩ := spelled_target hraw h
  refine ⟨hne, fun c hc => ?_⟩
  rcases hspelled c hc with hc | rfl | ⟨o, ho, hc⟩
  · exact hraw.chars c hc
  · rfl
  · exact howner o ho c hc

end Call

/-! ### Calls of a run -/

private theorem isChain_of_mem_calls_summarize {language path content : String} {c : Call.CallSite}
    (h : c ∈ (summarize language path content).1.calls) : Call.IsChain c.raw := by
  obtain ⟨o, ho, rfl⟩ := List.mem_map.1 h
  obtain ⟨keywords, declared, hcalls⟩ := calls_findingsIn language content.toList
  rw [hcalls] at ho
  exact Call.isChain_of_mem_scanCallsFrom ho

namespace Workspace

theorem Reached.isChain_of_mem_callsOf {history : List Sources} {ws : Workspace} (h : Reached history ws)
    {path : String} {c : Call.CallSite} (hc : c ∈ ws.index.callsOf path) : Call.IsChain c.raw := by
  unfold Index.callsOf at hc
  cases hcalls : ws.index.calls.get? path with
  | none =>
    rw [hcalls] at hc
    cases hc
  | some calls =>
    obtain ⟨content, -, hcontent⟩ := h.callsKnown.known path calls hcalls
    rw [hcalls, Option.getD_some, hcontent] at hc
    exact isChain_of_mem_calls_summarize hc

/-- In every run the targets of calls are texts without blanks. -/
theorem Reached.solid_of_mem_callTargets {history : List Sources} {ws : Workspace} (h : Reached history ws)
    {externals : List String} {symbol : String} (hsymbol : symbol ∈ Trace.callTargets ws.index externals) :
    Solid symbol.toList := by
  obtain ⟨L, hholds, hnamed, -⟩ := h.ofAnalysed.exists_holds
  rw [Trace.callTargets, List.mem_eraseDups, hholds.values_eq] at hsymbol
  obtain ⟨⟨target, site⟩, hcall, rfl⟩ := List.mem_map.1 hsymbol
  obtain ⟨e, he, hcall⟩ := List.mem_flatMap.1 hcall
  obtain ⟨c, hc, htarget⟩ := List.mem_filterMap.1 hcall
  obtain ⟨t, ht, hpair⟩ := Option.map_eq_some_iff.1 htarget
  obtain ⟨rfl, rfl⟩ := Prod.mk.inj hpair
  have hraw : Solid c.raw.toList := by
    unfold Index.bodyCalls at hc
    split at hc
    · cases hc
    · exact (h.isChain_of_mem_callsOf (List.mem_filter.1 hc).1).solid
  exact Call.solid_target hraw
    (fun o ho c hc => not_isBlank_of_isNameChar ((hnamed e he).ownerClass_chars ho c hc)) ht

end Workspace

end CallIndex
