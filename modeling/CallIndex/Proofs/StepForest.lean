import CallIndex.Proofs.Exploration

/-!
# Steps in pre-order

The steps below a step come right behind it: each of them stands one depth lower and is the target of one of its calls,
and the steps below that one follow (`Forest`).  So every step finds its caller again as the nearest step before it
that stands higher (`HasCaller`), and the chain of callers up to the root has as many calls as the depths differ
(`ReachedBy`).
-/

namespace CallIndex.Trace

/-- Steps in pre-order below a step with the given calls, where the uppermost stand at the given depth. -/
inductive Forest : Nat → List TraceCall → List Step → Prop
  | nil {depth : Nat} {calls : List TraceCall} : Forest depth calls []
  /-- A step with nothing below it. -/
  | leaf {depth : Nat} {calls : List TraceCall} {s : Step} {rest : List Step} (hd : s.depth = depth)
      (hc : ∃ c ∈ calls, c.target = s.symbol) (hrest : Forest depth calls rest) : Forest depth calls (s :: rest)
  /-- A step and the steps below it. -/
  | node {depth : Nat} {calls : List TraceCall} {s : Step} {below rest : List Step} (hd : s.depth = depth + 1)
      (hb : s.isBack = false) (hc : ∃ c ∈ calls, c.target = s.symbol) (hbelow : Forest depth s.calls below)
      (hrest : Forest (depth + 1) calls rest) : Forest (depth + 1) calls (s :: (below ++ rest))

/-- Behind the steps `pre` a step has its caller among them: the nearest one that stands higher, by one. -/
def HasCaller (pre : List Step) (s : Step) : Prop :=
  ∃ before p between, pre = before ++ p :: between ∧ (∀ q ∈ between, q.depth ≤ s.depth) ∧ p.depth = s.depth + 1 ∧
    p.isBack = false ∧ ∃ c ∈ p.calls, c.target = s.symbol

private theorem HasCaller.append_left {pre : List Step} {s : Step} (h : HasCaller pre s) (front : List Step) :
    HasCaller (front ++ pre) s := by
  obtain ⟨before, p, between, rfl, hrest⟩ := h
  exact ⟨front ++ before, p, between, by simp, hrest⟩

/-- Steps that stand lower than the first one do not come between a step and its caller. -/
private theorem HasCaller.insert {r s : Step} {pre : List Step} (h : HasCaller (r :: pre) s) (mid : List Step)
    (hmid : ∀ q ∈ mid, q.depth < r.depth) : HasCaller (r :: (mid ++ pre)) s := by
  obtain ⟨before, p, between, heq, hbetween, hd, hrest⟩ := h
  cases before with
  | nil =>
    obtain ⟨rfl, rfl⟩ := List.cons.inj heq
    refine ⟨[], r, mid ++ pre, rfl, ?_, hd, hrest⟩
    intro q hq
    rcases List.mem_append.1 hq with hq | hq
    · have := hmid q hq
      omega
    · exact hbetween q hq
  | cons b before =>
    obtain ⟨rfl, rfl⟩ := List.cons.inj heq
    exact ⟨r :: (mid ++ before), p, between, by simp, hbetween, hd, hrest⟩

/-- A step and how many calls lead to it from the root. -/
inductive ReachedBy (root : Step) (steps : List Step) : Nat → Step → Prop
  | root : ReachedBy root steps 0 root
  | call {n : Nat} {p s : Step} {c : TraceCall} (hp : ReachedBy root steps n p) (hb : p.isBack = false)
      (hc : c ∈ p.calls) (ht : c.target = s.symbol) (hs : s ∈ steps) : ReachedBy root steps (n + 1) s

namespace Forest

variable {depth : Nat} {calls : List TraceCall} {steps : List Step}

private theorem depth_mem (h : Forest depth calls steps) {s : Step} (hs : s ∈ steps) :
    0 ≤ s.depth ∧ s.depth ≤ depth := by
  induction h with
  | nil => cases hs
  | leaf hd _ _ ih =>
    rcases List.mem_cons.1 hs with rfl | hs
    · omega
    · exact ih hs
  | node hd _ _ _ _ ihBelow ihRest =>
    rcases List.mem_cons.1 hs with rfl | hs
    · omega
    · rcases List.mem_append.1 hs with hs | hs
      · have := ihBelow hs
        omega
      · exact ihRest hs

/-- Every step of a forest below `r` has its caller before it. -/
private theorem hasCaller {r s : Step} (h : Forest depth r.calls steps) (hr : r.depth = depth + 1)
    (hb : r.isBack = false) {pre post : List Step} (hs : steps = pre ++ s :: post) : HasCaller (r :: pre) s := by
  generalize hcalls : r.calls = calls at h
  induction h generalizing r pre post with
  | nil => simp at hs
  | @leaf depth calls x rest hd hc _ ih =>
    cases pre with
    | nil =>
      obtain ⟨rfl, -⟩ := List.cons.inj hs
      exact ⟨[], r, [], rfl, by simp, by omega, hb, hcalls ▸ hc⟩
    | cons p pre =>
      obtain ⟨rfl, htail⟩ := List.cons.inj hs
      exact (ih hr hb htail hcalls).insert [x] (by simp only [List.mem_singleton, forall_eq]; omega)
  | @node depth calls x below rest hd hxb hc hbelow _ ihBelow ihRest =>
    cases pre with
    | nil =>
      obtain ⟨rfl, -⟩ := List.cons.inj hs
      exact ⟨[], r, [], rfl, by simp, by omega, hb, hcalls ▸ hc⟩
    | cons p pre =>
      obtain ⟨rfl, htail⟩ := List.cons.inj hs
      rcases split_append htail with ⟨mid, hmid⟩ | ⟨mid, rfl, hmid⟩
      · exact (ihBelow hd hxb hmid rfl).append_left [r]
      · have hlow : ∀ q ∈ x :: below, q.depth < r.depth := by
          intro q hq
          rcases List.mem_cons.1 hq with rfl | hq
          · omega
          · have := hbelow.depth_mem hq
            omega
        exact (ihRest hr hb hmid hcalls).insert (x :: below) hlow

/-- The calls that lead to a step of a forest are as many as the depths in between. -/
private theorem reachedBy {root r : Step} {all : List Step} {n : Nat} (h : Forest depth r.calls steps)
    (hr : ReachedBy root all n r) (hb : r.isBack = false) (hall : ∀ s ∈ steps, s ∈ all) {s : Step} (hs : s ∈ steps) :
    ReachedBy root all (n + 1 + (depth - s.depth).toNat) s := by
  generalize hcalls : r.calls = calls at h
  induction h generalizing r n with
  | nil => cases hs
  | leaf hd hc _ ih =>
    rcases List.mem_cons.1 hs with rfl | hs'
    · obtain ⟨c, hc, ht⟩ := hc
      rw [hd, Int.sub_self]
      exact .call hr hb (hcalls ▸ hc) ht (hall _ hs)
    · exact ih hr hb (fun q hq => hall q (List.mem_cons_of_mem _ hq)) hs' hcalls
  | @node depth calls x below rest hd hxb hc hbelow _ ihBelow ihRest =>
    have hx : ReachedBy root all (n + 1) x := by
      obtain ⟨c, hc, ht⟩ := hc
      exact .call hr hb (hcalls ▸ hc) ht (hall x (List.mem_cons_self ..))
    rcases List.mem_cons.1 hs with rfl | hs'
    · have : ((depth + 1 : Nat) - s.depth).toNat = 0 := by omega
      rw [this]
      exact hx
    · rcases List.mem_append.1 hs' with hs' | hs'
      · have hbound := hbelow.depth_mem hs'
        have hn : n + 1 + ((depth + 1 : Nat) - s.depth).toNat = n + 1 + 1 + (depth - s.depth).toNat := by omega
        rw [hn]
        exact ihBelow hx hxb (fun q hq => hall q (by simp [hq])) hs' rfl
      · exact ihRest hr hb (fun q hq => hall q (by simp [hq])) hs' hcalls

end Forest

/-! ### The forest below a root -/

/-- The steps below a root, which is no back-reference: none, or a forest one depth lower. -/
structure Rooted (root : Step) (steps : List Step) : Prop where
  isBack_eq : root.isBack = false
  below : (steps = [] ∧ 0 ≤ root.depth) ∨ ∃ depth : Nat, root.depth = depth + 1 ∧ Forest depth root.calls steps

namespace Rooted

variable {root : Step} {steps : List Step}

theorem depth_mem (h : Rooted root steps) {s : Step} (hs : s ∈ root :: steps) : 0 ≤ s.depth ∧ s.depth ≤ root.depth := by
  rcases h.below with ⟨rfl, hd⟩ | ⟨depth, hd, hforest⟩
  · rcases List.mem_singleton.1 hs with rfl
    omega
  · rcases List.mem_cons.1 hs with rfl | hs
    · omega
    · have := hforest.depth_mem hs
      omega

theorem hasCaller (h : Rooted root steps) {pre post : List Step} {s : Step} (hs : root :: steps = pre ++ s :: post)
    (hpre : pre ≠ []) : HasCaller pre s := by
  cases pre with
  | nil => exact absurd rfl hpre
  | cons p pre =>
    obtain ⟨rfl, htail⟩ := List.cons.inj hs
    rcases h.below with ⟨rfl, -⟩ | ⟨depth, hd, hforest⟩
    · simp at htail
    · exact hforest.hasCaller hd h.isBack_eq htail

theorem reachedBy (h : Rooted root steps) {s : Step} (hs : s ∈ root :: steps) :
    ReachedBy root (root :: steps) (root.depth - s.depth).toNat s := by
  rcases List.mem_cons.1 hs with rfl | hs
  · rw [Int.sub_self]
    exact .root
  · rcases h.below with ⟨rfl, -⟩ | ⟨depth, hd, hforest⟩
    · cases hs
    · have hbound := hforest.depth_mem hs
      have hn : (root.depth - s.depth).toNat = 0 + 1 + (depth - s.depth).toNat := by omega
      rw [hn]
      exact hforest.reachedBy .root h.isBack_eq (fun q hq => List.mem_cons_of_mem _ hq) hs

end Rooted

/-! ### The forest of an exploration -/

private theorem Forest.mono {depth : Nat} {calls calls' : List TraceCall} {steps : List Step}
    (h : Forest depth calls steps) (hsub : ∀ c ∈ calls, c ∈ calls') : Forest depth calls' steps := by
  induction h with
  | nil => exact .nil
  | leaf hd hc _ ih =>
    obtain ⟨c, hc, ht⟩ := hc
    exact .leaf hd ⟨c, hsub c hc, ht⟩ (ih hsub)
  | node hd hb hc hbelow _ _ ihRest =>
    obtain ⟨c, hc, ht⟩ := hc
    exact .node hd hb ⟨c, hsub c hc, ht⟩ hbelow (ihRest hsub)

private theorem Explored.forest {ix : Index} {externals : List String} {withArguments : Bool} {depth : Nat}
    {seen : Seen} {calls : List (String × Call.CallSite)} {x : Expansion}
    (h : Explored ix externals withArguments depth seen calls x) : Forest depth x.calls x.steps := by
  induction h with
  | nil => exact .nil
  | again _ _ _ ih => exact ih.mono fun c hc => List.mem_cons_of_mem _ hc
  | back _ _ _ ih =>
    exact .leaf rfl ⟨_, List.mem_cons_self .., rfl⟩ (ih.mono fun c hc => List.mem_cons_of_mem _ hc)
  | @fresh depth _ _ _ _ inner _ y x _ _ hp below _ ihBelow ihRest =>
    have hrest : ∀ c, Forest depth (c :: x.calls) x.steps := fun c =>
      ihRest.mono fun c' hc' => List.mem_cons_of_mem _ hc'
    cases depth with
    | zero =>
      -- nothing is pending at depth zero
      cases hp
      cases below
      exact .leaf rfl ⟨_, List.mem_cons_self .., rfl⟩ (hrest _)
    | succ depth => exact .node rfl rfl ⟨_, List.mem_cons_self .., rfl⟩ ihBelow (hrest _)

/-- The steps of a trace are those of an exploration below the entry. -/
theorem rooted_of_walk {ix : Index} {externals : List String} {withArguments : Bool} {entry : String} {maxDepth : Nat}
    {entries : List SymbolEntry} {t : ExecutionTrace} (hr : ix.symbols.resolve entry = .ok entries) (hne : entries ≠ [])
    (h : walk ix externals entry maxDepth withArguments = .ok t) :
    ∃ inner x root, pending ix externals maxDepth entry = .ok inner ∧
      Explored ix externals withArguments (maxDepth - 1) { visited := entry :: entries.map (·.qualifiedName) } inner x ∧
      t.steps = root :: x.steps ∧ root.symbol = entry ∧ root.depth = maxDepth ∧ root.calls = x.calls ∧
      Rooted root x.steps := by
  obtain ⟨inner, x, hp, hx, ht⟩ := explored_of_walk hr hne h
  refine ⟨inner, x, _, hp, hx, ht, rfl, rfl, rfl, rfl, ?_⟩
  cases maxDepth with
  | zero =>
    cases hp
    cases hx
    exact Or.inl ⟨rfl, Int.le_refl 0⟩
  | succ depth => exact Or.inr ⟨depth, rfl, hx.forest⟩

end CallIndex.Trace
