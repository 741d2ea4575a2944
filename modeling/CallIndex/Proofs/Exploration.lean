import CallIndex.Proofs.Outcome
import CallIndex.Trace.Walk
import Mathlib.Data.List.Nodup

/-!
# Exploration

What the walk of a trace does with the calls out of a symbol, one call after the other: a call of a symbol met before is
listed again or becomes a back-reference, and a call of a new symbol becomes a step whose own calls are explored first
(`Explored`).  The walk is an exploration (`explored_of_expand`, `explored_of_walk`), and what holds of the steps of a
trace is proved by induction on the exploration.

* `Explored.visited_eq` and `Explored.backed_eq`: the symbols met are those of the steps, in order.
* `Explored.nodup_new` and `Explored.nodup_back`: no symbol is met, or listed as a back-reference, twice.
* `Explored.back_spec` and `Explored.calls_listed`: what a back-reference names, and which calls a step lists.
* `Explored.newTargets_perm`: the calls that are not flagged lead to the steps that are no back-references.
-/

namespace CallIndex.Trace

open Call (CallSite)

/-- The calls that are followed out of a symbol at a given depth: none at depth zero. -/
def pending (ix : Index) (externals : List String) : Nat → String → Except DanglingKey (List (String × CallSite))
  | 0, _ => .ok []
  | _ + 1, symbol => outgoing ix externals symbol

/-- A call as it is listed in its step. -/
def listed (withArguments isBack : Bool) (target : String) (site : CallSite) : TraceCall :=
  { target := target, line := site.line, raw := site.raw
    arguments := if withArguments then site.arguments else none, isBack := isBack }

/-- A call without the flag of a back-reference. -/
def unflagged (c : TraceCall) : TraceCall :=
  { c with isBack := false }

/-- The targets of the calls that are not flagged as back-references. -/
def newTargets (calls : List TraceCall) : List String :=
  (calls.filter (!·.isBack)).map (·.target)

/-- Exploring calls one after the other, where new steps stand at a given depth. -/
inductive Explored (ix : Index) (externals : List String) (withArguments : Bool) :
    Nat → Seen → List (String × CallSite) → Expansion → Prop
  | nil {depth : Nat} {seen : Seen} : Explored ix externals withArguments depth seen [] { seen := seen }
  /-- The back-reference is in the list already. -/
  | again {depth : Nat} {seen : Seen} {target : String} {site : CallSite} {calls : List (String × CallSite)}
      {x : Expansion} (hv : target ∈ seen.visited) (hb : target ∈ seen.backed)
      (rest : Explored ix externals withArguments depth seen calls x) :
      Explored ix externals withArguments depth seen ((target, site) :: calls)
        { x with calls := listed withArguments true target site :: x.calls }
  /-- The first back-reference to a symbol. -/
  | back {depth : Nat} {seen : Seen} {target : String} {site : CallSite} {calls : List (String × CallSite)}
      {x : Expansion} (hv : target ∈ seen.visited) (hb : target ∉ seen.backed)
      (rest : Explored ix externals withArguments depth { seen with backed := seen.backed ++ [target] } calls x) :
      Explored ix externals withArguments depth seen ((target, site) :: calls)
        { calls := listed withArguments true target site :: x.calls
          steps := { symbol := target, depth := depth, isBack := true } :: x.steps
          seen := x.seen }
  /-- A new symbol: the calls out of it come first. -/
  | fresh {depth : Nat} {seen : Seen} {target : String} {site : CallSite} {calls inner : List (String × CallSite)}
      {entries : List SymbolEntry} {y x : Expansion} (hv : target ∉ seen.visited)
      (hr : ix.symbols.resolve target = .ok entries) (hp : pending ix externals depth target = .ok inner)
      (below : Explored ix externals withArguments (depth - 1)
        { seen with visited := seen.visited ++ [target] } inner y)
      (rest : Explored ix externals withArguments depth y.seen calls x) :
      Explored ix externals withArguments depth seen ((target, site) :: calls)
        { calls := listed withArguments false target site :: x.calls
          steps := { symbol := target, depth := depth, isResolved := !entries.isEmpty, calls := y.calls } ::
            (y.steps ++ x.steps)
          seen := x.seen }

variable {ix : Index} {externals : List String} {withArguments : Bool}

/-! ### The walk explores -/

/-- What following one call can do. -/
theorem follow_cases {depth : Nat} {expand : String → Seen → Except DanglingKey Expansion} {x z : Expansion}
    {target : String} {site : CallSite} (h : follow ix withArguments depth expand x (target, site) = .ok z) :
    (target ∈ x.seen.visited ∧ target ∈ x.seen.backed ∧
      z = { x with calls := x.calls ++ [listed withArguments true target site] }) ∨
    (target ∈ x.seen.visited ∧ target ∉ x.seen.backed ∧
      z = { calls := x.calls ++ [listed withArguments true target site]
            steps := x.steps ++ [{ symbol := target, depth := depth, isBack := true }]
            seen := { x.seen with backed := x.seen.backed ++ [target] } }) ∨
    (target ∉ x.seen.visited ∧ ∃ entries y, ix.symbols.resolve target = .ok entries ∧
      (if entries.isEmpty then .ok { seen := { x.seen with visited := x.seen.visited ++ [target] } }
        else expand target { x.seen with visited := x.seen.visited ++ [target] }) = .ok y ∧
      z = { calls := x.calls ++ [listed withArguments false target site]
            steps := x.steps ++
              { symbol := target, depth := depth, isResolved := !entries.isEmpty, calls := y.calls } :: y.steps
            seen := y.seen }) := by
  unfold follow at h
  by_cases hv : target ∈ x.seen.visited
  · have hc : x.seen.visited.contains target = true := by simpa using hv
    by_cases hb : target ∈ x.seen.backed
    · have hbc : x.seen.backed.contains target = true := by simpa using hb
      simp only [hc, hbc, ↓reduceIte] at h
      cases h
      exact Or.inl ⟨hv, hb, rfl⟩
    · have hbc : ¬ x.seen.backed.contains target = true := by simpa using hb
      simp only [hc, hbc, ↓reduceIte] at h
      cases h
      exact Or.inr (Or.inl ⟨hv, hb, rfl⟩)
  · have hc : x.seen.visited.contains target = false := by simpa using hv
    simp only [hc, Bool.false_eq_true, ↓reduceIte] at h
    obtain ⟨entries, hr, h⟩ := bind_eq_ok h
    refine Or.inr (Or.inr ⟨hv, entries, ?_⟩)
    cases entries with
    | nil =>
      cases h
      exact ⟨_, hr, rfl, rfl⟩
    | cons e es =>
      obtain ⟨y, hy, h⟩ := bind_eq_ok h
      cases h
      exact ⟨y, hr, hy, rfl⟩

/-- The calls out of a symbol without entries. -/
private theorem pending_of_unresolved {target : String} (h : ix.symbols.resolve target = .ok []) (depth : Nat) :
    pending ix externals depth target = .ok [] := by
  cases depth with
  | zero => rfl
  | succ depth =>
    rw [pending, outgoing, h]
    rfl

private theorem explored_of_foldlM {depth : Nat}
    (hexp : ∀ {symbol : String} {seen : Seen} {y : Expansion},
      expand ix externals withArguments depth symbol seen = .ok y → ∃ inner,
        pending ix externals depth symbol = .ok inner ∧
        Explored ix externals withArguments (depth - 1) seen inner y)
    {calls : List (String × CallSite)} {x z : Expansion}
    (h : calls.foldlM (follow ix withArguments depth (expand ix externals withArguments depth)) x = .ok z) :
    ∃ y, Explored ix externals withArguments depth x.seen calls y ∧
      z = { calls := x.calls ++ y.calls, steps := x.steps ++ y.steps, seen := y.seen } := by
  induction calls generalizing x with
  | nil =>
    cases h
    exact ⟨_, .nil, by simp⟩
  | cons call calls ih =>
    obtain ⟨target, site⟩ := call
    rw [List.foldlM_cons] at h
    obtain ⟨x', hx', h⟩ := bind_eq_ok h
    obtain ⟨y, hy, rfl⟩ := ih h
    rcases follow_cases hx' with ⟨hv, hb, rfl⟩ | ⟨hv, hb, rfl⟩ | ⟨hv, entries, y', hr, he, rfl⟩
    · exact ⟨_, .again hv hb hy, by simp⟩
    · exact ⟨_, .back hv hb hy, by simp⟩
    · obtain ⟨inner, hp, hbelow⟩ : ∃ inner, pending ix externals depth target = .ok inner ∧
          Explored ix externals withArguments (depth - 1)
            { x.seen with visited := x.seen.visited ++ [target] } inner y' := by
        cases entries with
        | nil =>
          cases he
          exact ⟨[], pending_of_unresolved hr depth, .nil⟩
        | cons e es => exact hexp he
      exact ⟨_, .fresh hv hr hp hbelow hy, by simp⟩

/-- An expansion explores the calls out of its symbol. -/
theorem explored_of_expand {depth : Nat} {symbol : String} {seen : Seen} {y : Expansion}
    (h : expand ix externals withArguments depth symbol seen = .ok y) :
    ∃ inner, pending ix externals depth symbol = .ok inner ∧
      Explored ix externals withArguments (depth - 1) seen inner y := by
  induction depth generalizing symbol seen y with
  | zero =>
    cases h
    exact ⟨[], rfl, .nil⟩
  | succ depth ih =>
    rw [expand] at h
    obtain ⟨inner, hp, h⟩ := bind_eq_ok h
    obtain ⟨y', hy', rfl⟩ := explored_of_foldlM ih h
    exact ⟨inner, hp, by simpa using hy'⟩

/-- A trace explores the calls out of its entry, unless the entry is not known. -/
theorem explored_of_walk {entry : String} {maxDepth : Nat} {entries : List SymbolEntry} {t : ExecutionTrace}
    (hr : ix.symbols.resolve entry = .ok entries) (hne : entries ≠ [])
    (h : walk ix externals entry maxDepth withArguments = .ok t) :
    ∃ inner x, pending ix externals maxDepth entry = .ok inner ∧
      Explored ix externals withArguments (maxDepth - 1) { visited := entry :: entries.map (·.qualifiedName) } inner x ∧
      t.steps = { symbol := entry, depth := maxDepth, calls := x.calls } :: x.steps := by
  unfold walk at h
  obtain ⟨found, hf, h⟩ := bind_eq_ok h
  cases hr.symm.trans hf
  simp only [List.isEmpty_iff, hne, ↓reduceIte] at h
  obtain ⟨x, hx, h⟩ := bind_eq_ok h
  cases h
  obtain ⟨inner, hp, he⟩ := explored_of_expand hx
  exact ⟨inner, x, hp, he, rfl⟩

/-! ### The symbols met -/

/-- The symbols of the steps that are no back-references. -/
def newSymbols (steps : List Step) : List String :=
  (steps.filter (!·.isBack)).map (·.symbol)

/-- The symbols of the back-references. -/
def backSymbols (steps : List Step) : List String :=
  (steps.filter (·.isBack)).map (·.symbol)

@[simp] theorem newSymbols_nil : newSymbols [] = [] := rfl

@[simp] theorem backSymbols_nil : backSymbols [] = [] := rfl

@[simp] theorem newSymbols_append (a b : List Step) : newSymbols (a ++ b) = newSymbols a ++ newSymbols b := by
  simp [newSymbols]

@[simp] theorem backSymbols_append (a b : List Step) : backSymbols (a ++ b) = backSymbols a ++ backSymbols b := by
  simp [backSymbols]

@[simp] theorem newSymbols_cons (s : Step) (steps : List Step) :
    newSymbols (s :: steps) = if s.isBack then newSymbols steps else s.symbol :: newSymbols steps := by
  by_cases h : s.isBack = true <;> simp [newSymbols, h]

@[simp] theorem backSymbols_cons (s : Step) (steps : List Step) :
    backSymbols (s :: steps) = if s.isBack then s.symbol :: backSymbols steps else backSymbols steps := by
  by_cases h : s.isBack = true <;> simp [backSymbols, h]

theorem mem_newSymbols {steps : List Step} {symbol : String} :
    symbol ∈ newSymbols steps ↔ ∃ s ∈ steps, s.isBack = false ∧ s.symbol = symbol := by
  simp [newSymbols, and_assoc]

theorem mem_backSymbols {steps : List Step} {symbol : String} :
    symbol ∈ backSymbols steps ↔ ∃ s ∈ steps, s.isBack = true ∧ s.symbol = symbol := by
  simp [backSymbols, and_assoc]

theorem length_eq_new_add_back (steps : List Step) :
    steps.length = (newSymbols steps).length + (backSymbols steps).length := by
  induction steps with
  | nil => rfl
  | cons s steps ih =>
    by_cases h : s.isBack = true <;> simp [h, ih] <;> omega

/-- Where a step of two joined lists stands. -/
theorem split_append {ys xs pre post : List Step} {s : Step} (h : ys ++ xs = pre ++ s :: post) :
    (∃ mid, ys = pre ++ s :: mid) ∨ ∃ mid, pre = ys ++ mid ∧ xs = mid ++ s :: post := by
  rcases List.append_eq_append_iff.1 h with ⟨mid, hpre, hxs⟩ | ⟨mid, hys, hpost⟩
  · exact Or.inr ⟨mid, hpre, hxs⟩
  · cases mid with
    | nil => exact Or.inr ⟨[], by simpa using hys.symm, by simpa using hpost.symm⟩
    | cons m mid =>
      rw [List.cons_append, List.cons.injEq] at hpost
      exact Or.inl ⟨mid, hpost.1 ▸ hys⟩

namespace Explored

variable {depth : Nat} {seen : Seen} {calls : List (String × CallSite)} {x : Expansion}

theorem visited_eq (h : Explored ix externals withArguments depth seen calls x) :
    x.seen.visited = seen.visited ++ newSymbols x.steps := by
  induction h with
  | nil => simp
  | again _ _ _ ih => exact ih
  | back _ _ _ ih => simpa using ih
  | fresh _ _ _ _ _ ihBelow ihRest => simp [ihRest, ihBelow]

theorem backed_eq (h : Explored ix externals withArguments depth seen calls x) :
    x.seen.backed = seen.backed ++ backSymbols x.steps := by
  induction h with
  | nil => simp
  | again _ _ _ ih => exact ih
  | back _ _ _ ih => simpa using ih
  | fresh _ _ _ _ _ ihBelow ihRest => simp [ihRest, ihBelow]

/-- A symbol is met once, and not when it was met before. -/
theorem nodup_new (h : Explored ix externals withArguments depth seen calls x) :
    (newSymbols x.steps).Nodup ∧ ∀ symbol ∈ newSymbols x.steps, symbol ∉ seen.visited := by
  induction h with
  | nil => simp
  | again _ _ _ ih => exact ih
  | back _ _ _ ih => simpa using ih
  | @fresh depth seen target site calls inner entries y x hv _ _ below rest ihBelow ihRest =>
    obtain ⟨hbn, hbv⟩ := ihBelow
    obtain ⟨hrn, hrv⟩ := ihRest
    have hvis := below.visited_eq
    -- what comes behind the steps below is new to all symbols met until then
    have hrest : ∀ symbol ∈ newSymbols x.steps,
        symbol ∉ seen.visited ∧ symbol ≠ target ∧ symbol ∉ newSymbols y.steps := by
      intro symbol hs
      have := hrv symbol hs
      rw [hvis] at this
      simpa [not_or, and_assoc] using this
    have hbelow : ∀ symbol ∈ newSymbols y.steps, symbol ∉ seen.visited ∧ symbol ≠ target := by
      intro symbol hs
      simpa [not_or] using hbv symbol hs
    constructor
    · simp only [newSymbols_cons, newSymbols_append, Bool.false_eq_true, ↓reduceIte, List.nodup_cons,
        List.mem_append, not_or, List.nodup_append]
      exact ⟨⟨fun hm => (hbelow target hm).2 rfl, fun hm => (hrest target hm).2.1 rfl⟩, hbn, hrn,
        fun a ha b hb hab => (hrest b hb).2.2 (hab ▸ ha)⟩
    · intro symbol hs
      simp only [newSymbols_cons, newSymbols_append, Bool.false_eq_true, ↓reduceIte, List.mem_cons,
        List.mem_append] at hs
      rcases hs with rfl | hs | hs
      · exact hv
      · exact (hbelow symbol hs).1
      · exact (hrest symbol hs).1

/-- A symbol is listed once as a back-reference, and not when it was listed before. -/
theorem nodup_back (h : Explored ix externals withArguments depth seen calls x) :
    (backSymbols x.steps).Nodup ∧ ∀ symbol ∈ backSymbols x.steps, symbol ∉ seen.backed := by
  induction h with
  | nil => simp
  | again _ _ _ ih => exact ih
  | @back depth seen target site calls x _ hb _ ih =>
    obtain ⟨hn, hnew⟩ := ih
    have hrest : ∀ symbol ∈ backSymbols x.steps, symbol ∉ seen.backed ∧ symbol ≠ target := by
      intro symbol hs
      simpa [not_or] using hnew symbol hs
    constructor
    · simp only [backSymbols_cons, ↓reduceIte, List.nodup_cons]
      exact ⟨fun hm => (hrest target hm).2 rfl, hn⟩
    · intro symbol hs
      simp only [backSymbols_cons, ↓reduceIte, List.mem_cons] at hs
      rcases hs with rfl | hs
      · exact hb
      · exact (hrest symbol hs).1
  | @fresh depth seen target site calls inner entries y x _ _ _ below _ ihBelow ihRest =>
    obtain ⟨hbn, hbv⟩ := ihBelow
    obtain ⟨hrn, hrv⟩ := ihRest
    have hback := below.backed_eq
    have hrest : ∀ symbol ∈ backSymbols x.steps, symbol ∉ seen.backed ∧ symbol ∉ backSymbols y.steps := by
      intro symbol hs
      have := hrv symbol hs
      rw [hback] at this
      simpa [not_or] using this
    constructor
    · simp only [backSymbols_cons, backSymbols_append, Bool.false_eq_true, ↓reduceIte, List.nodup_append]
      exact ⟨hbn, hrn, fun a ha b hb hab => (hrest b hb).2 (hab ▸ ha)⟩
    · intro symbol hs
      simp only [backSymbols_cons, backSymbols_append, Bool.false_eq_true, ↓reduceIte, List.mem_append] at hs
      rcases hs with hs | hs
      · exact hbv symbol hs
      · exact (hrest symbol hs).1

/-! ### The calls of the steps -/

/-- Every call that is explored is listed, whether or not it is flagged. -/
theorem calls_eq (h : Explored ix externals withArguments depth seen calls x) :
    x.calls.map unflagged = calls.map fun c => listed withArguments false c.1 c.2 := by
  induction h with
  | nil => rfl
  | again _ _ _ ih => exact congrArg₂ List.cons rfl ih
  | back _ _ _ ih => exact congrArg₂ List.cons rfl ih
  | fresh _ _ _ _ _ _ ihRest => exact congrArg₂ List.cons rfl ihRest

theorem targets_eq (h : Explored ix externals withArguments depth seen calls x) :
    x.calls.map (·.target) = calls.map (·.1) := by
  have htargets := congrArg (List.map (·.target)) h.calls_eq
  rw [List.map_map, List.map_map] at htargets
  exact htargets

/-- A step that is no back-reference lists all calls out of its symbol, none at depth zero. -/
theorem calls_listed (h : Explored ix externals withArguments depth seen calls x) {s : Step} (hs : s ∈ x.steps)
    (hb : s.isBack = false) :
    ∃ entries inner, ix.symbols.resolve s.symbol = .ok entries ∧ s.isResolved = !entries.isEmpty ∧
      pending ix externals s.depth.toNat s.symbol = .ok inner ∧
      s.calls.map unflagged = inner.map fun c => listed withArguments false c.1 c.2 := by
  induction h with
  | nil => cases hs
  | again _ _ _ ih => exact ih hs
  | back _ _ _ ih =>
    rcases List.mem_cons.1 hs with rfl | hs
    · cases hb
    · exact ih hs
  | fresh _ hr hp below _ ihBelow ihRest =>
    rcases List.mem_cons.1 hs with rfl | hs
    · exact ⟨_, _, hr, rfl, hp, below.calls_eq⟩
    · rcases List.mem_append.1 hs with hs | hs
      · exact ihBelow hs
      · exact ihRest hs

theorem calls_spec (h : Explored ix externals withArguments depth seen calls x) {s : Step} (hs : s ∈ x.steps)
    (hb : s.isBack = false) :
    ∃ entries inner, ix.symbols.resolve s.symbol = .ok entries ∧ s.isResolved = !entries.isEmpty ∧
      pending ix externals s.depth.toNat s.symbol = .ok inner ∧ s.calls.map (·.target) = inner.map (·.1) := by
  obtain ⟨entries, inner, hr, hres, hp, hcalls⟩ := h.calls_listed hs hb
  have htargets := congrArg (List.map (·.target)) hcalls
  rw [List.map_map, List.map_map] at htargets
  exact ⟨entries, inner, hr, hres, hp, htargets⟩

/-- The calls that are not flagged lead to the new steps, one to each. -/
theorem newTargets_perm (h : Explored ix externals withArguments depth seen calls x) :
    (newTargets x.calls ++ x.steps.flatMap fun s => newTargets s.calls).Perm (newSymbols x.steps) := by
  induction h with
  | nil => exact .nil
  | again _ _ _ ih => simpa [newTargets, listed] using ih
  | back _ _ _ ih => simpa [newTargets, listed] using ih
  | @fresh depth seen target site calls inner entries y x _ _ _ _ _ ihBelow ihRest =>
    have hhead : newTargets (listed withArguments false target site :: x.calls) = target :: newTargets x.calls := rfl
    have hsteps : (newTargets x.calls ++ (newTargets y.calls ++ ((y.steps.flatMap fun s => newTargets s.calls) ++
        x.steps.flatMap fun s => newTargets s.calls))).Perm (newSymbols y.steps ++ newSymbols x.steps) := by
      rw [← List.append_assoc (newTargets y.calls)]
      exact (List.perm_append_comm_assoc _ _ _).trans (ihBelow.append ihRest)
    simpa [hhead] using hsteps

/-- The symbols of the steps are targets of calls. -/
theorem symbol_mem {targets : List String} (h : Explored ix externals withArguments depth seen calls x)
    (hcalls : ∀ c ∈ calls, c.1 ∈ targets)
    (hpending : ∀ depth symbol inner, pending ix externals depth symbol = .ok inner → ∀ c ∈ inner, c.1 ∈ targets)
    {s : Step} (hs : s ∈ x.steps) : s.symbol ∈ targets := by
  induction h with
  | nil => cases hs
  | again _ _ _ ih => exact ih (fun c hc => hcalls c (List.mem_cons_of_mem _ hc)) hs
  | back _ _ _ ih =>
    rcases List.mem_cons.1 hs with rfl | hs
    · exact hcalls _ (List.mem_cons_self ..)
    · exact ih (fun c hc => hcalls c (List.mem_cons_of_mem _ hc)) hs
  | fresh _ _ hp _ _ ihBelow ihRest =>
    rcases List.mem_cons.1 hs with rfl | hs
    · exact hcalls _ (List.mem_cons_self ..)
    · rcases List.mem_append.1 hs with hs | hs
      · exact ihBelow (hpending _ _ _ hp) hs
      · exact ihRest (fun c hc => hcalls c (List.mem_cons_of_mem _ hc)) hs

/-! ### Back-references -/

/-- A back-reference has no calls, and its symbol was met before it. -/
theorem back_spec (h : Explored ix externals withArguments depth seen calls x) {pre post : List Step} {s : Step}
    (hs : x.steps = pre ++ s :: post) (hb : s.isBack = true) :
    s.calls = [] ∧ s.symbol ∈ seen.visited ++ newSymbols pre := by
  induction h generalizing pre post with
  | nil => simp at hs
  | again _ _ _ ih => exact ih hs
  | back hv _ _ ih =>
    cases pre with
    | nil =>
      obtain ⟨rfl, -⟩ := List.cons.inj hs
      exact ⟨rfl, by simpa using hv⟩
    | cons p pre =>
      obtain ⟨rfl, htail⟩ := List.cons.inj hs
      simpa using ih htail
  | fresh _ _ _ below _ ihBelow ihRest =>
    cases pre with
    | nil =>
      obtain ⟨rfl, -⟩ := List.cons.inj hs
      cases hb
    | cons p pre =>
      obtain ⟨rfl, htail⟩ := List.cons.inj hs
      rcases split_append htail with ⟨mid, hy⟩ | ⟨mid, rfl, hx⟩
      · simpa using ihBelow hy
      · have := ihRest hx
        rw [below.visited_eq] at this
        simpa using this

end Explored

end CallIndex.Trace
