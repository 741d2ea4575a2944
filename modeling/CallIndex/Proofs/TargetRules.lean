import CallIndex.Proofs.PlainCalls

/-!
# The rules of call targets

What a chain of names calls is told by four rules, in which the names and the separators are two lists: a self-reference
with one member is a member of the owner, a single name and a chain of scopes stand for themselves, and of any other
chain the last two names count unless they are external (`Targets`).

* `Targets.unique`: the rules give one target at most.
* `target_follows_rules`: a written chain is cut into its names and separators, and its target is what the rules give.
-/

namespace CallIndex.Call

/-- The names of a chain. -/
def Chain.names (chain : Chain) : List String :=
  chain.allSegments.map String.ofList

/-- A name without the dollar signs at its front. -/
def bare (name : String) : String :=
  String.ofList (bareName name.toList)

/-- The target of a chain that begins with no self-reference. -/
inductive PlainTarget (externals : List String) : List String → List Separator → Option String → Prop
  /-- One name stands for itself. -/
  | single {name : String} : PlainTarget externals [name] [] (some name)
  /-- Scopes only: the chain stands for itself. -/
  | scopes {names : List String} {separators : List Separator} (hnames : 2 ≤ names.length)
      (hscopes : ∀ sep ∈ separators, sep = .scope) :
      PlainTarget externals names separators (some (Text.join "::" names))
  /-- Any other chain: the last two names, unless the root or the next-to-last name is external. -/
  | member {names front : List String} {separators : List Separator} {root left last : String}
      (hmember : ∃ sep ∈ separators, sep ≠ .scope) (hroot : names.head? = some root)
      (hlast : names = front ++ [left, last]) :
      PlainTarget externals names separators
        (if bare root ∈ externals ∨ bare left ∈ externals then none else some (bare left ++ "::" ++ bare last))

/-- The target of a chain inside the class `owner`. -/
inductive Targets (externals : List String) (owner : Option String) : List String → List Separator → Option String → Prop
  /-- A self-reference with one member: a member of the owner, and nothing without one. -/
  | own {self member : String} {sep : Separator} (hself : self ∈ selfNames) :
      Targets externals owner [self, member] [sep] (owner.map fun o => o ++ "::" ++ bare member)
  /-- A self-reference before two names or more is dropped. -/
  | dropped {self : String} {names : List String} {sep : Separator} {separators : List Separator} {r : Option String}
      (hself : self ∈ selfNames) (hnames : 2 ≤ names.length) (hrest : PlainTarget externals names separators r) :
      Targets externals owner (self :: names) (sep :: separators) r
  | plain {root : String} {names : List String} {separators : List Separator} {r : Option String}
      (hroot : names = [] ∨ root ∉ selfNames) (hplain : PlainTarget externals (root :: names) separators r) :
      Targets externals owner (root :: names) separators r

/-! ### Chains without a self-reference -/

private theorem isExternal_iff {externals : List String} {s : List Char} :
    isExternal externals s = true ↔ bare (String.ofList s) ∈ externals := by
  simp [isExternal, bare]

/-- A chain of scopes is its names with two colons between neighbours. -/
private theorem Chain.ofList_render_scopes {chain : Chain} (h : ∀ sep ∈ chain.separators, sep = .scope) :
    String.ofList chain.render = Text.join "::" chain.names := by
  obtain ⟨root, links⟩ := chain
  induction links generalizing root with
  | nil => simp [render, names, allSegments, Text.join]
  | cons l links ih =>
    obtain ⟨sep, segment⟩ := l
    have hsep : sep = .scope := h sep (List.mem_cons_self ..)
    have hlinks := ih segment fun s hs => h s (List.mem_cons_of_mem _ hs)
    have hrender : Chain.render ⟨root, (sep, segment) :: links⟩ =
        root ++ (Separator.scope.spelling ++ Chain.render ⟨segment, links⟩) := by
      simp [render, hsep]
    rw [hrender, String.ofList_append, String.ofList_append, hlinks]
    simp only [names, allSegments, List.map_cons, Text.join, String.intercalate_cons_cons, String.append_assoc]
    rfl

/-- The last two names of a chain with links. -/
private theorem Chain.names_eq_append {chain : Chain} {l : Separator × List Char}
    (hlast : chain.links.getLast? = some l) : ∃ front, chain.names = front ++
      [String.ofList (((chain.links.dropLast.getLast?).map (·.2)).getD chain.root), String.ofList l.2] := by
  obtain ⟨root, links⟩ := chain
  obtain ⟨links, rfl⟩ := List.getLast?_eq_some_iff.1 hlast
  rw [List.dropLast_concat]
  rcases List.eq_nil_or_concat links with rfl | ⟨links, m, rfl⟩
  · exact ⟨[], rfl⟩
  · refine ⟨String.ofList root :: links.map (fun l => String.ofList l.2), ?_⟩
    simp [names, allSegments, Function.comp_def]

private theorem plainTarget_chainTarget (externals : List String) (chain : Chain) :
    PlainTarget externals chain.names chain.separators ((chainTarget externals chain).map String.ofList) := by
  unfold chainTarget
  split
  · rename_i hnone
    obtain ⟨root, links⟩ := chain
    cases List.getLast?_eq_none_iff.1 hnone
    exact .single
  · rename_i sep last hlast
    obtain ⟨front, hnames⟩ := Chain.names_eq_append hlast
    split
    · rename_i hall
      have hscopes : ∀ s ∈ chain.separators, s = .scope := by simpa using hall
      rw [Option.map_some, Chain.ofList_render_scopes hscopes]
      exact .scopes (by simp [hnames]) hscopes
    · rename_i hall
      have hmember : ∃ s ∈ chain.separators, s ≠ .scope := by simpa using hall
      have htarget : PlainTarget externals chain.names chain.separators _ := .member hmember rfl hnames
      dsimp only
      split
      · rename_i hexternal
        rw [Bool.or_eq_true, isExternal_iff, isExternal_iff] at hexternal
        rwa [if_pos hexternal] at htarget
      · rename_i hexternal
        rw [Bool.or_eq_true, isExternal_iff, isExternal_iff] at hexternal
        rw [if_neg hexternal] at htarget
        simpa only [bare, String.toList_ofList, Option.map_some, String.ofList_append, String.ofList_toList] using htarget

/-- The rules exclude each other. -/
theorem PlainTarget.unique {externals names : List String} {separators : List Separator} {r r' : Option String}
    (h : PlainTarget externals names separators r) (h' : PlainTarget externals names separators r') : r = r' := by
  cases h with
  | single =>
    cases h' with
    | single => rfl
    | scopes hnames => simp at hnames
    | member hmember => simp at hmember
  | scopes hnames hscopes =>
    cases h' with
    | single => simp at hnames
    | scopes => rfl
    | member hmember =>
      obtain ⟨sep, hsep, hne⟩ := hmember
      exact absurd (hscopes sep hsep) hne
  | member hmember hroot hlast =>
    cases h' with
    | single => simp at hmember
    | scopes _ hscopes =>
      obtain ⟨sep, hsep, hne⟩ := hmember
      exact absurd (hscopes sep hsep) hne
    | member _ hroot' hlast' =>
      cases hroot.symm.trans hroot'
      obtain ⟨rfl, rfl⟩ : _ = _ ∧ _ = _ := by simpa using List.append_inj_right' (hlast.symm.trans hlast') rfl
      rfl

/-! ### Self-references -/

private theorem Chain.trim_render {chain : Chain} (h : chain.OfNames) : Text.trim chain.render = chain.render :=
  (Chain.solid_render h).trim_eq

private theorem targets_target? (externals : List String) (owner : Option String) {chain : Chain} (h : chain.OfNames) :
    Targets externals owner chain.names chain.separators (target? externals (String.ofList chain.render) owner) := by
  unfold target?
  rw [String.toList_ofList, Chain.trim_render h, Chain.cut_render h]
  obtain ⟨root, links⟩ := chain
  dsimp only
  split
  · rename_i hself
    have hself : String.ofList root ∈ selfNames := by simpa using hself
    match links with
    | [] => exact .plain (.inl rfl) .single
    | [(sep, member)] =>
      have hown : Targets externals owner [String.ofList root, String.ofList member] [sep] _ := .own hself
      simp only [bare, String.toList_ofList] at hown
      exact hown
    | (sep, first) :: l :: links =>
      exact .dropped hself (by simp) (plainTarget_chainTarget externals ⟨first, l :: links⟩)
  · rename_i hself
    exact .plain (.inr (by simpa using hself)) (plainTarget_chainTarget externals ⟨root, links⟩)

theorem Targets.unique {externals names : List String} {owner : Option String} {separators : List Separator}
    {r r' : Option String} (h : Targets externals owner names separators r)
    (h' : Targets externals owner names separators r') : r = r' := by
  cases h with
  | own hself =>
    cases h' with
    | own => rfl
    | dropped _ hnames => simp at hnames
    | plain hroot => exact absurd hroot (by simp [hself])
  | dropped hself hnames hrest =>
    cases h' with
    | own => simp at hnames
    | dropped _ _ hrest' => exact hrest.unique hrest'
    | plain hroot =>
      rcases hroot with rfl | hroot
      · simp at hnames
      · exact absurd hself hroot
  | plain hroot hplain =>
    cases h' with
    | own hself => exact absurd hroot (by simp [hself])
    | dropped hself hnames =>
      rcases hroot with rfl | hroot
      · simp at hnames
      · exact absurd hself hroot
    | plain _ hplain' => exact hplain.unique hplain'

/-- A written chain is cut into the names and separators that it was written from, also for the names alone.  Its target
is the one that the rules give, for every owner and all external names. -/
theorem target_follows_rules (externals : List String) (owner : Option String) {chain : Chain} (h : chain.OfNames) :
    Chain.cut (Text.trim chain.render) = chain ∧ targetSegments (String.ofList chain.render) = chain.names ∧
    ∀ r, target? externals (String.ofList chain.render) owner = r ↔
      Targets externals owner chain.names chain.separators r := by
  refine ⟨?_, ?_, fun r => ?_⟩
  · rw [Chain.trim_render h, Chain.cut_render h]
  · rw [targetSegments, String.toList_ofList, Chain.cut_render h, Chain.segments_eq_allSegments h]
    rfl
  · constructor
    · rintro rfl
      exact targets_target? externals owner h
    · exact fun htargets => (targets_target? externals owner h).unique htargets

/-- The self-reference is dropped before external names are looked for, and the last name is never looked for. -/
theorem repository_chain_target :
    let chain : Chain := ⟨"$this".toList, [(.arrow, "repo".toList), (.scope, "$items".toList),
      (.optionalArrow, "#load".toList)]⟩
    chain.OfNames ∧ Chain.cut (Text.trim chain.render) = chain ∧
      target? ["this", "load"] "$this->repo::$items?->#load" (some "Shop") = some "items::#load" := by
  intro chain
  have hnames : chain.OfNames := by
    rw [Chain.ofNames_iff]
    simp only [chain, List.forall_mem_cons]
    exact ⟨rfl, rfl, rfl, rfl, by simp⟩
  obtain ⟨hcut, -, hrules⟩ := target_follows_rules ["this", "load"] (some "Shop") hnames
  refine ⟨hnames, hcut, ?_⟩
  have hlast : ["repo", "$items", "#load"] = ["repo"] ++ ["$items", "#load"] := rfl
  have hmember : PlainTarget ["this", "load"] ["repo", "$items", "#load"] [.scope, .optionalArrow] _ :=
    .member ⟨.optionalArrow, by simp, by simp⟩ rfl hlast
  have htargets : Targets ["this", "load"] (some "Shop") chain.names chain.separators (some "items::#load") :=
    .dropped (by decide) (by decide) hmember
  exact (hrules _).2 htargets

end CallIndex.Call
