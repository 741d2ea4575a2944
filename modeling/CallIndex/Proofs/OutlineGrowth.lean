import CallIndex.Proofs.CodeStructure

/-!
# How outlines grow

A scan goes over the lines of a source once, and one line declares one thing at most: a class, a function or a method
(`Outline.Adds`).  So the declarations of an outline stand in order on lines of their own.  A method is added together
with its name in the class at some position, and classes keep their positions and names.

* `BlockState.OwnersBelow` says that the open blocks belong to classes that are there already; reading code keeps it.
* `Outline.Adds.sound`: what one line keeps of an outline, whatever the language (`Outline.Sound`).
-/

namespace CallIndex

open Source (Line)

/-! ### Owners of blocks -/

namespace BlockState

/-- The open blocks and the announced one are owned by positions below `n`. -/
def OwnersBelow (n : Nat) (st : BlockState Nat) : Prop :=
  ∀ b, b ∈ st.stack ∨ st.pending = some b → ∀ i, b.owner = some i → i < n

namespace OwnersBelow

variable {n : Nat} {st : BlockState Nat}

theorem mono {n' : Nat} (h : OwnersBelow n st) (hn : n ≤ n') : OwnersBelow n' st :=
  fun b hb i hi => Nat.lt_of_lt_of_le (h b hb i hi) hn

theorem announce (h : OwnersBelow n st) (kind : BlockKind) {owner : Option Nat} (howner : ∀ i, owner = some i → i < n) :
    OwnersBelow n (st.announce kind owner) := by
  intro b hb i hi
  rcases hb with hb | hb
  · exact h b (.inl hb) i hi
  · cases hb
    exact howner i hi

private theorem step (h : OwnersBelow n st) (c : Char) : OwnersBelow n (st.step c) := by
  unfold BlockState.step
  split
  · intro b hb i hi
    rcases hb with hb | hb
    · rcases List.mem_cons.1 hb with rfl | hb
      · -- the new block is the announced one, or a plain one without an owner
        cases hpending : st.pending with
        | none => simp [hpending] at hi
        | some block =>
          rw [hpending] at hi
          exact h block (.inr hpending) i hi
      · exact h b (.inl hb) i hi
    · cases hb
  · split
    · split
      · exact h
      · rename_i block outer hstack
        intro b hb i hi
        refine h b ?_ i hi
        rcases hb with hb | hb
        · exact .inl (hstack ▸ List.mem_cons_of_mem block hb)
        · exact .inr hb
    · split
      · intro b hb i hi
        rcases hb with hb | hb
        · exact h b (.inl hb) i hi
        · cases hb
      · exact h

theorem feed (h : OwnersBelow n st) (code : List Char) : OwnersBelow n (st.feed code) := by
  unfold BlockState.feed
  induction code generalizing st with
  | nil => exact h
  | cons c code ih => exact ih (h.step c)

theorem nearestClass? (h : OwnersBelow n st) {i : Nat} (hi : st.nearestClass? = some i) : i < n := by
  obtain ⟨b, hb, howner⟩ := Option.bind_eq_some_iff.1 hi
  exact h b (.inl (List.mem_of_find?_eq_some hb)) i howner

end OwnersBelow

end BlockState

namespace Extract

namespace Outline

/-! ### Outlines with the same declarations -/

/-- Two outlines differ in imports, exports and notes only. -/
structure SameDeclarations (o o' : Outline) : Prop where
  classes : o.classes = o'.classes
  functions : o.functions = o'.functions
  methods : o.methods = o'.methods

namespace SameDeclarations

variable {o o' : Outline}

theorem refl (o : Outline) : SameDeclarations o o :=
  ⟨rfl, rfl, rfl⟩

private theorem trans {p : Outline} (h : SameDeclarations o o') (h' : SameDeclarations o' p) : SameDeclarations o p :=
  ⟨h.classes.trans h'.classes, h.functions.trans h'.functions, h.methods.trans h'.methods⟩

theorem declare (h : SameDeclarations o o') (line : Nat) (name : String) : SameDeclarations (o.declare line name) o' :=
  ⟨h.classes, h.functions, h.methods⟩

theorem addImports (h : SameDeclarations o o') (names : List String) : SameDeclarations (o.addImports names) o' :=
  ⟨h.classes, h.functions, h.methods⟩

theorem addExports (h : SameDeclarations o o') (names : List String) : SameDeclarations (o.addExports names) o' :=
  ⟨h.classes, h.functions, h.methods⟩

theorem addProblems (h : SameDeclarations o o') (problems : List Problem) :
    SameDeclarations (problems.foldl Outline.addProblem o) o' := by
  rw [foldl_addProblem]
  exact ⟨h.classes, h.functions, h.methods⟩

theorem addClass (h : SameDeclarations o o') (c : ClassDecl) : SameDeclarations (o.addClass c) (o'.addClass c) :=
  ⟨congrArg (· ++ [c]) h.classes, h.functions, h.methods⟩

theorem addFunction (h : SameDeclarations o o') (f : FunctionDecl) :
    SameDeclarations (o.addFunction f) (o'.addFunction f) :=
  ⟨h.classes, congrArg (· ++ [f]) h.functions, h.methods⟩

theorem addMethod (h : SameDeclarations o o') (owner : Option Nat) (m : MethodDecl) :
    SameDeclarations (o.addMethod owner m) (o'.addMethod owner m) := by
  refine ⟨?_, h.functions, congrArg (· ++ [m]) h.methods⟩
  simp only [Outline.addMethod, h.classes]

private theorem addProperties (h : SameDeclarations o o') (owner : Nat) (names : List String) :
    SameDeclarations (o.addProperties owner names) (o'.addProperties owner names) := by
  refine ⟨?_, h.functions, h.methods⟩
  simp only [Outline.addProperties, h.classes]

end SameDeclarations

/-! ### What a line adds -/

/-- The name of the class at a position. -/
def classNameAt (o : Outline) (i : Nat) : Option String :=
  (o.classes[i]?).map (·.name)

/-- What the line with the number `number` may add to the declarations of an outline: one thing at most.  The names are
those of the class or function that it declares.  A method is entered in the class whose name it bears, unless it is
`Loose`. -/
inductive Adds (Loose : MethodDecl → Prop) (number : Nat) (o o' : Outline) : List String → Prop
  | nothing (h : SameDeclarations o' o) : Adds Loose number o o' []
  | properties (owner : Nat) (names : List String) (h : SameDeclarations o' (o.addProperties owner names)) :
      Adds Loose number o o' []
  | ofClass (c : ClassDecl) (hline : c.line = number) (hmethods : c.methodNames = []) (hproperties : c.propertyNames = [])
      (hinterfaces : c.interfaces ⊆ c.bases) (h : SameDeclarations o' (o.addClass c)) : Adds Loose number o o' [c.name]
  | ofFunction (f : FunctionDecl) (hline : f.line = number) (h : SameDeclarations o' (o.addFunction f)) :
      Adds Loose number o o' [f.name]
  | ofMethod (owner : Nat) (m : MethodDecl) (hline : m.line = number) (howner : o.classNameAt owner = some m.className)
      (h : SameDeclarations o' (o.addMethod (some owner) m)) : Adds Loose number o o' []
  | loose (m : MethodDecl) (hline : m.line = number) (hloose : Loose m) (h : SameDeclarations o' (o.addMethod none m)) :
      Adds Loose number o o' []

/-- The lines of all declarations. -/
def lines (o : Outline) : List Int :=
  o.classes.map (·.line) ++ o.functions.map (·.line) ++ o.methods.map (·.line)

/-- The classes and functions by line and name. -/
def topLevel (o : Outline) : List (Int × String) :=
  o.classes.map (fun c => (c.line, c.name)) ++ o.functions.map fun f => (f.line, f.name)

/-- The names of the methods that are entered in the classes of a name. -/
def methodNamesIn (o : Outline) (name : String) : List String :=
  (o.classes.filter fun c => c.name = name).flatMap (·.methodNames)

/-- The declarations of an outline stand in order on lines of their own before the line `number`, and each class lists
its properties once and its interfaces among its bases. -/
structure Ordered (number : Nat) (o : Outline) : Prop where
  classes : (o.classes.map (·.line)).Pairwise (· < ·)
  functions : (o.functions.map (·.line)).Pairwise (· < ·)
  methods : (o.methods.map (·.line)).Pairwise (· < ·)
  nodup : o.lines.Nodup
  bounds : ∀ line ∈ o.lines, 1 ≤ line ∧ line < number
  properties : ∀ c ∈ o.classes, c.propertyNames.Nodup
  interfaces : ∀ c ∈ o.classes, c.interfaces ⊆ c.bases

/-- What holds of the outline before the line `number` in every language.  Methods bear the names of classes, unless
they are `Loose`; where none can be, they are the methods that are entered in these classes. -/
structure Sound (Loose : MethodDecl → Prop) (number : Nat) (o : Outline) : Prop where
  ordered : o.Ordered number
  found : ∀ m ∈ o.methods, m.className ∈ o.classes.map (·.name) ∨ Loose m
  names_perm : (∀ m, ¬ Loose m) → ∀ name,
    ((o.methods.filter fun m => m.className = name).map (·.name)).Perm (o.methodNamesIn name)

theorem sound_empty (Loose : MethodDecl → Prop) (number : Nat) : Sound Loose number {} where
  ordered := ⟨.nil, .nil, .nil, List.nodup_nil, by simp [lines], by simp, by simp⟩
  found := by simp
  names_perm := fun _ _ => .nil

variable {Loose : MethodDecl → Prop} {number : Nat} {o o' : Outline} {names : List String}

theorem Sound.mono {Loose' : MethodDecl → Prop} (h : o.Sound Loose number) (hloose : ∀ m, Loose m → Loose' m) :
    o.Sound Loose' number where
  ordered := h.ordered
  found m hm := (h.found m hm).imp_right (hloose m)
  names_perm hnone := h.names_perm fun m hm => hnone m (hloose m hm)

/-! ### Changed classes -/

/-- What is in a list after one of its places has been changed. -/
private theorem mem_of_mem_modify {α : Type} {l : List α} {i : Nat} {f : α → α} {b : α} (h : b ∈ l.modify i f) :
    ∃ a ∈ l, b = a ∨ b = f a := by
  obtain ⟨j, hj⟩ := List.mem_iff_getElem?.1 h
  rw [List.getElem?_modify] at hj
  obtain ⟨a, ha, rfl⟩ := Option.map_eq_some_iff.1 hj
  refine ⟨a, List.mem_of_getElem? ha, ?_⟩
  split
  · exact .inr rfl
  · exact .inl rfl

/-- A change of one class that keeps a view of it keeps the view of all classes. -/
private theorem map_modify_eq {β : Type} {view : ClassDecl → β} {f : ClassDecl → ClassDecl}
    (h : ∀ c, view (f c) = view c) (l : List ClassDecl) (i : Nat) : (l.modify i f).map view = l.map view := by
  rw [map_modify (g := id) h, List.modify_id]

theorem map_addProperties {β : Type} {view : ClassDecl → β} (o : Outline) (owner : Nat) (names : List String)
    (h : ∀ c ps, view { c with propertyNames := ps } = view c) :
    (o.addProperties owner names).classes.map view = o.classes.map view :=
  map_modify_eq (fun c => h c _) o.classes owner

theorem map_addMethod {β : Type} {view : ClassDecl → β} (o : Outline) (owner : Option Nat) (m : MethodDecl)
    (h : ∀ c ns, view { c with methodNames := ns } = view c) :
    (o.addMethod owner m).classes.map view = o.classes.map view := by
  cases owner with
  | none => rfl
  | some i => exact map_modify_eq (fun c => h c _) o.classes i

private theorem nodup_addNames (names : List String) {ps : List String} (h : ps.Nodup) :
    (names.foldl (fun ps p => if ps.contains p then ps else ps ++ [p]) ps).Nodup := by
  induction names generalizing ps with
  | nil => exact h
  | cons p names ih =>
    apply ih
    dsimp only
    split
    · exact h
    · rename_i hp
      have hnew : p ∉ ps := by simpa using hp
      simpa [List.nodup_append, h] using fun q hq => ne_of_mem_of_not_mem hq hnew

private theorem methodNamesIn_eq (o : Outline) (name : String) :
    o.methodNamesIn name = (o.classes.map fun c => if c.name = name then c.methodNames else []).flatten := by
  unfold methodNamesIn
  induction o.classes with
  | nil => rfl
  | cons c classes ih =>
    by_cases hc : c.name = name
    · simp [hc, ih]
    · simp [hc, ih]

/-! ### What one line keeps -/

namespace Ordered

/-- A line that declares nothing is passed. -/
theorem passed (h : Ordered number o) : Ordered (number + 1) o :=
  { h with bounds := fun line hline => by have := h.bounds line hline; omega }

private theorem of_same (h : Ordered number o) (hsame : SameDeclarations o' o) : Ordered number o' := by
  have hlines : o'.lines = o.lines := by
    simp only [lines, hsame.classes, hsame.functions, hsame.methods]
  refine ⟨?_, ?_, ?_, hlines ▸ h.nodup, hlines ▸ h.bounds, ?_, ?_⟩
  · rw [hsame.classes]
    exact h.classes
  · rw [hsame.functions]
    exact h.functions
  · rw [hsame.methods]
    exact h.methods
  · rw [hsame.classes]
    exact h.properties
  · rw [hsame.classes]
    exact h.interfaces

/-- Lines in order before `number`, and `number` behind them. -/
private theorem concat (h : Ordered number o) {ls : List Int} (hls : ls ⊆ o.lines) (hsorted : ls.Pairwise (· < ·)) :
    (ls ++ [(number : Int)]).Pairwise (· < ·) := by
  rw [List.pairwise_append]
  refine ⟨hsorted, List.pairwise_singleton _ _, ?_⟩
  intro a ha b hb
  rw [List.mem_singleton.1 hb]
  exact (h.bounds a (hls ha)).2

/-- The line `number` has been free. -/
private theorem nodup_of_perm (h : Ordered number o) (hperm : o'.lines.Perm (number :: o.lines)) : o'.lines.Nodup := by
  refine hperm.nodup_iff.2 (List.nodup_cons.2 ⟨fun hmem => ?_, h.nodup⟩)
  have := h.bounds number hmem
  omega

private theorem bounds_of_perm (h : Ordered number o) (hnumber : 1 ≤ number)
    (hperm : o'.lines.Perm (number :: o.lines)) : ∀ line ∈ o'.lines, 1 ≤ line ∧ line < (number + 1 : Nat) := by
  intro line hline
  rcases List.mem_cons.1 (hperm.mem_iff.1 hline) with rfl | hline
  · omega
  · have := h.bounds line hline
    omega

private theorem addProperties (h : Ordered number o) (owner : Nat) (names : List String) :
    Ordered number (o.addProperties owner names) := by
  have hclasses : (o.addProperties owner names).classes.map (·.line) = o.classes.map (·.line) :=
    map_addProperties o owner names fun _ _ => rfl
  have hlines : (o.addProperties owner names).lines = o.lines := by
    unfold lines
    rw [hclasses]
    rfl
  refine ⟨hclasses ▸ h.classes, h.functions, h.methods, hlines ▸ h.nodup, hlines ▸ h.bounds, ?_, ?_⟩
  · intro c hc
    obtain ⟨c', hc', rfl | rfl⟩ := mem_of_mem_modify hc
    · exact h.properties c hc'
    · exact nodup_addNames names (h.properties c' hc')
  · intro c hc
    obtain ⟨c', hc', rfl | rfl⟩ := mem_of_mem_modify hc
    · exact h.interfaces c hc'
    · exact h.interfaces c' hc'

theorem addClass (h : Ordered number o) (hnumber : 1 ≤ number) {c : ClassDecl} (hline : c.line = number)
    (hproperties : c.propertyNames = []) (hinterfaces : c.interfaces ⊆ c.bases) : Ordered (number + 1) (o.addClass c) := by
  have hperm : (o.addClass c).lines.Perm (number :: o.lines) := by
    simp only [lines, Outline.addClass, List.map_append, List.map_cons, List.map_nil, List.append_assoc, hline]
    exact List.perm_middle
  refine ⟨?_, h.functions, h.methods, h.nodup_of_perm hperm, h.bounds_of_perm hnumber hperm, ?_, ?_⟩
  · simp only [Outline.addClass, List.map_append, List.map_cons, List.map_nil, hline]
    exact h.concat (by simp [lines]) h.classes
  · intro c' hc'
    rcases List.mem_append.1 hc' with hc' | hc'
    · exact h.properties c' hc'
    · rw [List.mem_singleton.1 hc', hproperties]
      exact List.nodup_nil
  · intro c' hc'
    rcases List.mem_append.1 hc' with hc' | hc'
    · exact h.interfaces c' hc'
    · rw [List.mem_singleton.1 hc']
      exact hinterfaces

theorem addFunction (h : Ordered number o) (hnumber : 1 ≤ number) {f : FunctionDecl} (hline : f.line = number) :
    Ordered (number + 1) (o.addFunction f) := by
  have hperm : (o.addFunction f).lines.Perm (number :: o.lines) := by
    simp only [lines, Outline.addFunction, List.map_append, List.map_cons, List.map_nil, hline, ← List.append_assoc]
    rw [List.append_assoc (_ ++ _)]
    exact List.perm_middle
  refine ⟨h.classes, ?_, h.methods, h.nodup_of_perm hperm, h.bounds_of_perm hnumber hperm, h.properties, h.interfaces⟩
  simp only [Outline.addFunction, List.map_append, List.map_cons, List.map_nil, hline]
  exact h.concat (by simp [lines]) h.functions

theorem addMethod (h : Ordered number o) (hnumber : 1 ≤ number) (owner : Option Nat) {m : MethodDecl}
    (hline : m.line = number) : Ordered (number + 1) (o.addMethod owner m) := by
  have hclasses : (o.addMethod owner m).classes.map (·.line) = o.classes.map (·.line) :=
    map_addMethod o owner m fun _ _ => rfl
  have hmethods : (o.addMethod owner m).methods.map (·.line) = o.methods.map (·.line) ++ [(number : Int)] := by
    simp [Outline.addMethod, hline]
  have hperm : (o.addMethod owner m).lines.Perm (number :: o.lines) := by
    unfold lines
    rw [hclasses, hmethods, ← List.append_assoc]
    exact List.perm_append_singleton _ _
  refine ⟨hclasses ▸ h.classes, h.functions, ?_, h.nodup_of_perm hperm, h.bounds_of_perm hnumber hperm, ?_, ?_⟩
  · rw [hmethods]
    exact h.concat (by simp [lines]) h.methods
  · intro c hc
    have hlisted : c.propertyNames ∈ o.classes.map (·.propertyNames) := by
      rw [← map_addMethod o owner m fun _ _ => rfl]
      exact List.mem_map_of_mem hc
    obtain ⟨c', hc', heq⟩ := List.mem_map.1 hlisted
    exact heq ▸ h.properties c' hc'
  · intro c hc
    have hlisted : (c.interfaces, c.bases) ∈ o.classes.map fun c => (c.interfaces, c.bases) := by
      rw [← map_addMethod o owner m fun _ _ => rfl]
      exact List.mem_map_of_mem hc
    obtain ⟨c', hc', heq⟩ := List.mem_map.1 hlisted
    obtain ⟨hinterfaces, hbases⟩ := Prod.mk.inj heq
    rw [← hinterfaces, ← hbases]
    exact h.interfaces c' hc'

end Ordered

namespace Adds

theorem of_same {p : Outline} (h : Adds Loose number p o' names) (hsame : SameDeclarations p o) :
    Adds Loose number o o' names := by
  cases h with
  | nothing h => exact .nothing (h.trans hsame)
  | properties owner names h => exact .properties owner names (h.trans (hsame.addProperties owner names))
  | ofClass c hline hmethods hproperties hinterfaces h =>
    exact .ofClass c hline hmethods hproperties hinterfaces (h.trans (hsame.addClass c))
  | ofFunction f hline h => exact .ofFunction f hline (h.trans (hsame.addFunction f))
  | ofMethod owner m hline howner h =>
    rw [Outline.classNameAt, hsame.classes] at howner
    exact .ofMethod owner m hline howner (h.trans (hsame.addMethod (some owner) m))
  | loose m hline hm h => exact .loose m hline hm (h.trans (hsame.addMethod none m))

/-- Classes keep their places and their names. -/
private theorem classNames_prefix (h : Adds Loose number o o' names) :
    o.classes.map (·.name) <+: o'.classes.map (·.name) := by
  have hkept : o'.classes.map (·.name) = o.classes.map (·.name) →
      o.classes.map (·.name) <+: o'.classes.map (·.name) := fun hnames => hnames ▸ List.prefix_rfl
  cases h with
  | nothing h => exact hkept (by rw [h.classes])
  | properties owner names h => exact hkept (by rw [h.classes, map_addProperties o owner names fun _ _ => rfl])
  | ofClass c _ _ _ _ h =>
    rw [h.classes]
    exact ⟨[c.name], by simp [Outline.addClass]⟩
  | ofFunction f _ h => exact hkept (congrArg (List.map (·.name)) h.classes)
  | ofMethod owner m _ _ h => exact hkept (by rw [h.classes, map_addMethod o (some owner) m fun _ _ => rfl])
  | loose m _ _ h => exact hkept (by rw [h.classes, map_addMethod o none m fun _ _ => rfl])

theorem classNameAt (h : Adds Loose number o o' names) {i : Nat} {name : String} (hi : o.classNameAt i = some name) :
    o'.classNameAt i = some name := by
  unfold Outline.classNameAt at hi ⊢
  rw [← List.getElem?_map] at hi ⊢
  obtain ⟨more, hmore⟩ := h.classNames_prefix
  obtain ⟨hlt, -⟩ := List.getElem?_eq_some_iff.1 hi
  rw [← hmore, List.getElem?_append_left hlt]
  exact hi

theorem length_classes_le (h : Adds Loose number o o' names) : o.classes.length ≤ o'.classes.length := by
  simpa using h.classNames_prefix.length_le

private theorem ordered (h : Adds Loose number o o' names) (hnumber : 1 ≤ number) (ho : o.Ordered number) :
    o'.Ordered (number + 1) := by
  cases h with
  | nothing h => exact ho.passed.of_same h
  | properties owner names h => exact (ho.addProperties owner names).passed.of_same h
  | ofClass c hline _ hproperties hinterfaces h => exact (ho.addClass hnumber hline hproperties hinterfaces).of_same h
  | ofFunction f hline h => exact (ho.addFunction hnumber hline).of_same h
  | ofMethod owner m hline _ h => exact (ho.addMethod hnumber (some owner) hline).of_same h
  | loose m hline _ h => exact (ho.addMethod hnumber none hline).of_same h

end Adds

/-- A method that is added is listed behind the others of its class. -/
private theorem filter_methods_addMethod (o : Outline) (owner : Option Nat) (m : MethodDecl) (name : String) :
    ((o.addMethod owner m).methods.filter fun m => m.className = name).map (·.name) =
      (o.methods.filter fun m => m.className = name).map (·.name) ++ if m.className = name then [m.name] else [] := by
  simp only [Outline.addMethod, List.filter_append, List.map_append]
  by_cases hname : m.className = name
  · simp [hname]
  · simp [hname]

/-- A method that is entered in a class of its name is one more method of that name, and of no other. -/
private theorem methodNamesIn_addMethod {owner : Nat} {m : MethodDecl} (howner : o.classNameAt owner = some m.className)
    (name : String) : ((o.addMethod (some owner) m).methodNamesIn name).Perm
      (o.methodNamesIn name ++ if m.className = name then [m.name] else []) := by
  obtain ⟨c, hc, hclass⟩ := Option.map_eq_some_iff.1 howner
  obtain ⟨hlt, -⟩ := List.getElem?_eq_some_iff.1 hc
  obtain ⟨left, c', right, hsplit, hleft, hmodify⟩ := List.exists_of_modify
    (fun c : ClassDecl => { c with methodNames := c.methodNames ++ [m.name] }) hlt
  obtain rfl : c' = c := by
    rw [hsplit, ← hleft] at hc
    simpa using hc
  unfold methodNamesIn
  rw [show (o.addMethod (some owner) m).classes = _ from hmodify, hsplit]
  by_cases hname : m.className = name
  · -- the new name stands behind those of its class, and moves behind those of the later classes
    have hmove : ∀ a b d : List String, (a ++ (b ++ m.name :: d)).Perm (a ++ (b ++ (d ++ [m.name]))) :=
      fun a b d => ((List.perm_append_singleton m.name d).symm.append_left b).append_left a
    simpa [hclass, hname] using hmove _ _ _
  · simp [hclass, hname]

namespace Adds

private theorem found (h : Adds Loose number o o' names)
    (ho : ∀ m ∈ o.methods, m.className ∈ o.classes.map (·.name) ∨ Loose m) :
    ∀ m ∈ o'.methods, m.className ∈ o'.classes.map (·.name) ∨ Loose m := by
  have hold : ∀ m ∈ o.methods, m.className ∈ o'.classes.map (·.name) ∨ Loose m :=
    fun m hm => (ho m hm).imp_left fun hname => h.classNames_prefix.subset hname
  have hkept : ∀ {i name}, o.classNameAt i = some name → o'.classNameAt i = some name := h.classNameAt
  cases h with
  | nothing h => exact h.methods ▸ hold
  | properties owner names h => exact h.methods ▸ hold
  | ofClass c _ _ _ _ h => exact h.methods ▸ hold
  | ofFunction f _ h => exact h.methods ▸ hold
  | ofMethod owner m _ howner h =>
    intro m' hm'
    rw [h.methods] at hm'
    rcases List.mem_append.1 hm' with hm' | hm'
    · exact hold m' hm'
    · obtain ⟨c, hc, hname⟩ := Option.map_eq_some_iff.1 (hkept howner)
      rw [List.mem_singleton.1 hm', ← hname]
      exact .inl (List.mem_map_of_mem (List.mem_of_getElem? hc))
  | loose m _ hloose h =>
    intro m' hm'
    rw [h.methods] at hm'
    rcases List.mem_append.1 hm' with hm' | hm'
    · exact hold m' hm'
    · rw [List.mem_singleton.1 hm']
      exact .inr hloose

private theorem names_perm (h : Adds Loose number o o' names) (hnone : ∀ m, ¬ Loose m)
    (ho : ∀ name, ((o.methods.filter fun m => m.className = name).map (·.name)).Perm (o.methodNamesIn name))
    (name : String) : ((o'.methods.filter fun m => m.className = name).map (·.name)).Perm (o'.methodNamesIn name) := by
  -- both sides look at classes and methods only
  have hsame : ∀ {p : Outline}, SameDeclarations o' p →
      ((p.methods.filter fun m => m.className = name).map (·.name)).Perm (p.methodNamesIn name) →
      ((o'.methods.filter fun m => m.className = name).map (·.name)).Perm (o'.methodNamesIn name) := by
    intro p h hp
    unfold methodNamesIn
    rw [h.methods, h.classes]
    exact hp
  cases h with
  | nothing h => exact hsame h (ho name)
  | properties owner names h =>
    apply hsame h
    rw [methodNamesIn_eq, map_addProperties o owner names fun _ _ => rfl, ← methodNamesIn_eq]
    exact ho name
  | ofClass c _ hmethods _ _ h =>
    apply hsame h
    have hnew : (o.addClass c).methodNamesIn name = o.methodNamesIn name := by
      simp [methodNamesIn_eq, Outline.addClass, hmethods]
    rw [hnew]
    exact ho name
  | ofFunction f _ h => exact hsame h (ho name)
  | ofMethod owner m _ howner h =>
    apply hsame h
    rw [filter_methods_addMethod]
    exact ((ho name).append_right _).trans (methodNamesIn_addMethod howner name).symm
  | loose m _ hloose h => exact absurd hloose (hnone m)

theorem sound (h : Adds Loose number o o' names) (hnumber : 1 ≤ number) (ho : o.Sound Loose number) :
    o'.Sound Loose (number + 1) where
  ordered := h.ordered hnumber ho.ordered
  found := h.found ho.found
  names_perm := fun hnone => h.names_perm hnone (ho.names_perm hnone)

/-- The classes and functions become more by those whose names a line adds. -/
private theorem topLevel_perm (h : Adds Loose number o o' names) :
    o'.topLevel.Perm (o.topLevel ++ names.map fun name => ((number : Int), name)) := by
  unfold topLevel
  cases h with
  | nothing h => simp [h.classes, h.functions]
  | properties owner names h =>
    rw [h.classes, h.functions, map_addProperties o owner names fun _ _ => rfl]
    simp [Outline.addProperties]
  | ofClass c hline _ _ _ h =>
    rw [h.classes, h.functions]
    simp only [Outline.addClass, List.map_append, List.map_cons, List.map_nil, hline, List.append_assoc]
    exact List.perm_append_comm.append_left _
  | ofFunction f hline h =>
    rw [h.classes, h.functions]
    simp [Outline.addFunction, hline]
  | ofMethod owner m _ _ h =>
    rw [h.classes, h.functions, map_addMethod o (some owner) m fun _ _ => rfl]
    simp [Outline.addMethod]
  | loose m _ _ h =>
    rw [h.classes, h.functions]
    simp [Outline.addMethod]

end Adds

/-- The exports are the names of the classes and functions in the order of their lines. -/
def ListsTopLevel (o : Outline) : Prop :=
  ∃ decls : List (Int × String), decls.Perm o.topLevel ∧ decls.Pairwise (fun a b => a.1 < b.1) ∧
    o.exports = decls.map (·.2)

theorem ListsTopLevel.adds (h : o.ListsTopLevel) (hordered : o.Ordered number) (hadds : Adds Loose number o o' names)
    (hexports : o'.exports = o.exports ++ names) : o'.ListsTopLevel := by
  obtain ⟨decls, hperm, hsorted, heq⟩ := h
  refine ⟨decls ++ names.map fun name => ((number : Int), name), ?_, ?_, ?_⟩
  · exact (hperm.append_right _).trans hadds.topLevel_perm.symm
  · rw [List.pairwise_append]
    refine ⟨hsorted, ?_, ?_⟩
    · cases hadds with
      | ofClass => exact List.pairwise_singleton _ _
      | ofFunction => exact List.pairwise_singleton _ _
      | _ => exact .nil
    · intro a ha b hb
      have hline : a.1 ∈ o.lines := by
        have := List.mem_map_of_mem (f := Prod.fst) (hperm.mem_iff.1 ha)
        simp only [topLevel, List.map_append, List.map_map] at this
        exact List.mem_append_left _ this
      obtain ⟨name, -, rfl⟩ := List.mem_map.1 hb
      exact (hordered.bounds a.1 hline).2
  · rw [hexports, heq]
    simp [Function.comp_def]

end Outline

end Extract

end CallIndex
