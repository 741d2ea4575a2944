import CallIndex.Proofs.CodeStructure
import CallIndex.Proofs.Recogniser

/-!
# Names of declarations

Whatever a source holds, the names of its classes, functions and methods are made of characters of words, dollar signs
and number signs (`IsName`).  This is read off the recognisers of the headings, and kept by every line of a scan
(`Outline.Named`).  So a name holds no colon, no slash and no blank.

* `named_findingsIn`: the declarations of every source in every language are named.
-/

namespace CallIndex

open Text (Scan isWord isBlank)
open Source (Line)

/-! ### Characters of names -/

/-- A character of a declared name. -/
def isNameChar (c : Char) : Bool :=
  isWord c || c.isAlpha || c = '$' || c = '#'

/-- The name of a declaration: characters of names, and not none. -/
structure IsName (name : String) : Prop where
  ne_empty : name ≠ ""
  chars : ∀ c ∈ name.toList, isNameChar c = true

/-- The code points of some intervals. -/
private def codesOf (ranges : List (Nat × Nat)) : List Nat :=
  ranges.flatMap fun r => List.range' r.1 (r.2 + 1 - r.1)

private theorem mem_codesOf {n : Nat} {ranges : List (Nat × Nat)} (h : Text.inRanges n ranges = true) :
    n ∈ codesOf ranges := by
  induction ranges with
  | nil => cases h
  | cons r ranges ih =>
    rw [Text.inRanges] at h
    rw [codesOf, List.flatMap_cons, List.mem_append]
    split at h
    · cases h
    · split at h
      · exact .inl (List.mem_range'_1.2 ⟨by omega, by omega⟩)
      · exact .inr (ih h)

set_option maxRecDepth 8000 in
theorem not_isBlank_of_isNameChar {c : Char} (h : isNameChar c = true) : isBlank c = false := by
  have hcodes : ∀ n ∈ codesOf Text.blankRanges, isNameChar (Char.ofNat n) = false := by decide
  by_contra hblank
  have := hcodes _ (mem_codesOf (Bool.not_eq_false _ ▸ hblank))
  rw [Char.ofNat_toNat, h] at this
  cases this

theorem ne_colon_of_isNameChar {c : Char} (h : isNameChar c = true) : c ≠ ':' := by
  rintro rfl
  exact absurd h (by decide)

theorem ne_slash_of_isNameChar {c : Char} (h : isNameChar c = true) : c ≠ '/' := by
  rintro rfl
  exact absurd h (by decide)

private theorem isNameChar_of_isWord {c : Char} (h : isWord c = true) : isNameChar c = true := by
  simp [isNameChar, h]

theorem not_isWord_of_isBlank {c : Char} (h : isBlank c = true) : isWord c = false := by
  cases hword : isWord c with
  | false => rfl
  | true =>
    rw [not_isBlank_of_isNameChar (isNameChar_of_isWord hword)] at h
    cases h

/-! ### Names that are read -/

private theorem IsName.ofList {w : List Char} (hne : w ≠ []) (hw : ∀ c ∈ w, isNameChar c = true) :
    IsName (String.ofList w) :=
  ⟨fun h => hne (by simpa using congrArg String.toList h), by simpa using hw⟩

namespace Extract

open Text.Scan (Yields)

namespace Python

private theorem yields_identifier : Yields identifier IsName := by
  refine (Yields.one _).bind fun first hfirst => (Yields.run _).bind fun more hmore => Yields.pure ?_
  apply IsName.ofList (by simp)
  intro c hc
  rcases List.mem_cons.1 hc with rfl | hc
  · exact isNameChar_of_isWord (Bool.and_eq_true_iff.1 hfirst).1
  · exact isNameChar_of_isWord (hmore c hc)

private theorem yields_classHead : Yields classHead fun head => IsName head.1 :=
  .bind_right fun _ => .bind_right fun _ => .bind_right fun _ => yields_identifier.bind fun _ hname =>
    .bind_right fun _ => .bind_right fun _ => .pure hname

private theorem yields_defHead : Yields defHead fun head => IsName head.name :=
  .bind_right fun _ => .bind_right fun _ => .bind_right fun _ => .bind_right fun _ =>
    yields_identifier.bind fun _ hname => .bind_right fun _ => .bind_right fun _ => .bind_right fun _ => .pure hname

end Python

namespace JavaScript

private theorem yields_identifier : Yields identifier IsName := by
  refine (Yields.one _).bind fun first hfirst => (Yields.run _).bind fun more hmore => Yields.pure ?_
  apply IsName.ofList (by simp)
  intro c hc
  rcases List.mem_cons.1 hc with rfl | hc
  · rcases Bool.or_eq_true_iff.1 hfirst with halpha | hdollar
    · rcases Bool.or_eq_true_iff.1 halpha with halpha | hunderscore
      · simp [isNameChar, halpha]
      · exact isNameChar_of_isWord (by simp [isWord, of_decide_eq_true hunderscore])
    · simp [isNameChar, of_decide_eq_true hdollar]
  · rcases Bool.or_eq_true_iff.1 (hmore c hc) with hword | hdollar
    · exact isNameChar_of_isWord hword
    · simp [isNameChar, of_decide_eq_true hdollar]

private theorem yields_memberName : Yields memberName IsName := by
  refine .bind_right fun isPrivate => yields_identifier.bind fun name hname => .pure ?_
  split
  · refine ⟨fun h => by simpa using congrArg String.toList h, fun c hc => ?_⟩
    rw [String.toList_append, List.mem_append] at hc
    rcases hc with hc | hc
    · obtain rfl : c = '#' := by simpa using hc
      rfl
    · exact hname.chars c hc
  · exact hname

private theorem yields_classHead : Yields classHead fun head => IsName head.name :=
  .bind_right fun _ => .bind_right fun _ => .bind_right fun _ => .bind_right fun _ => .bind_right fun _ =>
    .bind_right fun _ => yields_identifier.bind fun _ hname => .bind_right fun _ => .bind_right fun _ =>
      .bind_right fun _ => .pure hname

private theorem yields_functionHead : Yields functionHead fun head => IsName head.name :=
  .bind_right fun _ => .bind_right fun _ => .bind_right fun _ => .bind_right fun _ => .bind_right fun _ =>
    .bind_right fun _ => .bind_right fun _ => .bind_right fun _ => yields_identifier.bind fun _ hname =>
      .bind_right fun _ => .bind_right fun _ => .bind_right fun _ => .bind_right fun _ => .bind_right fun _ =>
        .pure hname

private theorem yields_boundFunction : Yields boundFunction fun head => IsName head.name :=
  .bind_right fun _ => .bind_right fun _ => .bind_right fun _ => yields_identifier.bind fun _ hname =>
    .bind_right fun _ => .pure hname

/-- Modifiers do not change what is read behind them. -/
private theorem yields_behindModifiers {α : Type} {p : Scan α} {Q : α → Prop} (hp : Yields p Q) :
    Yields (behindModifiers p) fun x => Q x.2 := by
  have hbare : ∀ {s : List Char} {x : List String × α} {r : List Char},
      ((p s).map fun y => (([], y.1), y.2)) = some (x, r) → Q x.2 := by
    intro s x r h
    obtain ⟨⟨a, t⟩, ha, hx⟩ := Option.map_eq_some_iff.1 h
    cases hx
    exact hp s _ _ ha
  intro s
  fun_induction behindModifiers p s with
  | case1 s _ => exact fun x r h => hbare h
  | case2 s word t _ _ words a r hrest ih =>
    intro x r' h
    cases h
    exact ih (words, a) r hrest
  | case3 s word t _ _ _ ih => exact fun x r h => hbare h
  | case4 s word t _ _ => exact fun x r h => hbare h

private theorem yields_methodHead : Yields methodHead fun head => IsName head.2.1 :=
  .bind_right fun _ => yields_behindModifiers (Q := fun head : String × List Char => IsName head.1)
    (.bind_right fun _ => .bind_right fun _ => yields_memberName.bind fun _ hname => .bind_right fun _ =>
      .bind_right fun _ => .bind_right fun _ => .bind_right fun _ => .bind_right fun _ => .bind_right fun _ =>
        .bind_right fun _ => .pure hname)

private theorem yields_fieldFunction : Yields fieldFunction fun head => IsName head.2.name :=
  .bind_right fun _ => yields_behindModifiers (Q := fun head : FunctionHead => IsName head.name)
    (yields_memberName.bind fun _ hname => .bind_right fun _ => .pure hname)

private theorem yields_prototypeHead : Yields prototypeHead fun head => IsName head.1 ∧ IsName head.2.name :=
  .bind_right fun _ => yields_identifier.bind fun _ hclass => .bind_right fun _ =>
    yields_identifier.bind fun _ hname => .bind_right fun _ => .bind_right fun _ => .bind_right fun _ =>
      .bind_right fun _ => .bind_right fun _ => .bind_right fun _ => .bind_right fun _ => .bind_right fun _ =>
        .bind_right fun _ => .bind_right fun _ => .bind_right fun _ => .pure ⟨hclass, hname⟩

end JavaScript

namespace Php

private theorem yields_word : Yields word IsName :=
  (Yields.run1 _).bind fun _ hw => .pure (IsName.ofList hw.1 fun c hc => isNameChar_of_isWord (hw.2 c hc))

private theorem yields_classHead : Yields classHead fun head => IsName head.name :=
  .bind_right fun _ => .bind_right fun _ => .bind_right fun _ => yields_word.bind fun _ hname =>
    .bind_right fun _ => .bind_right fun _ => .bind_right fun _ => .pure hname

private theorem yields_functionHead : Yields functionHead fun head => IsName head.name :=
  .bind_right fun _ => .bind_right fun _ => .bind_right fun _ => .bind_right fun _ => .bind_right fun _ =>
    yields_word.bind fun _ hname => .bind_right fun _ => .bind_right fun _ => .bind_right fun _ => .pure hname

end Php

/-! ### Named outlines -/

/-- The declarations of an outline are named, and so are the classes of its methods. -/
structure Outline.Named (o : Outline) : Prop where
  classes : ∀ c ∈ o.classes, IsName c.name
  functions : ∀ f ∈ o.functions, IsName f.name
  methods : ∀ m ∈ o.methods, IsName m.name
  owners : ∀ m ∈ o.methods, ∀ c ∈ m.className.toList, isNameChar c = true

namespace Outline

variable {o : Outline}

private theorem named_empty : Named {} :=
  ⟨by simp, by simp, by simp, by simp⟩

namespace Named

/-- What an outline notes beside its declarations does not matter. -/
private theorem of_eq {o' : Outline} (h : Named o) (hc : o'.classes = o.classes) (hf : o'.functions = o.functions)
    (hm : o'.methods = o.methods) : Named o' :=
  ⟨hc ▸ h.classes, hf ▸ h.functions, hm ▸ h.methods, hm ▸ h.owners⟩

private theorem declare (h : Named o) (line : Nat) (name : String) : Named (o.declare line name) :=
  h.of_eq rfl rfl rfl

private theorem addImports (h : Named o) (names : List String) : Named (o.addImports names) :=
  h.of_eq rfl rfl rfl

private theorem addExports (h : Named o) (names : List String) : Named (o.addExports names) :=
  h.of_eq rfl rfl rfl

private theorem addProblems (h : Named o) (problems : List Problem) : Named (problems.foldl addProblem o) := by
  rw [foldl_addProblem]
  exact h.of_eq rfl rfl rfl

private theorem addClass (h : Named o) {c : ClassDecl} (hc : IsName c.name) : Named (o.addClass c) :=
  { h with classes := by simpa [Outline.addClass, or_imp, forall_and] using ⟨h.classes, hc⟩ }

private theorem addFunction (h : Named o) {f : FunctionDecl} (hf : IsName f.name) : Named (o.addFunction f) :=
  { h with functions := by simpa [Outline.addFunction, or_imp, forall_and] using ⟨h.functions, hf⟩ }

/-- An update of a class that keeps its name. -/
private theorem classes_modify (h : Named o) (i : Nat) {f : ClassDecl → ClassDecl} (hf : ∀ c, (f c).name = c.name) :
    ∀ c ∈ o.classes.modify i f, IsName c.name := by
  intro c hc
  obtain ⟨j, hj⟩ := List.mem_iff_getElem?.1 hc
  rw [List.getElem?_modify] at hj
  obtain ⟨c', hc', rfl⟩ := Option.map_eq_some_iff.1 hj
  have hname := h.classes c' (List.mem_of_getElem? hc')
  split
  · rw [hf]
    exact hname
  · exact hname

private theorem addMethod (h : Named o) (owner : Option Nat) {m : MethodDecl} (hm : IsName m.name)
    (howner : ∀ c ∈ m.className.toList, isNameChar c = true) : Named (o.addMethod owner m) := by
  refine ⟨?_, h.functions, ?_, ?_⟩
  · cases owner with
    | none => exact h.classes
    | some i => exact h.classes_modify i fun _ => rfl
  · simpa [Outline.addMethod, or_imp, forall_and] using ⟨h.methods, hm⟩
  · intro m' hm'
    rcases List.mem_append.1 hm' with hm' | hm'
    · exact h.owners m' hm'
    · rw [List.mem_singleton.1 hm']
      exact howner

private theorem addProperties (h : Named o) (owner : Nat) (names : List String) : Named (o.addProperties owner names) :=
  ⟨h.classes_modify owner fun _ => rfl, h.functions, h.methods, h.owners⟩

/-- The name of the class at a position, which may be missing. -/
private theorem className (h : Named o) (i : Nat) :
    ∀ c ∈ (((o.classes[i]?).map (·.name)).getD "").toList, isNameChar c = true := by
  cases hi : o.classes[i]? with
  | none => simp
  | some decl => exact (h.classes decl (List.mem_of_getElem? hi)).chars

end Named

end Outline

namespace Python

/-- The outline of a scan is named, and so are its open scopes. -/
structure State.Named (st : State) : Prop where
  outline : st.outline.Named
  scopes : ∀ scope ∈ st.scopes, IsName scope.name

variable {st : State}

private theorem readClass_named (h : State.Named st) (number indent : Nat) (line : Line) (rest : List Line)
    {name : String} (hname : IsName name) (behind : Option (List Char)) :
    State.Named (readClass st number indent line rest name behind) := by
  have hdeclared := h.outline.declare number name
  unfold readClass
  dsimp only
  split
  · exact ⟨(hdeclared.addProblems _).addClass hname, by simpa using ⟨hname, h.scopes⟩⟩
  · exact ⟨hdeclared, by simpa using ⟨hname, h.scopes⟩⟩

private theorem readDef_named (h : State.Named st) (number indent : Nat) (line : Line) (rest : List Line)
    {head : DefHead} (hname : IsName head.name) : State.Named (readDef st number indent line rest head) := by
  unfold readDef
  generalize parameters number line rest head.behind = params
  have houtline := (h.outline.declare number head.name).addProblems params.2
  dsimp only
  split
  · exact ⟨houtline.addFunction hname, by simpa using ⟨hname, h.scopes⟩⟩
  · rename_i parent hparent
    have howner := h.scopes parent (List.mem_of_mem_head? hparent)
    split
    · exact ⟨houtline.addMethod _ hname howner.chars, by simpa using ⟨hname, h.scopes⟩⟩
    · exact ⟨houtline, by simpa using ⟨hname, h.scopes⟩⟩

private theorem readStatement_named {o : Outline} (h : o.Named) (parent : Option Scope) (number : Nat) (line : Line)
    (rest : List Line) : (readStatement o parent number line rest).Named := by
  unfold readStatement
  split
  · exact h.addImports _
  · split
    · exact h.addImports _
    · split
      · split
        · exact (h.addExports _).addProblems _
        · exact h
      · split
        · exact h
        · split
          · exact h.addProperties _ _
          · exact h.addProperties _ _

private theorem readSignificant_named (h : State.Named st) (number : Nat) (line : Line) (rest : List Line) :
    State.Named (readSignificant st number line rest) := by
  unfold readSignificant
  generalize Source.indentWidth line.code = indent
  have hpopped : State.Named { st with scopes := st.scopes.dropWhile (indent ≤ ·.indent) } :=
    ⟨h.outline, fun scope hscope => h.scopes scope (List.dropWhile_subset _ hscope)⟩
  dsimp only
  split
  · exact ⟨h.outline, hpopped.scopes⟩
  · split
    · rename_i name behind hclass
      exact readClass_named hpopped number indent line rest (yields_classHead.of_firstOf hclass) behind
    · split
      · rename_i head hdef
        exact readDef_named hpopped number indent line rest (yields_defHead.of_firstOf hdef)
      · exact ⟨readStatement_named h.outline _ number line rest, hpopped.scopes⟩

private theorem readLine_named (st : State) (number : Nat) (line : Line) (rest : List Line) (h : State.Named st) :
    State.Named (readLine st number line rest) := by
  unfold readLine
  dsimp only
  split
  · exact ⟨h.outline, h.scopes⟩
  · have hread := readSignificant_named h number line rest
    exact ⟨hread.outline, hread.scopes⟩

private theorem named_findings (content : List Char) : (findings content).outline.Named :=
  (runLines_induct readLine (fun _ _ st => State.Named st) (readLine_named _ _ _ _) _
    ⟨Outline.named_empty, by simp⟩).outline

end Python

namespace JavaScript

variable {st : BlockScan}

private theorem readMethod_named (h : st.outline.Named) (owner number : Nat) (modifiers : List String) {name : String}
    (hname : IsName name) (isAsync : Bool) (params : List String × List Problem) :
    (readMethod st owner number modifiers name isAsync params).outline.Named := by
  have houtline := (h.declare number name).addProblems params.2
  unfold readMethod
  exact houtline.addMethod (some owner) hname (houtline.className owner)

private theorem readMember_named (h : st.outline.Named) (owner number : Nat) (line : Line) (rest : List Line) :
    (readMember st owner number line rest).outline.Named := by
  unfold readMember
  dsimp only
  split
  · rename_i modifiers head hfield
    split at hfield
    · exact readMethod_named h owner number _ (yields_fieldFunction.of_firstOf hfield) _ _
    · cases hfield
  · split
    · rename_i modifiers name behind hmethod
      have hread := (Option.filter_eq_some_iff.1 hmethod).1
      exact readMethod_named h owner number _ (yields_methodHead.of_firstOf hread) _ _
    · split
      · exact h.addProperties owner _
      · exact h

private theorem readFunction_named (h : st.outline.Named) (number : Nat) (line : Line) (rest : List Line)
    {head : FunctionHead} (hname : IsName head.name) : (readFunction st number line rest head).outline.Named := by
  unfold readFunction
  generalize parameters number line rest head.params = params
  have houtline := (h.declare number head.name).addProblems params.2
  dsimp only
  split
  · exact houtline
  · exact houtline.addFunction hname

private theorem functionOn?_named {code : List Char} {head : FunctionHead} (h : functionOn? code = some head) :
    IsName head.name := by
  unfold functionOn? at h
  split at h
  · rename_i head' hhead
    cases h
    exact yields_functionHead.of_firstOf hhead
  · split at h
    · exact yields_boundFunction.of_firstOf h
    · cases h

private theorem readDeclarations_named (h : st.outline.Named) (number : Nat) (line : Line) (rest : List Line) :
    (readDeclarations st number line rest).outline.Named := by
  unfold readDeclarations
  dsimp only
  split
  · rename_i head hclass
    have hname := yields_classHead.of_firstOf hclass
    unfold readClass
    dsimp only
    split
    · exact (h.declare number head.name).addClass hname
    · exact h.declare number head.name
  · split
    · split
      · exact readMember_named h _ number line rest
      · exact h
    · split
      · rename_i className head hprototype
        split at hprototype
        · obtain ⟨hclass, hname⟩ := yields_prototypeHead.of_firstOf hprototype
          exact ((h.declare number head.name).addProblems _).addMethod _ hname hclass.chars
        · cases hprototype
      · split
        · rename_i head hfunction
          exact readFunction_named h number line rest (functionOn?_named hfunction)
        · split
          · exact h.addProperties _ _
          · exact h

private theorem readLine_named (st : BlockScan) (number : Nat) (line : Line) (rest : List Line) (h : st.outline.Named) :
    (readLine st number line rest).outline.Named := by
  unfold readLine
  dsimp only
  split
  · exact h
  · exact readDeclarations_named ((h.addImports _).addExports _) number line rest

private theorem named_findings (content : List Char) : (findings content).outline.Named :=
  runLines_induct readLine (fun _ _ st => st.outline.Named) (readLine_named _ _ _ _) _ Outline.named_empty

end JavaScript

namespace Php

variable {st : BlockScan}

private theorem readFunction_named (h : st.outline.Named) (number : Nat) (line : Line) (rest : List Line)
    {head : FunctionHead} (hname : IsName head.name) : (readFunction st number line rest head).outline.Named := by
  unfold readFunction
  generalize bracketParts number (line :: rest) (line.code.length - head.behind.length - 1) = params
  have houtline := (h.declare number head.name).addProblems params.2
  dsimp only
  split
  · split
    · exact houtline.addMethod _ hname (houtline.className _)
    · exact houtline
  · split
    · exact (houtline.addFunction hname).addExports _
    · exact houtline

private theorem readDeclarations_named (h : st.outline.Named) (number : Nat) (line : Line) (rest : List Line) :
    (readDeclarations st number line rest).outline.Named := by
  have himports := h.addImports (includedFile? line).toList
  unfold readDeclarations
  dsimp only
  split
  · rename_i head hclass
    have hname := yields_classHead.of_firstOf hclass
    unfold readClass
    dsimp only
    split
    · exact ((himports.declare number head.name).addClass hname).addExports _
    · exact himports.declare number head.name
  · split
    · rename_i head hfunction
      exact readFunction_named himports number line rest (yields_functionHead.of_firstOf hfunction)
    · unfold readProperties
      dsimp only
      split
      · exact himports
      · split
        · exact himports.addProperties _ _
        · exact himports.addProperties _ _

private theorem readLine_named (st : BlockScan) (number : Nat) (line : Line) (rest : List Line) (h : st.outline.Named) :
    (readLine st number line rest).outline.Named := by
  unfold readLine readSignificant
  dsimp only
  split
  · exact h
  · split
    · exact h
    · exact h
    · split
      · exact h.addImports _
      · exact readDeclarations_named h number line rest

private theorem named_findings (content : List Char) : (findings content).outline.Named :=
  runLines_induct readLine (fun _ _ st => st.outline.Named) (readLine_named _ _ _ _) _ Outline.named_empty

end Php

end Extract

theorem named_findingsIn (language : String) (content : List Char) : (findingsIn language content).outline.Named := by
  unfold findingsIn
  split_ifs
  · exact Extract.Python.named_findings content
  · exact Extract.JavaScript.named_findings content
  · exact Extract.Php.named_findings content
  · exact Extract.Outline.named_empty

end CallIndex
