import CallIndex.Proofs.OutlineGrowth
import CallIndex.Proofs.Recogniser

/-!
# The shape of a summary

Whatever a source holds, its summary is well-formed: declarations stand in order on lines of their own, calls are in
order, and methods belong to classes of the file.  For this the open blocks of a scan must lead to classes that are in
the outline already, for text of any kind.

* `Python.readLine_adds`, `JavaScript.readLine_adds` and `Php.readLine_adds`: what one line adds in each language.
* `summarize_wellFormed`: the summary of every text in every language is well-formed.
-/

namespace CallIndex

open Source (Line)
open Text (Scan isBlank)

/-! ### Lines of calls -/

namespace Call

variable {keywords : List String} {declared : List (Nat × String)}

theorem line_of_mem_lineCalls {number : Nat} {line : Line} {o : Occurrence}
    (h : o ∈ lineCalls keywords declared number line) : o.line = number := by
  obtain ⟨hit, -, hhit⟩ := List.mem_filterMap.1 h
  split at hhit
  · cases hhit
    rfl
  · cases hhit

theorem line_of_mem_scanCallsFrom {number : Nat} {lines : List Line} {o : Occurrence}
    (h : o ∈ scanCallsFrom keywords declared number lines) :
    (number : Int) ≤ o.line ∧ o.line < number + lines.length := by
  induction lines generalizing number with
  | nil => cases h
  | cons line rest ih =>
    rw [List.length_cons]
    rcases List.mem_append.1 h with h | h
    · have := line_of_mem_lineCalls h
      omega
    · have := ih h
      omega

/-- Calls are listed line by line. -/
private theorem pairwise_scanCallsFrom (number : Nat) (lines : List Line) :
    ((scanCallsFrom keywords declared number lines).map (·.line)).Pairwise (· ≤ ·) := by
  rw [List.pairwise_map]
  induction lines generalizing number with
  | nil => exact .nil
  | cons line rest ih =>
    rw [scanCallsFrom, List.pairwise_append]
    refine ⟨?_, ih (number + 1), ?_⟩
    · apply List.pairwise_of_forall_mem_list
      intro a ha b hb
      rw [line_of_mem_lineCalls ha, line_of_mem_lineCalls hb]
    · intro a ha b hb
      have hline := line_of_mem_lineCalls ha
      have hrest := line_of_mem_scanCallsFrom hb
      omega

end Call

namespace Extract

/-! ### Python -/

namespace Python

open Outline (SameDeclarations Adds)

variable {Loose : MethodDecl → Prop} {number : Nat} {o o' : Outline} {names : List String} {st : State}

/-- Every open class body leads to a class of its name. -/
def Owned (o : Outline) (scopes : List Scope) : Prop :=
  ∀ scope ∈ scopes, scope.kind = .classBody → ∃ i, scope.owner = some i ∧ o.classNameAt i = some scope.name

private theorem Owned.adds {scopes : List Scope} (h : Owned o scopes) (hadds : Adds Loose number o o' names) :
    Owned o' scopes := by
  intro scope hscope hkind
  obtain ⟨i, howner, hname⟩ := h scope hscope hkind
  exact ⟨i, howner, hadds.classNameAt hname⟩

private theorem Owned.cons {scopes : List Scope} (h : Owned o scopes) {scope : Scope}
    (hkind : scope.kind ≠ .classBody) : Owned o (scope :: scopes) := by
  intro scope' hscope' hkind'
  rcases List.mem_cons.1 hscope' with rfl | hscope'
  · exact absurd hkind' hkind
  · exact h scope' hscope' hkind'

private theorem readClass_adds (Loose : MethodDecl → Prop) (st : State) (h : Owned st.outline st.scopes)
    (number indent : Nat) (line : Line) (rest : List Line) (name : String) (behind : Option (List Char)) :
    ∃ names, Adds Loose number st.outline (readClass st number indent line rest name behind).outline names ∧
      Owned (readClass st number indent line rest name behind).outline
        (readClass st number indent line rest name behind).scopes := by
  have hdeclared := (SameDeclarations.refl st.outline).declare number name
  unfold readClass
  dsimp only
  split
  · have hadds : ∀ bases : List String × List Problem, Adds Loose number st.outline
        ((bases.2.foldl Outline.addProblem (st.outline.declare number name)).addClass
          { name := name, line := number, bases := bases.1 }) [name] :=
      fun bases => .ofClass _ rfl rfl rfl (List.nil_subset _) ((hdeclared.addProblems bases.2).addClass _)
    refine ⟨[name], hadds _, ?_⟩
    intro scope hscope hkind
    rcases List.mem_cons.1 hscope with rfl | hscope
    · exact ⟨_, rfl, by simp [Outline.classNameAt, Outline.addClass]⟩
    · exact h.adds (hadds _) scope hscope hkind
  · have hadds : Adds Loose number st.outline _ [] := .nothing hdeclared
    exact ⟨[], hadds, (h.adds hadds).cons (by simp)⟩

private theorem readDef_adds (Loose : MethodDecl → Prop) (st : State) (h : Owned st.outline st.scopes)
    (number indent : Nat) (line : Line) (rest : List Line) (head : DefHead) :
    ∃ names, Adds Loose number st.outline (readDef st number indent line rest head).outline names ∧
      Owned (readDef st number indent line rest head).outline (readDef st number indent line rest head).scopes := by
  unfold readDef
  generalize parameters number line rest head.behind = params
  have hsame := ((SameDeclarations.refl st.outline).declare number head.name).addProblems params.2
  dsimp only
  split
  · have hadds : Adds Loose number st.outline _ [head.name] :=
      .ofFunction { name := head.name, line := number, parameters := params.1, isAsync := head.isAsync } rfl
        (hsame.addFunction _)
    exact ⟨[head.name], hadds, (h.adds hadds).cons (by simp)⟩
  · rename_i parent hparent
    split
    · rename_i hkind
      obtain ⟨i, howner, hname⟩ := h parent (List.mem_of_mem_head? hparent) hkind
      rw [howner]
      have hadds : Adds Loose number st.outline _ [] :=
        .ofMethod i
          { className := parent.name, name := head.name, line := number
            parameters := params.1.filter fun p => p ≠ "self" && p ≠ "cls"
            isAsync := head.isAsync, isStatic := st.decorators.contains "staticmethod" }
          rfl hname (hsame.addMethod (some i) _)
      exact ⟨[], hadds, (h.adds hadds).cons (by simp)⟩
    · have hadds : Adds Loose number st.outline _ [] := .nothing hsame
      exact ⟨[], hadds, (h.adds hadds).cons (by simp)⟩

private theorem readStatement_adds (Loose : MethodDecl → Prop) (o : Outline) (parent : Option Scope) (number : Nat)
    (line : Line) (rest : List Line) : Adds Loose number o (readStatement o parent number line rest) [] := by
  have hsame := SameDeclarations.refl o
  unfold readStatement
  split
  · exact .nothing (hsame.addImports _)
  · split
    · exact .nothing (hsame.addImports _)
    · split
      · split
        · exact .nothing ((hsame.addExports _).addProblems _)
        · exact .nothing hsame
      · split
        · exact .nothing hsame
        · split
          · exact .properties _ _ (.refl _)
          · exact .properties _ _ (.refl _)

/-- One line adds one declaration at most, and leaves open what leads to classes. -/
theorem readLine_adds (Loose : MethodDecl → Prop) (h : Owned st.outline st.scopes) (number : Nat) (line : Line)
    (rest : List Line) :
    ∃ names, Adds Loose number st.outline (readLine st number line rest).outline names ∧
      Owned (readLine st number line rest).outline (readLine st number line rest).scopes := by
  unfold readLine
  dsimp only
  split
  · exact ⟨[], .nothing (.refl _), h⟩
  · unfold readSignificant
    generalize Source.indentWidth line.code = indent
    have hpopped : Owned st.outline (st.scopes.dropWhile (indent ≤ ·.indent)) :=
      fun scope hscope => h scope (List.dropWhile_subset _ hscope)
    dsimp only
    split
    · exact ⟨[], .nothing (.refl _), hpopped⟩
    · split
      · exact readClass_adds Loose { st with scopes := st.scopes.dropWhile (indent ≤ ·.indent) } hpopped number indent
          line rest _ _
      · split
        · exact readDef_adds Loose { st with scopes := st.scopes.dropWhile (indent ≤ ·.indent) } hpopped number indent
            line rest _
        · have hadds := readStatement_adds Loose st.outline (st.scopes.dropWhile (indent ≤ ·.indent)).head? number line
            rest
          exact ⟨[], hadds, hpopped.adds hadds⟩

private theorem sound_runLines (lines : List Line) :
    (runLines readLine {} 1 lines).outline.Sound (fun _ => False) (1 + lines.length) := by
  refine (runLines_induct readLine (fun _ number (st : State) =>
    1 ≤ number ∧ st.outline.Sound (fun _ => False) number ∧ Owned st.outline st.scopes) ?_ lines
    ⟨le_rfl, Outline.sound_empty _ 1, by simp [Owned]⟩).2.1
  rintro st number line rest ⟨hpos, hsound, howned⟩
  obtain ⟨names, hadds, howned⟩ := readLine_adds (fun _ => False) howned number line rest
  exact ⟨hpos.step, hadds.sound hpos hsound, howned⟩

end Python

/-! ### Languages with braces -/

/-- The blocks of a scan belong to classes of its outline. -/
def BlockScan.Owned (st : BlockScan) : Prop :=
  st.blocks.OwnersBelow st.outline.classes.length

private theorem BlockScan.owned_empty : BlockScan.Owned {} := by
  simp [BlockScan.Owned, BlockState.OwnersBelow]

/-! ### JavaScript and TypeScript -/

namespace JavaScript

open Outline (SameDeclarations Adds)

/-- The code assigns to a member of the prototype of a class. -/
def AssignsPrototype (code : List Char) (className member : String) : Prop :=
  ∃ before between behind, (∀ c ∈ before ++ between, isBlank c) ∧
    code = before ++ className.toList ++ ".prototype.".toList ++ member.toList ++ between ++ '=' :: behind

private theorem eq_append_of_identifier {s r : List Char} {name : String} (h : identifier s = some (name, r)) :
    s = name.toList ++ r := by
  obtain ⟨first, t, hfirst, h⟩ := Scan.bind_eq_some h
  obtain ⟨more, t', hmore, h⟩ := Scan.bind_eq_some h
  cases h
  cases hmore
  cases s with
  | nil => cases hfirst
  | cons c s =>
    simp only [Scan.one] at hfirst
    split at hfirst
    · cases hfirst
      simp
    · cases hfirst

private theorem blanks_spec {s r : List Char} (h : Scan.blanks s = some ((), r)) :
    ∃ w, (∀ c ∈ w, isBlank c) ∧ s = w ++ r := by
  cases h
  exact ⟨s.takeWhile isBlank, fun c hc => List.mem_takeWhile_imp hc, List.takeWhile_append_dropWhile.symm⟩

private theorem eq_cons_of_char {c : Char} {s r : List Char} (h : Scan.char c s = some ((), r)) : s = c :: r := by
  cases s with
  | nil => cases h
  | cons d s =>
    simp only [Scan.char] at h
    split at h
    · rename_i hd
      cases h
      rw [hd]
    · cases h

private theorem assignsPrototype_of_prototypeHead {code : List Char} {className : String} {head : FunctionHead}
    (h : Scan.firstOf prototypeHead code = some (className, head)) : AssignsPrototype code className head.name := by
  obtain ⟨⟨_, r⟩, h, rfl⟩ := Option.map_eq_some_iff.1 h
  obtain ⟨_, s₁, hbefore, h⟩ := Scan.bind_eq_some h
  obtain ⟨owner, s₂, howner, h⟩ := Scan.bind_eq_some h
  obtain ⟨_, s₃, hmark, h⟩ := Scan.bind_eq_some h
  obtain ⟨name, s₄, hname, h⟩ := Scan.bind_eq_some h
  obtain ⟨_, s₅, hbetween, h⟩ := Scan.bind_eq_some h
  obtain ⟨_, s₆, hequals, h⟩ := Scan.bind_eq_some h
  -- what stands behind the equals sign goes into neither of the two names
  have hnames : className = owner ∧ head.name = name := by
    refine (?_ : Scan.Yields _ fun x => x.1 = owner ∧ x.2.name = name) s₆ (className, head) r h
    repeat refine .bind_right fun _ => ?_
    exact .pure ⟨rfl, rfl⟩
  obtain ⟨before, hblank, hs⟩ := blanks_spec hbefore
  obtain ⟨between, hblank', hs'⟩ := blanks_spec hbetween
  obtain ⟨r', hr', hr''⟩ := Option.map_eq_some_iff.1 hmark
  cases hr''
  refine ⟨before, between, s₆, ?_, ?_⟩
  · intro c hc
    rcases List.mem_append.1 hc with hc | hc
    · exact hblank c hc
    · exact hblank' c hc
  · rw [hs, eq_append_of_identifier howner, Text.eq_append_of_dropFront? hr', eq_append_of_identifier hname, hs',
      eq_cons_of_char hequals, hnames.1, hnames.2]
    simp

variable {Loose : MethodDecl → Prop} {number : Nat} {st : BlockScan} {line : Line}

private theorem readClass_adds (Loose : MethodDecl → Prop) (h : st.Owned) (number : Nat) (head : ClassHead) :
    ∃ names, Adds Loose number st.outline (readClass st number head).outline names ∧
      (readClass st number head).Owned := by
  have hdeclared := (SameDeclarations.refl st.outline).declare number head.name
  unfold readClass
  dsimp only
  split
  · have hadds : Adds Loose number st.outline _ [head.name] :=
      .ofClass
        { name := head.name, line := number, bases := head.base.toList ++ interfaceNames head.implemented
          interfaces := interfaceNames head.implemented }
        rfl rfl rfl (List.subset_append_right _ _) (hdeclared.addClass _)
    refine ⟨[head.name], hadds, (h.mono hadds.length_classes_le).announce .classBody ?_⟩
    intro i hi
    cases hi
    simp [Outline.addClass]
  · exact ⟨[], .nothing hdeclared, BlockState.OwnersBelow.announce h .functionBody (by simp)⟩

private theorem readMethod_adds (Loose : MethodDecl → Prop) (h : st.Owned) {owner : Nat}
    (howner : owner < st.outline.classes.length) (number : Nat) (modifiers : List String) (name : String)
    (isAsync : Bool) (params : List String × List Problem) :
    Adds Loose number st.outline (readMethod st owner number modifiers name isAsync params).outline [] ∧
      (readMethod st owner number modifiers name isAsync params).Owned := by
  have hsame := ((SameDeclarations.refl st.outline).declare number name).addProblems params.2
  have hadds : Adds Loose number st.outline (readMethod st owner number modifiers name isAsync params).outline [] := by
    unfold readMethod
    refine .ofMethod owner _ rfl ?_ (hsame.addMethod (some owner) _)
    simp [Outline.classNameAt, hsame.classes, howner]
  exact ⟨hadds, (h.mono hadds.length_classes_le).announce .functionBody (by simp)⟩

private theorem readMember_adds (Loose : MethodDecl → Prop) (h : st.Owned) {owner : Nat}
    (howner : owner < st.outline.classes.length) (number : Nat) (line : Line) (rest : List Line) :
    Adds Loose number st.outline (readMember st owner number line rest).outline [] ∧
      (readMember st owner number line rest).Owned := by
  unfold readMember
  dsimp only
  split
  · exact readMethod_adds Loose h howner number _ _ _ _
  · split
    · exact readMethod_adds Loose h howner number _ _ _ _
    · split
      · exact ⟨.properties owner _ (.refl _), h.mono (by simp [Outline.addProperties])⟩
      · exact ⟨.nothing (.refl _), h⟩

/-- A method of the prototype is entered in the first class of its name, or is loose. -/
private theorem readPrototype_adds (hloose : ∀ m : MethodDecl, m.line = number →
      AssignsPrototype line.code m.className m.name → Loose m) (h : st.Owned) (rest : List Line) {className : String}
    {head : FunctionHead} (hassigns : AssignsPrototype line.code className head.name) :
    Adds Loose number st.outline (readPrototype st number line rest className head).outline [] ∧
      (readPrototype st number line rest className head).Owned := by
  have hadds : Adds Loose number st.outline (readPrototype st number line rest className head).outline [] := by
    unfold readPrototype
    generalize parameters number line rest head.params = params
    have hsame := ((SameDeclarations.refl st.outline).declare number head.name).addProblems params.2
    suffices hmethod : ∀ m : MethodDecl, m.line = number → m.className = className → m.name = head.name →
        Adds Loose number st.outline
          ((params.2.foldl Outline.addProblem (st.outline.declare number head.name)).addMethod
            (st.outline.classes.findIdx? fun c => c.name = className) m) [] by
      dsimp only
      rw [hsame.classes]
      exact hmethod _ rfl rfl rfl
    intro m hline hclass hname
    cases hfind : st.outline.classes.findIdx? fun c => c.name = className with
    | none => exact .loose m hline (hloose m hline (hclass ▸ hname ▸ hassigns)) (hsame.addMethod none m)
    | some i =>
      refine .ofMethod i m hline ?_ (hsame.addMethod (some i) m)
      obtain ⟨hlt, hfound, -⟩ := List.findIdx?_eq_some_iff_getElem.1 hfind
      simpa [Outline.classNameAt, hlt, hclass] using hfound
  exact ⟨hadds, (h.mono hadds.length_classes_le).announce .functionBody (by simp)⟩

private theorem readFunction_adds (Loose : MethodDecl → Prop) (h : st.Owned) (number : Nat) (line : Line)
    (rest : List Line) (head : FunctionHead) :
    ∃ names, Adds Loose number st.outline (readFunction st number line rest head).outline names ∧
      (readFunction st number line rest head).Owned := by
  have hadds : ∃ names, Adds Loose number st.outline (readFunction st number line rest head).outline names := by
    unfold readFunction
    generalize parameters number line rest head.params = params
    have hsame := ((SameDeclarations.refl st.outline).declare number head.name).addProblems params.2
    dsimp only
    split
    · exact ⟨[], .nothing hsame⟩
    · exact ⟨[head.name], .ofFunction
        { name := head.name, line := number, parameters := params.1, isAsync := head.isAsync } rfl
        (hsame.addFunction _)⟩
  obtain ⟨names, hadds⟩ := hadds
  exact ⟨names, hadds, (h.mono hadds.length_classes_le).announce .functionBody (by simp)⟩

private theorem readDeclarations_adds (hloose : ∀ m : MethodDecl, m.line = number →
      AssignsPrototype line.code m.className m.name → Loose m) (h : st.Owned) (rest : List Line) :
    ∃ names, Adds Loose number st.outline (readDeclarations st number line rest).outline names ∧
      (readDeclarations st number line rest).Owned := by
  unfold readDeclarations
  dsimp only
  split
  · exact readClass_adds Loose h number _
  · split
    · split
      · rename_i owner howner
        exact ⟨[], readMember_adds Loose h (h.nearestClass? howner) number line rest⟩
      · exact ⟨[], .nothing (.refl _), h⟩
    · split
      · rename_i className head hprototype
        split at hprototype
        · exact ⟨[], readPrototype_adds hloose h rest (assignsPrototype_of_prototypeHead hprototype)⟩
        · cases hprototype
      · split
        · exact readFunction_adds Loose h number line rest _
        · split
          · exact ⟨[], .properties _ _ (.refl _), h.mono (by simp [Outline.addProperties])⟩
          · exact ⟨[], .nothing (.refl _), h⟩

/-- One line adds one declaration at most, and leaves open what belongs to classes. -/
theorem readLine_adds (hloose : ∀ m : MethodDecl, m.line = number →
      AssignsPrototype line.code m.className m.name → Loose m) (h : st.Owned) (rest : List Line) :
    ∃ names, Adds Loose number st.outline (readLine st number line rest).outline names ∧
      (readLine st number line rest).Owned := by
  unfold readLine
  dsimp only
  split
  · exact ⟨[], .nothing (.refl _), BlockState.OwnersBelow.feed h line.code⟩
  · have hsame := ((SameDeclarations.refl st.outline).addImports (moduleNames line)).addExports
      (exportedNames line.code)
    have hread : BlockScan.Owned
        { st with outline := (st.outline.addImports (moduleNames line)).addExports (exportedNames line.code) } := h
    obtain ⟨names, hadds, howned⟩ := readDeclarations_adds hloose hread rest
    exact ⟨names, hadds.of_same hsame, BlockState.OwnersBelow.feed howned line.code⟩

/-- The method stands on a line that assigns to the prototype of its class. -/
def Assigned (lines : List Line) (m : MethodDecl) : Prop :=
  ∃ (i : Nat) (line : Line), lines[i]? = some line ∧ m.line = i + 1 ∧ AssignsPrototype line.code m.className m.name

private theorem sound_runLines (lines : List Line) :
    (runLines readLine {} 1 lines).outline.Sound (Assigned lines) (1 + lines.length) := by
  -- the lines that are left stand behind as many lines as have been read
  refine (runLines_induct readLine (fun rest number (st : BlockScan) =>
    (∃ before, lines = before ++ rest ∧ number = before.length + 1) ∧ st.outline.Sound (Assigned lines) number ∧
      st.Owned) ?_ lines ⟨⟨[], rfl, rfl⟩, Outline.sound_empty _ 1, BlockScan.owned_empty⟩).2.1
  rintro st number line rest ⟨⟨before, hlines, rfl⟩, hsound, howned⟩
  have hloose : ∀ m : MethodDecl, m.line = (before.length + 1 : Nat) →
      AssignsPrototype line.code m.className m.name → Assigned lines m :=
    fun m hline hassigns => ⟨before.length, line, by simp [hlines], hline, hassigns⟩
  obtain ⟨names, hadds, howned⟩ := readLine_adds hloose howned rest
  exact ⟨⟨before ++ [line], by simp [hlines], by simp⟩, hadds.sound (by omega) hsound, howned⟩

end JavaScript

/-! ### PHP -/

namespace Php

open Outline (SameDeclarations Adds)

variable {st : BlockScan}

private theorem readClass_adds (Loose : MethodDecl → Prop) (h : st.Owned) (number : Nat) (head : ClassHead) :
    ∃ names, Adds Loose number st.outline (readClass st number head).outline names ∧
      (readClass st number head).outline.exports = st.outline.exports ++ names ∧ (readClass st number head).Owned := by
  have hdeclared := (SameDeclarations.refl st.outline).declare number head.name
  unfold readClass
  dsimp only
  split
  · have hadds : Adds Loose number st.outline _ [head.name] :=
      .ofClass
        { name := head.name, line := number, bases := head.extended ++ head.implemented
          interfaces := head.implemented }
        rfl rfl rfl (List.subset_append_right _ _) ((hdeclared.addClass _).addExports [head.name])
    refine ⟨[head.name], hadds, rfl, (h.mono hadds.length_classes_le).announce .classBody ?_⟩
    intro i hi
    cases hi
    simp [Outline.addClass, Outline.addExports]
  · exact ⟨[], .nothing hdeclared, (List.append_nil _).symm,
      BlockState.OwnersBelow.announce h .functionBody (by simp)⟩

private theorem readFunction_adds (Loose : MethodDecl → Prop) (h : st.Owned) (number : Nat) (line : Line)
    (rest : List Line) (head : FunctionHead) :
    ∃ names, Adds Loose number st.outline (readFunction st number line rest head).outline names ∧
      (readFunction st number line rest head).outline.exports = st.outline.exports ++ names ∧
      (readFunction st number line rest head).Owned := by
  have hread : ∃ names, Adds Loose number st.outline (readFunction st number line rest head).outline names ∧
      (readFunction st number line rest head).outline.exports = st.outline.exports ++ names := by
    unfold readFunction
    generalize bracketParts number (line :: rest) (line.code.length - head.behind.length - 1) = params
    have hsame := ((SameDeclarations.refl st.outline).declare number head.name).addProblems params.2
    have hexports : (params.2.foldl Outline.addProblem (st.outline.declare number head.name)).exports =
        st.outline.exports := by
      rw [Outline.foldl_addProblem]
      rfl
    dsimp only
    split
    · split
      · rename_i owner howner
        have hlt := h.nearestClass? howner
        refine ⟨[], .ofMethod owner _ rfl ?_ (hsame.addMethod (some owner) _), ?_⟩
        · simp [Outline.classNameAt, hsame.classes, hlt]
        · simpa [Outline.addMethod] using hexports
      · exact ⟨[], .nothing hsame, by simpa using hexports⟩
    · split
      · refine ⟨[head.name], .ofFunction
          { name := head.name, line := number, parameters := params.1.filterMap parameterName? } rfl
          ((hsame.addFunction _).addExports _), ?_⟩
        simpa [Outline.addFunction, Outline.addExports] using hexports
      · exact ⟨[], .nothing hsame, by simpa using hexports⟩
  obtain ⟨names, hadds, hexports⟩ := hread
  exact ⟨names, hadds, hexports, (h.mono hadds.length_classes_le).announce .functionBody (by simp)⟩

private theorem readProperties_adds (Loose : MethodDecl → Prop) (o : Outline) (blocks : BlockState Nat)
    (code : List Char) (number : Nat) :
    Adds Loose number o (readProperties o blocks code) [] ∧ (readProperties o blocks code).exports = o.exports := by
  unfold readProperties
  split
  · exact ⟨.nothing (.refl _), rfl⟩
  · split
    · exact ⟨.properties _ _ (.refl _), rfl⟩
    · exact ⟨.properties _ _ (.refl _), rfl⟩

private theorem readDeclarations_adds (Loose : MethodDecl → Prop) (h : st.Owned) (number : Nat) (line : Line)
    (rest : List Line) :
    ∃ names, Adds Loose number st.outline (readDeclarations st number line rest).outline names ∧
      (readDeclarations st number line rest).outline.exports = st.outline.exports ++ names ∧
      (readDeclarations st number line rest).Owned := by
  have hsame := (SameDeclarations.refl st.outline).addImports (includedFile? line).toList
  have howned : BlockScan.Owned { st with outline := st.outline.addImports (includedFile? line).toList } := h
  unfold readDeclarations
  dsimp only
  split
  · obtain ⟨names, hadds, hrest⟩ := readClass_adds Loose howned number _
    exact ⟨names, hadds.of_same hsame, hrest⟩
  · split
    · obtain ⟨names, hadds, hrest⟩ := readFunction_adds Loose howned number line rest _
      exact ⟨names, hadds.of_same hsame, hrest⟩
    · obtain ⟨hadds, hexports⟩ := readProperties_adds Loose (st.outline.addImports (includedFile? line).toList)
        st.blocks line.code number
      exact ⟨[], hadds.of_same hsame, by simpa [Outline.addImports] using hexports, h.mono hadds.length_classes_le⟩

/-- One line adds one declaration at most, exports it if it is no method, and leaves open what belongs to classes. -/
theorem readLine_adds (Loose : MethodDecl → Prop) (h : st.Owned) (number : Nat) (line : Line) (rest : List Line) :
    ∃ names, Adds Loose number st.outline (readLine st number line rest).outline names ∧
      (readLine st number line rest).outline.exports = st.outline.exports ++ names ∧
      (readLine st number line rest).Owned := by
  have hfeed : ∀ {st' : BlockScan}, st'.Owned → BlockScan.Owned { st' with blocks := st'.blocks.feed line.code } :=
    fun h => BlockState.OwnersBelow.feed h line.code
  unfold readLine readSignificant
  dsimp only
  split
  · exact ⟨[], .nothing (.refl _), (List.append_nil _).symm, hfeed h⟩
  · split
    · exact ⟨[], .nothing (.refl _), (List.append_nil _).symm,
        hfeed (BlockState.OwnersBelow.announce h .namespaceBody (by simp))⟩
    · exact ⟨[], .nothing (.refl _), (List.append_nil _).symm, hfeed h⟩
    · split
      · exact ⟨[], .nothing ((SameDeclarations.refl _).addImports _), (List.append_nil _).symm, hfeed h⟩
      · obtain ⟨names, hadds, hexports, howned⟩ := readDeclarations_adds Loose h number line rest
        exact ⟨names, hadds, hexports, hfeed howned⟩

private theorem sound_runLines (lines : List Line) :
    (runLines readLine {} 1 lines).outline.Sound (fun _ => False) (1 + lines.length) ∧
      (runLines readLine {} 1 lines).outline.ListsTopLevel := by
  have hrun := runLines_induct readLine (fun _ number (st : BlockScan) =>
    1 ≤ number ∧ st.outline.Sound (fun _ => False) number ∧ st.outline.ListsTopLevel ∧ st.Owned) ?_ lines
    ⟨le_rfl, Outline.sound_empty _ 1, ⟨[], .nil, .nil, rfl⟩, BlockScan.owned_empty⟩
  · exact ⟨hrun.2.1, hrun.2.2.1⟩
  rintro st number line rest ⟨hpos, hsound, hlists, howned⟩
  obtain ⟨names, hadds, hexports, howned⟩ := readLine_adds (fun _ => False) howned number line rest
  exact ⟨hpos.step, hadds.sound hpos hsound, hlists.adds hsound.ordered hadds hexports, howned⟩

end Php

end Extract

/-! ### Whole sources -/

/-- Sorting by an integer puts the integers in order. -/
theorem pairwise_mergeSort_by {α : Type} (key : α → Int) (l : List α) :
    (l.mergeSort fun a b => key a ≤ key b).Pairwise fun a b => key a ≤ key b := by
  have h := @List.pairwise_mergeSort α (fun a b => decide (key a ≤ key b))
    (fun a b c hab hbc => by simp only [decide_eq_true_eq] at *; omega)
    (fun a b => by simp only [Bool.or_eq_true, decide_eq_true_eq]; omega) l
  simpa using h

theorem FileSummary.pairwise_declarationLines (s : FileSummary) : s.declarationLines.Pairwise (· ≤ ·) :=
  pairwise_mergeSort_by id _

/-- Pairs that are in order by distinct first parts are sorted as they are. -/
private theorem mergeSort_eq_of_perm {l decls : List (Int × String)} (hperm : decls.Perm l)
    (hsorted : decls.Pairwise fun a b => a.1 < b.1) : l.mergeSort (fun a b => a.1 ≤ b.1) = decls := by
  have hle : decls.Pairwise fun a b => a.1 ≤ b.1 := hsorted.imp Int.le_of_lt
  have hmerged := pairwise_mergeSort_by Prod.fst l
  have hfirst : (decls.map Prod.fst).Nodup := (List.pairwise_map.2 hsorted).imp Int.ne_of_lt
  have hmerged_perm : (l.mergeSort fun a b => a.1 ≤ b.1).Perm decls := (List.mergeSort_perm l _).trans hperm.symm
  refine hmerged_perm.eq_of_pairwise ?_ hmerged hle
  intro a b ha hb hab hba
  exact List.inj_on_of_nodup_map hfirst (hmerged_perm.mem_iff.1 ha) hb (Int.le_antisymm hab hba)

/-- The methods that may belong to no class of a source: those that a script assigns to a prototype. -/
def LooseIn (language : String) (content : List Char) (m : MethodDecl) : Prop :=
  (language = "javascript" ∨ language = "typescript") ∧
    Extract.JavaScript.Assigned (Source.sourceLines Extract.JavaScript.rules content) m

/-- What is found in every source in every language is sound. -/
theorem sound_findingsIn (language : String) (content : List Char) :
    (findingsIn language content).outline.Sound (LooseIn language content) ((Text.lines content).length + 1) := by
  have hlength : ∀ rules, (Source.sourceLines rules content).length = (Text.lines content).length := by
    intro rules
    rw [← Source.map_raw_sourceLines rules content, List.length_map]
  unfold findingsIn
  split_ifs with hpython hscript hphp
  · have hsound := Extract.Python.sound_runLines (Source.sourceLines Extract.Python.rules content)
    rw [hlength, Nat.add_comm] at hsound
    exact hsound.mono fun _ h => h.elim
  · have hsound := Extract.JavaScript.sound_runLines (Source.sourceLines Extract.JavaScript.rules content)
    rw [hlength, Nat.add_comm] at hsound
    exact hsound.mono fun _ h => ⟨by simpa using hscript, h⟩
  · have hsound := (Extract.Php.sound_runLines (Source.sourceLines Extract.Php.rules content)).1
    rw [hlength, Nat.add_comm] at hsound
    exact hsound.mono fun _ h => h.elim
  · exact Extract.Outline.sound_empty _ _

/-- The calls of every source are scanned line by line. -/
theorem calls_findingsIn (language : String) (content : List Char) : ∃ keywords declared,
    (findingsIn language content).calls =
      Call.scanCalls keywords declared (Source.sourceLines (lexRulesOf language) content) := by
  unfold findingsIn lexRulesOf
  split_ifs
  all_goals exact ⟨_, _, rfl⟩

section Summaries

variable (language path content : String)

theorem perm_declarationLines_summarize :
    (summarize language path content).1.declarationLines.Perm (findingsIn language content.toList).outline.lines :=
  List.mergeSort_perm _ _

/-- The declarations of a source stand on lines of their own. -/
theorem pairwise_declarationLines_summarize : (summarize language path content).1.declarationLines.Pairwise (· < ·) := by
  have hle := (summarize language path content).1.pairwise_declarationLines
  have hnodup := (perm_declarationLines_summarize language path content).nodup_iff.2
    (sound_findingsIn language content.toList).ordered.nodup
  exact hle.imp₂ (fun a b hle hne => Int.lt_iff_le_and_ne.2 ⟨hle, hne⟩) hnodup

/-- The calls of a source are in the order of their lines. -/
theorem pairwise_calls_summarize : ((summarize language path content).1.calls.map (·.line)).Pairwise (· ≤ ·) := by
  obtain ⟨keywords, declared, hcalls⟩ := calls_findingsIn language content.toList
  simp only [summarize, Extract.Findings.summary, hcalls, List.map_map]
  exact Call.pairwise_scanCallsFrom 1 (Source.sourceLines (lexRulesOf language) content.toList)

end Summaries

/-- The summary of the text `content` is well-formed.  Its declarations are in order on lines of their own, and its
calls in order.  Methods belong to classes of the file, except where a script assigns them to a prototype. -/
structure FileSummary.WellFormed (language path content : String) (s : FileSummary) : Prop where
  path_eq : s.path = path
  lines_bounds : ∀ line ∈ s.declarationLines, 1 ≤ line ∧ line ≤ (Text.lines content.toList).length
  lines_increasing : s.declarationLines.Pairwise (· < ·)
  classes_increasing : (s.classes.map (·.line)).Pairwise (· < ·)
  functions_increasing : (s.functions.map (·.line)).Pairwise (· < ·)
  methods_increasing : (s.methods.map (·.line)).Pairwise (· < ·)
  calls_bounds : ∀ c ∈ s.calls, 1 ≤ c.line ∧ c.line ≤ (Text.lines content.toList).length
  calls_ordered : (s.calls.map (·.line)).Pairwise (· ≤ ·)
  callers_eq : ∀ c ∈ s.calls, c.caller = path
  properties_nodup : ∀ c ∈ s.classes, c.propertyNames.Nodup
  interfaces_subset : ∀ c ∈ s.classes, c.interfaces ⊆ c.bases
  no_orphans : language ≠ "javascript" → language ≠ "typescript" → s.orphanMethods = []
  methodNames_perm : language ≠ "javascript" → language ≠ "typescript" → ∀ name,
    ((s.methods.filter fun m => m.className = name).map (·.name)).Perm
      ((s.classes.filter fun c => c.name = name).flatMap (·.methodNames))
  orphans_assigned : language = "javascript" ∨ language = "typescript" → ∀ m ∈ s.orphanMethods,
    ∃ (i : Nat) (code : List Char), (Text.lines (Source.mask Extract.JavaScript.rules content.toList))[i]? = some code ∧
      m.line = i + 1 ∧ Extract.JavaScript.AssignsPrototype code m.className m.name
  exports_eq : language = "php" → s.exports =
    ((s.classes.map (fun c => (c.line, c.name)) ++ s.functions.map fun f => (f.line, f.name)).mergeSort
      fun a b => a.1 ≤ b.1).map (·.2)

/-- A method without a class in its file is a loose one. -/
private theorem loose_of_mem_orphanMethods {language path content : String} {m : MethodDecl}
    (hm : m ∈ (summarize language path content).1.orphanMethods) : LooseIn language content.toList m := by
  obtain ⟨hmethod, hclass⟩ := List.mem_filter.1 hm
  refine ((sound_findingsIn language content.toList).found m hmethod).resolve_left fun hname => ?_
  obtain ⟨c, hc, hname⟩ := List.mem_map.1 hname
  have hany : ((summarize language path content).1.classes.any fun c => c.name = m.className) = true :=
    List.any_eq_true.2 ⟨c, hc, decide_eq_true hname⟩
  simp [hany] at hclass

/-- The summary of every text in every language is well-formed. -/
theorem summarize_wellFormed (language path content : String) :
    (summarize language path content).1.WellFormed language path content := by
  have hsound := sound_findingsIn language content.toList
  have hnone : language ≠ "javascript" → language ≠ "typescript" → ∀ m, ¬ LooseIn language content.toList m := by
    intro hjs hts m hm
    rcases hm.1 with h | h
    · exact hjs h
    · exact hts h
  exact {
    path_eq := rfl
    lines_bounds := by
      intro line hline
      have := hsound.ordered.bounds line ((perm_declarationLines_summarize language path content).mem_iff.1 hline)
      omega
    lines_increasing := pairwise_declarationLines_summarize language path content
    classes_increasing := hsound.ordered.classes
    functions_increasing := hsound.ordered.functions
    methods_increasing := hsound.ordered.methods
    calls_bounds := by
      intro c hc
      obtain ⟨o, ho, rfl⟩ := List.mem_map.1 hc
      obtain ⟨keywords, declared, hcalls⟩ := calls_findingsIn language content.toList
      rw [hcalls] at ho
      have hlines := Call.line_of_mem_scanCallsFrom ho
      have hlength := congrArg List.length (Source.map_raw_sourceLines (lexRulesOf language) content.toList)
      rw [List.length_map] at hlength
      simp only [Call.CallSite.ofOccurrence]
      omega
    calls_ordered := pairwise_calls_summarize language path content
    callers_eq := by
      intro c hc
      obtain ⟨o, -, rfl⟩ := List.mem_map.1 hc
      rfl
    properties_nodup := hsound.ordered.properties
    interfaces_subset := hsound.ordered.interfaces
    no_orphans := by
      intro hjs hts
      refine List.eq_nil_iff_forall_not_mem.2 fun m hm => ?_
      exact hnone hjs hts m (loose_of_mem_orphanMethods hm)
    methodNames_perm := fun hjs hts => hsound.names_perm (hnone hjs hts)
    orphans_assigned := by
      intro _ m hm
      obtain ⟨-, i, line, hline, hnumber, hassigns⟩ := loose_of_mem_orphanMethods hm
      refine ⟨i, line.code, ?_, hnumber, hassigns⟩
      rw [← Source.map_code_sourceLines, List.getElem?_map, hline]
      rfl
    exports_eq := by
      rintro rfl
      obtain ⟨decls, hdecls, hsorted, hexports⟩ :=
        (Extract.Php.sound_runLines (Source.sourceLines Extract.Php.rules content.toList)).2
      have hmerge := mergeSort_eq_of_perm hdecls hsorted
      exact hexports.trans (congrArg (List.map Prod.snd) hmerge.symm) }

end CallIndex
