import CallIndex.Language
import CallIndex.Proofs.MaskShape
import Mathlib.Data.List.Permutation

/-!
# Structure from code alone

The scan of a source looks at the raw text for the bodies of brackets and the names of modules, and at the masked text
for everything else.  What it takes from raw text goes into the summary and is not looked at again: it decides neither
which declarations are found, nor which blocks are open, nor which names count as calls.  So two texts with the same
masked text have the same structure.

Two scans are compared line by line.  `Outline.Alike` relates two outlines that agree in all that comes from code; which
parts these are depends on whether the language has braces.

* `runLines_related`: what one line keeps of two runs, all lines keep.
* `Python.readLine_alike`, `JavaScript.readLine_alike` and `Php.readLine_alike`: one line keeps two scans alike.
* `masked_text_determines_structure`: texts with the same masked text have the same structure.
-/

namespace CallIndex

open Source (Line)
open Text (Scan)

/-! ### Parts that raw text does not reach -/

/-- A class without the list of its bases. -/
def ClassDecl.withoutBases (c : ClassDecl) : ClassDecl :=
  { c with bases := [] }

/-- A function without its parameters. -/
def FunctionDecl.withoutParameters (f : FunctionDecl) : FunctionDecl :=
  { f with parameters := [] }

/-- A method without its parameters. -/
def MethodDecl.withoutParameters (m : MethodDecl) : MethodDecl :=
  { m with parameters := [] }

/-- A call site without the text of its arguments. -/
def Call.CallSite.withoutArguments (site : Call.CallSite) : Call.CallSite :=
  { site with arguments := none }

private theorem ClassDecl.eq_of_bases_eq {c c' : ClassDecl} (h : c.withoutBases = c'.withoutBases)
    (hb : c.bases = c'.bases) : c = c' := by
  cases c
  cases c'
  simp_all [withoutBases]

/-! ### Calls -/

private theorem Call.scanCalls_alike (keywords : List String) (declared : List (Nat × String)) (path : String)
    {lines lines' : List Line} (h : lines.map Line.code = lines'.map Line.code) :
    (scanCalls keywords declared lines).map (fun o => (CallSite.ofOccurrence path o).withoutArguments) =
      (scanCalls keywords declared lines').map fun o => (CallSite.ofOccurrence path o).withoutArguments := by
  have hline : ∀ (number : Nat) (line line' : Line), line.code = line'.code →
      (lineCalls keywords declared number line).map (fun o => (CallSite.ofOccurrence path o).withoutArguments) =
        (lineCalls keywords declared number line').map fun o => (CallSite.ofOccurrence path o).withoutArguments := by
    intro number line line' hcode
    rw [lineCalls, lineCalls, hcode, List.map_filterMap, List.map_filterMap]
    apply List.filterMap_congr
    intro hit _
    split <;> rfl
  unfold scanCalls
  generalize 1 = number
  induction lines generalizing lines' number with
  | nil => rw [List.map_nil, eq_comm, List.map_eq_nil_iff] at h; rw [h]
  | cons line lines ih =>
    cases lines' with
    | nil => cases h
    | cons line' lines' =>
      rw [List.map_cons, List.map_cons, List.cons.injEq] at h
      rw [scanCallsFrom, scanCallsFrom, List.map_append, List.map_append, hline number line line' h.1, ih h.2]

namespace Extract

/-! ### Outlines -/

/-- A view of the elements is changed at the same place. -/
theorem map_modify {α β : Type} {view : α → β} {f : α → α} {g : β → β} (h : ∀ a, view (f a) = g (view a))
    (l : List α) (i : Nat) : (l.modify i f).map view = (l.map view).modify i g := by
  induction l generalizing i with
  | nil => simp
  | cons a l ih =>
    cases i with
    | zero => simp [h]
    | succ i => simp [ih]

namespace Outline

/-- Problems are only noted. -/
theorem foldl_addProblem (problems : List Problem) (o : Outline) :
    problems.foldl addProblem o = { o with problems := o.problems ++ problems } := by
  induction problems generalizing o with
  | nil => simp
  | cons p problems ih => simp [ih, addProblem]

variable {braces : Bool} {o o' : Outline}

/-- Two outlines agree in what comes from code.  The bases of classes and the exports do so in a language with braces,
and the imports in a language without them; with braces there are equally many imports. -/
structure Alike (braces : Bool) (o o' : Outline) : Prop where
  classes : o.classes.map ClassDecl.withoutBases = o'.classes.map ClassDecl.withoutBases
  functions : o.functions.map FunctionDecl.withoutParameters = o'.functions.map FunctionDecl.withoutParameters
  methods : o.methods.map MethodDecl.withoutParameters = o'.methods.map MethodDecl.withoutParameters
  declared : o.declared = o'.declared
  bases : braces = true → o.classes.map (·.bases) = o'.classes.map (·.bases)
  exports : braces = true → o.exports = o'.exports
  imports : braces = false → o.imports = o'.imports
  length_imports : o.imports.length = o'.imports.length

namespace Alike

private theorem refl (braces : Bool) (o : Outline) : Alike braces o o :=
  ⟨rfl, rfl, rfl, rfl, fun _ => rfl, fun _ => rfl, fun _ => rfl, rfl⟩

private theorem length_classes (h : Alike braces o o') : o.classes.length = o'.classes.length := by
  have := congrArg List.length h.classes
  simpa using this

theorem className_eq (h : Alike braces o o') (i : Nat) :
    (o.classes[i]?).map (·.name) = (o'.classes[i]?).map (·.name) := by
  have := congrArg (fun l => (l[i]?).map ClassDecl.name) h.classes
  simpa [Function.comp_def, ClassDecl.withoutBases] using this

private theorem findIdx?_eq (h : Alike braces o o') (name : String) :
    (o.classes.findIdx? fun c => c.name = name) = o'.classes.findIdx? fun c => c.name = name := by
  have := congrArg (List.findIdx? fun c => decide (c.name = name)) h.classes
  rw [List.findIdx?_map, List.findIdx?_map] at this
  exact this

/-- With braces the classes agree altogether. -/
private theorem classes_eq (h : Alike true o o') : o.classes = o'.classes := by
  have hclasses := h.classes
  have hbases := h.bases rfl
  generalize o.classes = cs, o'.classes = cs' at hclasses hbases
  induction cs generalizing cs' with
  | nil => simpa using hclasses.symm
  | cons c cs ih =>
    cases cs' with
    | nil => cases hclasses
    | cons c' cs' =>
      rw [List.map_cons, List.map_cons, List.cons.injEq] at hclasses hbases
      rw [ClassDecl.eq_of_bases_eq hclasses.1 hbases.1, ih cs' hclasses.2 hbases.2]

theorem declare (h : Alike braces o o') (line : Nat) (name : String) :
    Alike braces (o.declare line name) (o'.declare line name) :=
  { h with declared := by simp [Outline.declare, h.declared] }

private theorem addClass (h : Alike braces o o') {c c' : ClassDecl} (hc : c.withoutBases = c'.withoutBases)
    (hbases : braces = true → c.bases = c'.bases) : Alike braces (o.addClass c) (o'.addClass c') :=
  { h with
    classes := by simp [Outline.addClass, h.classes, hc]
    bases := fun hb => by simp [Outline.addClass, h.bases hb, hbases hb] }

private theorem addFunction (h : Alike braces o o') {f f' : FunctionDecl}
    (hf : f.withoutParameters = f'.withoutParameters) : Alike braces (o.addFunction f) (o'.addFunction f') :=
  { h with functions := by simp [Outline.addFunction, h.functions, hf] }

/-- An update of the class at some position that touches neither its bases nor looks at them. -/
private theorem modify (h : Alike braces o o') (i : Nat) {f : ClassDecl → ClassDecl}
    (hf : ∀ c : ClassDecl, (f c).withoutBases = f c.withoutBases) (hbases : ∀ c : ClassDecl, (f c).bases = c.bases) :
    Alike braces { o with classes := o.classes.modify i f } { o' with classes := o'.classes.modify i f } :=
  { h with
    classes := by
      dsimp only
      rw [map_modify hf, map_modify hf, h.classes]
    bases := fun hb => by
      dsimp only
      rw [map_modify (g := id) hbases, map_modify (g := id) hbases, h.bases hb] }

private theorem addMethod (h : Alike braces o o') (owner : Option Nat) {m m' : MethodDecl}
    (hm : m.withoutParameters = m'.withoutParameters) :
    Alike braces (o.addMethod owner m) (o'.addMethod owner m') := by
  have hname : m.name = m'.name := (congrArg MethodDecl.name hm :)
  have hmethods : (o.methods ++ [m]).map MethodDecl.withoutParameters =
      (o'.methods ++ [m']).map MethodDecl.withoutParameters := by
    simp [h.methods, hm]
  cases owner with
  | none => exact { h with methods := hmethods }
  | some i =>
    have hclasses := h.modify i (f := fun c => { c with methodNames := c.methodNames ++ [m'.name] })
      (fun _ => rfl) fun _ => rfl
    simp only [Outline.addMethod, hname]
    exact { hclasses with methods := hmethods }

private theorem addProperties (h : Alike braces o o') (owner : Nat) (names : List String) :
    Alike braces (o.addProperties owner names) (o'.addProperties owner names) := by
  apply h.modify owner
  · exact fun _ => rfl
  · exact fun _ => rfl

theorem addImports (h : Alike braces o o') {names names' : List String} (hnames : braces = false → names = names')
    (hlength : names.length = names'.length) : Alike braces (o.addImports names) (o'.addImports names') :=
  { h with
    imports := fun hb => by simp [Outline.addImports, h.imports hb, hnames hb]
    length_imports := by simp [Outline.addImports, h.length_imports, hlength] }

private theorem addExports (h : Alike braces o o') {names names' : List String}
    (hnames : braces = true → names = names') : Alike braces (o.addExports names) (o'.addExports names') :=
  { h with exports := fun hb => by simp [Outline.addExports, h.exports hb, hnames hb] }

theorem addProblems (h : Alike braces o o') (problems problems' : List Problem) :
    Alike braces (problems.foldl Outline.addProblem o) (problems'.foldl Outline.addProblem o') := by
  rw [foldl_addProblem, foldl_addProblem]
  exact { h with }

end Alike

end Outline

/-! ### Runs over lines -/

section Runs

variable {σ : Type} (step : σ → Nat → Line → List Line → σ)

/-- Two runs over equally many lines stay related, if one line of either keeps them so. What the lines that are left have
in common is part of the relation. -/
theorem runLines_related (R : List Line → List Line → Nat → σ → σ → Prop)
    (hstep : ∀ {st st' number line line' rest rest'}, R (line :: rest) (line' :: rest') number st st' →
      R rest rest' (number + 1) (step st number line rest) (step st' number line' rest'))
    {lines lines' : List Line} (hlength : lines.length = lines'.length) {number : Nat} (st st' : σ)
    (h : R lines lines' number st st') :
    R [] [] (number + lines.length) (runLines step st number lines) (runLines step st' number lines') := by
  induction lines generalizing lines' number st st' with
  | nil =>
    obtain rfl := List.length_eq_zero_iff.1 hlength.symm
    exact h
  | cons line rest ih =>
    cases lines' with
    | nil => cases hlength
    | cons line' rest' =>
      rw [List.length_cons, ← Nat.add_assoc, Nat.add_right_comm]
      exact ih (Nat.succ.inj hlength) _ _ (hstep h)

/-- What one line keeps at its place, a run over the lines keeps. -/
theorem runLines_induct (P : List Line → Nat → σ → Prop)
    (hstep : ∀ {st number line rest}, P (line :: rest) number st → P rest (number + 1) (step st number line rest))
    (lines : List Line) {number : Nat} {st : σ} (h : P lines number st) :
    P [] (number + lines.length) (runLines step st number lines) :=
  runLines_related step (fun lines _ number st _ => P lines number st) hstep rfl st st h

/-- Runs over lines with the same code keep what one line keeps by its code. -/
private theorem runLines_alike (R : σ → σ → Prop)
    (hstep : ∀ {st st' line line'}, R st st' → ∀ number, line.code = line'.code → ∀ rest rest',
      R (step st number line rest) (step st' number line' rest'))
    {st st' : σ} (h : R st st') (number : Nat) {lines lines' : List Line}
    (hcode : lines.map Line.code = lines'.map Line.code) :
    R (runLines step st number lines) (runLines step st' number lines') := by
  refine (runLines_related step (fun lines lines' _ st st' => lines.map Line.code = lines'.map Line.code ∧ R st st') ?_ ?_
    st st' ⟨hcode, h⟩).2
  · rintro st st' number line line' rest rest' ⟨hcode, h⟩
    rw [List.map_cons, List.map_cons, List.cons.injEq] at hcode
    exact ⟨hcode.2, hstep h number hcode.1 rest rest'⟩
  · simpa using congrArg List.length hcode

end Runs

/-! ### Python -/

namespace Python

/-- Two scans stand at the same place: the same scopes are open, and the outlines are alike. -/
structure State.Alike (st st' : State) : Prop where
  outline : Outline.Alike false st.outline st'.outline
  scopes : st.scopes = st'.scopes
  decorators : st.decorators = st'.decorators
  depth : st.depth = st'.depth

theorem State.Alike.refl (st : State) : State.Alike st st :=
  ⟨.refl false _, rfl, rfl, rfl⟩

variable {st st' : State} {line line' : Line}

private theorem readClass_alike (h : State.Alike st st') (number indent : Nat) (rest rest' : List Line) (name : String)
    (behind : Option (List Char)) :
    State.Alike (readClass st number indent line rest name behind)
      (readClass st' number indent line' rest' name behind) := by
  have hdeclared := h.outline.declare number name
  unfold readClass
  simp only [h.scopes]
  split
  · refine ⟨(hdeclared.addProblems _ _).addClass rfl (by simp), ?_, rfl, h.depth⟩
    dsimp only
    rw [(hdeclared.addProblems _ _).length_classes]
  · exact ⟨hdeclared, rfl, rfl, h.depth⟩

private theorem readDef_alike (h : State.Alike st st') (number indent : Nat) (rest rest' : List Line) (head : DefHead) :
    State.Alike (readDef st number indent line rest head) (readDef st' number indent line' rest' head) := by
  unfold readDef
  generalize parameters number line rest head.behind = params, parameters number line' rest' head.behind = params'
  have houtline := (h.outline.declare number head.name).addProblems params.2 params'.2
  simp only [h.scopes, h.decorators]
  split
  · exact ⟨houtline.addFunction rfl, rfl, rfl, h.depth⟩
  · split
    · exact ⟨houtline.addMethod _ rfl, rfl, rfl, h.depth⟩
    · exact ⟨houtline, rfl, rfl, h.depth⟩

private theorem readStatement_alike {o o' : Outline} (h : Outline.Alike false o o') (hcode : line.code = line'.code)
    (parent : Option Scope) (number : Nat) (rest rest' : List Line) :
    Outline.Alike false (readStatement o parent number line rest) (readStatement o' parent number line' rest') := by
  unfold readStatement
  rw [← hcode]
  split
  · exact h.addImports (fun _ => rfl) rfl
  · split
    · exact h.addImports (fun _ => rfl) rfl
    · split
      · split
        · exact (h.addExports (by simp)).addProblems _ _
        · exact h
      · split
        · exact h
        · split
          · exact h.addProperties _ _
          · exact h.addProperties _ _

/-- One line keeps two scans alike, whatever its raw text and the lines behind it. -/
theorem readLine_alike (h : State.Alike st st') (number : Nat) (hcode : line.code = line'.code)
    (rest rest' : List Line) : State.Alike (readLine st number line rest) (readLine st' number line' rest') := by
  unfold readLine
  rw [← hcode, h.depth]
  split
  · exact ⟨h.outline, h.scopes, h.decorators, rfl⟩
  · have hsignificant : State.Alike (readSignificant st number line rest) (readSignificant st' number line' rest') := by
      unfold readSignificant
      rw [← hcode]
      have hpopped : State.Alike { st with scopes := st.scopes.dropWhile (Source.indentWidth line.code ≤ ·.indent) }
          { st' with scopes := st'.scopes.dropWhile (Source.indentWidth line.code ≤ ·.indent) } :=
        ⟨h.outline, by rw [h.scopes], h.decorators, h.depth⟩
      dsimp only
      split
      · exact ⟨h.outline, by rw [h.scopes], by rw [h.decorators], h.depth⟩
      · split
        · exact readClass_alike hpopped number _ rest rest' _ _
        · split
          · exact readDef_alike hpopped number _ rest rest' _
          · refine ⟨?_, hpopped.scopes, rfl, h.depth⟩
            rw [h.scopes]
            exact readStatement_alike h.outline hcode _ number rest rest'
    exact ⟨hsignificant.outline, hsignificant.scopes, hsignificant.decorators, rfl⟩

end Python

/-! ### Languages with braces -/

/-- Two scans of a language with braces stand at the same place: the same blocks are open, and the outlines are alike. -/
structure BlockScan.Alike (st st' : BlockScan) : Prop where
  outline : Outline.Alike true st.outline st'.outline
  blocks : st.blocks = st'.blocks

theorem BlockScan.Alike.refl (st : BlockScan) : BlockScan.Alike st st :=
  ⟨.refl true _, rfl⟩

/-! ### JavaScript and TypeScript -/

namespace JavaScript

variable {st st' : BlockScan} {line line' : Line}

/-- How many modules a line names is told by its code. -/
private theorem length_moduleNames (hcode : line.code = line'.code) :
    (moduleNames line).length = (moduleNames line').length := by
  unfold moduleNames
  rw [List.length_filterMap_eq_countP, List.length_filterMap_eq_countP, hcode]
  simp only [Option.isSome_map]

private theorem readClass_alike (h : BlockScan.Alike st st') (number : Nat) (head : ClassHead) :
    BlockScan.Alike (readClass st number head) (readClass st' number head) := by
  have hdeclared := h.outline.declare number head.name
  unfold readClass
  simp only [h.blocks, hdeclared.length_classes]
  split
  · exact ⟨hdeclared.addClass rfl fun _ => rfl, rfl⟩
  · exact ⟨hdeclared, rfl⟩

private theorem readMethod_alike (h : BlockScan.Alike st st') (owner number : Nat) (modifiers : List String)
    (name : String) (isAsync : Bool) (params params' : List String × List Problem) :
    BlockScan.Alike (readMethod st owner number modifiers name isAsync params)
      (readMethod st' owner number modifiers name isAsync params') := by
  have houtline := (h.outline.declare number name).addProblems params.2 params'.2
  unfold readMethod
  simp only [h.blocks, houtline.className_eq]
  exact ⟨houtline.addMethod (some owner) rfl, rfl⟩

private theorem readMember_alike (h : BlockScan.Alike st st') (owner number : Nat) (hcode : line.code = line'.code)
    (rest rest' : List Line) :
    BlockScan.Alike (readMember st owner number line rest) (readMember st' owner number line' rest') := by
  unfold readMember
  rw [← hcode]
  dsimp only
  split
  · exact readMethod_alike h owner number _ _ _ _ _
  · split
    · exact readMethod_alike h owner number _ _ _ _ _
    · split
      · exact ⟨h.outline.addProperties owner _, h.blocks⟩
      · exact h

private theorem readPrototype_alike (h : BlockScan.Alike st st') (number : Nat) (rest rest' : List Line)
    (className : String) (head : FunctionHead) :
    BlockScan.Alike (readPrototype st number line rest className head)
      (readPrototype st' number line' rest' className head) := by
  unfold readPrototype
  generalize parameters number line rest head.params = params, parameters number line' rest' head.params = params'
  have houtline := (h.outline.declare number head.name).addProblems params.2 params'.2
  simp only [h.blocks, houtline.findIdx?_eq]
  refine ⟨houtline.addMethod _ ?_, rfl⟩
  rfl

private theorem readFunction_alike (h : BlockScan.Alike st st') (number : Nat) (rest rest' : List Line)
    (head : FunctionHead) :
    BlockScan.Alike (readFunction st number line rest head) (readFunction st' number line' rest' head) := by
  unfold readFunction
  generalize parameters number line rest head.params = params, parameters number line' rest' head.params = params'
  have houtline := (h.outline.declare number head.name).addProblems params.2 params'.2
  simp only [h.blocks]
  split
  · exact ⟨houtline, rfl⟩
  · exact ⟨houtline.addFunction rfl, rfl⟩

private theorem readDeclarations_alike (h : BlockScan.Alike st st') (number : Nat) (hcode : line.code = line'.code)
    (rest rest' : List Line) :
    BlockScan.Alike (readDeclarations st number line rest) (readDeclarations st' number line' rest') := by
  unfold readDeclarations
  rw [← hcode, ← h.blocks]
  dsimp only
  split
  · exact readClass_alike h number _
  · split
    · split
      · exact readMember_alike h _ number hcode rest rest'
      · exact h
    · split
      · exact readPrototype_alike h number rest rest' _ _
      · split
        · exact readFunction_alike h number rest rest' _
        · split
          · exact ⟨h.outline.addProperties _ _, rfl⟩
          · exact ⟨h.outline, h.blocks⟩

/-- One line keeps two scans alike, whatever its raw text and the lines behind it. -/
theorem readLine_alike (h : BlockScan.Alike st st') (number : Nat) (hcode : line.code = line'.code)
    (rest rest' : List Line) : BlockScan.Alike (readLine st number line rest) (readLine st' number line' rest') := by
  unfold readLine
  rw [← hcode]
  split
  · exact ⟨h.outline, congrArg (·.feed line.code) h.blocks⟩
  · have houtline := h.outline.addImports (by simp) (length_moduleNames hcode)
    have hexports : ∀ names, BlockScan.Alike ⟨(st.outline.addImports (moduleNames line)).addExports names, st.blocks⟩
        ⟨(st'.outline.addImports (moduleNames line')).addExports names, st'.blocks⟩ :=
      fun names => ⟨houtline.addExports fun _ => rfl, h.blocks⟩
    have hread := readDeclarations_alike (hexports (exportedNames line.code)) number hcode rest rest'
    exact ⟨hread.outline, congrArg (·.feed line.code) hread.blocks⟩

end JavaScript

/-! ### PHP -/

namespace Php

variable {st st' : BlockScan} {line line' : Line}

/-- Whether a line includes a file is told by its code. -/
theorem length_includedFile? (hcode : line.code = line'.code) :
    (includedFile? line).toList.length = (includedFile? line').toList.length := by
  unfold includedFile?
  rw [← hcode]
  cases (Scan.hits (Scan.atWordStart includeQuote) line.code).head? with
  | none => rfl
  | some hit =>
    cases h : (line.code.drop hit.stop).findIdx? (· = hit.value) with
    | none => simp [h]
    | some length => simp [h]

private theorem readClass_alike (h : BlockScan.Alike st st') (number : Nat) (head : ClassHead) :
    BlockScan.Alike (readClass st number head) (readClass st' number head) := by
  have hdeclared := h.outline.declare number head.name
  unfold readClass
  simp only [h.blocks, hdeclared.length_classes]
  split
  · exact ⟨(hdeclared.addClass rfl fun _ => rfl).addExports fun _ => rfl, rfl⟩
  · exact ⟨hdeclared, rfl⟩

private theorem readFunction_alike (h : BlockScan.Alike st st') (number : Nat) (rest rest' : List Line)
    (head : FunctionHead) :
    BlockScan.Alike (readFunction st number line rest head) (readFunction st' number line' rest' head) := by
  unfold readFunction
  generalize bracketParts number (line :: rest) (line.code.length - head.behind.length - 1) = params,
    bracketParts number (line' :: rest') (line'.code.length - head.behind.length - 1) = params'
  have houtline := (h.outline.declare number head.name).addProblems params.2 params'.2
  simp only [h.blocks, houtline.className_eq]
  refine ⟨?_, rfl⟩
  dsimp only
  split
  · split
    · exact houtline.addMethod _ rfl
    · exact houtline
  · split
    · refine (houtline.addFunction ?_).addExports fun _ => rfl
      rfl
    · exact houtline

private theorem readProperties_alike {o o' : Outline} (h : Outline.Alike true o o') (blocks : BlockState Nat)
    (code : List Char) : Outline.Alike true (readProperties o blocks code) (readProperties o' blocks code) := by
  unfold readProperties
  split
  · exact h
  · split
    · exact h.addProperties _ _
    · exact h.addProperties _ _

private theorem readDeclarations_alike (h : BlockScan.Alike st st') (number : Nat) (hcode : line.code = line'.code)
    (rest rest' : List Line) :
    BlockScan.Alike (readDeclarations st number line rest) (readDeclarations st' number line' rest') := by
  have himports : BlockScan.Alike { st with outline := st.outline.addImports (includedFile? line).toList }
      { st' with outline := st'.outline.addImports (includedFile? line').toList } :=
    ⟨h.outline.addImports (by simp) (length_includedFile? hcode), h.blocks⟩
  unfold readDeclarations
  rw [← hcode]
  dsimp only
  split
  · exact readClass_alike himports number _
  · split
    · exact readFunction_alike himports number rest rest' _
    · rw [← h.blocks]
      exact ⟨readProperties_alike himports.outline _ _, rfl⟩

private theorem readSignificant_alike (h : BlockScan.Alike st st') (number : Nat) (hcode : line.code = line'.code)
    (rest rest' : List Line) :
    BlockScan.Alike (readSignificant st number line rest) (readSignificant st' number line' rest') := by
  unfold readSignificant
  rw [← hcode]
  split
  · exact ⟨h.outline, by rw [h.blocks]⟩
  · exact h
  · rw [← h.blocks]
    dsimp only
    split
    · exact ⟨h.outline.addImports (fun _ => rfl) rfl, rfl⟩
    · exact readDeclarations_alike h number hcode rest rest'

/-- One line keeps two scans alike, whatever its raw text and the lines behind it. -/
theorem readLine_alike (h : BlockScan.Alike st st') (number : Nat) (hcode : line.code = line'.code)
    (rest rest' : List Line) : BlockScan.Alike (readLine st number line rest) (readLine st' number line' rest') := by
  unfold readLine
  rw [← hcode]
  split
  · exact ⟨h.outline, congrArg (·.feed line.code) h.blocks⟩
  · have hread := readSignificant_alike h number hcode rest rest'
    exact ⟨hread.outline, congrArg (·.feed line.code) hread.blocks⟩

end Php

/-- The call sites of alike outlines: what counts as a call depends on code and on the names declared on its line. -/
private theorem calls_alike {braces : Bool} {o o' : Outline} (h : Outline.Alike braces o o') (keywords : List String)
    {lines lines' : List Line} (hcode : lines.map Line.code = lines'.map Line.code) (path : String) :
    ((Call.scanCalls keywords o.declared lines).map (Call.CallSite.ofOccurrence path)).map
        Call.CallSite.withoutArguments =
      ((Call.scanCalls keywords o'.declared lines').map (Call.CallSite.ofOccurrence path)).map
        Call.CallSite.withoutArguments := by
  rw [List.map_map, List.map_map, ← h.declared]
  exact Call.scanCalls_alike keywords o.declared path hcode

end Extract

/-! ### Whole sources -/

/-- The comments and strings of the sources in a language. -/
def lexRulesOf (language : String) : Source.LexRules :=
  if language = "python" then Extract.Python.rules
  else if language = "javascript" || language = "typescript" then Extract.JavaScript.rules
  else if language = "php" then Extract.Php.rules
  else {}

/-- Two summaries list the same declarations and calls.  The bases of Python classes, the parameters of functions and
methods and the arguments of calls may differ, so may the modules that other languages import and the names that Python
exports. -/
structure FileSummary.SameStructure (s s' : FileSummary) : Prop where
  path : s.path = s'.path
  language : s.language = s'.language
  classes : s.classes.map ClassDecl.withoutBases = s'.classes.map ClassDecl.withoutBases
  functions : s.functions.map FunctionDecl.withoutParameters = s'.functions.map FunctionDecl.withoutParameters
  methods : s.methods.map MethodDecl.withoutParameters = s'.methods.map MethodDecl.withoutParameters
  calls : s.calls.map Call.CallSite.withoutArguments = s'.calls.map Call.CallSite.withoutArguments
  imports_of_python : s.language = "python" → s.imports = s'.imports
  classes_of_braces : s.language ≠ "python" → s.classes = s'.classes
  exports_of_braces : s.language ≠ "python" → s.exports = s'.exports
  length_imports : s.imports.length = s'.imports.length

/-- Findings with alike outlines and the same calls have the same structure, in the language whose outlines they are. -/
private theorem Extract.Outline.Alike.sameStructure {braces : Bool} {f f' : Findings}
    (h : Alike braces f.outline f'.outline) (path language digest digest' : String)
    (hcalls : (f.calls.map (Call.CallSite.ofOccurrence path)).map Call.CallSite.withoutArguments =
      (f'.calls.map (Call.CallSite.ofOccurrence path)).map Call.CallSite.withoutArguments)
    (hpython : language = "python" ↔ braces = false) :
    (f.summary path language digest).SameStructure (f'.summary path language digest') where
  path := rfl
  language := rfl
  classes := h.classes
  functions := h.functions
  methods := h.methods
  calls := hcalls
  imports_of_python := fun hlanguage => h.imports (hpython.1 hlanguage)
  classes_of_braces := fun hlanguage => by
    obtain rfl : braces = true := by simpa using mt hpython.2 hlanguage
    exact h.classes_eq
  exports_of_braces := fun hlanguage => h.exports (by simpa using mt hpython.2 hlanguage)
  length_imports := h.length_imports

/-- What stands in comments and strings does not reach the structure of a source: two texts with the same masked text
have the same declarations and calls. -/
theorem masked_text_determines_structure (language path content content' : String)
    (h : Source.mask (lexRulesOf language) content.toList = Source.mask (lexRulesOf language) content'.toList) :
    (summarize language path content).1.SameStructure (summarize language path content').1 := by
  have hcode : (Source.sourceLines (lexRulesOf language) content.toList).map Line.code =
      (Source.sourceLines (lexRulesOf language) content'.toList).map Line.code := by
    rw [Source.map_code_sourceLines, Source.map_code_sourceLines, h]
  unfold summarize findingsIn
  unfold lexRulesOf at hcode
  dsimp only
  split_ifs at hcode ⊢ with hpython hscript hphp
  · have houtline :=
      (Extract.runLines_alike _ Extract.Python.State.Alike Extract.Python.readLine_alike (.refl {}) 1 hcode).outline
    exact houtline.sameStructure path language _ _ (Extract.calls_alike houtline _ hcode path) (by simp [hpython])
  · have houtline :=
      (Extract.runLines_alike _ Extract.BlockScan.Alike Extract.JavaScript.readLine_alike (.refl {}) 1 hcode).outline
    exact houtline.sameStructure path language _ _ (Extract.calls_alike houtline _ hcode path) (by simp [hpython])
  · have houtline :=
      (Extract.runLines_alike _ Extract.BlockScan.Alike Extract.Php.readLine_alike (.refl {}) 1 hcode).outline
    exact houtline.sameStructure path language _ _ (Extract.calls_alike houtline _ hcode path) (by simp [hpython])
  · have houtline := Extract.Outline.Alike.refl true {}
    exact houtline.sameStructure path language _ _ (Extract.calls_alike houtline _ hcode path) (by simp [hpython])

/-- Another module in quotes and a comment that looks like a declaration. -/
theorem quoted_module_and_comment_leave_structure :
    Source.mask (lexRulesOf "typescript") "import a from './p'; /*class A\x7b\nf()*/ g('\x7b')".toList =
        Source.mask (lexRulesOf "typescript") "import a from './q'; /*new C()\x7d\n.;.*/ g('\x7d')".toList ∧
      (summarize "typescript" "/s.ts" "import a from './p'; /*class A\x7b\nf()*/ g('\x7b')").1.SameStructure
        (summarize "typescript" "/s.ts" "import a from './q'; /*new C()\x7d\n.;.*/ g('\x7d')").1 := by
  have h : Source.mask (lexRulesOf "typescript") "import a from './p'; /*class A\x7b\nf()*/ g('\x7b')".toList =
      Source.mask (lexRulesOf "typescript") "import a from './q'; /*new C()\x7d\n.;.*/ g('\x7d')".toList := by
    cbv
  exact ⟨h, masked_text_determines_structure _ _ _ _ h⟩

end CallIndex
