import CallIndex.Proofs.OutlineGrowth

/-!
# Bare outlines

What a source declares, and where: an outline without parameters, bases, properties, imports and notes.  The bare part of
an outline takes part in every step of a scan on its own, so the scans can be followed on bare outlines alone.

* `Outline.bare` and what each way to grow an outline does to it.
* `Outline.mapLines` moves the declarations to other lines.
-/

namespace CallIndex

/-- A class by its name and line and the names of its methods. -/
def ClassDecl.bare (c : ClassDecl) : ClassDecl :=
  { name := c.name, line := c.line, methodNames := c.methodNames }

/-- A function by its name and line. -/
def FunctionDecl.bare (f : FunctionDecl) : FunctionDecl :=
  { name := f.name, line := f.line }

/-- A method by its name and line and the name of its class. -/
def MethodDecl.bare (m : MethodDecl) : MethodDecl :=
  { className := m.className, name := m.name, line := m.line }

namespace Extract.Outline

/-- The declarations of an outline by names and lines. -/
def bare (o : Outline) : Outline :=
  { classes := o.classes.map ClassDecl.bare
    functions := o.functions.map FunctionDecl.bare
    methods := o.methods.map MethodDecl.bare }

variable (o : Outline)

@[simp] theorem length_classes_bare : o.bare.classes.length = o.classes.length := by
  simp [bare]

@[simp] theorem classes_declare (line : Nat) (name : String) : (o.declare line name).classes = o.classes := rfl

@[simp] theorem classes_addProblems (problems : List Problem) : (problems.foldl addProblem o).classes = o.classes := by
  rw [foldl_addProblem]

@[simp] theorem bare_declare (line : Nat) (name : String) : (o.declare line name).bare = o.bare := rfl

@[simp] theorem bare_addImports (names : List String) : (o.addImports names).bare = o.bare := rfl

@[simp] theorem bare_addExports (names : List String) : (o.addExports names).bare = o.bare := rfl

@[simp] theorem bare_addProblems (problems : List Problem) : (problems.foldl addProblem o).bare = o.bare := by
  rw [foldl_addProblem]
  rfl

@[simp] theorem bare_addClass (c : ClassDecl) : (o.addClass c).bare = o.bare.addClass c.bare := by
  simp [bare, addClass]

@[simp] theorem bare_addFunction (f : FunctionDecl) : (o.addFunction f).bare = o.bare.addFunction f.bare := by
  simp [bare, addFunction]

@[simp] theorem bare_addMethod (owner : Option Nat) (m : MethodDecl) :
    (o.addMethod owner m).bare = o.bare.addMethod owner m.bare := by
  cases owner with
  | none => simp [bare, addMethod]
  | some i =>
    have hclasses : (o.classes.modify i fun c => { c with methodNames := c.methodNames ++ [m.name] }).map ClassDecl.bare =
        (o.classes.map ClassDecl.bare).modify i fun c => { c with methodNames := c.methodNames ++ [m.name] } := by
      apply map_modify
      exact fun _ => rfl
    simp only [bare, addMethod, List.map_append, List.map_cons, List.map_nil, hclasses]
    rfl

@[simp] theorem bare_addProperties (owner : Nat) (names : List String) : (o.addProperties owner names).bare = o.bare := by
  unfold bare
  rw [map_addProperties o owner names fun _ _ => rfl]
  rfl

/-- The outline with its declarations on other lines. -/
def mapLines (f : Int → Int) (o : Outline) : Outline :=
  { o with
    classes := o.classes.map fun c => { c with line := f c.line }
    functions := o.functions.map fun d => { d with line := f d.line }
    methods := o.methods.map fun m => { m with line := f m.line } }

variable (move : Int → Int)

@[simp] theorem length_classes_mapLines : (o.mapLines move).classes.length = o.classes.length := by
  simp [mapLines]

theorem addClass_mapLines (c : ClassDecl) :
    (o.addClass c).mapLines move = (o.mapLines move).addClass { c with line := move c.line } := by
  simp [mapLines, addClass]

theorem addFunction_mapLines (f : FunctionDecl) :
    (o.addFunction f).mapLines move = (o.mapLines move).addFunction { f with line := move f.line } := by
  simp [mapLines, addFunction]

theorem addMethod_mapLines (owner : Option Nat) (m : MethodDecl) :
    (o.addMethod owner m).mapLines move = (o.mapLines move).addMethod owner { m with line := move m.line } := by
  cases owner with
  | none => simp [mapLines, addMethod]
  | some i =>
    have hclasses : (o.classes.modify i fun c => { c with methodNames := c.methodNames ++ [m.name] }).map
          (fun c => { c with line := move c.line }) =
        (o.classes.map fun c => { c with line := move c.line }).modify i
          fun c => { c with methodNames := c.methodNames ++ [m.name] } := by
      apply map_modify
      exact fun _ => rfl
    simp only [mapLines, addMethod, List.map_append, List.map_cons, List.map_nil, hclasses]

variable {o move}

/-- Declarations on lines that stay are not moved. -/
theorem mapLines_eq_self (h : ∀ line ∈ o.lines, move line = line) : o.mapLines move = o := by
  simp only [lines, List.mem_append, List.mem_map, or_imp, forall_and, forall_exists_index, and_imp,
    forall_apply_eq_imp_iff₂] at h
  obtain ⟨⟨hclasses, hfunctions⟩, hmethods⟩ := h
  have hclasses : (o.classes.map fun c => { c with line := move c.line }) = o.classes :=
    (List.map_congr_left fun c hc => by rw [hclasses c hc]; rfl).trans (List.map_id _)
  have hfunctions : (o.functions.map fun d => { d with line := move d.line }) = o.functions :=
    (List.map_congr_left fun d hd => by rw [hfunctions d hd]; rfl).trans (List.map_id _)
  have hmethods : (o.methods.map fun m => { m with line := move m.line }) = o.methods :=
    (List.map_congr_left fun m hm => by rw [hmethods m hm]; rfl).trans (List.map_id _)
  rw [mapLines, hclasses, hfunctions, hmethods]

end Extract.Outline

end CallIndex
