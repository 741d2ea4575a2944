import CallIndex.Proofs.BareOutline
import CallIndex.Proofs.SummaryShape

/-!
# Indentation blocks

A scan of Python lines keeps a stack of open scopes, and every significant line takes the scopes off it that are not
indented less than the line.  Here the same scopes are told without a stack: the declaration at `h` is still open at `i`
if all significant lines from `h` to `i` are indented deeper than it (`StillOpen`), and the parent of a line is the last
declaration that is still open there.  Whether a class or a function is registered depends on its parent alone.

The scan is first reduced to the part that does not look at raw text (`Frame`).  The scopes on its stack are then those of
the declarations that are still open, and the lists of classes, functions and methods hold what has been registered on
the lines so far (`Tracks`).

* `frame_readLine`: one line acts on the frame by its code.
* `openHeads_succ`: what is still open behind a significant line.
* `Tracks.read`: one line keeps the frame in step with the blocks; `tracks_readAll`: so do all lines.
* `scopes_are_indentation_blocks`: what a source registers is what its indentation tells.
-/

namespace CallIndex.Extract.Python

open Source (Line indentWidth)
open Text (Scan)

/-! ### Scans of code alone -/

/-- What a line declares. -/
inductive Head where
  | ofClass (name : String)
  | ofDef (name : String)
  deriving DecidableEq, Repr

/-- The class or function that a line declares; a line that reads as a decorator declares nothing. -/
def headOn? (code : List Char) : Option Head :=
  match Scan.firstOf decorator code with
  | some _ => none
  | none =>
    match Scan.firstOf classHead code with
    | some (name, _) => some (.ofClass name)
    | none => (Scan.firstOf defHead code).map fun head => .ofDef head.name

/-- The number of open brackets behind a line; it does not fall below zero. -/
def depthAfter (depth : Nat) (code : List Char) : Nat :=
  depth + code.countP Source.isOpening - code.countP Source.isClosing

/-- The part of a scan that does not look at raw text: the bare outline, the open scopes and the number of open
brackets. -/
structure Frame where
  outline : Outline := {}
  scopes : List Scope := []
  depth : Nat := 0

namespace Frame

/-- Opens the scope of a class on the line `number`, and registers the class unless it stands in a function. -/
def enterClass (f : Frame) (number indent : Nat) (name : String) : Frame :=
  if f.scopes.head?.all fun parent => parent.kind = .classBody then
    { f with
      outline := f.outline.addClass { name := name, line := number }
      scopes := ⟨.classBody, name, indent, some f.outline.classes.length⟩ :: f.scopes }
  else { f with scopes := ⟨.nested, name, indent, none⟩ :: f.scopes }

/-- Opens the scope of a function on the line `number`, and registers it as a function or a method unless it stands in
another function. -/
def enterDef (f : Frame) (number indent : Nat) (name : String) : Frame :=
  match f.scopes.head? with
  | none =>
    { f with
      outline := f.outline.addFunction { name := name, line := number }
      scopes := ⟨.functionBody, name, indent, none⟩ :: f.scopes }
  | some parent =>
    if parent.kind = .classBody then
      { f with
        outline := f.outline.addMethod parent.owner { className := parent.name, name := name, line := number }
        scopes := ⟨.functionBody, name, indent, parent.owner⟩ :: f.scopes }
    else { f with scopes := ⟨.nested, name, indent, parent.owner⟩ :: f.scopes }

/-- Opens the scope of a declaration on the line `number`. -/
def enter (f : Frame) (number indent : Nat) : Head → Frame
  | .ofClass name => f.enterClass number indent name
  | .ofDef name => f.enterDef number indent name

/-- Closes the scopes that are not indented less than `indent`. -/
def dedent (f : Frame) (indent : Nat) : Frame :=
  { f with scopes := f.scopes.dropWhile (indent ≤ ·.indent) }

/-- Reads the code of the line `number`, which is not blank and not inside brackets. -/
def readSignificant (f : Frame) (number : Nat) (code : List Char) : Frame :=
  match headOn? code with
  | none => f.dedent (indentWidth code)
  | some head => (f.dedent (indentWidth code)).enter number (indentWidth code) head

/-- Reads the code of the line `number`. -/
def read (f : Frame) (number : Nat) (code : List Char) : Frame :=
  if f.depth > 0 || Text.allBlank code then { f with depth := depthAfter f.depth code }
  else { f.readSignificant number code with depth := depthAfter f.depth code }

@[simp] theorem depth_read (f : Frame) (number : Nat) (code : List Char) :
    (f.read number code).depth = depthAfter f.depth code := by
  unfold read
  split <;> rfl

/-- Reads the code of lines that are numbered from `number` on. -/
def readAll (f : Frame) (number : Nat) : List (List Char) → Frame
  | [] => f
  | code :: codes => (f.read number code).readAll (number + 1) codes

theorem readAll_append (f : Frame) (number : Nat) (codes codes' : List (List Char)) :
    f.readAll number (codes ++ codes') = (f.readAll number codes).readAll (number + codes.length) codes' := by
  induction codes generalizing f number with
  | nil => rfl
  | cons code codes ih =>
    rw [List.cons_append, readAll, readAll, ih, List.length_cons]
    congr 1
    omega

end Frame

/-- The part of a scan that does not look at raw text. -/
def State.frame (st : State) : Frame :=
  ⟨st.outline.bare, st.scopes, st.depth⟩

private theorem frame_readClass (st : State) (number indent : Nat) (line : Line) (rest : List Line) (name : String)
    (behind : Option (List Char)) :
    (readClass st number indent line rest name behind).frame = st.frame.enterClass number indent name := by
  by_cases hparent : st.scopes.head?.all fun parent => parent.kind = .classBody
  · simp [readClass, Frame.enterClass, State.frame, hparent, ClassDecl.bare]
  · simp [readClass, Frame.enterClass, State.frame, hparent]

private theorem frame_readDef (st : State) (number indent : Nat) (line : Line) (rest : List Line) (head : DefHead) :
    (readDef st number indent line rest head).frame = st.frame.enterDef number indent head.name := by
  cases hparent : st.scopes.head? with
  | none => simp [readDef, Frame.enterDef, State.frame, hparent, FunctionDecl.bare]
  | some parent =>
    by_cases hkind : parent.kind = .classBody
    · simp [readDef, Frame.enterDef, State.frame, hparent, hkind, MethodDecl.bare]
    · simp [readDef, Frame.enterDef, State.frame, hparent, hkind]

private theorem bare_readStatement (o : Outline) (parent : Option Scope) (number : Nat) (line : Line)
    (rest : List Line) : (readStatement o parent number line rest).bare = o.bare := by
  unfold readStatement
  split
  · simp
  · split
    · simp
    · split
      · split
        · simp
        · rfl
      · split
        · rfl
        · split
          · simp
          · simp

private theorem frame_readSignificant (st : State) (number : Nat) (line : Line) (rest : List Line) :
    (readSignificant st number line rest).frame = st.frame.readSignificant number line.code := by
  unfold readSignificant Frame.readSignificant headOn?
  cases Scan.firstOf decorator line.code with
  | some name => rfl
  | none =>
    cases Scan.firstOf classHead line.code with
    | some head => exact frame_readClass _ number _ line rest head.1 head.2
    | none =>
      cases Scan.firstOf defHead line.code with
      | some head => exact frame_readDef _ number _ line rest head
      | none => simp [State.frame, Frame.dedent, bare_readStatement]

/-- What a scan keeps apart from raw text is told by code alone. -/
theorem frame_readLine (st : State) (number : Nat) (line : Line) (rest : List Line) :
    (readLine st number line rest).frame = st.frame.read number line.code := by
  unfold readLine Frame.read
  rw [← frame_readSignificant st number line rest]
  have hdepth : st.frame.depth = st.depth := rfl
  rw [hdepth]
  split
  · rfl
  · rfl

private theorem frame_runLines (st : State) (number : Nat) (lines : List Line) :
    (runLines readLine st number lines).frame = st.frame.readAll number (lines.map Line.code) := by
  induction lines generalizing st number with
  | nil => rfl
  | cons line rest ih => rw [runLines, ih, frame_readLine, List.map_cons, Frame.readAll]

/-- The scan of a source is that of its masked text. -/
theorem frame_readSource (content : List Char) : (runLines readLine {} 1 (Source.sourceLines rules content)).frame =
    ({} : Frame).readAll 1 (Text.lines (Source.mask rules content)) := by
  rw [frame_runLines, Source.map_code_sourceLines]
  rfl

/-! ### Blocks by indentation -/

section Blocks

variable (codes : List (List Char))

/-- The number of open brackets before the line at index `i`. -/
def depthBefore (i : Nat) : Nat :=
  (codes.take i).foldl depthAfter 0

/-- The line at index `i` is not blank, and no bracket is open before it. -/
def significant (i : Nat) : Bool :=
  depthBefore codes i = 0 && codes[i]?.any fun code => !Text.allBlank code

/-- The declaration on the line at index `i`, if the line is significant. -/
def headAt? (i : Nat) : Option Head :=
  if significant codes i then codes[i]?.bind headOn? else none

/-- The indentation of the line at index `i`. -/
def indentAt (i : Nat) : Nat :=
  indentWidth (codes.getD i [])

/-- A declaration stands at index `h`, and every significant line behind it and before index `i` is indented deeper. -/
def StillOpen (h i : Nat) : Prop :=
  (headAt? codes h).isSome ∧ ∀ j < i, h < j → significant codes j → indentAt codes h < indentAt codes j

instance (h i : Nat) : Decidable (StillOpen codes h i) :=
  inferInstanceAs (Decidable (_ ∧ _))

/-- The declarations that are still open before the line at index `i`, innermost first. -/
def openHeads (i : Nat) : List Nat :=
  (List.range i).reverse.filter fun h => StillOpen codes h i

/-- The last declaration before the line at index `i` than which every significant line up to and including this one is
indented deeper. -/
def parent? (i : Nat) : Option Nat :=
  (List.range i).reverse.find? fun h => StillOpen codes h (i + 1)

/-- The line at index `i` declares a class, outside of everything or in a class that is registered itself. -/
inductive RegisteredClass : Nat → Prop
  | outermost {i : Nat} {name : String} (hhead : headAt? codes i = some (.ofClass name)) (hparent : parent? codes i = none) :
      RegisteredClass i
  | inClass {h i : Nat} {name : String} (hhead : headAt? codes i = some (.ofClass name))
      (hparent : parent? codes i = some h) (h : RegisteredClass h) : RegisteredClass i

/-- The name of the function or method that the line at index `i` declares. -/
def defNameAt? (i : Nat) : Option String :=
  match headAt? codes i with
  | some (.ofDef name) => some name
  | _ => none

/-- The names of the functions before the line at index `i` whose parent is the declaration at index `h`. -/
def membersBefore (h i : Nat) : List String :=
  (List.range i).filterMap fun j => if parent? codes j = some h then defNameAt? codes j else none

end Blocks

section

variable {codes : List (List Char)} {h i j : Nat}

private theorem stillOpen_succ : StillOpen codes h (i + 1) ↔
    StillOpen codes h i ∧ (h < i → significant codes i → indentAt codes h < indentAt codes i) := by
  unfold StillOpen
  constructor
  · rintro ⟨hhead, hdeeper⟩
    exact ⟨⟨hhead, fun j hj => hdeeper j (by omega)⟩, hdeeper i (by omega)⟩
  · rintro ⟨⟨hhead, hbefore⟩, hhere⟩
    refine ⟨hhead, fun j hj hlt => ?_⟩
    rcases Nat.lt_or_eq_of_le (Nat.le_of_lt_succ hj) with hj | rfl
    · exact hbefore j hj hlt
    · exact hhere hlt

private theorem mem_openHeads : h ∈ openHeads codes i ↔ h < i ∧ StillOpen codes h i := by
  simp [openHeads]

private theorem parent?_lt (hparent : parent? codes i = some h) : h < i := by
  have := List.mem_of_find?_eq_some hparent
  simpa using this

private theorem depthBefore_succ {code : List Char} (hcode : codes[i]? = some code) :
    depthBefore codes (i + 1) = depthAfter (depthBefore codes i) code := by
  unfold depthBefore
  rw [List.take_add_one, hcode]
  simp

private theorem significant_of_headAt? {head : Head} (hhead : headAt? codes h = some head) : significant codes h := by
  unfold headAt? at hhead
  split at hhead
  · assumption
  · cases hhead

private theorem lt_length_of_headAt? {head : Head} (hhead : headAt? codes h = some head) : h < codes.length := by
  have hsignificant := significant_of_headAt? hhead
  rw [headAt?, if_pos hsignificant] at hhead
  obtain ⟨code, hcode, -⟩ := Option.bind_eq_some_iff.1 hhead
  exact (List.getElem?_eq_some_iff.1 hcode).1

/-- Open declarations are indented deeper the later they stand. -/
private theorem pairwise_openHeads (codes : List (List Char)) (i : Nat) :
    (openHeads codes i).Pairwise fun a b => b < a ∧ indentAt codes b < indentAt codes a := by
  have hrange : (List.range i).reverse.Pairwise fun a b => b < a :=
    List.pairwise_reverse.2 List.pairwise_lt_range
  refine List.Pairwise.imp_of_mem ?_ (hrange.filter _)
  intro a b ha hb hlt
  obtain ⟨ha, hopen⟩ := mem_openHeads.1 ha
  obtain ⟨head, hhead⟩ := Option.isSome_iff_exists.1 hopen.1
  exact ⟨hlt, (mem_openHeads.1 hb).2.2 a ha hlt (significant_of_headAt? hhead)⟩

/-- What decreases along a list falls below a bound from some place on. -/
private theorem dropWhile_eq_filter_of_pairwise {α : Type} (key : α → Nat) (n : Nat) {l : List α}
    (hl : l.Pairwise fun a b => key b < key a) :
    l.dropWhile (fun a => n ≤ key a) = l.filter fun a => key a < n := by
  induction l with
  | nil => rfl
  | cons a l ih =>
    obtain ⟨ha, hl⟩ := List.pairwise_cons.1 hl
    by_cases hkey : n ≤ key a
    · rw [List.dropWhile_cons_of_pos (by simpa using hkey), List.filter_cons_of_neg (by simpa using hkey), ih hl]
    · have hall : l.filter (fun b => key b < n) = l := by
        rw [List.filter_eq_self]
        intro b hb
        have := ha b hb
        simp only [decide_eq_true_eq]
        omega
      rw [List.dropWhile_cons_of_neg (by simpa using hkey), List.filter_cons_of_pos (by simp; omega), hall]

/-- A line that is not significant closes no declaration and opens none. -/
private theorem openHeads_succ_of_not_significant (hi : significant codes i = false) :
    openHeads codes (i + 1) = openHeads codes i := by
  have hlast : ¬ StillOpen codes i (i + 1) := by
    rintro ⟨hhead, -⟩
    obtain ⟨head, hhead⟩ := Option.isSome_iff_exists.1 hhead
    rw [significant_of_headAt? hhead] at hi
    cases hi
  unfold openHeads
  rw [List.range_succ, List.reverse_append, List.reverse_singleton, List.singleton_append,
    List.filter_cons_of_neg (by simpa using hlast)]
  apply List.filter_congr
  intro h _
  simp [stillOpen_succ, hi]

/-- The declarations that a significant line leaves open are those that are indented less. -/
private theorem filter_stillOpen_succ (hi : significant codes i) :
    ((List.range i).reverse.filter fun h => StillOpen codes h (i + 1)) =
      (openHeads codes i).filter fun h => indentAt codes h < indentAt codes i := by
  rw [openHeads, List.filter_filter]
  apply List.filter_congr
  intro h hh
  have hlt : h < i := by simpa using hh
  simp [stillOpen_succ, hi, hlt, Bool.and_comm]

/-- A significant line closes the declarations that are not indented less, and opens its own. -/
theorem openHeads_succ (hi : significant codes i) :
    openHeads codes (i + 1) = (if (headAt? codes i).isSome then [i] else []) ++
      (openHeads codes i).filter fun h => indentAt codes h < indentAt codes i := by
  have hlast : StillOpen codes i (i + 1) ↔ (headAt? codes i).isSome :=
    ⟨fun h => h.1, fun h => ⟨h, fun j hj hlt => by omega⟩⟩
  rw [← filter_stillOpen_succ hi, openHeads, List.range_succ, List.reverse_append, List.reverse_singleton,
    List.singleton_append, List.filter_cons]
  simp only [hlast, decide_eq_true_eq]
  split
  · rfl
  · rfl

/-- The parent of a significant line is the innermost open declaration that is indented less. -/
private theorem parent?_eq_head? (hi : significant codes i) :
    parent? codes i = ((openHeads codes i).filter fun h => indentAt codes h < indentAt codes i).head? := by
  rw [← filter_stillOpen_succ hi, List.head?_filter, parent?]

private theorem registeredClass_iff : RegisteredClass codes i ↔
    (∃ name, headAt? codes i = some (.ofClass name)) ∧ ∀ h, parent? codes i = some h → RegisteredClass codes h := by
  constructor
  · intro hi
    cases hi with
    | outermost hhead hparent => exact ⟨⟨_, hhead⟩, by simp [hparent]⟩
    | inClass hhead hparent hh => exact ⟨⟨_, hhead⟩, by simpa [hparent] using hh⟩
  · rintro ⟨⟨name, hhead⟩, hall⟩
    cases hparent : parent? codes i with
    | none => exact .outermost hhead hparent
    | some h => exact .inClass hhead hparent (hall h hparent)

private theorem membersBefore_succ (codes : List (List Char)) (h i : Nat) : membersBefore codes h (i + 1) =
    membersBefore codes h i ++ (if parent? codes i = some h then defNameAt? codes i else none).toList := by
  unfold membersBefore
  rw [List.range_succ, List.filterMap_append]
  congr 1

/-- What a declaration is the parent of stands behind it. -/
private theorem membersBefore_self (codes : List (List Char)) (h : Nat) : membersBefore codes h (h + 1) = [] := by
  unfold membersBefore
  rw [List.filterMap_eq_nil_iff]
  intro j hj
  rw [List.mem_range] at hj
  rw [if_neg]
  intro hparent
  have := parent?_lt hparent
  omega

end

/-! ### What has been registered before a line -/

/-- A list holds a line with a value for each index below `i` at which `P` holds of the value. -/
def Lists {α : Type} (P : Nat → α → Prop) (i : Nat) (l : List (Int × α)) : Prop :=
  ∀ (h : Nat) (a : α), ((h : Int) + 1, a) ∈ l ↔ h < i ∧ P h a

namespace Lists

variable {α : Type} {P : Nat → α → Prop} {i : Nat} {l : List (Int × α)}

private theorem skip (hl : Lists P i l) (hi : ∀ a, ¬ P i a) : Lists P (i + 1) l := by
  intro h a
  rw [hl h a]
  constructor
  · rintro ⟨hlt, hP⟩
    exact ⟨by omega, hP⟩
  · rintro ⟨hlt, hP⟩
    have hne : h ≠ i := by
      rintro rfl
      exact hi a hP
    exact ⟨by omega, hP⟩

private theorem concat (hl : Lists P i l) {a : α} (hi : ∀ b, P i b ↔ b = a) :
    Lists P (i + 1) (l ++ [(((i + 1 : Nat) : Int), a)]) := by
  intro h b
  rw [List.mem_append, hl h b, List.mem_singleton, Prod.mk.injEq]
  constructor
  · rintro (⟨hlt, hP⟩ | ⟨hline, rfl⟩)
    · exact ⟨by omega, hP⟩
    · obtain rfl : h = i := by omega
      exact ⟨by omega, (hi b).2 rfl⟩
  · rintro ⟨hlt, hP⟩
    rcases Nat.lt_or_eq_of_le (Nat.le_of_lt_succ hlt) with hlt | rfl
    · exact .inl ⟨hlt, hP⟩
    · exact .inr ⟨by omega, (hi b).1 hP⟩

end Lists

section Registered

variable (codes : List (List Char))

/-- The class `name` is registered at index `i`. -/
def RegistersClass (i : Nat) (name : String) : Prop :=
  headAt? codes i = some (.ofClass name) ∧ RegisteredClass codes i

/-- The function `name` is registered at index `i`: it has no parent. -/
def RegistersFunction (i : Nat) (name : String) : Prop :=
  headAt? codes i = some (.ofDef name) ∧ parent? codes i = none

/-- A method is registered at index `i`, by the names of its class and its own: its parent is that class. -/
def RegistersMethod (i : Nat) (names : String × String) : Prop :=
  headAt? codes i = some (.ofDef names.2) ∧ ∃ h, parent? codes i = some h ∧ RegistersClass codes h names.1

/-- The scope that the declaration at index `h` has opened. -/
structure Stands (classLines : List Int) (scope : Scope) (h : Nat) : Prop where
  indent : scope.indent = indentAt codes h
  kind : scope.kind = .classBody ↔ RegisteredClass codes h
  head : scope.kind = .classBody → headAt? codes h = some (.ofClass scope.name)
  owner : scope.kind = .classBody → ∃ p, scope.owner = some p ∧ classLines[p]? = some ((h : Int) + 1)

/-- The declarations before index `i` have been registered, and the scopes of those at `hs` are open. -/
structure Tracks (i : Nat) (hs : List Nat) (f : Frame) : Prop where
  scopes : List.Forall₂ (Stands codes (f.outline.classes.map (·.line))) f.scopes hs
  classes : Lists (RegistersClass codes) i (f.outline.classes.map fun c => (c.line, c.name))
  functions : Lists (RegistersFunction codes) i (f.outline.functions.map fun d => (d.line, d.name))
  methods : Lists (RegistersMethod codes) i (f.outline.methods.map fun m => (m.line, m.className, m.name))
  members : ∀ c ∈ f.outline.classes, ∀ h : Nat, c.line = h + 1 → c.methodNames = membersBefore codes h i
  ordered : f.outline.Ordered (i + 1)

end Registered

variable {codes : List (List Char)} {i : Nat} {hs : List Nat} {f : Frame}

private theorem Stands.mono {lines lines' : List Int} {scope : Scope} {h : Nat} (hs : Stands codes lines scope h)
    (hlines : lines <+: lines') : Stands codes lines' scope h :=
  { hs with
    owner := fun hkind => by
      obtain ⟨p, hp, hline⟩ := hs.owner hkind
      obtain ⟨hlt, -⟩ := List.getElem?_eq_some_iff.1 hline
      obtain ⟨more, rfl⟩ := hlines
      exact ⟨p, hp, by rw [List.getElem?_append_left hlt, hline]⟩ }

private theorem forall₂_dropWhile {α β : Type} {R : α → β → Prop} {p : α → Bool} {q : β → Bool}
    (hpq : ∀ a b, R a b → p a = q b) {l : List α} {l' : List β} (h : List.Forall₂ R l l') :
    List.Forall₂ R (l.dropWhile p) (l'.dropWhile q) := by
  induction h with
  | nil => exact .nil
  | @cons a b l l' hab hl ih =>
    rw [List.dropWhile_cons, List.dropWhile_cons, hpq a b hab]
    split
    · exact ih
    · exact .cons hab hl

/-- The names of a method are its own and that of its parent. -/
private theorem registersMethod_iff {h : Nat} {className name : String} {names : String × String}
    (hhead : headAt? codes i = some (.ofDef name)) (hparent : parent? codes i = some h)
    (hclass : RegistersClass codes h className) : RegistersMethod codes i names ↔ names = (className, name) := by
  constructor
  · rintro ⟨hdef, h', hparent', hclass'⟩
    obtain rfl : h = h' := by simpa [hparent] using hparent'
    have hname : className = names.1 := by simpa [hclass.1] using hclass'.1
    have hname' : name = names.2 := by simpa [hhead] using hdef
    rw [hname, hname']
  · rintro rfl
    exact ⟨hhead, h, hparent, hclass⟩

namespace Tracks

theorem dedent (ht : Tracks codes i (openHeads codes i) f) (n : Nat) :
    Tracks codes i ((openHeads codes i).filter fun h => indentAt codes h < n) (f.dedent n) := by
  have hdecreasing := (pairwise_openHeads codes i).imp fun h => h.2
  rw [← dropWhile_eq_filter_of_pairwise (indentAt codes) n hdecreasing]
  refine { ht with scopes := forall₂_dropWhile ?_ ht.scopes }
  intro scope h hstands
  rw [hstands.indent]

/-- A line that declares nothing is passed. -/
private theorem pass (ht : Tracks codes i hs f) (hhead : headAt? codes i = none) : Tracks codes (i + 1) hs f where
  scopes := ht.scopes
  classes := ht.classes.skip fun _ h => by simp [h.1] at hhead
  functions := ht.functions.skip fun _ h => by simp [h.1] at hhead
  methods := ht.methods.skip fun _ h => by simp [h.1] at hhead
  members := by
    intro c hc h hline
    rw [membersBefore_succ, ht.members c hc h hline]
    simp [defNameAt?, hhead]
  ordered := ht.ordered.passed

/-- The innermost open scope is that of the parent. -/
private theorem parent_cases (ht : Tracks codes i hs f) (hparent : parent? codes i = hs.head?) :
    f.scopes.head? = none ∧ parent? codes i = none ∨
      ∃ scope h, f.scopes.head? = some scope ∧ parent? codes i = some h ∧
        Stands codes (f.outline.classes.map (·.line)) scope h := by
  have hscopes := ht.scopes
  rw [hparent]
  cases hf : f.scopes with
  | nil =>
    rw [hf, List.forall₂_nil_left_iff] at hscopes
    exact .inl ⟨rfl, by rw [hscopes]; rfl⟩
  | cons scope scopes =>
    rw [hf] at hscopes
    obtain ⟨h, hs', hstands, -, rfl⟩ := List.forall₂_cons_left_iff.1 hscopes
    exact .inr ⟨scope, h, rfl, rfl, hstands⟩

private theorem enterClass (ht : Tracks codes i hs f) {name : String} (hhead : headAt? codes i = some (.ofClass name))
    (hparent : parent? codes i = hs.head?) :
    Tracks codes (i + 1) (i :: hs) (f.enterClass (i + 1) (indentAt codes i) name) := by
  have hregistered : (f.scopes.head?.all fun parent => parent.kind = .classBody) ↔ RegisteredClass codes i := by
    rw [registeredClass_iff]
    rcases ht.parent_cases hparent with ⟨hscope, hnone⟩ | ⟨scope, h, hscope, hsome, hstands⟩
    · simp [hscope, hnone, hhead]
    · simp [hscope, hsome, hhead, hstands.kind]
  have hmembers : ∀ h, membersBefore codes h (i + 1) = membersBefore codes h i := by
    intro h
    simp [membersBefore_succ, defNameAt?, hhead]
  have hfunctions := ht.functions.skip fun a (ha : RegistersFunction codes i a) => by simp [ha.1] at hhead
  have hmethods := ht.methods.skip fun a (ha : RegistersMethod codes i a) => by simp [ha.1] at hhead
  unfold Frame.enterClass
  split
  · -- the class is added, and its scope knows it by its position
    rename_i hall
    have hi := hregistered.1 hall
    exact {
      scopes := .cons
        { indent := rfl
          kind := by simpa using hi
          head := fun _ => hhead
          owner := fun _ => ⟨_, rfl, by simp [Outline.addClass]⟩ }
        (ht.scopes.imp fun _ _ hstands => hstands.mono (by simp [Outline.addClass]))
      classes := by
        have := ht.classes.concat (a := name) fun b => by
          simp only [RegistersClass, hhead, hi, and_true, Option.some.injEq, Head.ofClass.injEq, eq_comm]
        simpa [Outline.addClass] using this
      functions := hfunctions
      methods := hmethods
      members := by
        intro c hc h hline
        rcases List.mem_append.1 hc with hc | hc
        · rw [hmembers, ht.members c hc h hline]
        · rw [List.mem_singleton.1 hc] at hline ⊢
          obtain rfl : h = i := by simp at hline; omega
          rw [membersBefore_self]
      ordered := ht.ordered.addClass (by omega) rfl rfl (List.nil_subset _) }
  · -- the class stands in a function: its scope opens, and nothing is added
    rename_i hall
    have hi : ¬ RegisteredClass codes i := fun h => hall (hregistered.2 h)
    exact {
      scopes := .cons ⟨rfl, by simpa using hi, by simp, by simp⟩ ht.scopes
      classes := ht.classes.skip fun a ha => hi ha.2
      functions := hfunctions
      methods := hmethods
      members := fun c hc h hline => by rw [hmembers, ht.members c hc h hline]
      ordered := ht.ordered.passed }

/-- A method is entered in the class of its parent, and in no other. -/
private theorem members_addMethod (ht : Tracks codes i hs f) {m : MethodDecl} {h p : Nat}
    (hdef : defNameAt? codes i = some m.name) (hparent : parent? codes i = some h)
    (hp : (f.outline.classes.map (·.line))[p]? = some ((h : Int) + 1)) :
    ∀ c ∈ (f.outline.addMethod (some p) m).classes, ∀ h' : Nat, c.line = h' + 1 →
      c.methodNames = membersBefore codes h' (i + 1) := by
  intro c hc h' hline
  obtain ⟨q, hq⟩ := List.mem_iff_getElem?.1 hc
  simp only [Outline.addMethod, List.getElem?_modify] at hq
  obtain ⟨c₀, hc₀, rfl⟩ := Option.map_eq_some_iff.1 hq
  have hlines : (f.outline.classes.map (·.line))[q]? = some c₀.line := by rw [List.getElem?_map, hc₀]; rfl
  have hmembers := ht.members c₀ (List.mem_of_getElem? hc₀)
  -- classes stand on lines of their own, so the one at `p` is the one on the line of the parent
  by_cases hpq : p = q
  · simp only [hpq, ↓reduceIte] at hline ⊢
    obtain rfl : h' = h := by
      rw [← hpq, hp, Option.some.injEq] at hlines
      omega
    rw [membersBefore_succ, hparent, hdef, hmembers h' hline]
    simp
  · simp only [hpq, ↓reduceIte] at hline ⊢
    have hne : h ≠ h' := by
      rintro rfl
      have hnodup : (f.outline.classes.map (·.line)).Nodup := ht.ordered.classes.imp Int.ne_of_lt
      obtain ⟨hlt, -⟩ := List.getElem?_eq_some_iff.1 hp
      exact hpq ((List.getElem?_inj hlt hnodup).1 (by rw [hp, hlines, hline]))
    rw [membersBefore_succ, hparent, hmembers h' hline]
    simp [hne]

private theorem enterDef (ht : Tracks codes i hs f) {name : String} (hhead : headAt? codes i = some (.ofDef name))
    (hparent : parent? codes i = hs.head?) :
    Tracks codes (i + 1) (i :: hs) (f.enterDef (i + 1) (indentAt codes i) name) := by
  have hi : ¬ RegisteredClass codes i := by
    intro h
    obtain ⟨⟨name', hclass⟩, -⟩ := registeredClass_iff.1 h
    rw [hhead] at hclass
    cases hclass
  have hclasses := ht.classes.skip fun a (ha : RegistersClass codes i a) => hi ha.2
  unfold Frame.enterDef
  rcases ht.parent_cases hparent with ⟨hscope, hnone⟩ | ⟨scope, h, hscope, hsome, hstands⟩
  · simp only [hscope]
    exact {
      scopes := .cons ⟨rfl, by simpa using hi, by simp, by simp⟩ ht.scopes
      classes := hclasses
      functions := by
        have := ht.functions.concat (a := name) fun b => by
          simp only [RegistersFunction, hhead, hnone, and_true, Option.some.injEq, Head.ofDef.injEq, eq_comm]
        simpa [Outline.addFunction] using this
      methods := ht.methods.skip fun a ha => by simp [RegistersMethod, hnone] at ha
      members := by
        intro c hc h hline
        rw [membersBefore_succ, ht.members c hc h hline, hnone]
        simp
      ordered := ht.ordered.addFunction (by omega) rfl }
  · simp only [hscope]
    split
    · rename_i hkind
      obtain ⟨p, howner, hp⟩ := hstands.owner hkind
      have hregisters : RegistersClass codes h scope.name := ⟨hstands.head hkind, hstands.kind.1 hkind⟩
      rw [howner]
      exact {
        scopes := by
          refine .cons ⟨rfl, by simpa using hi, by simp, by simp⟩ ?_
          rw [Outline.map_addMethod _ _ _ fun _ _ => rfl]
          exact ht.scopes
        classes := by
          rw [Outline.map_addMethod _ _ _ fun _ _ => rfl]
          exact hclasses
        functions := ht.functions.skip fun a ha => by simp [RegistersFunction, hsome] at ha
        methods := by
          have := ht.methods.concat (a := (scope.name, name)) fun b => registersMethod_iff hhead hsome hregisters
          simpa [Outline.addMethod] using this
        members := ht.members_addMethod (by simp [defNameAt?, hhead]) hsome hp
        ordered := ht.ordered.addMethod (by omega) (some p) rfl }
    · rename_i hkind
      have hh : ¬ RegisteredClass codes h := fun hr => hkind (hstands.kind.2 hr)
      exact {
        scopes := .cons ⟨rfl, by simpa using hi, by simp, by simp⟩ ht.scopes
        classes := hclasses
        functions := ht.functions.skip fun a ha => by simp [RegistersFunction, hsome] at ha
        methods := ht.methods.skip fun a ha => by
          obtain ⟨-, h', hparent', hclass⟩ := ha
          obtain rfl : h = h' := by simpa [hsome] using hparent'
          exact hh hclass.2
        members := by
          intro c hc h' hline
          have hclass := (ht.classes h' c.name).1 (List.mem_map.2 ⟨c, hc, by rw [hline]⟩)
          have hne : h ≠ h' := by
            rintro rfl
            exact hh hclass.2.2
          rw [membersBefore_succ, ht.members c hc h' hline, hsome]
          simp [hne]
        ordered := ht.ordered.passed }

private theorem enter (ht : Tracks codes i hs f) {head : Head} (hhead : headAt? codes i = some head)
    (hparent : parent? codes i = hs.head?) :
    Tracks codes (i + 1) (i :: hs) (f.enter (i + 1) (indentAt codes i) head) := by
  cases head with
  | ofClass name => exact ht.enterClass hhead hparent
  | ofDef name => exact ht.enterDef hhead hparent

/-- The line at index `i` keeps a scan on track. -/
theorem read (ht : Tracks codes i (openHeads codes i) f) (hdepth : f.depth = depthBefore codes i) {code : List Char}
    (hcode : codes[i]? = some code) : Tracks codes (i + 1) (openHeads codes (i + 1)) (f.read (i + 1) code) := by
  have hsignificant : significant codes i = !(f.depth > 0 || Text.allBlank code) := by
    simp [significant, hcode, hdepth, Nat.pos_iff_ne_zero]
  unfold Frame.read
  split
  · rename_i hskip
    have hi : significant codes i = false := by rw [hsignificant, hskip]; rfl
    have hhead : headAt? codes i = none := by simp [headAt?, hi]
    rw [openHeads_succ_of_not_significant hi]
    exact { ht.pass hhead with }
  · rename_i hread
    have hi : significant codes i := by rw [hsignificant]; simpa using hread
    have hindent : indentWidth code = indentAt codes i := by simp [indentAt, hcode]
    have hhead : headAt? codes i = headOn? code := by simp [headAt?, hi, hcode]
    have hdedent := ht.dedent (indentAt codes i)
    rw [openHeads_succ hi]
    unfold Frame.readSignificant
    rw [← hhead, hindent]
    cases hcases : headAt? codes i with
    | none => exact { hdedent.pass hcases with }
    | some head => exact { hdedent.enter hcases (parent?_eq_head? hi) with }

end Tracks

private theorem tracks_empty (codes : List (List Char)) : Tracks codes 0 (openHeads codes 0) {} where
  scopes := .nil
  classes := by simp [Lists]
  functions := by simp [Lists]
  methods := by simp [Lists]
  members := by simp
  ordered := (Outline.sound_empty (fun _ => False) 1).ordered

/-- A scan of lines has registered what their indentation tells, and has left open what is still open. -/
theorem tracks_readAll (codes : List (List Char)) :
    Tracks codes codes.length (openHeads codes codes.length) (({} : Frame).readAll 1 codes) ∧
      (({} : Frame).readAll 1 codes).depth = depthBefore codes codes.length := by
  -- the scan is followed over the first `i` lines, for every `i`
  have htake : ∀ i ≤ codes.length, Tracks codes i (openHeads codes i) (({} : Frame).readAll 1 (codes.take i)) ∧
      (({} : Frame).readAll 1 (codes.take i)).depth = depthBefore codes i := by
    intro i hi
    induction i with
    | zero => exact ⟨tracks_empty codes, rfl⟩
    | succ i ih =>
      obtain ⟨htracks, hdepth⟩ := ih (by omega)
      obtain ⟨code, hcode⟩ : ∃ code, codes[i]? = some code := ⟨_, List.getElem?_eq_getElem (by omega)⟩
      have hread : ({} : Frame).readAll 1 (codes.take (i + 1)) =
          (({} : Frame).readAll 1 (codes.take i)).read (i + 1) code := by
        rw [List.take_add_one, hcode, Frame.readAll_append, List.length_take_of_le (by omega), Nat.add_comm 1 i]
        rfl
      rw [hread, Frame.depth_read, hdepth, depthBefore_succ hcode]
      exact ⟨htracks.read hdepth hcode, rfl⟩
  simpa using htake codes.length (Nat.le_refl _)

/-- The declarations of a summary are those that the indentation of the masked lines `codes` tells.  The line at index
`i` has the number `i + 1`. -/
structure FollowsIndentation (codes : List (List Char)) (s : FileSummary) : Prop where
  class_iff : ∀ (i : Nat) (name : String),
    (∃ c ∈ s.classes, c.line = i + 1 ∧ c.name = name) ↔ RegistersClass codes i name
  function_iff : ∀ (i : Nat) (name : String),
    (∃ f ∈ s.functions, f.line = i + 1 ∧ f.name = name) ↔ RegistersFunction codes i name
  method_iff : ∀ (i : Nat) (className name : String),
    (∃ m ∈ s.methods, m.line = i + 1 ∧ m.className = className ∧ m.name = name) ↔
      RegistersMethod codes i (className, name)
  /-- The methods that a class lists are the functions whose parent it is, in order. -/
  methodNames_eq : ∀ c ∈ s.classes, ∀ h : Nat, c.line = h + 1 → c.methodNames = membersBefore codes h codes.length
  /-- Nothing else is registered, and no line registers two things. -/
  declared : ∀ line ∈ s.declarationLines, ∃ i < codes.length, line = (i : Int) + 1 ∧ (headAt? codes i).isSome
  nodup : s.declarationLines.Nodup

/-- What is registered on the line with index `i`, read off the bare declarations. -/
private theorem Lists.exists_iff {α β γ : Type} {P : Nat → α → Prop} {n : Nat} {l : List β} {bare : β → γ}
    {view : γ → Int × α} (hl : Lists P n ((l.map bare).map view)) (hP : ∀ i a, P i a → i < n) (i : Nat) (a : α) :
    (∃ b ∈ l, view (bare b) = ((i : Int) + 1, a)) ↔ P i a := by
  have hmem := hl i a
  rw [List.map_map, List.mem_map] at hmem
  exact hmem.trans ⟨fun h => h.2, fun h => ⟨hP i a h, h⟩⟩

/-- The scopes of a source are its indentation blocks. -/
theorem scopes_are_indentation_blocks (path content : String) :
    FollowsIndentation (Text.lines (Source.mask rules content.toList)) (summarize "python" path content).1 := by
  obtain ⟨htracks, -⟩ := tracks_readAll (Text.lines (Source.mask rules content.toList))
  rw [← frame_readSource] at htracks
  have hclasses := htracks.classes.exists_iff fun i a h => lt_length_of_headAt? h.1
  have hfunctions := htracks.functions.exists_iff fun i a h => lt_length_of_headAt? h.1
  have hmethods := htracks.methods.exists_iff fun i a h => lt_length_of_headAt? h.1
  simp only [ClassDecl.bare, FunctionDecl.bare, MethodDecl.bare, Prod.forall, Prod.mk.injEq] at hclasses hfunctions hmethods
  have hperm := perm_declarationLines_summarize "python" path content
  have hordered := (sound_findingsIn "python" content.toList).ordered
  refine {
    class_iff := hclasses
    function_iff := hfunctions
    method_iff := hmethods
    methodNames_eq := fun c hc => htracks.members c.bare (List.mem_map_of_mem hc)
    declared := ?_
    nodup := hperm.nodup_iff.2 hordered.nodup }
  intro line hline
  have hlines := hperm.mem_iff.1 hline
  have hbounds := hordered.bounds line hlines
  obtain ⟨i, rfl⟩ : ∃ i : Nat, line = (i : Int) + 1 := ⟨line.toNat - 1, by omega⟩
  have hhead : (headAt? (Text.lines (Source.mask rules content.toList)) i).isSome := by
    rcases List.mem_append.1 hlines with hlines | hmethod
    · rcases List.mem_append.1 hlines with hclass | hfunction
      · obtain ⟨c, hc, hline⟩ := List.mem_map.1 hclass
        rw [((hclasses i c.name).1 ⟨c, hc, hline, rfl⟩).1]
        rfl
      · obtain ⟨d, hd, hline⟩ := List.mem_map.1 hfunction
        rw [((hfunctions i d.name).1 ⟨d, hd, hline, rfl⟩).1]
        rfl
    · obtain ⟨m, hm, hline⟩ := List.mem_map.1 hmethod
      rw [((hmethods i m.className m.name).1 ⟨m, hm, hline, rfl, rfl⟩).1]
      rfl
  obtain ⟨head, hsome⟩ := Option.isSome_iff_exists.1 hhead
  exact ⟨i, lt_length_of_headAt? hsome, rfl, hhead⟩

end CallIndex.Extract.Python
