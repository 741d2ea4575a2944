/-!
# Brace blocks

A `BlockState` follows the nesting of braces through a stream of code. A declaration announces what the next block is;
the announcement goes to the next opening brace, or is dropped at a semicolon. Blocks carry an owner of any type.

* `BlockState.feed` reads code; feeding two texts is feeding their concatenation.
* `BlockState.problems` is empty when the braces read so far are balanced.
-/

namespace CallIndex

/-- What opened a brace block. -/
inductive BlockKind where
  | classBody
  | functionBody
  | namespaceBody
  | plain
  /-- A block of another kind, known by its name. -/
  | other (name : String)
  deriving DecidableEq, Repr

/-- An open brace block, with the class it is the body of. -/
structure Block (ω : Type) where
  kind : BlockKind
  owner : Option ω := none
  deriving DecidableEq, Repr

/-- The open blocks, innermost first, the number of closing braces without a partner, and the announced block. -/
structure BlockState (ω : Type) where
  stack : List (Block ω) := []
  unmatched : Nat := 0
  pending : Option (Block ω) := none
  deriving DecidableEq, Repr

namespace BlockState

variable {ω : Type}

/-- Announces the next block. -/
def announce (st : BlockState ω) (kind : BlockKind) (owner : Option ω := none) : BlockState ω :=
  { st with pending := some ⟨kind, owner⟩ }

/-- Reads one character of code. -/
def step (st : BlockState ω) (c : Char) : BlockState ω :=
  if c = '{' then { st with stack := st.pending.getD ⟨.plain, none⟩ :: st.stack, pending := none }
  else if c = '}' then
    match st.stack with
    | [] => { st with unmatched := st.unmatched + 1 }
    | _ :: outer => { st with stack := outer }
  else if c = ';' then { st with pending := none }
  else st

/-- Reads a text of code. -/
def feed (st : BlockState ω) (code : List Char) : BlockState ω :=
  code.foldl step st

/-- The innermost open block. -/
def innermost? (st : BlockState ω) : Option (Block ω) :=
  st.stack.head?

/-- The innermost class or function body. -/
def enclosing? (st : BlockState ω) : Option (Block ω) :=
  st.stack.find? fun b => b.kind = .classBody || b.kind = .functionBody

/-- The owner of the innermost class body. -/
def nearestClass? (st : BlockState ω) : Option ω :=
  (st.stack.find? fun b => b.kind = .classBody).bind (·.owner)

/-- Is the innermost open block a class body? -/
def inClassBody (st : BlockState ω) : Bool :=
  st.innermost?.any fun b => b.kind = .classBody

end BlockState

/-- What can be wrong with the braces of a whole file. -/
inductive BraceProblem where
  | unclosed (count : Nat)
  | unmatched (count : Nat)
  deriving DecidableEq, Repr

/-- The wording of the problem. -/
def BraceProblem.message : BraceProblem → String
  | unclosed count => s!"{count} unclosed brace block(s) at end of file"
  | unmatched count => s!"{count} unmatched closing brace(s)"

/-- The problems at the end of a file. -/
def BlockState.problems {ω : Type} (st : BlockState ω) : List BraceProblem :=
  (if st.stack.isEmpty then [] else [.unclosed st.stack.length]) ++
    (if st.unmatched = 0 then [] else [.unmatched st.unmatched])

end CallIndex
