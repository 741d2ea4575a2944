import CallIndex.Text.Basic

/-!
# Words of a command line

Words that start with a dash are switches. A long switch is a word of its own, with its value behind an equals sign or
in the next word. Short switches can be joined in one word; the rest of the word, or the next word, is the value of the
last one. Behind two dashes there are no more switches.

* `Words.read?` sorts the words of a command line; it fails when a switch is unknown, or lacks a value, or has one that
  it does not take.
-/

namespace CallIndex.Command

/-- A switch: its long name, its letter, and whether it takes a value. -/
structure Switch where
  long : String
  letter : Option Char := none
  takesValue : Bool := false
  deriving DecidableEq, Repr

/-- The words of a command line, sorted; flags have an empty value. -/
structure Words where
  settings : List (String × String) := []
  operands : List String := []
  deriving DecidableEq, Repr

namespace Words

/-- The last value of a switch. -/
def value? (w : Words) (name : String) : Option String :=
  (w.settings.filter fun s => s.1 = name).getLast?.map Prod.snd

/-- All values of a switch. -/
def values (w : Words) (name : String) : List String :=
  (w.settings.filter fun s => s.1 = name).map Prod.snd

/-- Is a switch there? -/
def has (w : Words) (name : String) : Bool :=
  w.settings.any fun s => s.1 = name

/-- The words read so far, the switch that waits for its value, and whether switches are still expected. -/
structure State where
  words : Words := {}
  waiting : Option String := none
  isOpen : Bool := true

/-- Adds a switch with its value. -/
def State.assign (st : State) (name value : String) : State :=
  { st with words := { st.words with settings := st.words.settings ++ [(name, value)] }, waiting := none }

/-- Reads the letters of short switches. -/
def letters (switches : List Switch) (st : State) : List Char → Option State
  | [] => some st
  | c :: rest =>
    match switches.find? fun s => s.letter = some c with
    | none => none
    | some s =>
      if !s.takesValue then letters switches (st.assign s.long "") rest
      else if rest.isEmpty then some { st with waiting := some s.long }
      else some (st.assign s.long (String.ofList rest))

/-- Reads a long switch, given with its dashes. -/
def longSwitch (switches : List Switch) (st : State) (word : List Char) : Option State :=
  let (name, value?) := match Text.cutAt? ['='] word with
    | some (name, value) => (String.ofList name, some (String.ofList value))
    | none => (String.ofList word, none)
  match switches.find? fun s => "--" ++ s.long = name with
  | none => none
  | some s =>
    match s.takesValue, value? with
    | true, some v => some (st.assign s.long v)
    | true, none => some { st with waiting := some s.long }
    | false, some _ => none
    | false, none => some (st.assign s.long "")

/-- Reads one word. When operands end the switches, the first operand closes the list of switches. -/
def next (switches : List Switch) (endsAtOperand : Bool) (st : State) (word : String) : Option State :=
  let operand := { st with words := { st.words with operands := st.words.operands ++ [word] } }
  match st.waiting with
  | some name => some (st.assign name word)
  | none =>
    if !st.isOpen then some operand
    else match word.toList with
      | ['-', '-'] => some { st with isOpen := false }
      | '-' :: '-' :: _ => longSwitch switches st word.toList
      | '-' :: c :: rest => letters switches st (c :: rest)
      | _ => some (if endsAtOperand then { operand with isOpen := false } else operand)

/-- Sorts the words of a command line. -/
def read? (switches : List Switch) (endsAtOperand : Bool) (words : List String) : Option Words := do
  let st ← words.foldlM (next switches endsAtOperand) {}
  if st.waiting.isSome then none else return st.words

end Words

end CallIndex.Command
