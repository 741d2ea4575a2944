import CallIndex.Proofs.NameChains
import CallIndex.Proofs.SummaryShape

/-!
# Where calls are found

A call stands at a column of a line where a chain of names begins, in front of a parenthesis and not inside a word or
behind a separator (`CallAt`).  Inside of such a chain, and of the blanks behind it, no other one begins.  So the search,
which goes on behind each chain that it has found, misses none.

* `apart_scanCallee`: no callee begins inside another one.
* `lineCalls_eq_map`: the calls of a line are those at its call columns, from left to right.
* `scan_records_every_call`: so are, for every line of every source, the calls of the source on this line.
-/

namespace CallIndex.Call

open Text (Scan isWord isBlank)
open Source (Line)

/-! ### No callee begins inside another one -/

private theorem mayBegin_cons_eq_false {c : Char} (hc : isWord c = true ∨ c ∈ ['$', '#', '.']) (before : List Char) :
    mayBegin (c :: before) = false := by
  unfold mayBegin
  split
  · contradiction
  · rfl
  · rfl
  · rename_i heq
    cases heq
    rcases hc with hc | hc
    · simp [hc]
    · simp only [List.mem_cons, List.not_mem_nil, or_false] at hc
      rcases hc with rfl | rfl | rfl <;> simp

private theorem mayBegin_inside_segment {w t before : List Char} (h : isSegment (w ++ t) = true) (hw : w ≠ []) :
    mayBegin (w.reverse ++ before) = false := by
  rcases List.eq_nil_or_concat w with rfl | ⟨w, c, rfl⟩
  · contradiction
  · rw [List.concat_eq_append, List.reverse_append, List.reverse_singleton, List.singleton_append, List.cons_append]
    apply mayBegin_cons_eq_false
    rcases isWord_or_sign_of_mem_segment h (c := c) (by simp) with hc | hc
    · exact .inl hc
    · exact .inr (by simp only [List.mem_cons, List.not_mem_nil, or_false] at hc ⊢; tauto)

private theorem mayBegin_behind_spelling (sep : Separator) (before : List Char) :
    mayBegin (sep.spelling.reverse ++ before) = false := by
  cases sep with
  | dot => exact mayBegin_cons_eq_false (.inr (by simp)) before
  | optionalDot => exact mayBegin_cons_eq_false (.inr (by simp)) _
  | arrow => rfl
  | optionalArrow => rfl
  | scope => rfl

private theorem mayBegin_inside_links {links : List (Separator × List Char)} (h : ∀ l ∈ links, isSegment l.2 = true)
    {w t : List Char} {c : Char} (hc : isNameChar c = true)
    (heq : (links.flatMap fun (sep, segment) => sep.spelling ++ segment) = w ++ c :: t) (before : List Char) :
    mayBegin (w.reverse ++ before) = false := by
  induction links generalizing w before with
  | nil => simp at heq
  | cons l links ih =>
    obtain ⟨sep, segment⟩ := l
    have hsegment : isSegment segment = true := h _ (List.mem_cons_self ..)
    rw [List.flatMap_cons, List.append_assoc] at heq
    rcases List.append_eq_append_iff.1 heq with ⟨w', rfl, hrest⟩ | ⟨rest, hspelling, hrest⟩
    · rw [List.reverse_append, List.append_assoc]
      rcases List.append_eq_append_iff.1 hrest with ⟨w'', rfl, hlinks⟩ | ⟨rest, hinside, -⟩
      · rw [List.reverse_append, List.append_assoc]
        exact ih (fun l hl => h l (List.mem_cons_of_mem _ hl)) hlinks _
      · by_cases hw : w' = []
        · subst hw
          exact mayBegin_behind_spelling sep before
        · exact mayBegin_inside_segment (hinside ▸ hsegment) hw
    · cases rest with
      | nil =>
        rw [List.append_nil] at hspelling
        rw [← hspelling]
        exact mayBegin_behind_spelling sep before
      | cons d rest =>
        -- inside the separator there is no character of a name
        obtain ⟨rfl, -⟩ := List.cons.inj hrest
        have hmem : c ∈ sep.spelling := by simp [hspelling]
        rw [(Separator.not_isNameChar_of_mem_spelling hmem).1] at hc
        cases hc

/-- Behind its front, a chain of names holds no character of a name at which a call may begin. -/
private theorem Chain.OfNames.mayBegin_inside {chain : Chain} (h : chain.OfNames) {w t : List Char} {c : Char}
    (hc : isNameChar c = true) (hw : w ≠ []) (heq : chain.render = w ++ c :: t) (before : List Char) :
    mayBegin (w.reverse ++ before) = false := by
  rcases List.append_eq_append_iff.1 heq with ⟨w', rfl, hlinks⟩ | ⟨rest, hroot, -⟩
  · rw [List.reverse_append, List.append_assoc]
    exact mayBegin_inside_links (fun l hl => h.link hl) hc hlinks _
  · exact mayBegin_inside_segment (hroot ▸ h.root) hw

/-- A chain of names begins with a character of a name. -/
private theorem Chain.OfNames.exists_cons {chain : Chain} (h : chain.OfNames) :
    ∃ c t, isNameChar c = true ∧ chain.render = c :: t := by
  cases hroot : chain.root with
  | nil => exact absurd hroot (ne_nil_of_isSegment h.root)
  | cons c s =>
    have hrender : chain.render = c :: (s ++ chain.links.flatMap fun (sep, segment) => sep.spelling ++ segment) := by
      rw [render, hroot, List.cons_append]
    exact ⟨c, _, isNameChar_of_mem_segment h.root (by simp [hroot]), hrender⟩

/-- Blanks and a parenthesis hold no character of a name. -/
private theorem not_isNameChar_of_blanks {blanks w r x : List Char} {c : Char}
    (hblanks : ∀ d ∈ blanks, isBlank d = true)
    (heq : blanks ++ '(' :: r = w ++ c :: x) (hlength : r.length ≤ x.length) : isNameChar c = false := by
  have hplace : c = '(' ∨ c ∈ blanks := by
    rcases List.append_eq_append_iff.1 heq with ⟨w', -, hbehind⟩ | ⟨rest, rfl, hbehind⟩
    · cases w' with
      | nil => exact .inl (List.cons.inj hbehind).1.symm
      | cons d w' =>
        have htail : r = w' ++ c :: x := (List.cons.inj hbehind).2
        have := congrArg List.length htail
        simp only [List.length_append, List.length_cons] at this
        omega
    · cases rest with
      | nil => exact .inl (List.cons.inj hbehind).1
      | cons d rest =>
        obtain ⟨rfl, -⟩ := List.cons.inj hbehind
        exact .inr (by simp)
  rcases hplace with rfl | hc
  · decide
  · cases hname : isNameChar c with
    | false => rfl
    | true =>
      have := hblanks c hc
      rw [not_isBlank_of_isNameChar hname] at this
      cases this

/-- No callee begins inside another one. -/
theorem apart_scanCallee : Scan.Apart scanCallee := by
  intro before u v chain r hread hu hlength
  cases hinside : scanCallee (u.reverse ++ before) v with
  | none => rfl
  | some x =>
    obtain ⟨chain', r'⟩ := x
    obtain ⟨-, hnames, blanks, hblanks, heq⟩ := scanCallee_eq_some_iff.1 hread
    obtain ⟨hbegin, hnames', blanks', -, rfl⟩ := scanCallee_eq_some_iff.1 hinside
    obtain ⟨c, t, hc, hrender⟩ := hnames'.exists_cons
    rw [hrender, List.cons_append] at heq hlength
    have hlength := Nat.le_of_lt_succ hlength
    exfalso
    rcases List.append_eq_append_iff.1 heq with ⟨w, hchain, hbehind⟩ | ⟨w, -, hbehind⟩
    · cases w with
      | nil =>
        have := not_isNameChar_of_blanks (w := []) hblanks hbehind.symm hlength
        rw [hc] at this
        cases this
      | cons d w =>
        obtain ⟨rfl, -⟩ := List.cons.inj hbehind
        rw [hnames.mayBegin_inside hc hu hchain] at hbegin
        cases hbegin
    · have := not_isNameChar_of_blanks hblanks hbehind hlength
      rw [hc] at this
      cases this

/-! ### The columns of calls -/

/-- At this column of line `number` the chain is called. -/
structure CallAt (keywords : List String) (declared : List (Nat × String)) (number : Nat) (code : List Char)
    (column : Nat) (chain : Chain) : Prop where
  /-- It begins neither in a word nor behind a separator. -/
  not_joined : ∀ c ∈ (code.take column).getLast?, isWord c = false ∧ c ∉ ['$', '#', '.']
  not_member : ¬ ['-', '>'] <:+ code.take column ∧ ¬ [':', ':'] <:+ code.take column
  /-- It is made of names, and a parenthesis follows. -/
  names : chain.OfNames
  followed : ∃ blanks rest, (∀ c ∈ blanks, isBlank c = true) ∧ code.drop column = chain.render ++ (blanks ++ '(' :: rest)
  /-- The last name is no variable. -/
  not_variable : ∀ s ∈ chain.allSegments.getLast?, s.head? ≠ some '$'
  /-- A name alone is no keyword and not declared on the line. -/
  not_declared : chain.links = [] →
    String.ofList chain.root ∉ keywords ∧ (number, String.ofList chain.root) ∉ declared

private theorem mayBegin_reverse_iff {s : List Char} : mayBegin s.reverse = true ↔
    (∀ c ∈ s.getLast?, isWord c = false ∧ c ∉ ['$', '#', '.']) ∧ ¬ ['-', '>'] <:+ s ∧ ¬ [':', ':'] <:+ s := by
  rw [← List.head?_reverse, ← List.reverse_prefix, ← List.reverse_prefix]
  generalize s.reverse = before
  unfold mayBegin
  split
  · simp
  · simp
  · simp
  · rename_i c before harrow hscope
    have hnotArrow : ¬ ['>', '-'] <+: c :: before := by
      rintro ⟨t, ht⟩
      obtain ⟨rfl, rfl⟩ := List.cons.inj ht
      exact harrow t rfl rfl
    have hnotScope : ¬ [':', ':'] <+: c :: before := by
      rintro ⟨t, ht⟩
      obtain ⟨rfl, rfl⟩ := List.cons.inj ht
      exact hscope t rfl rfl
    have hjoined : (!(isWord c || decide (c = '$') || decide (c = '#') || decide (c = '.'))) = true ↔
        isWord c = false ∧ c ∉ ['$', '#', '.'] := by
      simp [and_assoc]
    rw [hjoined]
    exact ⟨fun hc => ⟨fun d hd => Option.some.inj hd ▸ hc, hnotArrow, hnotScope⟩, fun h => h.1 c rfl⟩

variable {keywords : List String} {declared : List (Nat × String)}

private theorem isRecorded_iff {number : Nat} {chain : Chain} (h : chain.OfNames) :
    isRecorded keywords declared number chain = true ↔
      (∀ s ∈ chain.allSegments.getLast?, s.head? ≠ some '$') ∧ (chain.links = [] →
        String.ofList chain.root ∉ keywords ∧ (number, String.ofList chain.root) ∉ declared) := by
  rw [isRecorded, Chain.segments_eq_allSegments h]
  obtain ⟨root, links⟩ := chain
  cases links with
  | nil => simp [Chain.allSegments, and_assoc]
  | cons l links =>
    simp only [Chain.allSegments, List.map_cons, List.getLast?_cons_cons, reduceCtorEq, false_implies, and_true]
    cases hlast : (l.2 :: links.map (·.2)).getLast? with
    | none => simp at hlast
    | some last => simp

/-- The column of the parenthesis behind a chain. -/
def parenthesisAt (code : List Char) (column : Nat) (chain : Chain) : Nat :=
  column + chain.render.length + ((code.drop (column + chain.render.length)).takeWhile isBlank).length

/-- The call of a chain at a column. -/
def occurrenceAt (number : Nat) (line : Line) (place : Nat × Chain) : Occurrence where
  callee := String.ofList place.2.render
  line := number
  arguments := String.ofList (Source.argumentText line (parenthesisAt line.code place.1 place.2))

theorem parenthesisAt_eq {code blanks rest : List Char} {column : Nat} {chain : Chain}
    (hblanks : ∀ c ∈ blanks, isBlank c = true) (h : code.drop column = chain.render ++ (blanks ++ '(' :: rest)) :
    parenthesisAt code column chain = column + chain.render.length + blanks.length := by
  have hbehind : code.drop (column + chain.render.length) = blanks ++ '(' :: rest := by
    rw [← List.drop_drop, h, List.drop_left]
  rw [parenthesisAt, hbehind, List.takeWhile_append_of_pos hblanks, List.takeWhile_cons_of_neg (by decide),
    List.append_nil]

/-- A hit is a chain of names that may begin at its column, and stops behind the parenthesis. -/
private theorem mem_hits_scanCallee_iff {code : List Char} {hit : Scan.Hit Chain} :
    hit ∈ Scan.hits scanCallee code ↔
      mayBegin (code.take hit.start).reverse = true ∧ hit.value.OfNames ∧
      (∃ blanks rest, (∀ c ∈ blanks, isBlank c = true) ∧
        code.drop hit.start = hit.value.render ++ (blanks ++ '(' :: rest)) ∧
      hit.stop = parenthesisAt code hit.start hit.value + 1 := by
  constructor
  · intro h
    obtain ⟨left, u, r, rfl, -, hstart, hstop, hread⟩ := Scan.exists_of_mem_hits advances_scanCallee h
    obtain ⟨hbegin, hnames, blanks, hblanks, hs⟩ := scanCallee_eq_some_iff.1 hread
    have hdrop : (left ++ (u ++ r)).drop hit.start = hit.value.render ++ (blanks ++ '(' :: r) := by
      rw [hstart, List.drop_left, hs]
    refine ⟨by rwa [hstart, List.take_left], hnames, ⟨blanks, r, hblanks, hdrop⟩, ?_⟩
    have hlength := congrArg List.length hs
    simp only [List.length_append, List.length_cons] at hlength
    rw [parenthesisAt_eq hblanks hdrop]
    omega
  · rintro ⟨hbegin, hnames, ⟨blanks, rest, hblanks, hdrop⟩, hstop⟩
    have hread : scanCallee (code.take hit.start).reverse (code.drop hit.start) = some (hit.value, rest) :=
      scanCallee_eq_some_iff.2 ⟨hbegin, hnames, blanks, hblanks, hdrop⟩
    have hmem := Scan.mem_hits_of_read advances_scanCallee apart_scanCallee hread
    have hlength := congrArg List.length hdrop
    simp only [List.length_drop, List.length_append, List.length_cons] at hlength
    have hstart : (code.take hit.start).length = hit.start := by
      rw [List.length_take]
      omega
    rw [parenthesisAt_eq hblanks hdrop] at hstop
    rw [List.take_append_drop, hstart, List.length_drop] at hmem
    have hstop' : hit.start + (code.length - hit.start - rest.length) = hit.stop := by omega
    rw [hstop'] at hmem
    exact hmem

/-- The call columns of a line and the chains there, from left to right. -/
def callPlaces (keywords : List String) (declared : List (Nat × String)) (number : Nat) (code : List Char) :
    List (Nat × Chain) :=
  ((Scan.hits scanCallee code).filter fun hit => isRecorded keywords declared number hit.value).map fun hit =>
    (hit.start, hit.value)

theorem mem_callPlaces_iff {number column : Nat} {code : List Char} {chain : Chain} :
    (column, chain) ∈ callPlaces keywords declared number code ↔
      CallAt keywords declared number code column chain := by
  constructor
  · intro h
    obtain ⟨hit, hhit, heq⟩ := List.mem_map.1 h
    obtain ⟨hhit, hrecorded⟩ := List.mem_filter.1 hhit
    obtain ⟨rfl, rfl⟩ := Prod.mk.inj heq
    obtain ⟨hbegin, hnames, hfollowed, -⟩ := mem_hits_scanCallee_iff.1 hhit
    obtain ⟨hjoined, hmember⟩ := mayBegin_reverse_iff.1 hbegin
    obtain ⟨hvariable, hdeclared⟩ := (isRecorded_iff hnames).1 hrecorded
    exact ⟨hjoined, hmember, hnames, hfollowed, hvariable, hdeclared⟩
  · intro h
    have hhit : (⟨column, parenthesisAt code column chain + 1, chain⟩ : Scan.Hit Chain) ∈ Scan.hits scanCallee code :=
      mem_hits_scanCallee_iff.2 ⟨mayBegin_reverse_iff.2 ⟨h.not_joined, h.not_member⟩, h.names, h.followed, rfl⟩
    have hrecorded : isRecorded keywords declared number chain = true :=
      (isRecorded_iff h.names).2 ⟨h.not_variable, h.not_declared⟩
    exact List.mem_map.2 ⟨_, List.mem_filter.2 ⟨hhit, hrecorded⟩, rfl⟩

theorem pairwise_callPlaces (number : Nat) (code : List Char) :
    (callPlaces keywords declared number code).Pairwise fun a b => a.1 < b.1 := by
  rw [callPlaces, List.pairwise_map]
  exact (Scan.pairwise_hits advances_scanCallee code).filter _

/-- The calls of a line are those at its call columns. -/
theorem lineCalls_eq_map (number : Nat) (line : Line) :
    lineCalls keywords declared number line =
      (callPlaces keywords declared number line.code).map (occurrenceAt number line) := by
  rw [lineCalls, callPlaces, List.map_map, ← List.filterMap_eq_map, List.filterMap_filter]
  apply List.filterMap_congr
  intro hit hhit
  obtain ⟨-, -, -, hstop⟩ := mem_hits_scanCallee_iff.1 hhit
  split
  · rw [Function.comp_apply, Function.comp_apply, occurrenceAt, hstop]
    rfl
  · rfl

/-- A chain is the only one at its column. -/
private theorem CallAt.unique {number number' column : Nat} {keywords' : List String} {declared' : List (Nat × String)}
    {code : List Char} {chain chain' : Chain} (h : CallAt keywords declared number code column chain)
    (h' : CallAt keywords' declared' number' code column chain') : chain = chain' := by
  obtain ⟨blanks, rest, hblanks, hs⟩ := h.followed
  obtain ⟨blanks', rest', hblanks', hs'⟩ := h'.followed
  -- whatever stands before the column, one chain at most is read there
  have hread : scanCallee [] (code.drop column) = some (chain, rest) :=
    scanCallee_eq_some_iff.2 ⟨rfl, h.names, blanks, hblanks, hs⟩
  have hread' : scanCallee [] (code.drop column) = some (chain', rest') :=
    scanCallee_eq_some_iff.2 ⟨rfl, h'.names, blanks', hblanks', hs'⟩
  cases hread.symm.trans hread'
  rfl

/-! ### The calls of a source -/

/-- The calls on one line. -/
def onLine (number : Nat) (calls : List Occurrence) : List Occurrence :=
  calls.filter fun o => o.line = number

private theorem onLine_eq_self {number : Nat} {calls : List Occurrence} (h : ∀ o ∈ calls, o.line = number) :
    onLine number calls = calls :=
  List.filter_eq_self.2 fun o ho => by simpa using h o ho

private theorem onLine_eq_nil {number : Nat} {calls : List Occurrence} (h : ∀ o ∈ calls, o.line ≠ number) :
    onLine number calls = [] :=
  List.filter_eq_nil_iff.2 fun o ho => by simpa using h o ho

/-- The scan goes line by line. -/
private theorem onLine_scanCallsFrom {number i : Nat} {lines : List Line} {line : Line} (h : lines[i]? = some line) :
    onLine (number + i) (scanCallsFrom keywords declared number lines) =
      lineCalls keywords declared (number + i) line := by
  induction lines generalizing number i with
  | nil => simp at h
  | cons first rest ih =>
    have happend : onLine (number + i) (scanCallsFrom keywords declared number (first :: rest)) =
        onLine (number + i) (lineCalls keywords declared number first) ++
          onLine (number + i) (scanCallsFrom keywords declared (number + 1) rest) := List.filter_append ..
    rw [happend]
    cases i with
    | zero =>
      obtain rfl : first = line := by simpa using h
      have hrest : ∀ o ∈ scanCallsFrom keywords declared (number + 1) rest, o.line ≠ (number + 0 : Nat) := by
        intro o ho
        have := line_of_mem_scanCallsFrom ho
        omega
      rw [onLine_eq_nil hrest, List.append_nil, Nat.add_zero]
      exact onLine_eq_self fun o ho => line_of_mem_lineCalls ho
    | succ i =>
      have hfirst : ∀ o ∈ lineCalls keywords declared number first, o.line ≠ (number + (i + 1) : Nat) := by
        intro o ho
        rw [line_of_mem_lineCalls ho]
        omega
      have hnumber : number + (i + 1) = number + 1 + i := by omega
      rw [onLine_eq_nil hfirst, List.nil_append, hnumber]
      exact ih (by simpa using h)

/-- What masking leaves of a text where it leaves no blank. -/
private theorem prefix_raw_of_prefix_code {raw code s : List Char} (h : List.Forall₂ Source.Shows raw code)
    (hs : ∀ c ∈ s, isBlank c = false) (hcode : s <+: code) : s <+: raw := by
  induction s generalizing raw code with
  | nil => exact List.nil_prefix
  | cons c s ih =>
    obtain ⟨rest, rfl⟩ := hcode
    cases h with
    | cons hshows hrest =>
      rename_i d raw
      rcases hshows with rfl | ⟨rfl, -⟩
      · exact List.cons_prefix_cons.2 ⟨rfl, ih hrest (fun d hd => hs d (by simp [hd])) ⟨rest, rfl⟩⟩
      · exact absurd (hs ' ' (by simp)) (by decide)

/-- The calls recorded for a line are those at its call columns. -/
structure RecordsCalls (keywords : List String) (declared : List (Nat × String)) (number : Nat) (line : Line)
    (calls : List Occurrence) (places : List (Nat × Chain)) : Prop where
  /-- The places are the call columns of the masked line, each once and from left to right. -/
  mem_iff : ∀ column chain, (column, chain) ∈ places ↔ CallAt keywords declared number line.code column chain
  increasing : places.Pairwise fun a b => a.1 < b.1
  /-- A column determines its chain. -/
  unique : ∀ column chain chain', CallAt keywords declared number line.code column chain →
    CallAt keywords declared number line.code column chain' → chain = chain'
  /-- One call is recorded for each place, and its callee is the chain. -/
  calls_eq : calls = places.map (occurrenceAt number line)
  /-- The chain stands at its column in the raw line too. -/
  verbatim : ∀ column chain, (column, chain) ∈ places → chain.render <+: line.raw.drop column

private theorem recordsCalls_lineCalls {number : Nat} {line : Line} (h : List.Forall₂ Source.Shows line.raw line.code) :
    RecordsCalls keywords declared number line (lineCalls keywords declared number line)
      (callPlaces keywords declared number line.code) where
  mem_iff := fun _ _ => mem_callPlaces_iff
  increasing := pairwise_callPlaces number line.code
  unique := fun _ _ _ hchain hchain' => hchain.unique hchain'
  calls_eq := lineCalls_eq_map number line
  verbatim := by
    intro column chain hplace
    have hat : CallAt keywords declared number line.code column chain := mem_callPlaces_iff.1 hplace
    obtain ⟨blanks, rest, -, hdrop⟩ := hat.followed
    exact prefix_raw_of_prefix_code (List.forall₂_drop column h) hat.names.not_isBlank_of_mem_render
      ⟨_, hdrop.symm⟩

/-- Whatever a source holds and whichever names are keywords or declared, the calls that are recorded for a line of it
are those at its call columns, and no call is recorded for any other line. -/
theorem scan_records_every_call (rules : Source.LexRules) (content : List Char) (keywords : List String)
    (declared : List (Nat × String)) :
    (∀ i line, (Source.sourceLines rules content)[i]? = some line →
      ∃ places, RecordsCalls keywords declared (i + 1) line
        (onLine (i + 1) (scanCalls keywords declared (Source.sourceLines rules content))) places) ∧
    ∀ o ∈ scanCalls keywords declared (Source.sourceLines rules content),
      ∃ i < (Source.sourceLines rules content).length, o.line = (i + 1 : Nat) := by
  constructor
  · intro i line hline
    have honLine : onLine (1 + i) (scanCalls keywords declared (Source.sourceLines rules content)) =
        lineCalls keywords declared (1 + i) line := onLine_scanCallsFrom hline
    rw [Nat.add_comm 1 i] at honLine
    rw [honLine]
    exact ⟨_, recordsCalls_lineCalls (Source.forall₂_of_mem_sourceLines (List.mem_of_getElem? hline))⟩
  · intro o ho
    have hbounds := line_of_mem_scanCallsFrom ho
    exact ⟨(o.line - 1).toNat, by omega, by omega⟩

/-- The keyword and the variable in the arguments are no calls; the member call between them is one, blanks and all. -/
theorem scan_records_member_call :
    CallAt ["if"] [] 1 "if (a?.b ($f(x)))".toList 4 ⟨"a".toList, [(.optionalDot, "b".toList)]⟩ ∧
    ⟨"a?.b", 1, "$f(x)"⟩ ∈
      scanCalls ["if"] [] (Source.sourceLines Extract.Python.rules "if (a?.b ($f(x)))".toList) := by
  have hat : CallAt ["if"] [] 1 "if (a?.b ($f(x)))".toList 4 ⟨"a".toList, [(.optionalDot, "b".toList)]⟩ := by
    refine ⟨?_, ?_, ?_, ⟨[' '], "$f(x)))".toList, ?_, rfl⟩, ?_, by simp⟩
    · intro c hc
      obtain rfl : '(' = c := Option.some.inj hc
      exact ⟨rfl, by simp⟩
    · exact ⟨by decide, by decide⟩
    · rw [Chain.ofNames_iff]
      simp only [List.forall_mem_singleton]
      exact ⟨rfl, rfl⟩
    · simp only [List.mem_singleton, forall_eq]
      rfl
    · intro s hs
      cases hs
      decide
  have hline : (Source.sourceLines Extract.Python.rules "if (a?.b ($f(x)))".toList)[0]? =
      some ⟨"if (a?.b ($f(x)))".toList, "if (a?.b ($f(x)))".toList⟩ := by cbv
  obtain ⟨places, hplaces⟩ := (scan_records_every_call _ _ ["if"] []).1 0 _ hline
  have hcall : ⟨"a?.b", 1, "$f(x)"⟩ ∈
      onLine 1 (scanCalls ["if"] [] (Source.sourceLines Extract.Python.rules "if (a?.b ($f(x)))".toList)) := by
    rw [hplaces.calls_eq]
    exact List.mem_map.2 ⟨_, (hplaces.mem_iff _ _).2 hat, rfl⟩
  exact ⟨hat, List.mem_of_mem_filter hcall⟩

end CallIndex.Call
