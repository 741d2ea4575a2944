import CallIndex.Proofs.ArgumentLists
import CallIndex.Proofs.CallPlaces
import CallIndex.Proofs.GroundedRuns

/-!
# Signature checks

A signature check lists the calls of a file to a method and counts their arguments.  Each call of an analysed file stands
at a place of a text that could be read under its path, and the issues of a check are told place by place.

* `Call.scanCallsFrom_eq_map`: the calls of a text are those at its places.
* `Call.Place.CalledIn.argumentIssue?_of_quiet`: the issue of a call with a quiet list of arguments on one line.
* `Index.checkSignature_ok`: what a check of an analysed file is made of.
* `Workspace.signature_check_counts_arguments`: in every run, a call is an issue if it has too many arguments.
-/

namespace CallIndex

open Source (Line ClosesAt Quiet argumentCount argumentText seekClosing)

namespace Call

/-! ### Places of calls -/

/-- A call in a text: the number of its line, the line, the column at which its chain begins, and the chain. -/
structure Place where
  number : Nat
  line : Line
  column : Nat
  chain : Chain

namespace Place

/-- The column of the parenthesis. -/
def parenthesis (p : Place) : Nat :=
  parenthesisAt p.line.code p.column p.chain

/-- The call at the place. -/
def occurrence (p : Place) : Occurrence :=
  occurrenceAt p.number p.line (p.column, p.chain)

/-- The list of arguments is closed on the line, this far behind the parenthesis. -/
def ClosesAt (p : Place) (offset : Nat) : Prop :=
  Source.ClosesAt (p.line.code.drop p.parenthesis) offset

/-- The list of arguments that is closed at an offset, as it is written. -/
def rawArguments (p : Place) (offset : Nat) : List Char :=
  (p.line.raw.drop (p.parenthesis + 1)).take (offset - 1)

/-- The same list in the masked line. -/
def codeArguments (p : Place) (offset : Nat) : List Char :=
  (p.line.code.drop (p.parenthesis + 1)).take (offset - 1)

/-- The place is that of a call in the text with these lines. -/
structure CalledIn (p : Place) (lines : List Line) : Prop where
  line_eq : ∃ i, p.number = i + 1 ∧ lines[i]? = some p.line
  callAt : CallAt [] [] p.number p.line.code p.column p.chain

/-- The order of places in a text. -/
def Before (p q : Place) : Prop :=
  p.number < q.number ∨ p.number = q.number ∧ p.column < q.column

end Place

variable {keywords : List String} {declared : List (Nat × String)}

/-- The places of the calls on lines that are numbered from `number` on. -/
def placesFrom (keywords : List String) (declared : List (Nat × String)) (number : Nat) : List Line → List Place
  | [] => []
  | line :: rest =>
    (callPlaces keywords declared number line.code).map (fun x => ⟨number, line, x.1, x.2⟩) ++
      placesFrom keywords declared (number + 1) rest

/-- The calls of a text are those at its places. -/
theorem scanCallsFrom_eq_map (number : Nat) (lines : List Line) :
    scanCallsFrom keywords declared number lines = (placesFrom keywords declared number lines).map Place.occurrence := by
  induction lines generalizing number with
  | nil => rfl
  | cons line rest ih =>
    rw [scanCallsFrom, placesFrom, List.map_append, List.map_map, lineCalls_eq_map, ih]
    rfl

private theorem CallAt.forget {number column : Nat} {code : List Char} {chain : Chain}
    (h : CallAt keywords declared number code column chain) : CallAt [] [] number code column chain :=
  ⟨h.not_joined, h.not_member, h.names, h.followed, h.not_variable, fun _ => ⟨by simp, by simp⟩⟩

private theorem mem_placesFrom {number : Nat} {lines : List Line} {p : Place}
    (h : p ∈ placesFrom keywords declared number lines) :
    (∃ i, p.number = number + i ∧ lines[i]? = some p.line) ∧ CallAt [] [] p.number p.line.code p.column p.chain := by
  induction lines generalizing number with
  | nil => cases h
  | cons line rest ih =>
    rcases List.mem_append.1 h with h | h
    · obtain ⟨⟨column, chain⟩, hplace, rfl⟩ := List.mem_map.1 h
      exact ⟨⟨0, rfl, rfl⟩, (mem_callPlaces_iff.1 hplace).forget⟩
    · obtain ⟨⟨i, hnumber, hline⟩, hat⟩ := ih h
      exact ⟨⟨i + 1, by omega, hline⟩, hat⟩

private theorem pairwise_placesFrom (number : Nat) (lines : List Line) :
    (placesFrom keywords declared number lines).Pairwise Place.Before := by
  induction lines generalizing number with
  | nil => exact .nil
  | cons line rest ih =>
    rw [placesFrom, List.pairwise_append, List.pairwise_map]
    refine ⟨?_, ih (number + 1), ?_⟩
    · exact (pairwise_callPlaces number line.code).imp fun hlt => .inr ⟨rfl, hlt⟩
    · intro p hp q hq
      obtain ⟨x, -, rfl⟩ := List.mem_map.1 hp
      obtain ⟨⟨i, hnumber, -⟩, -⟩ := mem_placesFrom hq
      exact .inl (by dsimp only; omega)

/-! ### Issues of calls -/

/-- The wording of an issue. -/
def issueText (qualified : String) (declared : Nat) (line : Int) (count : Nat) : String :=
  s!"line {line}: {count} arguments, {qualified} takes {declared}"

/-- What of a call is written in the text. -/
def CallSite.written (c : CallSite) : String × Int × Option String :=
  (c.raw, c.line, c.arguments)

namespace Place

variable {p : Place} {lines : List Line} {offset : Nat}

private theorem CalledIn.head_parenthesis (h : p.CalledIn lines) :
    ∃ rest, p.line.code.drop p.parenthesis = '(' :: rest := by
  obtain ⟨blanks, rest, hblanks, hdrop⟩ := h.callAt.followed
  refine ⟨rest, ?_⟩
  rw [parenthesis, parenthesisAt_eq hblanks hdrop, ← List.drop_drop, ← List.drop_drop, hdrop, List.drop_left,
    List.drop_left]

private theorem CalledIn.seekClosing_iff (h : p.CalledIn lines) :
    seekClosing 0 (p.line.code.drop p.parenthesis) = .found offset ↔ p.ClosesAt offset := by
  obtain ⟨rest, hrest⟩ := h.head_parenthesis
  rw [ClosesAt, hrest]
  exact Source.seekClosing_parenthesis_iff

/-- The arguments of a call that is closed on its line. -/
private theorem CalledIn.argumentText_eq (h : p.CalledIn lines) (hclosed : p.ClosesAt offset) :
    argumentText p.line p.parenthesis = Text.trim (p.rawArguments offset) := by
  rw [argumentText, h.seekClosing_iff.2 hclosed]
  rfl

private theorem argumentIssue?_occurrence (p : Place) (path qualified : String) (count : Nat) :
    argumentIssue? qualified count (.ofOccurrence path p.occurrence) =
      if "...".toList.isSuffixOf (argumentText p.line p.parenthesis) then none
      else if count < (Source.splitTopLevel (argumentText p.line p.parenthesis)).length then
        some (issueText qualified count p.number (Source.splitTopLevel (argumentText p.line p.parenthesis)).length)
      else none := by
  simp only [argumentIssue?, CallSite.ofOccurrence, occurrence, occurrenceAt, String.toList_ofList]
  rfl

private theorem argumentIssue?_of_dots (h : "...".toList <:+ argumentText p.line p.parenthesis)
    (path qualified : String)
    (count : Nat) : argumentIssue? qualified count (.ofOccurrence path p.occurrence) = none := by
  rw [argumentIssue?_occurrence, if_pos (List.isSuffixOf_iff_suffix.2 h)]

/-- Arguments that go on behind the line are not counted. -/
private theorem CalledIn.argumentIssue?_of_unclosed (h : p.CalledIn lines) (hunclosed : ∀ offset, ¬ p.ClosesAt offset)
    (path qualified : String) (count : Nat) :
    argumentIssue? qualified count (.ofOccurrence path p.occurrence) = none := by
  apply argumentIssue?_of_dots
  unfold argumentText
  split
  · rename_i offset hfound
    exact absurd (h.seekClosing_iff.1 hfound) (hunclosed offset)
  · dsimp only
    split
    · exact List.suffix_refl _
    · exact ⟨Text.trim (p.line.raw.drop (p.parenthesis + 1)) ++ [' '], by rw [List.append_assoc]; rfl⟩

/-- A call with a quiet list of arguments is an issue if it has more of them than are declared. -/
theorem CalledIn.argumentIssue?_of_quiet (h : p.CalledIn lines)
    (hshows : List.Forall₂ Source.Shows p.line.raw p.line.code) (hclosed : p.ClosesAt offset)
    (hquiet : Quiet (p.rawArguments offset) (p.codeArguments offset)) (path qualified : String) (count : Nat) :
    argumentIssue? qualified count (.ofOccurrence path p.occurrence) =
      if count < argumentCount (p.rawArguments offset) (p.codeArguments offset) then
        some (issueText qualified count p.number (argumentCount (p.rawArguments offset) (p.codeArguments offset)))
      else none := by
  have hdots : ¬ "...".toList.isSuffixOf (Text.trim (p.rawArguments offset)) = true := by
    rw [List.isSuffixOf_iff_suffix]
    exact hquiet.dots
  have hopen : ∀ i, 0 ≤ Source.openBrackets ((p.codeArguments offset).take i) := by
    intro i
    obtain ⟨rest, hrest⟩ := h.head_parenthesis
    have hnonneg := Source.ClosesAt.openBrackets_nonneg hclosed (by rw [hrest]; rfl) i
    rwa [List.drop_drop] at hnonneg
  have hlist : List.Forall₂ Source.Shows (p.rawArguments offset) (p.codeArguments offset) :=
    List.forall₂_take _ (List.forall₂_drop _ hshows)
  rw [argumentIssue?_occurrence, h.argumentText_eq hclosed, if_neg hdots, hquiet.length_splitTopLevel hlist hopen]

end Place

end Call

/-! ### What a check is made of -/

/-- Issues are told from what is written. -/
private theorem filterMap_argumentIssue?_congr {calls calls' : List Call.CallSite}
    (h : calls.map Call.CallSite.written = calls'.map Call.CallSite.written) (qualified : String) (count : Nat) :
    calls.filterMap (argumentIssue? qualified count) = calls'.filterMap (argumentIssue? qualified count) := by
  let issue? (w : String × Int × Option String) : Option String :=
    argumentIssue? qualified count { caller := "", callee := w.1, line := w.2.1, arguments := w.2.2 }
  have hissue : argumentIssue? qualified count = issue? ∘ Call.CallSite.written := rfl
  rw [hissue, ← List.filterMap_map, h, List.filterMap_map]

/-- Whatever is told of the results of a partial map may be told of what they come from. -/
private theorem map_filterMap_eq {α β γ : Type} {f : α → Option β} {g : α → γ} {g' : β → γ}
    (h : ∀ a b, f a = some b → g' b = g a) (l : List α) :
    (l.filterMap f).map g' = (l.filter fun a => (f a).isSome).map g := by
  induction l with
  | nil => rfl
  | cons a l ih =>
    cases ha : f a with
    | none => simpa [ha] using ih
    | some b => simpa [ha, h a b ha] using ih

namespace Index

/-- The call as a check of a method lists it, if its target is that method.  `sorted` are the entries of the file. -/
def listedCall? (externals : List String) (sorted : List SymbolEntry) (className method : String)
    (c : Call.CallSite) : Option Call.CallSite :=
  (Call.target? externals c.raw (ownerAt? sorted c.line)).bind fun target =>
    if targetsMethod target className method then some { c with callee := target, rawCallee := some c.raw } else none

private theorem written_of_listedCall? {externals : List String} {sorted : List SymbolEntry} {className method : String}
    {c c' : Call.CallSite} (h : listedCall? externals sorted className method c = some c') : c'.written = c.written := by
  obtain ⟨target, -, h⟩ := Option.bind_eq_some_iff.1 h
  split at h
  · cases h
    rfl
  · cases h

/-- A check of an analysed file goes through.  It finds no definition of the method, or it lists the calls of the file
whose target is the method, and their issues. -/
theorem checkSignature_cases {ix : Index} (externals : List String) {path className method : String}
    (hclass : Text.trimmed className ≠ "") (hmethod : Text.trimmed method ≠ "")
    (hanalysed : ix.files.contains path = true) {found entries : List SymbolEntry}
    (hfound : ix.symbols.find (Text.trimmed className ++ "::" ++ Text.trimmed method) (some .methodKind) = .ok found)
    (hentries : ix.symbols.inFile path = .ok entries) :
    ∃ check, ix.checkSignature externals path className method = .ok check ∧
      ((found = [] ∧ check.expected = none ∧ check.calls = []) ∨
        ∃ m, found ≠ [] ∧ check.expected = some m ∧
          check.calls = (ix.callsOf path).filterMap (listedCall? externals
            (entries.mergeSort fun a b => a.line ≤ b.line) (Text.trimmed className) (Text.trimmed method)) ∧
          check.issues = check.calls.filterMap
              (argumentIssue? (Text.trimmed className ++ "::" ++ Text.trimmed method) m.parameters.length) ++
            if check.calls = [] then
              ["No calls to " ++ (Text.trimmed className ++ "::" ++ Text.trimmed method)]
            else []) := by
  have hmethods : ∀ e ∈ found, e.kind = .methodKind := by
    intro e he
    obtain ⟨es, -, rfl⟩ := map_eq_ok hfound
    simpa using (List.mem_filter.1 he).2
  unfold checkSignature
  dsimp only
  rw [if_neg (by simp [hclass, hmethod]), if_neg (by simp [hanalysed]), hfound, hentries]
  dsimp only [Except.mapError, bind, Except.bind]
  split
  · rename_i hnone
    refine ⟨_, rfl, .inl ⟨?_, rfl, rfl⟩⟩
    -- every entry that is found is a method, so there is none
    rw [List.eq_nil_iff_forall_not_mem]
    intro e he
    have hdeclaration := List.filterMap_eq_nil_iff.1 hnone e he
    have hkind := hmethods e he
    obtain ⟨path, declaration⟩ := e
    cases declaration with
    | ofMethod m => cases hdeclaration
    | ofClass c => cases hkind
    | ofFunction f => cases hkind
  · rename_i expected rest hsome
    refine ⟨_, rfl, .inr ⟨expected, ?_, rfl, ?_, ?_⟩⟩
    · rintro rfl
      cases hsome
    · refine List.filterMap_congr fun c _ => ?_
      unfold listedCall?
      cases Call.target? externals c.raw (ownerAt? (entries.mergeSort fun a b => a.line ≤ b.line) c.line) <;> rfl
    · dsimp only
      rcases List.filterMap _ (ix.callsOf path) with - | ⟨c, calls⟩
      · rfl
      · exact (List.append_nil _).symm

/-- The lookups of a check go through. -/
theorem lookups_ok {ix : Index} (hsymbols : ix.symbols.OfAnalysed) (query path : String) :
    (∃ found, ix.symbols.find query (some .methodKind) = .ok found) ∧
      ∃ entries, ix.symbols.inFile path = .ok entries := by
  obtain ⟨live, hlive, -⟩ := hsymbols
  refine ⟨hlive.holds.closed.find_ok query (some .methodKind), ?_⟩
  by_cases hpath : path ∈ live.map FileSummary.path
  · obtain ⟨s, hs, rfl⟩ := List.mem_map.1 hpath
    exact ⟨_, hlive.inFile_of_mem hs⟩
  · exact ⟨_, hlive.inFile_of_notMem hpath⟩

/-- A check of an analysed file goes through.  If it finds a definition, it lists calls of the file as they are written,
and their issues. -/
theorem checkSignature_ok {ix : Index} (hsymbols : ix.symbols.OfAnalysed) (externals : List String)
    {path className method : String} (hclass : Text.trimmed className ≠ "") (hmethod : Text.trimmed method ≠ "")
    (hanalysed : ix.files.contains path = true) :
    ∃ check, ix.checkSignature externals path className method = .ok check ∧ ∀ m, check.expected = some m →
      ∃ attributed : Call.CallSite → Option Call.CallSite,
        (∀ c c', attributed c = some c' → c'.written = c.written) ∧
        check.calls = (ix.callsOf path).filterMap attributed ∧
        check.issues = check.calls.filterMap
            (argumentIssue? (Text.trimmed className ++ "::" ++ Text.trimmed method) m.parameters.length) ++
          if check.calls = [] then
            ["No calls to " ++ (Text.trimmed className ++ "::" ++ Text.trimmed method)]
          else [] := by
  obtain ⟨⟨found, hfound⟩, entries, hentries⟩ :=
    lookups_ok hsymbols (Text.trimmed className ++ "::" ++ Text.trimmed method) path
  obtain ⟨check, hcheck, hcases⟩ := checkSignature_cases externals hclass hmethod hanalysed hfound hentries
  refine ⟨check, hcheck, fun m hm => ?_⟩
  rcases hcases with ⟨-, hnone, -⟩ | ⟨expected, -, hexpected, hcalls, hissues⟩
  · cases hnone.symm.trans hm
  · cases hexpected.symm.trans hm
    exact ⟨_, fun _ _ => written_of_listedCall?, hcalls, hissues⟩

end Index

/-! ### Checks in a run -/

open Call (Place CallSite issueText)

/-- What a check says of the calls at the places of a text, where `count` parameters are declared. -/
structure SignatureCheck.CountsArguments (check : SignatureCheck) (lines : List Line) (qualified : String) (count : Nat)
    (places : List Place) (issueOf : Place → Option String) : Prop where
  /-- The calls stand in the text, each at a place of its own and in the order of the places. -/
  called : ∀ p ∈ places, p.CalledIn lines
  increasing : places.Pairwise Place.Before
  calls_eq : check.calls.map CallSite.written = places.map fun p =>
    (String.ofList p.chain.render, (p.number : Int), some (String.ofList (argumentText p.line p.parenthesis)))
  /-- A call is one issue at most, and having no calls is one. -/
  issues_eq : check.issues = places.filterMap issueOf ++ if places = [] then ["No calls to " ++ qualified] else []
  /-- A list of arguments that is closed on its line is counted. -/
  counted : ∀ p ∈ places, ∀ offset, p.ClosesAt offset → Quiet (p.rawArguments offset) (p.codeArguments offset) →
    issueOf p =
      if count < argumentCount (p.rawArguments offset) (p.codeArguments offset) then
        some (issueText qualified count p.number (argumentCount (p.rawArguments offset) (p.codeArguments offset)))
      else none
  /-- One that ends in three dots is not, nor is one that goes on behind its line. -/
  dots : ∀ p ∈ places, ∀ offset, p.ClosesAt offset → "...".toList <:+ Text.trim (p.rawArguments offset) →
    issueOf p = none
  unclosed : ∀ p ∈ places, (∀ offset, ¬ p.ClosesAt offset) → issueOf p = none

/-- The calls in the summary of a text are those at its places. -/
private theorem calls_summaryAt (path content : String) : ∃ keywords declared,
    (summaryAt path content).calls =
      (Call.placesFrom keywords declared 1 (Source.sourceLines (lexRulesOf (languageOf path)) content.toList)).map fun p =>
        CallSite.ofOccurrence path p.occurrence := by
  obtain ⟨keywords, declared, hcalls⟩ := calls_findingsIn (languageOf path) content.toList
  refine ⟨keywords, declared, ?_⟩
  simp only [summaryAt, summarize, Extract.Findings.summary, hcalls, Call.scanCalls, Call.scanCallsFrom_eq_map,
    List.map_map]
  rfl

/-- The issues of a check are told place by place. -/
private theorem countsArguments_of_attributed {check : SignatureCheck} {lines : List Line}
    (hlines : ∀ line ∈ lines, List.Forall₂ Source.Shows line.raw line.code) {keywords : List String}
    {declared : List (Nat × String)} {path qualified : String} {count : Nat}
    {attributed : CallSite → Option CallSite} (hwritten : ∀ c c', attributed c = some c' → c'.written = c.written)
    (hcalls : check.calls =
      ((Call.placesFrom keywords declared 1 lines).map fun p => .ofOccurrence path p.occurrence).filterMap attributed)
    (hissues : check.issues = check.calls.filterMap (argumentIssue? qualified count) ++
      if check.calls = [] then ["No calls to " ++ qualified] else []) :
    ∃ places issueOf, check.CountsArguments lines qualified count places issueOf := by
  generalize hplaces : (Call.placesFrom keywords declared 1 lines).filter (fun p =>
    (attributed (.ofOccurrence path p.occurrence)).isSome) = places
  have hcalled : ∀ p ∈ places, p.CalledIn lines := by
    intro p hp
    rw [← hplaces] at hp
    obtain ⟨⟨i, hnumber, hline⟩, hat⟩ := Call.mem_placesFrom (List.mem_filter.1 hp).1
    exact ⟨⟨i, by omega, hline⟩, hat⟩
  have hshows : ∀ p ∈ places, List.Forall₂ Source.Shows p.line.raw p.line.code := by
    intro p hp
    obtain ⟨i, -, hline⟩ := (hcalled p hp).line_eq
    exact hlines _ (List.mem_of_getElem? hline)
  have hsites : check.calls.map CallSite.written =
      (places.map fun p => CallSite.ofOccurrence path p.occurrence).map CallSite.written := by
    rw [hcalls, List.filterMap_map, ← hplaces, List.map_map]
    exact map_filterMap_eq (fun p c hc => hwritten _ c hc) _
  have hrecorded : check.calls.filterMap (argumentIssue? qualified count) =
      places.filterMap fun p => argumentIssue? qualified count (.ofOccurrence path p.occurrence) := by
    rw [filterMap_argumentIssue?_congr hsites, List.filterMap_map, Function.comp_def]
  have hnone : check.calls = [] ↔ places = [] := by
    have hlength := congrArg List.length hsites
    simp only [List.length_map] at hlength
    rw [← List.length_eq_zero_iff, hlength, List.length_eq_zero_iff]
  refine ⟨places, fun p => argumentIssue? qualified count (.ofOccurrence path p.occurrence), ?_⟩
  exact {
    called := hcalled
    increasing := by
      rw [← hplaces]
      exact (Call.pairwise_placesFrom 1 lines).filter _
    calls_eq := by
      rw [hsites, List.map_map]
      rfl
    issues_eq := by
      rw [hissues, hrecorded]
      by_cases hempty : places = []
      · rw [if_pos (hnone.2 hempty), if_pos hempty]
      · rw [if_neg (fun hcalls => hempty (hnone.1 hcalls)), if_neg hempty]
    counted := fun p hp offset hclosed hquiet =>
      (hcalled p hp).argumentIssue?_of_quiet (hshows p hp) hclosed hquiet path qualified count
    dots := fun p hp offset hclosed hdots =>
      Call.Place.argumentIssue?_of_dots (by rwa [(hcalled p hp).argumentText_eq hclosed]) path qualified count
    unclosed := fun p hp hunclosed => (hcalled p hp).argumentIssue?_of_unclosed hunclosed path qualified count }

namespace Workspace

theorem checkSignature_of_keyOf {ws : Workspace} {file key : String} (hkey : ws.keyOf file = .ok key) {className method : String}
    {check : SignatureCheck}
    (hcheck : ws.index.checkSignature ws.settings.externalObjects key className method = .ok check) :
    ws.checkSignature file className method = .ok check := by
  have hpath : key = canonicalPath ws.dir file := by
    unfold keyOf at hkey
    split at hkey
    · cases hkey
    · exact (Except.ok.inj hkey).symm
  rw [checkSignature, ← hpath, hcheck, hkey]
  rfl

/-- In every run, and whether or not imports can be resolved, the calls that an analysed file makes to a method are
checked by the number of their arguments, as far as nothing in their lists misleads the count. -/
theorem signature_check_counts_arguments {history : List Sources} {ws : Workspace} (h : Reached history ws)
    {file key className method : String} (hkey : ws.keyOf file = .ok key)
    (hanalysed : ws.index.files.contains key = true) (hclass : Text.trimmed className ≠ "")
    (hmethod : Text.trimmed method ≠ "") :
    ∃ check content, ws.checkSignature file className method = .ok check ∧ ws.Readable history key content ∧
      ∀ m, check.expected = some m → ∃ places issueOf,
        check.CountsArguments (Source.sourceLines (lexRulesOf (languageOf key)) content.toList)
          (Text.trimmed className ++ "::" ++ Text.trimmed method) m.parameters.length places issueOf := by
  obtain ⟨check, hcheck, hexpected⟩ :=
    Index.checkSignature_ok h.ofAnalysed ws.settings.externalObjects hclass hmethod hanalysed
  obtain ⟨s, hs⟩ := Option.isSome_iff_exists.1 (ws.index.files.contains_eq_isSome key ▸ hanalysed)
  obtain ⟨calls, hcalls⟩ := h.callsKnown.covered key s hs
  obtain ⟨content, hreadable, hcontent⟩ := h.callsKnown.known key calls hcalls
  refine ⟨check, content, checkSignature_of_keyOf hkey hcheck, hreadable, ?_⟩
  intro m hm
  obtain ⟨attributed, hwritten, hattributed, hissues⟩ := hexpected m hm
  obtain ⟨keywords, declared, hplaces⟩ := calls_summaryAt key content
  have hcallsOf : ws.index.callsOf key = (summaryAt key content).calls := by
    rw [Index.callsOf, hcalls, hcontent]
    rfl
  rw [hcallsOf, hplaces] at hattributed
  exact countsArguments_of_attributed (fun line hline => Source.forall₂_of_mem_sourceLines hline) hwritten
    hattributed hissues

/-- A workspace with one file, which calls a method of its own. -/
def shop : Workspace :=
  { sources := .texts [("/o.py", "class A:\n def m(self, x): pass\na.m(f(\"b, c\"), 3 > 2)\n")] }

/-- The file of the workspace has been analysed. -/
def openShop : Workspace :=
  ((analyze "/o.py").run shop).2

private theorem openShop_answers : openShop.index.files.contains "/o.py" = true ∧
    (openShop.checkSignature "/o.py" "A" "m").toOption.map (·.issues) = some ["line 3: 2 arguments, A::m takes 1"] := by
  decide +kernel

/-- The comma in the string stands in brackets and the greater-than sign outside of them: two arguments are counted. -/
theorem openShop_counts_two_arguments :
    Reached [shop.sources] openShop ∧ openShop.index.files.contains "/o.py" = true ∧
    Quiet "f(\"b, c\"), 3 > 2".toList "f(\"    \"), 3 > 2".toList ∧
    ∃ check content, openShop.checkSignature "/o.py" "A" "m" = .ok check ∧
      check.issues = ["line 3: 2 arguments, A::m takes 1"] ∧ openShop.Readable [shop.sources] "/o.py" content ∧
      ∀ m, check.expected = some m → ∃ places issueOf,
        check.CountsArguments (Source.sourceLines (lexRulesOf (languageOf "/o.py")) content.toList) "A::m"
          m.parameters.length places issueOf := by
  have hreached : Reached [shop.sources] openShop := (Reached.fresh shop rfl).analyze "/o.py"
  obtain ⟨hanalysed, hissues⟩ := openShop_answers
  have hkey : openShop.keyOf "/o.py" = .ok "/o.py" := rfl
  have hclass : Text.trimmed "A" ≠ "" := by decide
  have hmethod : Text.trimmed "m" ≠ "" := by decide
  obtain ⟨check, content, hcheck, hreadable, hcounts⟩ :=
    signature_check_counts_arguments hreached hkey hanalysed hclass hmethod
  rw [hcheck] at hissues
  exact ⟨hreached, hanalysed, by decide, check, content, hcheck, Option.some.inj hissues, hreadable, hcounts⟩

end Workspace

end CallIndex
