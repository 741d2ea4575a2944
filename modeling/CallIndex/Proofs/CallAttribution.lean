import CallIndex.Proofs.GroundedRuns
import CallIndex.Proofs.SummaryShape

/-!
# Which declaration a call belongs to

The body of a declaration runs from its line to the line before the next declaration.  Declarations stand on lines of
their own and calls are in the order of their lines, so the bodies cut the calls of a file into pieces: first the calls
before all declarations, then those of one body after the other.

* `FileSummary.isNextAfter_nextDeclaration?`: the next declaration is the first one behind a line.
* `flatMap_callsWithin`: the calls of some bodies that follow one another are the calls from the first of them on.
* `Workspace.calls_attributed_once`: every call belongs to one declaration at most, and to none only for two reasons.
-/

namespace CallIndex

open Call (CallSite)

/-! ### The next declaration -/

namespace FileSummary

private theorem map_line_entries (s : FileSummary) :
    s.entries.map (·.line) = s.classes.map (·.line) ++ s.functions.map (·.line) ++ s.methods.map (·.line) := by
  simp only [entries, List.map_append, List.map_map]
  rfl

private theorem mem_declarationLines {s : FileSummary} {line : Int} :
    line ∈ s.declarationLines ↔ ∃ e ∈ s.entries, e.line = line := by
  rw [declarationLines, List.mem_mergeSort, ← map_line_entries, List.mem_map]

/-- Declarations on lines of their own are told apart by their lines. -/
theorem eq_of_line {s : FileSummary} (hlines : s.declarationLines.Pairwise (· < ·)) {e e' : SymbolEntry}
    (he : e ∈ s.entries) (he' : e' ∈ s.entries) (h : e.line = e'.line) : e = e' := by
  have hperm : s.declarationLines.Perm (s.entries.map (·.line)) := by
    rw [s.map_line_entries]
    exact List.mergeSort_perm _ _
  have hnodup : (s.entries.map (·.line)).Nodup := hperm.nodup_iff.1 (hlines.imp Int.ne_of_lt)
  exact List.inj_on_of_nodup_map hnodup he he' h

/-- What stands behind a line: the first declaration there, or none. -/
def IsNextAfter (s : FileSummary) (line : Int) : Option Int → Prop
  | some next => (∃ e ∈ s.entries, e.line = next) ∧ line < next ∧ ∀ e ∈ s.entries, line < e.line → next ≤ e.line
  | none => ∀ e ∈ s.entries, e.line ≤ line

theorem isNextAfter_nextDeclaration? (s : FileSummary) (line : Int) : s.IsNextAfter line (s.nextDeclaration? line) := by
  have hsorted := s.pairwise_declarationLines
  unfold nextDeclaration?
  cases hfind : s.declarationLines.find? (line < ·) with
  | none =>
    intro e he
    have hnot := List.find?_eq_none.1 hfind e.line (mem_declarationLines.2 ⟨e, he, rfl⟩)
    simpa using hnot
  | some next =>
    obtain ⟨hnext, before, behind, hsplit, hbefore⟩ := List.find?_eq_some_iff_append.1 hfind
    refine ⟨mem_declarationLines.1 (List.mem_of_find?_eq_some hfind), by simpa using hnext, ?_⟩
    intro e he hline
    have hmem : e.line ∈ s.declarationLines := mem_declarationLines.2 ⟨e, he, rfl⟩
    rw [hsplit] at hmem hsorted
    rcases List.mem_append.1 hmem with hmem | hmem
    · -- the lines before the one that is found do not lie behind `line`
      have hnot := hbefore e.line hmem
      simp only [Bool.not_eq_true', decide_eq_false_iff_not] at hnot
      exact absurd hline hnot
    · rcases List.mem_cons.1 hmem with heq | hmem
      · exact le_of_eq heq.symm
      · exact List.rel_of_pairwise_cons (List.pairwise_append.1 hsorted).2.1 hmem

end FileSummary

/-! ### Bodies that follow one another -/

section Bodies

variable {calls : List CallSite}

/-- Calls in order are those before a line and those from it on. -/
private theorem filter_lt_append_filter_le (h : (calls.map (·.line)).Pairwise (· ≤ ·)) (line : Int) :
    (calls.filter fun c => c.line < line) ++ (calls.filter fun c => line ≤ c.line) = calls := by
  induction calls with
  | nil => rfl
  | cons c calls ih =>
    rw [List.map_cons, List.pairwise_cons] at h
    by_cases hc : c.line < line
    · have hnot : ¬ line ≤ c.line := by omega
      simp only [List.filter_cons, hc, hnot, decide_true, decide_false, ↓reduceIte, Bool.false_eq_true,
        List.cons_append]
      rw [ih h.2]
    · -- all that follows is not before the line either
      have hrest : ∀ c' ∈ c :: calls, line ≤ c'.line := by
        intro c' hc'
        rcases List.mem_cons.1 hc' with rfl | hc'
        · omega
        · have := h.1 c'.line (List.mem_map_of_mem hc')
          omega
      have hnone : ((c :: calls).filter fun c => c.line < line) = [] := by
        rw [List.filter_eq_nil_iff]
        intro c' hc'
        have := hrest c' hc'
        simpa using this
      have hall : ((c :: calls).filter fun c => line ≤ c.line) = c :: calls := by
        rw [List.filter_eq_self]
        intro c' hc'
        simpa using hrest c' hc'
      rw [hnone, hall, List.nil_append]

/-- Among lines in order, the next one behind a line is the one that follows it in the list. -/
private theorem find?_lt_of_pairwise {before rest : List Int} {line : Int}
    (h : (before ++ line :: rest).Pairwise (· < ·)) : (before ++ line :: rest).find? (line < ·) = rest.head? := by
  obtain ⟨-, hrest, hbefore⟩ := List.pairwise_append.1 h
  have hnone : before.find? (line < ·) = none := by
    rw [List.find?_eq_none]
    intro a ha
    have := hbefore a ha line List.mem_cons_self
    simp only [decide_eq_true_eq]
    omega
  rw [List.find?_append, hnone, Option.none_or, List.find?_cons_of_neg (by simp)]
  cases rest with
  | nil => rfl
  | cons next rest =>
    have hnext : line < next := List.rel_of_pairwise_cons hrest List.mem_cons_self
    rw [List.find?_cons_of_pos (by simpa using hnext)]
    rfl

/-- The bodies of declarations that follow one another hold the calls from the first of them on. -/
theorem flatMap_callsWithin (hcalls : (calls.map (·.line)).Pairwise (· ≤ ·)) (before lines : List Int)
    (h : (before ++ lines).Pairwise (· < ·)) :
    (lines.flatMap fun line => callsWithin calls line ((before ++ lines).find? (line < ·))) =
      calls.filter fun c => lines.head?.any (· ≤ c.line) := by
  induction lines generalizing before with
  | nil => simp
  | cons line rest ih =>
    have hassoc : before ++ line :: rest = before ++ [line] ++ rest := by simp
    have hrest := ih (before ++ [line]) (hassoc ▸ h)
    rw [List.flatMap_cons, find?_lt_of_pairwise h, hassoc, hrest]
    cases rest with
    | nil => simp [callsWithin]
    | cons next rest =>
      have hlt : line < next := by
        have := (List.pairwise_append.1 h).2.1
        exact List.rel_of_pairwise_cons this List.mem_cons_self
      -- the calls from `line` on are cut at `next`
      have hfrom : ((calls.filter fun c => line ≤ c.line).map (·.line)).Pairwise (· ≤ ·) :=
        hcalls.sublist (List.filter_sublist.map _)
      have hcut := filter_lt_append_filter_le hfrom next
      rw [List.filter_filter, List.filter_filter] at hcut
      have hbehind : (calls.filter fun c => decide (next ≤ c.line) && decide (line ≤ c.line)) =
          calls.filter fun c => next ≤ c.line := by
        apply List.filter_congr
        intro c _
        by_cases hc : next ≤ c.line
        · have : line ≤ c.line := by omega
          simp [hc, this]
        · simp [hc]
      rw [hbehind] at hcut
      simpa [callsWithin, Bool.and_comm] using hcut

end Bodies

namespace FileSummary

/-- The calls of a file are those before its declarations, and then those of one body after the other. -/
def SplitsCalls (s : FileSummary) : Prop :=
  s.calls = (s.calls.filter fun c => s.declarationLines.all (c.line < ·)) ++
    s.declarationLines.flatMap fun line => callsWithin s.calls line (s.nextDeclaration? line)

private theorem splitsCalls {s : FileSummary} (hlines : s.declarationLines.Pairwise (· < ·))
    (hcalls : (s.calls.map (·.line)).Pairwise (· ≤ ·)) : s.SplitsCalls := by
  have hbodies := flatMap_callsWithin hcalls [] s.declarationLines hlines
  unfold SplitsCalls nextDeclaration?
  rw [List.nil_append] at hbodies
  rw [hbodies]
  cases hfirst : s.declarationLines with
  | nil => simp
  | cons first rest =>
    have hbefore : (s.calls.filter fun c => (first :: rest).all (c.line < ·)) =
        s.calls.filter fun c => c.line < first := by
      apply List.filter_congr
      intro c _
      by_cases hc : c.line < first
      · have hrest : ∀ line ∈ rest, c.line < line := by
          intro line hline
          rw [hfirst] at hlines
          have := List.rel_of_pairwise_cons hlines hline
          omega
        simpa [hc] using hrest
      · simp [hc]
    rw [hbefore]
    exact (filter_lt_append_filter_le hcalls first).symm

end FileSummary

/-! ### Calls of an index -/

/-- In an index, bodies of different entries of one file have no line of a call in common.  A call of a file is in the
body of an entry, or it stands before all declarations of the file, or in the body of a declaration that is no entry
because another declaration of its name has replaced it. -/
structure Index.AttributesOnce (ix : Index) : Prop where
  apart : ∀ e ∈ ix.symbols.entries.values, ∀ e' ∈ ix.symbols.entries.values, e.path = e'.path → e ≠ e' →
    ∀ c ∈ ix.bodyCalls e, ∀ c' ∈ ix.bodyCalls e', c.line ≠ c'.line
  covered : ∀ path, ∀ c ∈ ix.callsOf path, ∃ s, ix.files.get? path = some s ∧
    ((∃ e ∈ ix.symbols.entries.values, e.path = path ∧ c ∈ ix.bodyCalls e) ∨
      (∀ d ∈ s.entries, c.line < d.line) ∨
      ∃ d ∈ s.entries, c ∈ callsWithin (ix.callsOf path) d.line (s.nextDeclaration? d.line) ∧
        d ∉ ix.symbols.entries.values ∧
        ∃ e ∈ ix.symbols.entries.values, e.path = path ∧ e.qualifiedName = d.qualifiedName)

theorem mem_callsWithin {calls : List CallSite} {start : Int} {stop : Option Int} {c : CallSite} :
    c ∈ callsWithin calls start stop ↔ c ∈ calls ∧ start ≤ c.line ∧ ∀ line, stop = some line → c.line < line := by
  cases stop with
  | none => simp [callsWithin]
  | some line => simp [callsWithin]

/-- The body of a declaration ends before every later declaration. -/
theorem line_lt_of_mem_callsWithin {s : FileSummary} {calls : List CallSite} {start : Int} {c : CallSite}
    (h : c ∈ callsWithin calls start (s.nextDeclaration? start)) {e : SymbolEntry} (he : e ∈ s.entries)
    (hlater : start < e.line) : c.line < e.line := by
  have hnext := s.isNextAfter_nextDeclaration? start
  obtain ⟨-, -, hstop⟩ := mem_callsWithin.1 h
  cases hline : s.nextDeclaration? start with
  | none =>
    rw [hline] at hnext
    have := hnext e he
    omega
  | some next =>
    rw [hline] at hnext
    have hbefore := hstop next hline
    have hfirst := hnext.2.2 e he hlater
    omega

namespace Index.Synced

variable {dir : List String} {ix : Index}

/-- The entries of a file are the declarations that have settled. -/
theorem mem_entries_iff (h : ix.Synced dir) {path : String} {s : FileSummary} (hs : ix.files.get? path = some s)
    {e : SymbolEntry} : e ∈ ix.symbols.entries.values ∧ e.path = path ↔ e ∈ s.settled := by
  have hpath := h.path_of_get? hs
  rw [h.entries_perm.mem_iff, List.mem_flatMap]
  constructor
  · rintro ⟨⟨s', hs', he⟩, hepath⟩
    obtain ⟨⟨path', s''⟩, hmem, rfl⟩ := List.mem_map.1 hs'
    have hsame := Registry.get?_eq_some_iff.2 hmem
    have hpath' : path' = path := by
      rw [← h.path_of_get? hsame, ← hepath, FileSummary.path_of_mem_settled he]
    rw [hpath', hs] at hsame
    cases hsame
    exact he
  · intro he
    refine ⟨⟨s, List.mem_map.2 ⟨_, Registry.get?_eq_some_iff.1 hs, rfl⟩, he⟩, ?_⟩
    rw [FileSummary.path_of_mem_settled he, hpath]

private theorem callsOf_eq (h : ix.Synced dir) {path : String} {s : FileSummary} (hs : ix.files.get? path = some s) :
    ix.callsOf path = s.calls := by
  obtain ⟨calls, hcalls, rfl⟩ := h.calls.get?_of_get? hs
  rw [callsOf, hcalls, Option.getD_some]

theorem bodyCalls_of_get? (h : ix.Synced dir) {e : SymbolEntry} {s : FileSummary}
    (hs : ix.files.get? e.path = some s) :
    ix.bodyCalls e = callsWithin s.calls e.line (s.nextDeclaration? e.line) := by
  rw [bodyCalls, hs, h.callsOf_eq hs]

/-- Where every file has its declarations on lines of their own and its calls in order, calls are attributed once. -/
private theorem attributesOnce (h : ix.Synced dir) (hlines : ∀ path s, ix.files.get? path = some s →
      s.declarationLines.Pairwise (· < ·)) (hcalls : ∀ path s, ix.files.get? path = some s →
      (s.calls.map (·.line)).Pairwise (· ≤ ·)) : ix.AttributesOnce where
  apart := by
    intro e he e' he' hpath hne c hc c' hc'
    cases hs : ix.files.get? e.path with
    | none =>
      rw [bodyCalls, hs] at hc
      cases hc
    | some s =>
      have hmem := mem_of_mem_settle ((h.mem_entries_iff hs).1 ⟨he, rfl⟩)
      have hmem' := mem_of_mem_settle ((h.mem_entries_iff hs).1 ⟨he', hpath.symm⟩)
      rw [h.bodyCalls_of_get? hs] at hc
      rw [h.bodyCalls_of_get? (hpath ▸ hs)] at hc'
      have hline : e.line ≠ e'.line := fun heq => hne (FileSummary.eq_of_line (hlines _ _ hs) hmem hmem' heq)
      -- the body of the earlier one ends before the later one begins
      have hstart := (mem_callsWithin.1 hc).2.1
      have hstart' := (mem_callsWithin.1 hc').2.1
      rcases Int.lt_or_gt_of_ne hline with hlt | hgt
      · have := line_lt_of_mem_callsWithin hc hmem' hlt
        omega
      · have := line_lt_of_mem_callsWithin hc' hmem hgt
        omega
  covered := by
    intro path c hc
    cases hs : ix.files.get? path with
    | none =>
      rw [callsOf, h.calls.get?_none hs] at hc
      cases hc
    | some s =>
      refine ⟨s, rfl, ?_⟩
      rw [h.callsOf_eq hs] at hc ⊢
      have hsplit := FileSummary.splitsCalls (hlines path s hs) (hcalls path s hs)
      rw [FileSummary.SplitsCalls] at hsplit
      rw [hsplit] at hc
      rcases List.mem_append.1 hc with hc | hc
      · refine .inr (.inl fun d hd => ?_)
        have hall := (List.mem_filter.1 hc).2
        rw [List.all_eq_true] at hall
        simpa using hall d.line (FileSummary.mem_declarationLines.2 ⟨d, hd, rfl⟩)
      · obtain ⟨line, hline, hc⟩ := List.mem_flatMap.1 hc
        obtain ⟨d, hd, rfl⟩ := FileSummary.mem_declarationLines.1 hline
        by_cases hsettled : d ∈ s.settled
        · obtain ⟨hvalue, hpath⟩ := (h.mem_entries_iff hs).2 hsettled
          refine .inl ⟨d, hvalue, hpath, ?_⟩
          rw [h.bodyCalls_of_get? (hpath ▸ hs)]
          exact hc
        · -- another declaration has settled under the name of `d`
          obtain ⟨e, he, hname⟩ := List.mem_map.1
            (FileSummary.mem_qualifiedNames_settled.2 (List.mem_map.2 ⟨d, hd, rfl⟩))
          obtain ⟨hvalue, hpath⟩ := (h.mem_entries_iff hs).2 he
          have hdpath : d.path = path := by
            rw [FileSummary.path_of_mem_entries hd, h.path_of_get? hs]
          have hgone : d ∉ ix.symbols.entries.values :=
            fun hd => hsettled ((h.mem_entries_iff hs).1 ⟨hd, hdpath⟩)
          exact .inr (.inr ⟨d, hd, hc, hgone, e, hvalue, hpath, hname⟩)

end Index.Synced

namespace Workspace

/-- The calls of every source are cut by its declarations into the calls before them and the calls of their bodies, and
the next declaration is the first one behind a line.  So in every run with resolvable imports a call belongs to one
declaration at most; it belongs to none when it stands before all declarations of its file, or in the body of a
declaration that another one of its name has replaced. -/
theorem calls_attributed_once {history : List Sources} {ws : Workspace} (h : Reached history ws)
    (hresolves : ws.ImportsResolve history) :
    (∀ language path content, (summarize language path content).1.SplitsCalls) ∧
      (∀ (s : FileSummary) (line : Int), s.IsNextAfter line (s.nextDeclaration? line)) ∧
      ws.index.AttributesOnce := by
  refine ⟨?_, FileSummary.isNextAfter_nextDeclaration?, ?_⟩
  · intro language path content
    exact FileSummary.splitsCalls (pairwise_declarationLines_summarize language path content)
      (pairwise_calls_summarize language path content)
  · have hgrounded := h.run.grounded hresolves
    apply hgrounded.synced.attributesOnce
    · intro path s hs
      obtain ⟨content, -, rfl⟩ := hgrounded.known path s hs
      exact pairwise_declarationLines_summarize (languageOf path) path content
    · intro path s hs
      obtain ⟨content, -, rfl⟩ := hgrounded.known path s hs
      exact pairwise_calls_summarize (languageOf path) path content

/-- A file that calls before its declarations, and declares one function twice. -/
def redefinition : Workspace :=
  { sources := .texts [("/a.py", "a()\ndef f():\n b()\ndef f():\n c()\n")] }

private theorem redefinition_outline :
    (findingsIn "python" "a()\ndef f():\n b()\ndef f():\n c()\n".toList).outline =
      { functions := [⟨"f", 2, [], false⟩, ⟨"f", 4, [], false⟩], declared := [(2, "f"), (4, "f")] } := by
  decide +kernel

private theorem redefinition_values : ((analyze "/a.py").run redefinition).2.index.symbols.entries.values =
    [⟨"/a.py", .ofFunction ⟨"f", 4, [], false⟩⟩] := by
  have hkey : redefinition.keyOf "/a.py" = .ok "/a.py" := rfl
  have hread : redefinition.read "/a.py" = .ok ⟨"a()\ndef f():\n b()\ndef f():\n c()\n", false⟩ := rfl
  have hlanguage : languageOf "/a.py" = "python" := rfl
  have hentries : (summaryAt "/a.py" "a()\ndef f():\n b()\ndef f():\n c()\n").entries =
      [⟨"/a.py", .ofFunction ⟨"f", 2, [], false⟩⟩, ⟨"/a.py", .ofFunction ⟨"f", 4, [], false⟩⟩] := by
    rw [summaryAt, summarize, hlanguage]
    simp only [FileSummary.entries, Extract.Findings.summary, redefinition_outline]
    rfl
  rw [symbols_analyze hkey hread]
  simp only [SymbolTable.registerFile, hentries, path_summaryAt]
  rfl

theorem redefinition_calls_attributed_once :
    Reached [redefinition.sources] ((analyze "/a.py").run redefinition).2 ∧
      ((analyze "/a.py").run redefinition).2.ImportsResolve [redefinition.sources] ∧
      ((analyze "/a.py").run redefinition).2.index.symbols.entries.values =
        [⟨"/a.py", .ofFunction ⟨"f", 4, [], false⟩⟩] ∧
      ((analyze "/a.py").run redefinition).2.index.AttributesOnce := by
  have hreached := (Reached.fresh redefinition rfl).analyze "/a.py"
  have hresolves : ((analyze "/a.py").run redefinition).2.ImportsResolve [redefinition.sources] := by
    apply importsResolve_texts
    intro key content hmem
    obtain ⟨rfl, rfl⟩ := Prod.mk.inj (List.mem_singleton.1 hmem)
    have hlanguage : languageOf "/a.py" = "python" := rfl
    rw [hlanguage, redefinition_outline]
  exact ⟨hreached, hresolves, redefinition_values, (calls_attributed_once hreached hresolves).2.2⟩

end Workspace

end CallIndex
