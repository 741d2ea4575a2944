import CallIndex.Proofs.CallAttribution
import CallIndex.Proofs.SignatureChecks
import CallIndex.Proofs.TraceCalls

/-!
# Targets in signature checks

A signature check tells the owner of a call by the nearest entry at or above its line, and queries and traces tell it by
the body that holds the call.  Declarations stand on lines of their own, so both tell the same owner and hence the same
target.

* `Index.exists_nearestAbove`: the owner that a check takes is that of the nearest entry.
* `Index.Synced.nearestAbove_of_mem_bodyCalls`: the entry nearest to a call in a body is the entry of the body.
* `Workspace.Reached.targetsMethod_iff`: the targets that a check lists are those that name the method.
* `Workspace.signature_checks_share_targets`: in every run, checks list the calls with these targets.
-/

namespace CallIndex

open Call (CallSite)

/-! ### Slashes and cases -/

namespace Text

/-- A number that is no code stands for the character of zero. -/
private theorem eq_toNat_of_ofNat {n : Nat} {c : Char} (h : Char.ofNat n = c) (hc : c.toNat ≠ 0) : n = c.toNat := by
  rw [← h] at hc ⊢
  by_cases hvalid : n.isValidChar
  · rw [Char.ofNat, dif_pos hvalid]
    rfl
  · rw [Char.ofNat, dif_neg hvalid] at hc
    exact absurd rfl hc

set_option maxRecDepth 4000 in
private theorem slash_lt_of_mem_lowerRuns : ∀ r ∈ lowerRuns, (47 : Int) < r.first + r.shift := by
  decide

/-- No other character is mapped to a slash. -/
private theorem eq_slash_of_lowerChar {c : Char} (h : lowerChar c = '/') : c = '/' := by
  have hruns := slash_lt_of_mem_lowerRuns
  unfold lowerChar at h
  revert h hruns
  generalize lowerRuns = runs
  intro h hruns
  induction runs with
  | nil => exact h
  | cons r runs ih =>
    rw [lowerChar.go] at h
    split at h
    · exact h
    · rename_i hfirst
      split at h
      · split at h
        · have hcode : Int.toNat (c.toNat + r.shift) = 47 := eq_toNat_of_ofNat h (by decide)
          have hr := hruns r List.mem_cons_self
          omega
        · exact h
      · exact ih h fun r hr => hruns r (List.mem_cons_of_mem _ hr)

private theorem head?_of_head?_lowerCase {s : String} (h : (lowerCase s).toList.head? = some '/') :
    s.toList.head? = some '/' := by
  rw [lowerCase, String.toList_ofList] at h
  cases hs : s.toList with
  | nil =>
    rw [hs] at h
    cases h
  | cons c rest =>
    rw [hs, lowerAfter] at h
    split at h
    · split at h <;> cases h
    · split at h
      · cases h
      · exact congrArg some (eq_slash_of_lowerChar (Option.some.inj h))

private theorem head?_lowerCase {s : String} (h : s.toList.head? = some '/') :
    (lowerCase s).toList.head? = some '/' := by
  obtain ⟨rest, hs⟩ := List.head?_eq_some_iff.1 h
  rw [lowerCase, String.toList_ofList, hs]
  rfl

private theorem eq_empty_of_lowerCase {s : String} (h : lowerCase s = lowerCase "") : s = "" := by
  replace h := congrArg String.toList h
  rw [lowerCase, lowerCase, String.toList_ofList, String.toList_ofList] at h
  cases hs : s.toList with
  | nil => exact String.toList_eq_nil_iff.1 hs
  | cons c rest =>
    rw [hs, lowerAfter] at h
    split at h
    · cases h
    · split at h <;> cases h

end Text

/-! ### Targets that name a method -/

/-- The target is `method` in the class `className`, the case of the class apart. -/
def NamesMethod (target className method : String) : Prop :=
  ∃ left, target = left ++ "::" ++ method ∧ Text.lowerCase left = Text.lowerCase className

private theorem namesMethod_of_targetsMethod {target className method : String} (hclass : className ≠ "")
    (h : targetsMethod target className method = true) : NamesMethod target className method := by
  unfold targetsMethod at h
  cases hcut : Text.cutAtLast? "::".toList target.toList with
  | none =>
    rw [hcut] at h
    obtain ⟨-, hleft⟩ := Bool.and_eq_true_iff.1 h
    exact absurd (Text.eq_empty_of_lowerCase (of_decide_eq_true hleft).symm) hclass
  | some cut =>
    obtain ⟨left, member⟩ := cut
    rw [hcut] at h
    obtain ⟨hmember, hleft⟩ := Bool.and_eq_true_iff.1 h
    refine ⟨String.ofList left, ?_, of_decide_eq_true hleft⟩
    rw [← of_decide_eq_true hmember, ← String.toList_inj, Text.eq_append_of_cutAtLast? hcut]
    simp

private theorem targetsMethod_of_namesMethod {target className method : String} (hmethod : ':' ∉ method.toList)
    (h : NamesMethod target className method) : targetsMethod target className method = true := by
  obtain ⟨left, rfl, hleft⟩ := h
  have hcut : Text.cutAtLast? "::".toList (left ++ "::" ++ method).toList = some (left.toList, method.toList) := by
    rw [String.toList_append, String.toList_append, List.append_assoc]
    exact Text.cutAtLast?_colons _ hmethod
  rw [targetsMethod, hcut]
  simp [hleft]

/-- A query for a method that finds one has no colon behind the last two colons, or it is a key. -/
private theorem SymbolTable.OfAnalysed.colon_notMem_or_slash {t : SymbolTable} (h : t.OfAnalysed)
    {className method : String} (hmethod : Text.trimmed method ≠ "") {found : List SymbolEntry}
    (hfound : t.find (Text.trimmed className ++ "::" ++ Text.trimmed method) (some .methodKind) = .ok found)
    (hne : found ≠ []) :
    ':' ∉ (Text.trimmed method).toList ∨
      (Text.trimmed className ++ "::" ++ Text.trimmed method).toList.head? = some '/' := by
  obtain ⟨L, hholds, hnamed, hpath⟩ := h.exists_holds
  rw [hholds.find_eq, Text.trimmed_colons] at hfound
  obtain ⟨e, he⟩ := List.exists_mem_of_ne_nil found hne
  obtain ⟨hscan, hkind⟩ : _ ∧ _ := List.mem_filter.1 ((Except.ok.inj hfound) ▸ he)
  by_cases hkey : ∃ x ∈ L, x.key = Text.trimmed className ++ "::" ++ Text.trimmed method
  · obtain ⟨x, hx, hxkey⟩ := hkey
    right
    rw [← hxkey, SymbolEntry.key, SymbolEntry.keyOf, String.toList_append, String.toList_append, List.append_assoc,
      List.head?_append, hpath x hx]
    rfl
  · left
    have hnokey : ∀ x ∈ L, x.key ≠ Text.trimmed className ++ "::" ++ Text.trimmed method :=
      fun x hx hxkey => hkey ⟨x, hx, hxkey⟩
    obtain ⟨hmem, hname⟩ := mem_of_mem_scan_colons hnamed hmethod hnokey hscan
    cases howner : e.className? with
    | none =>
      obtain ⟨path, declaration⟩ := e
      cases declaration with
      | ofMethod m => cases howner
      | ofClass c => simp [SymbolEntry.kind] at hkind
      | ofFunction f => simp [SymbolEntry.kind] at hkind
    | some owner =>
      -- the qualified name of a method holds two colons only
      rw [SymbolEntry.qualifiedName_of_className? howner] at hname
      have hcount := congrArg (fun s => s.toList.count ':') hname
      have howner0 : owner.toList.count ':' = 0 :=
        List.count_eq_zero.2 (colon_notMem ((hnamed e hmem).owner owner howner))
      have hname0 : e.name.toList.count ':' = 0 := List.count_eq_zero.2 (colon_notMem (hnamed e hmem).name.chars)
      simp only [String.toList_append, List.count_append, howner0, hname0] at hcount
      exact List.count_eq_zero.1 (by omega)

/-! ### The nearest entry -/

namespace Index

/-- What stands nearest above a line: the last entry at or above it, or none. -/
def NearestAbove (entries : List SymbolEntry) (line : Int) : Option SymbolEntry → Prop
  | some e => e ∈ entries ∧ e.line ≤ line ∧ ∀ e' ∈ entries, e'.line ≤ line → e'.line ≤ e.line
  | none => ∀ e ∈ entries, line < e.line

/-- Among entries on lines of their own one is nearest. -/
private theorem NearestAbove.unique {entries : List SymbolEntry} (hlines : (entries.map (·.line)).Nodup) {line : Int}
    {nearest nearest' : Option SymbolEntry} (h : NearestAbove entries line nearest)
    (h' : NearestAbove entries line nearest') : nearest = nearest' := by
  cases nearest with
  | none =>
    cases nearest' with
    | none => rfl
    | some e' =>
      have := h e' h'.1
      have := h'.2.1
      omega
  | some e =>
    cases nearest' with
    | none =>
      have := h' e h.1
      have := h.2.1
      omega
    | some e' =>
      have hle := h.2.2 e' h'.1 h'.2.1
      have hge := h'.2.2 e h.1 h.2.1
      rw [List.inj_on_of_nodup_map hlines h.1 h'.1 (by omega)]

/-- The owner that a check takes for a line of a file with these entries. -/
def ownerAbove? (entries : List SymbolEntry) (line : Int) : Option String :=
  ownerAt? (entries.mergeSort fun a b => a.line ≤ b.line) line

/-- It is that of the nearest entry. -/
theorem exists_nearestAbove (entries : List SymbolEntry) (line : Int) :
    ∃ nearest, NearestAbove entries line nearest ∧ ownerAbove? entries line = nearest.bind (·.ownerClass?) := by
  refine ⟨_, ?_, rfl⟩
  have hsorted : (entries.mergeSort fun a b => a.line ≤ b.line).Pairwise (·.line ≤ ·.line) :=
    pairwise_mergeSort_by _ entries
  have hmem : ∀ e, e ∈ (entries.mergeSort fun a b => a.line ≤ b.line).filter (fun e => e.line ≤ line) ↔
      e ∈ entries ∧ e.line ≤ line := by
    intro e
    rw [List.mem_filter, List.mem_mergeSort, decide_eq_true_eq]
  cases hlast : ((entries.mergeSort fun a b => a.line ≤ b.line).filter (fun e => e.line ≤ line)).getLast? with
  | none =>
    intro e he
    rw [List.getLast?_eq_none_iff.1 hlast] at hmem
    have := (hmem e).not.1 List.not_mem_nil
    exact Int.not_le.1 fun hle => this ⟨he, hle⟩
  | some e =>
    obtain ⟨before, hbefore⟩ := List.getLast?_eq_some_iff.1 hlast
    have hpairs := hsorted.filter (fun e => decide (e.line ≤ line))
    rw [hbefore] at hmem hpairs
    obtain ⟨he, hline⟩ := (hmem e).1 (by simp)
    refine ⟨he, hline, fun e' he' hline' => ?_⟩
    rcases List.mem_append.1 ((hmem e').2 ⟨he', hline'⟩) with h' | h'
    · exact (List.pairwise_append.1 hpairs).2.2 e' h' e (List.mem_singleton_self e)
    · rw [List.mem_singleton.1 h']

/-- The entry nearest to a call in a body is the entry of the body. -/
theorem Synced.nearestAbove_of_mem_bodyCalls {dir : List String} {ix : Index} (h : ix.Synced dir) {path : String}
    {s : FileSummary} (hs : ix.files.get? path = some s) {e : SymbolEntry} (he : e ∈ s.settled)
    {c : CallSite} (hc : c ∈ ix.bodyCalls e) : NearestAbove s.settled c.line (some e) := by
  obtain ⟨-, hpath⟩ := (h.mem_entries_iff hs).2 he
  rw [h.bodyCalls_of_get? (hpath ▸ hs)] at hc
  refine ⟨he, (mem_callsWithin.1 hc).2.1, fun e' he' hline => ?_⟩
  by_contra hlater
  have := line_lt_of_mem_callsWithin hc (mem_of_mem_settle he') (Int.not_le.1 hlater)
  omega

end Index

section InFile

variable {t : SymbolTable} (h : t.OfAnalysed) {path : String} {entries : List SymbolEntry}
  (hentries : t.inFile path = .ok entries)

include h hentries

private theorem SymbolTable.OfAnalysed.named_of_mem_inFile {e : SymbolEntry} (he : e ∈ entries) : e.Named := by
  obtain ⟨L, hholds, hnamed, -⟩ := h.exists_holds
  exact hnamed e (hholds.values_eq ▸ mem_values_of_inFile hentries he)

/-- The entries of a file stand on lines of their own. -/
private theorem SymbolTable.OfAnalysed.nodup_lines : (entries.map (·.line)).Nodup := by
  obtain ⟨live, hlive, hfiles⟩ := h
  by_cases hpath : path ∈ live.map FileSummary.path
  · obtain ⟨s, hs, rfl⟩ := List.mem_map.1 hpath
    have hlines : s.declarationLines.Pairwise (· < ·) := by
      obtain ⟨content, hcontent⟩ := (hfiles s hs).1
      rw [hcontent, summaryAt]
      exact pairwise_declarationLines_summarize (languageOf s.path) s.path content
    rw [hlive.inFile_of_mem hs] at hentries
    cases hentries
    have hnodup := (hlive.nodup_keys_settled hs).of_map
    exact hnodup.map_on fun e he e' he' hline =>
      FileSummary.eq_of_line hlines (mem_of_mem_settle he) (mem_of_mem_settle he') hline
  · rw [hlive.inFile_of_notMem hpath] at hentries
    cases hentries
    exact List.nodup_nil

end InFile

/-! ### Checks in a run -/

/-- The check of a method by a file with these entries lists the calls of the file with a target that names the method,
in their order and each with its target, if the method is defined. -/
structure SignatureCheck.ListsTargets (check : SignatureCheck) (externals : List String) (entries : List SymbolEntry)
    (calls : List CallSite) (className method : String) (defined : Prop) : Prop where
  calls_eq : defined → ∃ listed : CallSite → Option CallSite, check.calls = calls.filterMap listed ∧
    ∀ c ∈ calls, ∀ c', listed c = some c' ↔
      ∃ target, Call.target? externals c.raw (Index.ownerAbove? entries c.line) = some target ∧
        NamesMethod target className method ∧ c' = { c with callee := target, rawCallee := some c.raw }
  undefined : ¬ defined → check.calls = []

/-- Queries and traces see the calls in the bodies of these entries with the targets that a check sees. -/
structure Index.SharesTargets (ix : Index) (externals : List String) (entries : List SymbolEntry) : Prop where
  owner_eq : ∀ e ∈ entries, ∀ c ∈ ix.bodyCalls e, ownerAbove? entries c.line = e.ownerClass?
  query_eq : ∀ e ∈ entries, ix.normalisedCalls externals e = (ix.bodyCalls e).filterMap fun c =>
    (Call.target? externals c.raw (ownerAbove? entries c.line)).map fun target =>
      { c with caller := e.qualifiedName, callee := target, rawCallee := some c.raw }
  trace_eq : ∀ e ∈ entries, Trace.targetedCalls ix externals e = (ix.bodyCalls e).filterMap fun c =>
    (Call.target? externals c.raw (ownerAbove? entries c.line)).map fun target => (target, c)

private theorem Index.sharesTargets_of_owner {ix : Index} {entries : List SymbolEntry}
    (howner : ∀ e ∈ entries, ∀ c ∈ ix.bodyCalls e, ownerAbove? entries c.line = e.ownerClass?) (externals : List String) :
    ix.SharesTargets externals entries where
  owner_eq := howner
  query_eq := fun e he => List.filterMap_congr fun c hc => by rw [howner e he c hc]
  trace_eq := fun e he => List.filterMap_congr fun c hc => by rw [howner e he c hc]

namespace Workspace

variable {history : List Sources} {ws : Workspace}

/-- In a run with resolvable imports, the owner of a call in a body is that of the nearest entry. -/
private theorem Reached.sharesTargets (h : Reached history ws) (hresolves : ws.ImportsResolve history) {key : String}
    {entries : List SymbolEntry} (hentries : ws.index.symbols.inFile key = .ok entries)
    (hanalysed : ws.index.files.contains key = true) (externals : List String) :
    ws.index.SharesTargets externals entries := by
  have hgrounded := h.run.grounded hresolves
  obtain ⟨s, hs⟩ := Option.isSome_iff_exists.1 (ws.index.files.contains_eq_isSome key ▸ hanalysed)
  have hlines := h.ofAnalysed.nodup_lines hentries
  rw [(hgrounded.synced.inFile_of_get? hs).1] at hentries
  cases hentries
  apply Index.sharesTargets_of_owner
  intro e he c hc
  obtain ⟨nearest, hnearest, howner⟩ := Index.exists_nearestAbove s.settled c.line
  have hbody := hgrounded.synced.nearestAbove_of_mem_bodyCalls hs he hc
  rw [howner, hnearest.unique hlines hbody]
  rfl

/-- The target of a call in a run holds no slash. -/
private theorem Reached.slash_notMem_target (h : Reached history ws) {key : String} {entries : List SymbolEntry}
    (hentries : ws.index.symbols.inFile key = .ok entries) {c : CallSite} (hc : c ∈ ws.index.callsOf key)
    {externals : List String} {target : String}
    (htarget : Call.target? externals c.raw (Index.ownerAbove? entries c.line) = some target) :
    '/' ∉ target.toList := by
  intro hslash
  have hchain := h.isChain_of_mem_callsOf hc
  rcases (Call.spelled_target hchain.solid htarget).2 '/' hslash with hraw | hcolon | ⟨owner, howner, hmem⟩
  · obtain ⟨chain, hnames, heq⟩ := hchain
    rw [heq, String.toList_ofList] at hraw
    exact hnames.ne_slash_of_mem_render '/' hraw rfl
  · cases hcolon
  · obtain ⟨nearest, hnearest, hbind⟩ := Index.exists_nearestAbove entries c.line
    obtain ⟨e, rfl, he⟩ := Option.bind_eq_some_iff.1 (hbind.symm.trans howner)
    have hnamed := h.ofAnalysed.named_of_mem_inFile hentries hnearest.1
    exact ne_slash_of_isNameChar (hnamed.ownerClass_chars he '/' hmem) rfl

/-- Where a definition is found, a check lists a call if and only if the target of the call names the method. -/
theorem Reached.targetsMethod_iff (h : Reached history ws) {key : String} {entries found : List SymbolEntry}
    (hentries : ws.index.symbols.inFile key = .ok entries) {className method : String}
    (hclass : Text.trimmed className ≠ "") (hmethod : Text.trimmed method ≠ "")
    (hfound : ws.index.symbols.find (Text.trimmed className ++ "::" ++ Text.trimmed method) (some .methodKind) =
      .ok found) (hne : found ≠ []) {c : CallSite} (hc : c ∈ ws.index.callsOf key) {externals : List String}
    {target : String} (htarget : Call.target? externals c.raw (Index.ownerAbove? entries c.line) = some target) :
    targetsMethod target (Text.trimmed className) (Text.trimmed method) = true ↔
      NamesMethod target (Text.trimmed className) (Text.trimmed method) := by
  refine ⟨namesMethod_of_targetsMethod hclass, fun hnames => ?_⟩
  rcases h.ofAnalysed.colon_notMem_or_slash hmethod hfound hne with hcolon | hslash
  · exact targetsMethod_of_namesMethod hcolon hnames
  · -- the class begins with a slash, as no target does
    obtain ⟨left, rfl, hleft⟩ := hnames
    have hhead : (Text.trimmed className).toList.head? = some '/' := by
      rw [String.toList_append, String.toList_append, List.append_assoc, List.head?_append] at hslash
      cases hchars : (Text.trimmed className).toList with
      | nil => exact absurd (String.toList_eq_nil_iff.1 hchars) hclass
      | cons d rest => rwa [hchars] at hslash
    have hlower : (Text.lowerCase left).toList.head? = some '/' := by
      rw [hleft]
      exact Text.head?_lowerCase hhead
    have hmem := List.mem_of_mem_head? (Text.head?_of_head?_lowerCase hlower)
    refine absurd ?_ (h.slash_notMem_target hentries hc htarget)
    rw [String.toList_append, String.toList_append]
    simp [hmem]

/-- In every run, a check of a method by an analysed file takes the owner of a call from the nearest of the entries of
the file, which stand on lines of their own.  If imports can be resolved, this is the owner that queries and traces take.
The check lists the calls of the file with a target that names the method if the method is defined, and none
otherwise. -/
theorem signature_checks_share_targets (h : Reached history ws) {file key : String} (hkey : ws.keyOf file = .ok key)
    (hanalysed : ws.index.files.contains key = true) :
    ∃ entries, ws.index.symbols.inFile key = .ok entries ∧ (entries.map (·.line)).Nodup ∧
      (∀ line, ∃ nearest, Index.NearestAbove entries line nearest ∧
        Index.ownerAbove? entries line = nearest.bind (·.ownerClass?)) ∧
      (ws.ImportsResolve history → ws.index.SharesTargets ws.settings.externalObjects entries) ∧
      ∀ className method, Text.trimmed className ≠ "" → Text.trimmed method ≠ "" →
        ∃ check found, ws.checkSignature file className method = .ok check ∧
          ws.index.symbols.find (Text.trimmed className ++ "::" ++ Text.trimmed method) (some .methodKind) = .ok found ∧
          check.ListsTargets ws.settings.externalObjects entries (ws.index.callsOf key) (Text.trimmed className)
            (Text.trimmed method) (found ≠ []) := by
  obtain ⟨-, entries, hentries⟩ := Index.lookups_ok h.ofAnalysed "" key
  refine ⟨entries, hentries, h.ofAnalysed.nodup_lines hentries, Index.exists_nearestAbove entries,
    fun hresolves => h.sharesTargets hresolves hentries hanalysed _, ?_⟩
  intro className method hclass hmethod
  obtain ⟨⟨found, hfound⟩, -⟩ :=
    Index.lookups_ok h.ofAnalysed (Text.trimmed className ++ "::" ++ Text.trimmed method) key
  obtain ⟨check, hcheck, hcases⟩ :=
    Index.checkSignature_cases ws.settings.externalObjects hclass hmethod hanalysed hfound hentries
  refine ⟨check, found, checkSignature_of_keyOf hkey hcheck, hfound, ?_, ?_⟩
  · intro hne
    rcases hcases with ⟨hnone, -⟩ | ⟨m, -, -, hcalls, -⟩
    · exact absurd hnone hne
    · refine ⟨_, hcalls, fun c hc c' => ?_⟩
      rw [Index.listedCall?, Option.bind_eq_some_iff]
      refine exists_congr fun target => and_congr_right fun htarget => ?_
      rw [← h.targetsMethod_iff hentries hclass hmethod hfound hne hc htarget, Option.ite_none_right_eq_some,
        Option.some.injEq, eq_comm (a := c')]
  · intro hnone
    rcases hcases with ⟨-, -, hcalls⟩ | ⟨m, hne, -⟩
    · exact hcalls
    · exact absurd hne hnone

/-- A file that calls a method of its own outside and inside of the class, and a method that is not defined. -/
def echo : Workspace :=
  { sources := .texts [("/e.py", "self.m()\nclass A:\n def m(self):\n  self.m()\nb.k()\n")] }

/-- The file has been analysed. -/
def openEcho : Workspace :=
  ((analyze "/e.py").run echo).2

/-- The entries of the file. -/
def echoEntries : List SymbolEntry :=
  [⟨"/e.py", .ofClass { name := "A", line := 2, methodNames := ["m"] }⟩,
    ⟨"/e.py", .ofMethod { className := "A", name := "m", line := 3 }⟩]

/-- The calls of the file. -/
def echoCalls : List CallSite :=
  [⟨"/e.py", "self.m", 1, some "", none⟩, ⟨"/e.py", "self.m", 4, some "", none⟩, ⟨"/e.py", "b.k", 5, some "", none⟩]

private theorem openEcho_answers :
    (findingsIn "python" "self.m()\nclass A:\n def m(self):\n  self.m()\nb.k()\n".toList).outline.imports = [] ∧
    openEcho.index.files.contains "/e.py" = true ∧
    (openEcho.index.symbols.inFile "/e.py").toOption = some echoEntries ∧
    openEcho.index.callsOf "/e.py" = echoCalls ∧
    (openEcho.index.symbols.find "A::m" (some .methodKind)).toOption.map (·.length) = some 1 ∧
    (openEcho.checkSignature "/e.py" "B" "k").toOption.map (·.calls) = some [] ∧
    Call.target? openEcho.settings.externalObjects "b.k" (some "A") = some "b::k" ∧
    Call.target? openEcho.settings.externalObjects "self.m" (some "A") = some "A::m" := by
  decide +kernel

private theorem ownerAbove_echoEntries (line : Int) (h : 3 ≤ line) : Index.ownerAbove? echoEntries line = some "A" := by
  have hsorted : (echoEntries.mergeSort fun a b => a.line ≤ b.line) = echoEntries :=
    List.mergeSort_of_pairwise (by decide)
  have hclass : (2 : Int) ≤ line := by omega
  rw [Index.ownerAbove?, hsorted, Index.ownerAt?, echoEntries]
  simp [SymbolEntry.line, h, hclass, SymbolEntry.ownerClass?]

private theorem openEcho_resolves : openEcho.ImportsResolve [echo.sources] := by
  apply importsResolve_texts
  intro key content hmem
  obtain ⟨rfl, rfl⟩ := Prod.mk.inj (List.mem_singleton.1 hmem)
  have hlanguage : languageOf "/e.py" = "python" := rfl
  rw [hlanguage, openEcho_answers.1]

private theorem inFile_openEcho : openEcho.index.symbols.inFile "/e.py" = .ok echoEntries := by
  have hentries := openEcho_answers.2.2.1
  cases h : openEcho.index.symbols.inFile "/e.py" with
  | error e =>
    rw [h] at hentries
    cases hentries
  | ok entries =>
    rw [h] at hentries
    rw [Option.some.inj hentries]

/-- The call in the class is listed with the class as its owner. -/
theorem openEcho_shares_targets :
    Reached [echo.sources] openEcho ∧ openEcho.keyOf "/e.py" = .ok "/e.py" ∧
    openEcho.index.files.contains "/e.py" = true ∧ openEcho.ImportsResolve [echo.sources] ∧
    ∃ entries, openEcho.index.symbols.inFile "/e.py" = .ok entries ∧ (entries.map (·.line)).Nodup ∧
      openEcho.index.SharesTargets openEcho.settings.externalObjects entries ∧
      ∃ check, openEcho.checkSignature "/e.py" "A" "m" = .ok check ∧
        ⟨"/e.py", "A::m", 4, some "", some "self.m"⟩ ∈ check.calls := by
  have hreached : Reached [echo.sources] openEcho := (Reached.fresh echo rfl).analyze "/e.py"
  obtain ⟨-, hanalysed, -, hcalls, hlength, -, -, htarget⟩ := openEcho_answers
  have hkey : openEcho.keyOf "/e.py" = .ok "/e.py" := rfl
  obtain ⟨entries, hentries, hlines, -, hshares, hchecks⟩ := signature_checks_share_targets hreached hkey hanalysed
  obtain ⟨check, found, hcheck, hfound, hlists⟩ := hchecks "A" "m" (by decide) (by decide)
  have hne : found ≠ [] := by
    rintro rfl
    have hquery : Text.trimmed "A" ++ "::" ++ Text.trimmed "m" = "A::m" := rfl
    rw [hquery] at hfound
    rw [hfound] at hlength
    cases hlength
  obtain ⟨listed, hlisted, hspec⟩ := hlists.calls_eq hne
  refine ⟨hreached, hkey, hanalysed, openEcho_resolves, entries, hentries, hlines, hshares openEcho_resolves, check,
    hcheck, ?_⟩
  rw [inFile_openEcho] at hentries
  cases hentries
  rw [hcalls] at hspec hlisted
  rw [hlisted, List.mem_filterMap]
  refine ⟨⟨"/e.py", "self.m", 4, some "", none⟩, by decide, (hspec _ (by decide) _).2 ⟨"A::m", ?_, ⟨"A", rfl, rfl⟩, rfl⟩⟩
  rw [ownerAbove_echoEntries 4 (by decide)]
  exact htarget

/-- A call with a target that names a method is not listed when the method is not defined. -/
theorem calls_to_undefined_method_not_listed :
    Reached [echo.sources] openEcho ∧ openEcho.keyOf "/e.py" = .ok "/e.py" ∧
    openEcho.index.files.contains "/e.py" = true ∧ openEcho.ImportsResolve [echo.sources] ∧
    (∃ check, openEcho.checkSignature "/e.py" "B" "k" = .ok check ∧ check.calls = []) ∧
    ∃ entries, openEcho.index.symbols.inFile "/e.py" = .ok entries ∧
      ∃ c ∈ openEcho.index.callsOf "/e.py", ∃ target,
        Call.target? openEcho.settings.externalObjects c.raw (Index.ownerAbove? entries c.line) = some target ∧
        NamesMethod target "B" "k" := by
  have hreached : Reached [echo.sources] openEcho := (Reached.fresh echo rfl).analyze "/e.py"
  obtain ⟨-, hanalysed, -, hcalls, -, hnone, htarget, -⟩ := openEcho_answers
  refine ⟨hreached, rfl, hanalysed, openEcho_resolves, ?_, echoEntries, inFile_openEcho,
    ⟨"/e.py", "b.k", 5, some "", none⟩, ?_, "b::k", ?_, "b", rfl, rfl⟩
  · cases hcheck : openEcho.checkSignature "/e.py" "B" "k" with
    | error fault =>
      rw [hcheck] at hnone
      cases hnone
    | ok check =>
      rw [hcheck] at hnone
      exact ⟨check, rfl, Option.some.inj hnone⟩
  · rw [hcalls]
    decide
  · rw [ownerAbove_echoEntries 5 (by decide)]
    exact htarget

end Workspace

end CallIndex
