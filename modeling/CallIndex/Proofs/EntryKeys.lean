import CallIndex.Proofs.DeclaredNames
import CallIndex.Proofs.TableRuns

/-!
# Keys of entries

A key joins a path and a qualified name by a colon, a qualified name may hold two colons, and so may a path.  Keys of
analysed files are still never confused: a name holds no colon, and a path that ends in a colon has no known language,
so the file there has no entries.

* `summaryAt`: the summary of a text at a path, and `FileSummary.Analysed`: there is such a text.
* `key_injective_of_summaryAt`: a key tells the path and the qualified name, hence `KeysApart.of_analysed`.
* `SymbolTable.FindsEntries`: what the four forms of a query find.
-/

namespace CallIndex

open Text (isBlank)

namespace Text

/-! ### Cutting at the last occurrence -/

theorem eq_append_of_cutAtLast? {mark s before after : List Char} (h : cutAtLast? mark s = some (before, after)) :
    s = before ++ mark ++ after := by
  induction s generalizing before with
  | nil =>
    obtain ⟨rest, hrest, he⟩ := Option.map_eq_some_iff.1 h
    cases he
    exact eq_append_of_dropFront? hrest
  | cons c s ih =>
    rw [cutAtLast?] at h
    split at h
    · rename_i b a hcut
      cases h
      rw [ih hcut, List.cons_append, List.cons_append]
    · obtain ⟨rest, hrest, he⟩ := Option.map_eq_some_iff.1 h
      cases he
      exact eq_append_of_dropFront? hrest

theorem cutAtLast?_eq_none {mark s : List Char} {c : Char} (hc : c ∈ mark) (hs : c ∉ s) : cutAtLast? mark s = none := by
  cases h : cutAtLast? mark s with
  | none => rfl
  | some cut => exact absurd (by rw [eq_append_of_cutAtLast? h]; simp [hc]) hs

/-- What comes before does not hide an occurrence. -/
theorem cutAtLast?_append {mark s before after : List Char} (h : cutAtLast? mark s = some (before, after))
    (front : List Char) : cutAtLast? mark (front ++ s) = some (front ++ before, after) := by
  induction front with
  | nil => exact h
  | cons c front ih => rw [List.cons_append, cutAtLast?, ih, List.cons_append]

/-- Two colons before a text without colons. -/
theorem cutAtLast?_colons (front : List Char) {member : List Char} (h : ':' ∉ member) :
    cutAtLast? "::".toList (front ++ ("::".toList ++ member)) = some (front, member) := by
  have hlast : cutAtLast? [':', ':'] (':' :: ':' :: member) = some ([], member) := by
    have hone : cutAtLast? [':', ':'] (':' :: member) = none := by
      rw [cutAtLast?, cutAtLast?_eq_none (by simp) h]
      cases member with
      | nil => rfl
      | cons c member =>
        have hc : ':' ≠ c := fun he => h (List.mem_cons.2 (.inl he))
        simp [dropFront?, hc]
    rw [cutAtLast?, hone]
    simp [dropFront?]
  simpa using cutAtLast?_append hlast front

/-! ### Trimming -/

/-- A text without a blank at either end stays as it is. -/
theorem trimmed_eq_self {s : String} (hhead : ∀ c, s.toList.head? = some c → isBlank c = false)
    (hlast : ∀ c, s.toList.getLast? = some c → isBlank c = false) : trimmed s = s := by
  rw [trimmed, trim_eq_self hhead hlast, String.ofList_toList]

end Text

/-! ### Paths that end in a colon -/

/-- A text that is empty or ends in a colon. -/
private def EndsInColon (s : List Char) : Prop :=
  ∀ c, s.getLast? = some c → c = ':'

private theorem EndsInColon.of_append {u v : List Char} (h : EndsInColon (u ++ v)) : EndsInColon v := by
  intro c hc
  exact h c (by rw [List.getLast?_append, hc]; rfl)

private theorem exists_last_piece (sep c : Char) (hc : c ≠ sep) (w : List Char) :
    ∃ front piece, Text.splitAtChar sep (w ++ [c]) = front ++ [piece ++ [c]] := by
  induction w with
  | nil => exact ⟨[], [], by simp [Text.splitAtChar, hc]⟩
  | cons d w ih =>
    obtain ⟨front, piece, hpieces⟩ := ih
    rw [List.cons_append, Text.splitAtChar, hpieces]
    split
    · exact ⟨[] :: front, piece, rfl⟩
    · cases front with
      | nil => exact ⟨[], d :: piece, rfl⟩
      | cons f front => exact ⟨(d :: f) :: front, piece, rfl⟩

private theorem name_ofString_of_colon {path : String} {w : List Char} (h : path.toList = w ++ [':']) :
    ∃ piece, (Path.ofString path).name = String.ofList (piece ++ [':']) := by
  obtain ⟨front, piece, hpieces⟩ := exists_last_piece '/' ':' (by decide) w
  refine ⟨piece, ?_⟩
  have hne : String.ofList (piece ++ [':']) ≠ "" := fun he => by simpa using congrArg String.toList he
  have hdot : String.ofList (piece ++ [':']) ≠ "." := by
    intro he
    have := congrArg (fun s => s.toList.getLast?) he
    simp at this
  have hkept : (String.ofList (piece ++ [':']) ≠ "" && String.ofList (piece ++ [':']) ≠ ".") = true := by
    rw [Bool.and_eq_true, decide_eq_true_eq, decide_eq_true_eq]
    exact ⟨hne, hdot⟩
  rw [Path.name, Path.ofString, h, hpieces, List.map_append, List.filter_append, List.map_singleton,
    List.filter_cons_of_pos (p := fun part => part ≠ "" && part ≠ ".") hkept, List.filter_nil, List.getLast?_concat,
    Option.getD_some]

private theorem suffix_of_colon {name : String} {piece : List Char} (h : name = String.ofList (piece ++ [':'])) :
    EndsInColon (Path.splitName name).2.toList := by
  have hname : EndsInColon name.toList := by
    intro c hc
    simpa [h] using hc.symm
  unfold Path.splitName
  split
  · rename_i stem extension hcut
    split
    · simp [EndsInColon]
    · rw [Text.eq_append_of_cutAtLast? hcut, List.append_assoc] at hname
      simpa using hname.of_append
  · simp [EndsInColon]

private theorem lowerAfter_colon {s : List Char} (h : EndsInColon s) (before : List Char) :
    EndsInColon (Text.lowerAfter before s) := by
  induction s generalizing before with
  | nil => simpa [Text.lowerAfter] using h
  | cons c s ih =>
    cases s with
    | nil =>
      obtain rfl : c = ':' := h c rfl
      intro d hd
      have hcolon : Text.lowerAfter before [':'] = [':'] := rfl
      rw [hcolon] at hd
      exact (Option.some.inj hd).symm
    | cons d s =>
      have hrest := ih (h.of_append (u := [c])) (c :: before)
      have hne : Text.lowerAfter (c :: before) (d :: s) ≠ [] := by
        rw [Text.lowerAfter]
        split_ifs <;> simp
      have hfront : ∀ front : List Char, EndsInColon (front ++ Text.lowerAfter (c :: before) (d :: s)) := by
        intro front x hx
        rw [List.getLast?_append_of_ne_nil _ hne] at hx
        exact hrest x hx
      rw [Text.lowerAfter]
      split_ifs
      · exact hfront ['ς']
      · exact hfront ['σ']
      · exact hfront ['i', '̇']
      · exact hfront [_]

/-- A path that ends in a colon has no known extension. -/
theorem languageOf_of_colon {path : String} {w : List Char} (h : path.toList = w ++ [':']) :
    languageOf path = unknownLanguage := by
  obtain ⟨piece, hname⟩ := name_ofString_of_colon h
  have hlower : EndsInColon (Text.lowerCase (Path.ofString path).suffix).toList := by
    rw [Text.lowerCase, String.toList_ofList]
    exact lowerAfter_colon (suffix_of_colon hname) []
  have hknown : ∀ p ∈ languageOfExtension, p.1.toList.getLast?.any (· ≠ ':') = true := by decide
  have hlookup : languageOfExtension.lookup (Text.lowerCase (Path.ofString path).suffix) = none := by
    rw [List.lookup_eq_none_iff]
    intro p hp
    rw [bne_iff_ne]
    intro he
    have hlast := hknown p hp
    rw [← he, Option.any_eq_true] at hlast
    obtain ⟨c, hc, hne⟩ := hlast
    exact of_decide_eq_true hne (hlower c hc)
  rw [languageOf, hlookup, Option.getD_none]

/-! ### Keys -/

namespace SymbolEntry

/-- The name of an entry is a name, and that of its class is made of characters of names. -/
structure Named (e : SymbolEntry) : Prop where
  name : IsName e.name
  owner : ∀ className, e.className? = some className → ∀ c ∈ className.toList, isNameChar c = true

/-- What stands before the last colon of the key. -/
private def keyFront (e : SymbolEntry) : List Char :=
  match e.className? with
  | none => e.path.toList
  | some className => e.path.toList ++ ':' :: (className.toList ++ [':'])

private theorem toList_key (e : SymbolEntry) : e.key.toList = e.keyFront ++ ':' :: e.name.toList := by
  obtain ⟨path, declaration⟩ := e
  cases declaration <;>
    simp [key, keyOf, keyFront, className?, qualifiedName, name, MethodDecl.qualifiedName]

theorem qualifiedName_of_className? {e : SymbolEntry} {className : String} (h : e.className? = some className) :
    e.qualifiedName = className ++ "::" ++ e.name := by
  obtain ⟨path, declaration⟩ := e
  cases declaration with
  | ofMethod m =>
    cases h
    rfl
  | ofClass c => cases h
  | ofFunction f => cases h

theorem qualifiedName_of_none {e : SymbolEntry} (h : e.className? = none) : e.qualifiedName = e.name := by
  obtain ⟨path, declaration⟩ := e
  cases declaration with
  | ofMethod m => cases h
  | ofClass c => rfl
  | ofFunction f => rfl

end SymbolEntry

/-- A text of characters of names holds no colon. -/
theorem colon_notMem {s : List Char} (h : ∀ c ∈ s, isNameChar c = true) : ':' ∉ s :=
  fun hc => ne_colon_of_isNameChar (h ':' hc) rfl

/-- A text is cut in one way at its last colon. -/
private theorem append_colon_inj {u v n m : List Char} (hn : ':' ∉ n) (hm : ':' ∉ m)
    (h : u ++ ':' :: n = v ++ ':' :: m) : u = v ∧ n = m := by
  have hone : ∀ {a x y : List Char}, ':' ∉ x → ':' :: x = a ++ ':' :: y → a = [] ∧ x = y := by
    intro a x y hx he
    cases a with
    | nil => exact ⟨rfl, (List.cons.inj he).2⟩
    | cons d a => exact absurd (by rw [(List.cons.inj he).2]; simp) hx
  rcases List.append_eq_append_iff.1 h with ⟨a, rfl, he⟩ | ⟨a, rfl, he⟩
  · obtain ⟨rfl, rfl⟩ := hone hn he
    simp
  · obtain ⟨rfl, rfl⟩ := hone hm he
    simp

/-- Keys of named entries at paths with a known language are told apart by path and qualified name. -/
private theorem SymbolEntry.Named.key_injective {e e' : SymbolEntry} (h : e.Named) (h' : e'.Named)
    (hpath : languageOf e.path ≠ unknownLanguage) (hpath' : languageOf e'.path ≠ unknownLanguage)
    (hkey : e.key = e'.key) : e.path = e'.path ∧ e.qualifiedName = e'.qualifiedName := by
  have hsplit := congrArg String.toList hkey
  rw [toList_key, toList_key] at hsplit
  obtain ⟨hfront, hname⟩ := append_colon_inj (colon_notMem h.name.chars) (colon_notMem h'.name.chars) hsplit
  replace hname := String.toList_injective hname
  unfold keyFront at hfront
  cases hc : e.className? with
  | none =>
    cases hc' : e'.className? with
    | none =>
      rw [hc, hc'] at hfront
      rw [qualifiedName_of_none hc, qualifiedName_of_none hc']
      exact ⟨String.toList_injective hfront, hname⟩
    | some owner' =>
      simp only [hc, hc', ← List.cons_append, ← List.append_assoc] at hfront
      exact absurd (languageOf_of_colon hfront) hpath
  | some owner =>
    cases hc' : e'.className? with
    | none =>
      simp only [hc, hc', ← List.cons_append, ← List.append_assoc] at hfront
      exact absurd (languageOf_of_colon hfront.symm) hpath'
    | some owner' =>
      simp only [hc, hc', ← List.cons_append, ← List.append_assoc] at hfront
      obtain ⟨hpaths, howners⟩ := append_colon_inj (colon_notMem (h.owner owner hc))
        (colon_notMem (h'.owner owner' hc')) (List.append_cancel_right hfront)
      rw [qualifiedName_of_className? hc, qualifiedName_of_className? hc', String.toList_injective howners, hname]
      exact ⟨String.toList_injective hpaths, rfl⟩

/-- The summary of a text at a path, in the language of the path. -/
def summaryAt (path content : String) : FileSummary :=
  (summarize (languageOf path) path content).1

theorem path_summaryAt (path content : String) : (summaryAt path content).path = path :=
  rfl

theorem digest_summaryAt (path content : String) : (summaryAt path content).digest = digestOf content :=
  rfl

private theorem named_of_mem_summarize {language path content : String} {e : SymbolEntry}
    (h : e ∈ (summarize language path content).1.entries) : e.Named := by
  have hnamed := named_findingsIn language content.toList
  simp only [FileSummary.entries, List.mem_append, List.mem_map] at h
  rcases h with (⟨c, hc, rfl⟩ | ⟨f, hf, rfl⟩) | ⟨m, hm, rfl⟩
  · exact ⟨hnamed.classes c hc, fun _ h => by cases h⟩
  · exact ⟨hnamed.functions f hf, fun _ h => by cases h⟩
  · refine ⟨hnamed.methods m hm, fun _ h => ?_⟩
    cases h
    exact hnamed.owners m hm

private theorem named_of_mem_summaryAt {path content : String} {e : SymbolEntry}
    (h : e ∈ (summaryAt path content).entries) : e.Named :=
  named_of_mem_summarize h

/-- A file in no known language has no entries. -/
private theorem languageOf_ne_of_mem_summaryAt {path content : String} {e : SymbolEntry}
    (h : e ∈ (summaryAt path content).entries) : languageOf path ≠ unknownLanguage := by
  intro hunknown
  rw [summaryAt, hunknown] at h
  exact List.not_mem_nil h

/-- A key of an analysed file tells the path of the file and the qualified name. -/
theorem key_injective_of_summaryAt {path path' content content' : String} {e e' : SymbolEntry}
    (he : e ∈ (summaryAt path content).entries) (he' : e' ∈ (summaryAt path' content').entries)
    (hkey : e.key = e'.key) : path = path' ∧ e.qualifiedName = e'.qualifiedName := by
  have hpath : e.path = path := FileSummary.path_of_mem_entries he
  have hpath' : e'.path = path' := FileSummary.path_of_mem_entries he'
  rw [← hpath, ← hpath']
  apply (named_of_mem_summaryAt he).key_injective (named_of_mem_summaryAt he') _ _ hkey
  · rw [hpath]
    exact languageOf_ne_of_mem_summaryAt he
  · rw [hpath']
    exact languageOf_ne_of_mem_summaryAt he'

/-- The summary is that of some text at its path. -/
def FileSummary.Analysed (s : FileSummary) : Prop :=
  ∃ content, s = summaryAt s.path content

theorem analysed_summaryAt (path content : String) : (summaryAt path content).Analysed :=
  ⟨content, rfl⟩

theorem FileSummary.Analysed.named {s : FileSummary} (h : s.Analysed) {e : SymbolEntry} (he : e ∈ s.entries) :
    e.Named := by
  obtain ⟨content, hs⟩ := h
  rw [hs] at he
  exact named_of_mem_summaryAt he

/-- Analysed files declare no key together. -/
theorem KeysApart.of_analysed {files : List FileSummary} (h : ∀ s ∈ files, s.Analysed) : KeysApart files := by
  intro s hs s' hs' hne e he e' he' hkey
  obtain ⟨content, hcontent⟩ := h s hs
  obtain ⟨content', hcontent'⟩ := h s' hs'
  rw [hcontent] at he
  rw [hcontent'] at he'
  exact hne (key_injective_of_summaryAt he he' hkey).1

/-! ### Queries -/

namespace SymbolTable

/-- Every entry is found by its key and by its names, and every class with its methods, in the order of the entries.
A query is trimmed, so a class is asked for without blanks before its name. -/
structure FindsEntries (t : SymbolTable) : Prop where
  by_key : ∀ e ∈ t.entries.values, t.find e.key = .ok [e]
  by_name : ∀ e ∈ t.entries.values, t.find e.name = .ok (t.entries.values.filter fun x => x.name = e.name)
  by_qualifiedName : ∀ e ∈ t.entries.values, ∀ className, e.className? = some className →
    t.find (className ++ "::" ++ e.name) =
      .ok (t.entries.values.filter fun x => x.qualifiedName = className ++ "::" ++ e.name)
  by_className : ∀ className : String, (∀ c, className.toList.head? = some c → isBlank c = false) →
    t.find (className ++ "::") = .ok (t.entries.values.filter fun x =>
      x.kind = .classKind ∧ x.name = className ∨ x.className? = some className)

variable {t : SymbolTable} {L : List SymbolEntry}

/-- The keys of entries at absolute paths begin with a slash and end in their names. -/
private theorem key_ends {e : SymbolEntry} (hnamed : e.Named) (hpath : e.path.toList.head? = some '/') :
    e.key.toList.head? = some '/' ∧ ∃ c, e.key.toList.getLast? = some c ∧ isNameChar c = true := by
  constructor
  · rw [SymbolEntry.key, SymbolEntry.keyOf, String.toList_append, String.toList_append, List.head?_append,
      List.head?_append, hpath]
    rfl
  · have hne : e.name.toList ≠ [] := fun h => hnamed.name.ne_empty (String.toList_eq_nil_iff.1 h)
    obtain ⟨c, hc⟩ := Option.isSome_iff_exists.1 (List.getLast?_isSome.2 hne)
    refine ⟨c, ?_, hnamed.name.chars c (List.mem_of_getLast? hc)⟩
    rw [SymbolEntry.toList_key, List.getLast?_append, List.getLast?_cons, hc]
    rfl

/-- What a query that is no key finds. -/
theorem scan_of_no_key {query : String} (hne : query ≠ "") (hkey : ∀ e ∈ L, e.key ≠ query) :
    scan L query = match Text.cutAtLast? "::".toList query.toList with
      | some (className, []) =>
        L.filter fun e => (e.kind = .classKind && e.name = String.ofList className) ||
          e.className? = some (String.ofList className)
      | some _ => L.filter fun e => e.qualifiedName = query
      | none => L.filter fun e => e.name = query := by
  have hfind : (L.find? fun e => e.key = query) = none := by
    rw [List.find?_eq_none]
    intro e he
    simpa using hkey e he
  rw [scan, hfind]
  exact if_neg hne

/-- A query without blanks at its ends is looked up as it is. -/
theorem find_eq_scan (h : Holds t L) {query : String} (htrim : Text.trimmed query = query) :
    t.find query = .ok (scan L query) := by
  rw [h.find_eq, htrim]
  simp

private theorem not_isBlank_of_mem {s : String} (hs : ∀ c ∈ s.toList, isNameChar c = true) :
    ∀ c ∈ s.toList, isBlank c = false :=
  fun c hc => not_isBlank_of_isNameChar (hs c hc)

/-- What a text with something behind it begins with. -/
private theorem head?_append_colons {className : String} {P : Char → Prop} (hcolon : P ':')
    (hclass : ∀ c, className.toList.head? = some c → P c) (rest : List Char) :
    ∀ c, (className.toList ++ ("::".toList ++ rest)).head? = some c → P c := by
  intro c hc
  cases hlist : className.toList with
  | nil =>
    rw [hlist] at hc
    cases hc
    exact hcolon
  | cons d ds =>
    rw [hlist] at hc
    exact hclass c (by rw [hlist]; exact hc)

/-- Keys begin with a slash. -/
private theorem key_ne_of_head (hnamed : ∀ e ∈ L, e.Named) (hpath : ∀ e ∈ L, e.path.toList.head? = some '/')
    {query : String} (hquery : ∀ c, query.toList.head? = some c → c ≠ '/') : ∀ e ∈ L, e.key ≠ query :=
  fun e he hk => hquery '/' (hk ▸ (key_ends (hnamed e he) (hpath e he)).1) rfl

section Queries

variable (h : Holds t L) (hnamed : ∀ e ∈ L, e.Named) (hpath : ∀ e ∈ L, e.path.toList.head? = some '/')

include h hnamed hpath

private theorem find_key {e : SymbolEntry} (he : e ∈ L) : t.find e.key = .ok [e] := by
  obtain ⟨hhead, c, hlast, hc⟩ := key_ends (hnamed e he) (hpath e he)
  have htrim : Text.trimmed e.key = e.key := by
    apply Text.trimmed_eq_self
    · intro d hd
      cases hhead.symm.trans hd
      decide
    · intro d hd
      cases hlast.symm.trans hd
      exact not_isBlank_of_isNameChar hc
  have hne : e.key ≠ "" := fun hk => by rw [hk] at hhead; cases hhead
  rw [find_eq_scan h htrim, scan, if_neg hne, ← h.get?_eq_find?, h.get?_of_mem he]

private theorem find_name {e : SymbolEntry} (he : e ∈ L) : t.find e.name = .ok (L.filter fun x => x.name = e.name) := by
  have hname := (hnamed e he).name
  have htrim : Text.trimmed e.name = e.name :=
    Text.trimmed_eq_self (fun c hc => not_isBlank_of_mem hname.chars c (List.mem_of_mem_head? hc))
      fun c hc => not_isBlank_of_mem hname.chars c (List.mem_of_getLast? hc)
  have hkey := key_ne_of_head hnamed hpath fun c hc =>
    ne_slash_of_isNameChar (hname.chars c (List.mem_of_mem_head? hc))
  rw [find_eq_scan h htrim, scan_of_no_key hname.ne_empty hkey,
    Text.cutAtLast?_eq_none (c := ':') (by decide) (colon_notMem hname.chars)]

private theorem find_qualifiedName {e : SymbolEntry} (he : e ∈ L) {className : String}
    (hclass : e.className? = some className) :
    t.find (className ++ "::" ++ e.name) = .ok (L.filter fun x => x.qualifiedName = className ++ "::" ++ e.name) := by
  have hname := (hnamed e he).name
  have hclassName := (hnamed e he).owner className hclass
  have hmember : e.name.toList ≠ [] := fun hs => hname.ne_empty (String.toList_eq_nil_iff.1 hs)
  have hlist : (className ++ "::" ++ e.name).toList = className.toList ++ ("::".toList ++ e.name.toList) := by
    rw [String.toList_append, String.toList_append, List.append_assoc]
  have htrim : Text.trimmed (className ++ "::" ++ e.name) = className ++ "::" ++ e.name := by
    apply Text.trimmed_eq_self
    · rw [hlist]
      exact head?_append_colons (by decide)
        (fun c hc => not_isBlank_of_mem hclassName c (List.mem_of_mem_head? hc)) _
    · intro c hc
      rw [hlist, ← List.append_assoc, List.getLast?_append_of_ne_nil _ hmember] at hc
      exact not_isBlank_of_mem hname.chars c (List.mem_of_getLast? hc)
  have hne : className ++ "::" ++ e.name ≠ "" := by
    intro hs
    rw [← String.toList_eq_nil_iff, hlist, List.append_eq_nil_iff, List.append_eq_nil_iff] at hs
    exact hmember hs.2.2
  have hkey : ∀ x ∈ L, x.key ≠ className ++ "::" ++ e.name := by
    apply key_ne_of_head hnamed hpath
    rw [hlist]
    exact head?_append_colons (by decide)
      (fun c hc => ne_slash_of_isNameChar (hclassName c (List.mem_of_mem_head? hc))) _
  rw [find_eq_scan h htrim, scan_of_no_key hne hkey, hlist, Text.cutAtLast?_colons _ (colon_notMem hname.chars)]
  cases hchars : e.name.toList with
  | nil => exact absurd hchars hmember
  | cons d ds => rfl

private theorem find_className {className : String}
    (hblank : ∀ c, className.toList.head? = some c → isBlank c = false) : t.find (className ++ "::") =
      .ok (L.filter fun x => x.kind = .classKind ∧ x.name = className ∨ x.className? = some className) := by
  have hlist : (className ++ "::").toList = className.toList ++ ("::".toList ++ []) := by
    rw [String.toList_append, List.append_nil]
  have hlast : (className ++ "::").toList.getLast? = some ':' := by
    rw [hlist, List.append_nil, List.getLast?_append_of_ne_nil _ (by decide)]
    rfl
  have htrim : Text.trimmed (className ++ "::") = className ++ "::" := by
    apply Text.trimmed_eq_self
    · rw [hlist]
      exact head?_append_colons (by decide) hblank _
    · intro c hc
      cases hlast.symm.trans hc
      decide
  have hne : className ++ "::" ≠ "" := fun hs => by rw [hs] at hlast; cases hlast
  -- the query is no key, for keys end in a character of a name
  have hkey : ∀ e ∈ L, e.key ≠ className ++ "::" := by
    intro e he hk
    obtain ⟨-, c, hc, hnameChar⟩ := key_ends (hnamed e he) (hpath e he)
    rw [hk, hlast] at hc
    exact ne_colon_of_isNameChar hnameChar (Option.some.inj hc).symm
  rw [find_eq_scan h htrim, scan_of_no_key hne hkey, hlist, Text.cutAtLast?_colons _ (by simp)]
  simp only [String.ofList_toList, Bool.decide_or, Bool.decide_and]

theorem Holds.findsEntries : FindsEntries t := by
  have hvalues := h.values_eq
  refine ⟨?_, ?_, ?_, ?_⟩ <;> rw [hvalues]
  · exact fun e he => find_key h hnamed hpath he
  · exact fun e he => find_name h hnamed hpath he
  · exact fun e he className hclass => find_qualifiedName h hnamed hpath he hclass
  · exact fun className hblank => find_className h hnamed hpath hblank

end Queries

end SymbolTable

end CallIndex
