import CallIndex.Proofs.DeclaredNames

/-!
# Chains of names

A call is written as a chain of names, each an identifier with an optional dollar or number sign before it, which are
joined by separators (`Chain.OfNames`).  No separator begins inside a name, and a name ends where no character of a word
follows.  So a written chain can be cut, and read in front of a parenthesis, in one way only.

* `Chain.cut_render`: a written chain is cut into the names and separators that it was written from.
* `scanCallee_eq_some_iff`: what is read in front of a parenthesis is a chain of names, and every such chain is read.
-/

namespace CallIndex.Call

open Text (Scan isWord isWordStart isBlank)

/-! ### Names -/

/-- A character that may begin a name, and characters of words behind it. -/
def isIdentifier : List Char → Bool
  | [] => false
  | c :: s => isWordStart c && s.all isWord

/-- A name in a chain: an identifier, with or without a dollar or number sign before it. -/
def isSegment : List Char → Bool
  | '$' :: s => isIdentifier s
  | '#' :: s => isIdentifier s
  | s => isIdentifier s

/-- Every name of the chain is one. -/
def Chain.OfNames (chain : Chain) : Prop :=
  ∀ s ∈ chain.allSegments, isSegment s = true

theorem Chain.OfNames.root {chain : Chain} (h : chain.OfNames) : isSegment chain.root = true :=
  h _ (List.mem_cons_self ..)

theorem Chain.OfNames.link {chain : Chain} (h : chain.OfNames) {l : Separator × List Char} (hl : l ∈ chain.links) :
    isSegment l.2 = true :=
  h _ (List.mem_cons_of_mem _ (List.mem_map_of_mem hl))

theorem Chain.ofNames_iff {chain : Chain} :
    chain.OfNames ↔ isSegment chain.root = true ∧ ∀ l ∈ chain.links, isSegment l.2 = true := by
  refine ⟨fun h => ⟨h.root, fun l hl => h.link hl⟩, ?_⟩
  rintro ⟨hroot, hlinks⟩ s hs
  rcases List.mem_cons.1 hs with rfl | hs
  · exact hroot
  · obtain ⟨l, hl, rfl⟩ := List.mem_map.1 hs
    exact hlinks l hl

private theorem isWord_of_isIdentifier {s : List Char} (h : isIdentifier s = true) : ∀ c ∈ s, isWord c = true := by
  cases s with
  | nil => cases h
  | cons c s =>
    obtain ⟨hstart, hs⟩ := Bool.and_eq_true_iff.1 h
    intro d hd
    rcases List.mem_cons.1 hd with rfl | hd
    · exact (Bool.and_eq_true_iff.1 hstart).1
    · exact List.all_eq_true.1 hs d hd

/-- Neither of the two signs begins an identifier. -/
private theorem not_isIdentifier_sign (s : List Char) :
    isIdentifier ('$' :: s) = false ∧ isIdentifier ('#' :: s) = false := by
  constructor <;> rfl

/-- A name is an identifier behind one of three marks. -/
private theorem isSegment_iff {s : List Char} :
    isSegment s = true ↔ ∃ mark word, mark ∈ [[], ['$'], ['#']] ∧ isIdentifier word = true ∧ s = mark ++ word := by
  constructor
  · intro h
    unfold isSegment at h
    split at h
    · exact ⟨['$'], _, by simp, h, rfl⟩
    · exact ⟨['#'], _, by simp, h, rfl⟩
    · exact ⟨[], s, by simp, h, rfl⟩
  · rintro ⟨mark, word, hmark, hword, rfl⟩
    simp only [List.mem_cons, List.not_mem_nil, or_false] at hmark
    rcases hmark with rfl | rfl | rfl
    · rw [List.nil_append]
      unfold isSegment
      split
      · exact absurd hword (by simp [not_isIdentifier_sign])
      · exact absurd hword (by simp [not_isIdentifier_sign])
      · exact hword
    · exact hword
    · exact hword

theorem ne_nil_of_isSegment {s : List Char} (h : isSegment s = true) : s ≠ [] := by
  rintro rfl
  cases h

theorem isWord_or_sign_of_mem_segment {s : List Char} (h : isSegment s = true) {c : Char} (hc : c ∈ s) :
    isWord c = true ∨ c ∈ ['$', '#'] := by
  obtain ⟨mark, word, hmark, hword, rfl⟩ := isSegment_iff.1 h
  rcases List.mem_append.1 hc with hc | hc
  · right
    simp only [List.mem_cons, List.not_mem_nil, or_false] at hmark
    rcases hmark with rfl | rfl | rfl
    · cases hc
    · simp [List.mem_singleton.1 hc]
    · simp [List.mem_singleton.1 hc]
  · exact .inl (isWord_of_isIdentifier hword c hc)

theorem isNameChar_of_mem_segment {s : List Char} (h : isSegment s = true) {c : Char} (hc : c ∈ s) :
    isNameChar c = true := by
  rcases isWord_or_sign_of_mem_segment h hc with hword | hsign
  · simp [isNameChar, hword]
  · simp only [List.mem_cons, List.not_mem_nil, or_false] at hsign
    rcases hsign with rfl | rfl <;> rfl

/-! ### Separators -/

private theorem Separator.read?_spelling_append (sep : Separator) (s : List Char) :
    read? (sep.spelling ++ s) = some (sep, s) := by
  cases sep <;> rfl

theorem Separator.not_isNameChar_of_mem_spelling {sep : Separator} {c : Char} (h : c ∈ sep.spelling) :
    isNameChar c = false ∧ isBlank c = false := by
  have hsign : c = '.' ∨ c = '?' ∨ c = '-' ∨ c = '>' ∨ c = ':' := by
    cases sep <;> simp only [spelling, List.mem_cons, List.not_mem_nil, or_false] at h <;> tauto
  rcases hsign with rfl | rfl | rfl | rfl | rfl <;> exact ⟨rfl, rfl⟩

/-- A chain of names is written in characters of names and of separators. -/
private theorem Chain.OfNames.cases_of_mem_render {chain : Chain} (h : chain.OfNames) {c : Char}
    (hc : c ∈ chain.render) : isNameChar c = true ∨ ∃ sep : Separator, c ∈ sep.spelling := by
  rcases List.mem_append.1 hc with hc | hc
  · exact .inl (isNameChar_of_mem_segment h.root hc)
  · obtain ⟨l, hl, hc⟩ := List.mem_flatMap.1 hc
    rcases List.mem_append.1 hc with hc | hc
    · exact .inr ⟨l.1, hc⟩
    · exact .inl (isNameChar_of_mem_segment (h.link hl) hc)

/-- A chain of names is written without blanks. -/
theorem Chain.OfNames.not_isBlank_of_mem_render {chain : Chain} (h : chain.OfNames) :
    ∀ c ∈ chain.render, isBlank c = false := by
  intro c hc
  rcases h.cases_of_mem_render hc with hname | ⟨sep, hsep⟩
  · exact not_isBlank_of_isNameChar hname
  · exact (Separator.not_isNameChar_of_mem_spelling hsep).2

/-- A chain of names is written without slashes. -/
theorem Chain.OfNames.ne_slash_of_mem_render {chain : Chain} (h : chain.OfNames) : ∀ c ∈ chain.render, c ≠ '/' := by
  intro c hc
  rcases h.cases_of_mem_render hc with hname | ⟨sep, hsep⟩
  · exact ne_slash_of_isNameChar hname
  · rintro rfl
    cases sep <;> simp [Separator.spelling] at hsep

/-- No separator begins with the character. -/
private theorem Separator.read?_eq_none {c : Char} (hc : c ∉ ['?', '-', '.', ':']) (s : List Char) :
    read? (c :: s) = none := by
  simp only [List.mem_cons, List.not_mem_nil, or_false, not_or] at hc
  obtain ⟨hmark, hminus, hdot, hcolon⟩ := hc
  simp [read?, hmark, hminus, hdot, hcolon]

private theorem Separator.head?_spelling (sep : Separator) :
    ∃ c ∈ ['?', '-', '.', ':'], sep.spelling.head? = some c := by
  cases sep <;> simp [spelling]

private theorem not_separator_of_isNameChar {c : Char} (h : isNameChar c = true) : c ∉ ['?', '-', '.', ':'] := by
  intro hc
  simp only [List.mem_cons, List.not_mem_nil, or_false] at hc
  rcases hc with rfl | rfl | rfl | rfl <;> exact absurd h (by decide)

/-! ### Cutting -/

namespace Chain

private theorem cut_nil : cut [] = ⟨[], []⟩ := by
  rw [cut]
  rfl

private theorem cut_cons {c : Char} (hc : c ∉ ['?', '-', '.', ':']) (s : List Char) :
    cut (c :: s) = ⟨c :: (cut s).root, (cut s).links⟩ := by
  have hnone := Separator.read?_eq_none hc s
  rw [cut]
  split
  · rename_i hsome
    rw [hnone] at hsome
    cases hsome
  · rfl

private theorem cut_spelling_append (sep : Separator) (s : List Char) :
    cut (sep.spelling ++ s) = ⟨[], (sep, (cut s).root) :: (cut s).links⟩ := by
  have hsome := Separator.read?_spelling_append sep s
  rw [cut]
  split
  · rename_i sep' rest hread
    cases hsome.symm.trans hread
    rfl
  · rename_i hnone
    rw [hsome] at hnone
    cases hnone

/-- A text in which no separator begins goes to the first name. -/
private theorem cut_append {w : List Char} (hw : ∀ c ∈ w, isNameChar c = true) (s : List Char) :
    cut (w ++ s) = ⟨w ++ (cut s).root, (cut s).links⟩ := by
  induction w with
  | nil => rfl
  | cons c w ih =>
    rw [List.cons_append, cut_cons (not_separator_of_isNameChar (hw c (by simp))), ih fun d hd => hw d (by simp [hd])]
    rfl

private theorem cut_links {links : List (Separator × List Char)} (h : ∀ l ∈ links, isSegment l.2 = true) :
    cut (links.flatMap fun (sep, segment) => sep.spelling ++ segment) = ⟨[], links⟩ := by
  induction links with
  | nil => exact cut_nil
  | cons l links ih =>
    obtain ⟨sep, segment⟩ := l
    have hsegment := h _ (List.mem_cons_self ..)
    rw [List.flatMap_cons, List.append_assoc, cut_spelling_append,
      cut_append fun c hc => isNameChar_of_mem_segment hsegment hc, ih fun l hl => h l (List.mem_cons_of_mem _ hl),
      List.append_nil]

/-- A written chain is cut into the names and separators that it was written from. -/
theorem cut_render {chain : Chain} (h : chain.OfNames) : cut chain.render = chain := by
  rw [render, cut_append fun c hc => isNameChar_of_mem_segment h.root hc, cut_links fun l hl => h.link hl,
    List.append_nil]

theorem segments_eq_allSegments {chain : Chain} (h : chain.OfNames) : chain.segments = chain.allSegments := by
  rw [segments, List.filter_eq_self]
  intro s hs
  simpa using ne_nil_of_isSegment (h s hs)

end Chain

/-! ### Reading -/

/-- A word ends here: no character of a word comes next. -/
def EndsWord (rest : List Char) : Prop :=
  ∀ c ∈ rest.head?, isWord c = false

private theorem wordBehind?_eq_some_iff {mark s segment rest : List Char} :
    wordBehind? mark s = some (segment, rest) ↔
      ∃ word, isIdentifier word = true ∧ EndsWord rest ∧ segment = mark ++ word ∧ s = word ++ rest := by
  constructor
  · intro h
    cases s with
    | nil => cases h
    | cons c s =>
      simp only [wordBehind?] at h
      split at h
      · rename_i hstart
        cases h
        refine ⟨c :: s.takeWhile isWord, ?_, ?_, rfl, by simp⟩
        · rw [isIdentifier, hstart, List.all_takeWhile]
          rfl
        · intro d hd
          have := List.head?_dropWhile_not isWord s
          rw [hd] at this
          simpa using this
      · cases h
  · rintro ⟨word, hword, hends, rfl, rfl⟩
    cases word with
    | nil => cases hword
    | cons c word =>
      obtain ⟨hstart, hall⟩ := Bool.and_eq_true_iff.1 hword
      have hall : ∀ d ∈ word, isWord d = true := List.all_eq_true.1 hall
      have hrest : rest.takeWhile isWord = [] ∧ rest.dropWhile isWord = rest := by
        cases rest with
        | nil => exact ⟨rfl, rfl⟩
        | cons d rest => simp [hends d rfl]
      rw [List.cons_append, wordBehind?, if_pos hstart, List.takeWhile_append_of_pos hall,
        List.dropWhile_append_of_pos hall, hrest.1, hrest.2, List.append_nil]

/-- A name is read as far as it goes. -/
private theorem scanSegment_eq_some_iff {s segment rest : List Char} :
    scanSegment s = some (segment, rest) ↔ isSegment segment = true ∧ EndsWord rest ∧ s = segment ++ rest := by
  constructor
  · intro h
    have hbehind : ∃ mark t, mark ∈ [[], ['$'], ['#']] ∧ s = mark ++ t ∧ wordBehind? mark t = some (segment, rest) := by
      unfold scanSegment at h
      split at h
      · exact ⟨['$'], _, by simp, rfl, h⟩
      · exact ⟨['#'], _, by simp, rfl, h⟩
      · exact ⟨[], _, by simp, rfl, h⟩
    obtain ⟨mark, t, hmark, rfl, hread⟩ := hbehind
    obtain ⟨word, hword, hends, rfl, rfl⟩ := wordBehind?_eq_some_iff.1 hread
    exact ⟨isSegment_iff.2 ⟨mark, word, hmark, hword, rfl⟩, hends, by rw [List.append_assoc]⟩
  · rintro ⟨hsegment, hends, rfl⟩
    obtain ⟨mark, word, hmark, hword, rfl⟩ := isSegment_iff.1 hsegment
    have hread : wordBehind? mark (word ++ rest) = some (mark ++ word, rest) :=
      wordBehind?_eq_some_iff.2 ⟨word, hword, hends, rfl, rfl⟩
    simp only [List.mem_cons, List.not_mem_nil, or_false] at hmark
    rcases hmark with rfl | rfl | rfl
    · cases word with
      | nil => cases hword
      | cons c word =>
        unfold scanSegment
        split
        · rename_i heq
          cases heq
          exact absurd hword (by simp [not_isIdentifier_sign])
        · rename_i heq
          cases heq
          exact absurd hword (by simp [not_isIdentifier_sign])
        · exact hread
    · exact hread
    · exact hread

private theorem yields_scanLinks : Scan.Yields scanLinks fun links => ∀ l ∈ links, isSegment l.2 = true := by
  intro s links rest h
  fun_induction scanLinks s generalizing links with
  | case1 s hnone =>
    cases h
    simp
  | case2 s sep t hsep hnone => cases h
  | case3 s sep t hsep segment t' hsegment hlt ih =>
    obtain ⟨⟨links', r⟩, hlinks, he⟩ := Option.map_eq_some_iff.1 h
    obtain ⟨rfl, rfl⟩ := Prod.mk.inj he
    intro l hl
    rcases List.mem_cons.1 hl with rfl | hl
    · exact (scanSegment_eq_some_iff.1 hsegment).1
    · exact ih _ hlinks l hl

/-- Behind a name and in front of further links, or of a text with no word at its front, a word ends. -/
private theorem endsWord_links (links : List (Separator × List Char)) {rest : List Char} (hrest : EndsWord rest) :
    EndsWord ((links.flatMap fun (sep, segment) => sep.spelling ++ segment) ++ rest) := by
  cases links with
  | nil => exact hrest
  | cons l links =>
    obtain ⟨c, hc, hhead⟩ := l.1.head?_spelling
    intro d hd
    have hdc : d = c := by simpa [List.head?_append, hhead] using hd.symm
    rw [hdc]
    simp only [List.mem_cons, List.not_mem_nil, or_false] at hc
    rcases hc with rfl | rfl | rfl | rfl <;> decide

/-- Links are read in front of a text where no further one begins. -/
private theorem scanLinks_append {links : List (Separator × List Char)} (h : ∀ l ∈ links, isSegment l.2 = true)
    {rest : List Char} (hrest : EndsWord rest) (hnone : Separator.read? rest = none) :
    scanLinks ((links.flatMap fun (sep, segment) => sep.spelling ++ segment) ++ rest) = some (links, rest) := by
  induction links with
  | nil =>
    rw [List.flatMap_nil, List.nil_append, scanLinks]
    split
    · rfl
    · rename_i hsome
      rw [hnone] at hsome
      cases hsome
  | cons l links ih =>
    obtain ⟨sep, segment⟩ := l
    have hread := Separator.read?_spelling_append sep
      (segment ++ ((links.flatMap fun (sep, segment) => sep.spelling ++ segment) ++ rest))
    have hsegment := scanSegment_eq_some_iff.2 ⟨h _ (List.mem_cons_self ..), endsWord_links links hrest, rfl⟩
    rw [List.flatMap_cons, List.append_assoc, List.append_assoc, scanLinks]
    split
    · rename_i hnone'
      rw [hread] at hnone'
      cases hnone'
    · rename_i sep' t hsome
      cases hread.symm.trans hsome
      split
      · rename_i hnone'
        rw [hsegment] at hnone'
        cases hnone'
      · rename_i segment' t' hsome'
        cases hsegment.symm.trans hsome'
        rw [ih fun l hl => h l (List.mem_cons_of_mem _ hl)]
        rfl

/-- A chain of names is read in front of a text where neither a word goes on nor a separator begins. -/
private theorem scanChain_render_append {chain : Chain} (h : chain.OfNames) {rest : List Char} (hrest : EndsWord rest)
    (hnone : Separator.read? rest = none) : scanChain (chain.render ++ rest) = some (chain, rest) := by
  have hroot := scanSegment_eq_some_iff.2 ⟨h.root, endsWord_links chain.links hrest, rfl⟩
  rw [Chain.render, List.append_assoc, scanChain, Scan.bind_of_eq_some hroot,
    Scan.bind_of_eq_some (scanLinks_append (fun l hl => h.link hl) hrest hnone)]
  rfl

/-- What is read in front of a parenthesis is a chain of names that may begin there, and every such chain is read. -/
theorem scanCallee_eq_some_iff {before s rest : List Char} {chain : Chain} :
    scanCallee before s = some (chain, rest) ↔
      mayBegin before = true ∧ chain.OfNames ∧
        ∃ blanks, (∀ c ∈ blanks, isBlank c = true) ∧ s = chain.render ++ (blanks ++ '(' :: rest) := by
  constructor
  · intro h
    obtain ⟨blanks, -, hblanks, hs⟩ := eq_append_of_scanCallee h
    have hyields : Scan.Yields scanChain Chain.OfNames := by
      intro s chain r hchain
      obtain ⟨root, t, hroot, hchain⟩ := Scan.bind_eq_some hchain
      obtain ⟨links, t', hlinks, hchain⟩ := Scan.bind_eq_some hchain
      cases hchain
      exact Chain.ofNames_iff.2 ⟨(scanSegment_eq_some_iff.1 hroot).1, yields_scanLinks _ _ _ hlinks⟩
    unfold scanCallee at h
    split at h
    · cases h
    · rename_i hbegin
      obtain ⟨chain', t, hchain, h⟩ := Scan.bind_eq_some h
      obtain ⟨_, _, -, h⟩ := Scan.bind_eq_some h
      obtain ⟨_, _, -, h⟩ := Scan.bind_eq_some h
      cases h
      exact ⟨by simpa using hbegin, hyields _ _ _ hchain, blanks, hblanks, by simpa using hs⟩
  · rintro ⟨hbegin, hchain, blanks, hblanks, rfl⟩
    -- a blank or the parenthesis comes behind the chain
    have hnext : ∀ c ∈ (blanks ++ '(' :: rest).head?, isBlank c = true ∨ c = '(' := by
      intro c hc
      cases blanks with
      | nil => exact .inr (Option.some.inj hc).symm
      | cons d blanks => exact .inl (hblanks c (by simp [← Option.some.inj hc]))
    have hends : EndsWord (blanks ++ '(' :: rest) := by
      intro c hc
      rcases hnext c hc with hblank | rfl
      · exact not_isWord_of_isBlank hblank
      · decide
    have hnone : Separator.read? (blanks ++ '(' :: rest) = none := by
      cases hs : blanks ++ '(' :: rest with
      | nil => rfl
      | cons c s =>
        apply Separator.read?_eq_none
        intro hc
        simp only [List.mem_cons, List.not_mem_nil, or_false] at hc
        rcases hnext c (by rw [hs]; rfl) with hblank | rfl
        · rcases hc with rfl | rfl | rfl | rfl <;> exact absurd hblank (by decide)
        · simp at hc
    have hdrop : (blanks ++ '(' :: rest).dropWhile isBlank = '(' :: rest := by
      rw [List.dropWhile_append_of_pos hblanks, List.dropWhile_cons_of_neg (by decide)]
    have hskip : Scan.blanks (blanks ++ '(' :: rest) = some ((), '(' :: rest) := by rw [Scan.blanks, hdrop]
    unfold scanCallee
    rw [if_neg (by simp [hbegin])]
    dsimp only
    rw [Scan.bind_of_eq_some (scanChain_render_append hchain hends hnone), Scan.bind_of_eq_some hskip]
    rfl

end CallIndex.Call
