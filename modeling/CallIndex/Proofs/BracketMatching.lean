import CallIndex.Proofs.ArgumentLists

/-!
# Matching brackets

The reader of bracketed text counts depth and does not look at the kinds of brackets.  Where the brackets are nested by
kind (`Nested`) the count finds the partner all the same: the text it reads lies between a parenthesis and the
parenthesis that closes it.

* `seekClosing_nested`: the first balanced place behind a parenthesis is its partner.
* `bracketTextAt_eq`: the reader that goes from line to line looks for one bracket in the text of all the lines.
* `exists_seekClosing_iff`: a bracket is found exactly where some closing bracket brings the depth to zero.
-/

namespace CallIndex.Source

/-! ### Nested brackets -/

/-- The bracket that closes an opening one of the same kind. -/
def partner? : Char → Option Char
  | '(' => some ')'
  | '[' => some ']'
  | '{' => some '}'
  | _ => none

/-- A text in which every bracket has a partner of its kind, with the text between the two nested again. -/
inductive Nested : List Char → Prop
  | nil : Nested []
  | other {c : Char} {s : List Char} (hopening : isOpening c = false) (hclosing : isClosing c = false) (hs : Nested s) :
      Nested (c :: s)
  | group {o c : Char} {inner rest : List Char} (hpartner : partner? o = some c) (hinner : Nested inner)
      (hrest : Nested rest) : Nested (o :: (inner ++ c :: rest))

private theorem openBrackets_of_partner? {o c : Char} (h : partner? o = some c) :
    openBrackets [o] = 1 ∧ openBrackets [c] = -1 := by
  unfold partner? at h
  split at h
  · cases h
    exact ⟨rfl, rfl⟩
  · cases h
    exact ⟨rfl, rfl⟩
  · cases h
    exact ⟨rfl, rfl⟩
  · cases h

private theorem openBrackets_other {c : Char} (hopening : isOpening c = false) (hclosing : isClosing c = false) :
    openBrackets [c] = 0 := by
  simp [openBrackets_singleton, hopening, hclosing]

private theorem Nested.openBrackets_eq_zero {s : List Char} (h : Nested s) : openBrackets s = 0 := by
  induction h with
  | nil => rfl
  | other hopening hclosing _ ih => rw [openBrackets_cons, openBrackets_other hopening hclosing, ih]; rfl
  | group hpartner _ _ ihinner ihrest =>
    obtain ⟨hopen, hclose⟩ := openBrackets_of_partner? hpartner
    rw [openBrackets_cons, hopen, openBrackets_append, ihinner, openBrackets_cons, hclose, ihrest]
    rfl

/-- Nowhere in a nested text are more brackets closed than opened. -/
private theorem Nested.openBrackets_take_nonneg {s : List Char} (h : Nested s) (i : Nat) :
    0 ≤ openBrackets (s.take i) := by
  induction h generalizing i with
  | nil =>
    rw [List.take_nil]
    exact Int.le_refl 0
  | other hopening hclosing _ ih =>
    cases i with
    | zero => exact Int.le_refl 0
    | succ i =>
      rw [List.take_succ_cons, openBrackets_cons, openBrackets_other hopening hclosing, Int.zero_add]
      exact ih i
  | @group o c inner rest hpartner hinner _ ihinner ihrest =>
    obtain ⟨hopen, hclose⟩ := openBrackets_of_partner? hpartner
    cases i with
    | zero => exact Int.le_refl 0
    | succ i =>
      rw [List.take_succ_cons, openBrackets_cons, hopen, List.take_append, openBrackets_append]
      -- the place lies in the group, or behind its closing bracket
      cases hbehind : i - inner.length with
      | zero =>
        have hinside := ihinner i
        have hnil : openBrackets ((c :: rest).take 0) = 0 := rfl
        omega
      | succ k =>
        have hrest := ihrest k
        rw [List.take_of_length_le (by omega), hinner.openBrackets_eq_zero, List.take_succ_cons, openBrackets_cons,
          hclose]
        omega

/-- The parenthesis at the front of a nested group is closed by its partner. -/
private theorem closesAt_of_nested {inner : List Char} (hinner : Nested inner) (tail : List Char) :
    ClosesAt ('(' :: (inner ++ ')' :: tail)) (inner.length + 1) where
  lt_length := by simp
  before := by
    intro i hpos hi
    obtain ⟨i, rfl⟩ := Nat.exists_eq_add_one.2 hpos
    have hinside := hinner.openBrackets_take_nonneg i
    have hopen : openBrackets ['('] = 1 := rfl
    rw [List.take_succ_cons, openBrackets_cons, List.take_append_of_le_length (by omega), hopen]
    omega
  balanced := by
    have hfront : ('(' :: (inner ++ ')' :: tail)).take (inner.length + 1 + 1) = '(' :: (inner ++ [')']) := by
      simp [List.take_append, List.take_of_length_le]
    rw [hfront, openBrackets_cons, openBrackets_append, hinner.openBrackets_eq_zero]
    rfl

/-- The first balanced place behind a parenthesis is its partner. -/
theorem seekClosing_nested {inner : List Char} (hinner : Nested inner) (tail : List Char) :
    seekClosing 0 ('(' :: (inner ++ ')' :: tail)) = .found (inner.length + 1) :=
  seekClosing_parenthesis_iff.2 (closesAt_of_nested hinner tail)

/-- A nested text that begins with a parenthesis begins with a group. -/
private theorem Nested.exists_group {s : List Char} (h : Nested s) (hfront : s.head? = some '(') :
    ∃ inner rest, s = '(' :: (inner ++ ')' :: rest) ∧ Nested inner ∧ Nested rest := by
  cases h with
  | nil => cases hfront
  | other hopening _ _ =>
    obtain rfl := Option.some.inj hfront
    cases hopening
  | group hpartner hinner hrest =>
    obtain rfl := Option.some.inj hfront
    obtain rfl := Option.some.inj hpartner
    exact ⟨_, _, rfl, hinner, hrest⟩

-- where brackets are not nested, one of another kind is taken for the partner
example : seekClosing 0 "(a]".toList = .found 2 := rfl

/-- The group at the front of a text is the only one there. -/
private theorem Nested.inner_unique {inner inner' rest rest' : List Char} (hinner : Nested inner)
    (hinner' : Nested inner')
    (heq : '(' :: (inner ++ ')' :: rest) = '(' :: (inner' ++ ')' :: rest')) : inner' = inner := by
  have hfound := seekClosing_nested hinner rest
  rw [heq, seekClosing_nested hinner' rest', Closing.found.injEq, Nat.add_right_cancel_iff] at hfound
  exact (List.append_inj_left (List.cons.inj heq).2 hfound.symm).symm

/-! ### Brackets over several lines -/

private theorem seekClosing_append (depth : Int) (s t : List Char) :
    seekClosing depth (s ++ t) = match seekClosing depth s with
      | .found offset => .found offset
      | .pending depth => (seekClosing depth t).behind s.length := by
  induction s generalizing depth with
  | nil =>
    simp only [List.nil_append, seekClosing, List.length_nil]
    cases seekClosing depth t <;> rfl
  | cons c s ih =>
    rw [List.cons_append, seekClosing_cons_eq, seekClosing_cons_eq, ih]
    split
    · rfl
    · cases seekClosing (depth + openBrackets [c]) s with
      | found offset => rfl
      | pending d => cases hd : seekClosing d t <;> simp [Closing.behind, hd, Nat.add_assoc]

private theorem seekClosing_lineEnd (depth : Int) (s : List Char) :
    seekClosing depth ('\n' :: s) = (seekClosing depth s).behind 1 := by
  have hzero : openBrackets ['\n'] = 0 := rfl
  have hclosing : isClosing '\n' = false := rfl
  rw [seekClosing_cons_eq, hzero, hclosing, if_neg (by simp), Int.add_zero]

private theorem lines_append_lineEnd {s : List Char} (h : '\n' ∉ s) (t : List Char) :
    Text.lines (s ++ '\n' :: t) = s :: Text.lines t := by
  rw [Text.lines_append_of_notMem h, Text.lines_lineEnd_cons]
  simp

/-- Lines with a line end before each of them. -/
def following (lines : List (List Char)) : List Char :=
  lines.flatMap ('\n' :: ·)

@[simp] theorem following_nil : following [] = [] := rfl

@[simp] theorem following_cons (line : List Char) (rest : List (List Char)) :
    following (line :: rest) = '\n' :: (line ++ following rest) := rfl

private theorem intercalate_lineEnd (line : List Char) (rest : List (List Char)) :
    List.intercalate ['\n'] (line :: rest) = line ++ following rest := by
  induction rest generalizing line with
  | nil => simp
  | cons next rest ih => rw [List.intercalate_cons_cons, ih]; simp

/-- The text from column `col` of the line with index `index` on, over as many lines as a bracketed text may run. -/
def windowText (lines : List (List Char)) (index col : Nat) : List Char :=
  (List.intercalate ['\n'] ((lines.drop index).take bracketLineLimit)).drop col

private theorem windowText_eq {lines : List (List Char)} {index col : Nat} {line : List Char}
    (hline : lines[index]? = some line) (hcol : col ≤ line.length) :
    windowText lines index col =
      line.drop col ++ following ((lines.drop (index + 1)).take (bracketLineLimit - 1)) := by
  obtain ⟨hindex, rfl⟩ := List.getElem?_eq_some_iff.1 hline
  rw [windowText, List.drop_eq_getElem_cons hindex, bracketLineLimit, List.take_succ_cons, intercalate_lineEnd,
    List.drop_append_of_le_length hcol]

/-- A text without line ends at the front of several lines stands in the first one. -/
private theorem isPrefix_of_isPrefix_following {front line : List Char} {rest : List (List Char)}
    (hfront : '\n' ∉ front) (h : front <+: line ++ following rest) : front <+: line := by
  cases rest with
  | nil => simpa using h
  | cons next rest =>
    have hline : line ++ ['\n'] <+: line ++ following (next :: rest) := by simp
    rcases List.prefix_or_prefix_of_prefix h hline with hshort | hlong
    · rcases List.prefix_concat_iff.1 hshort with heq | hshort
      · exact absurd (heq ▸ by simp) hfront
      · exact hshort
    · exact absurd (hlong.subset (by simp)) hfront

private theorem joinPieces_singleton (piece : List Char) : joinPieces [piece] = Text.trim piece := by
  cases htrim : Text.trim piece with
  | nil => simp [joinPieces, htrim]
  | cons c s => simp [joinPieces, htrim]

section Lines

variable {lines : List Line} (hlines : ∀ line ∈ lines, line.raw.length = line.code.length ∧ '\n' ∉ line.raw)
include hlines

/-- The pieces behind the text `front` of a first line are the lines of the text up to the closing bracket. -/
private theorem bracketPieces?_eq_lines {front : List Char} (hfront : '\n' ∉ front) (budget : Nat) (depth : Int) :
    (bracketPieces? budget depth lines).map (front :: ·) =
      match seekClosing depth (following ((lines.take budget).map Line.code)) with
      | .found offset => some (Text.lines (front ++ (following ((lines.take budget).map Line.raw)).take offset))
      | .pending _ => none := by
  induction lines generalizing front budget depth with
  | nil => simp [bracketPieces?, seekClosing]
  | cons line rest ih =>
    obtain ⟨⟨hlength, hline⟩, hrest⟩ := List.forall_mem_cons.1 hlines
    cases budget with
    | zero => simp [bracketPieces?, seekClosing]
    | succ budget =>
      have hih := fun d => ih hrest hline budget d
      simp only [bracketPieces?, List.take_succ_cons, List.map_cons, following_cons, seekClosing_lineEnd,
        seekClosing_append]
      cases hseek : seekClosing depth line.code with
      | found offset =>
        have hle : offset ≤ line.raw.length := hlength ▸ (lt_length_of_seekClosing hseek).le
        simp only [Closing.behind, Option.map_some, Option.some.injEq, List.take_succ_cons,
          List.take_append_of_le_length hle]
        rw [lines_append_lineEnd hfront, Text.lines_of_notMem fun h => hline (List.mem_of_mem_take h)]
      | pending d =>
        simp only [hih d]
        cases seekClosing d (following ((rest.take budget).map Line.code)) with
        | found offset =>
          simp only [Closing.behind, Option.map_some, Option.some.injEq, List.take_succ_cons]
          rw [lines_append_lineEnd hfront, ← hlength, Nat.add_comm offset, List.take_length_add_append]
        | pending d => rfl

/-- The reader that goes from line to line looks for one bracket in the text of all the lines. -/
theorem bracketTextAt_eq {index col : Nat} {line : Line} (hline : lines[index]? = some line)
    (hcol : col < line.code.length) :
    bracketTextAt lines index col =
      match seekClosing 0 (windowText (lines.map Line.code) index col) with
      | .found offset =>
        .ok (joinPieces (Text.lines (((windowText (lines.map Line.raw) index col).drop 1).take (offset - 1))))
      | .pending _ => .error (.unclosed (index + 1)) := by
  obtain ⟨hlength, hnotMem⟩ := hlines line (List.mem_of_getElem? hline)
  have hcodes : windowText (lines.map Line.code) index col =
      line.code.drop col ++ following (((lines.drop (index + 1)).take (bracketLineLimit - 1)).map Line.code) := by
    rw [windowText_eq (by rw [List.getElem?_map, hline]; rfl) hcol.le, List.map_take, List.map_drop]
  have hraws : (windowText (lines.map Line.raw) index col).drop 1 =
      line.raw.drop (col + 1) ++ following (((lines.drop (index + 1)).take (bracketLineLimit - 1)).map Line.raw) := by
    rw [windowText_eq (by rw [List.getElem?_map, hline]; rfl) (hlength ▸ hcol.le), List.map_take, List.map_drop,
      List.drop_append_of_le_length (by rw [List.length_drop]; omega), List.drop_drop]
  rw [hraws, hcodes, seekClosing_append, bracketTextAt_natCast hline]
  -- the bracket is closed on its own line, or it is looked for in the lines behind
  cases hseek : seekClosing 0 (line.code.drop col) with
  | found offset =>
    have hpos := pos_of_seekClosing_zero hseek
    have hlt := lt_length_of_seekClosing hseek
    rw [List.length_drop] at hlt
    dsimp only
    rw [List.drop_take, List.take_append_of_le_length (by rw [List.length_drop]; omega),
      Text.lines_of_notMem fun h => hnotMem (List.mem_of_mem_drop (List.mem_of_mem_take h)), Nat.add_sub_add_left]
  | pending depth =>
    have hfront : '\n' ∉ line.raw.drop (col + 1) := fun h => hnotMem (List.mem_of_mem_drop h)
    have hrest : ∀ l ∈ lines.drop (index + 1), l.raw.length = l.code.length ∧ '\n' ∉ l.raw :=
      fun l hl => hlines l (List.mem_of_mem_drop hl)
    have hpieces := bracketPieces?_eq_lines hrest hfront (bracketLineLimit - 1) depth
    cases hbehind : seekClosing depth
        (following (((lines.drop (index + 1)).take (bracketLineLimit - 1)).map Line.code)) with
    | found offset =>
      rw [hbehind] at hpieces
      obtain ⟨pieces, hsome, hpieces⟩ := Option.map_eq_some_iff.1 hpieces
      have hplace : offset + (line.code.drop col).length - 1 = (line.raw.drop (col + 1)).length + offset := by
        rw [List.length_drop, List.length_drop]
        omega
      simp only [hsome, hpieces, hbehind, Closing.behind, hplace, List.take_length_add_append]
    | pending depth =>
      rw [hbehind] at hpieces
      simp only [Option.map_eq_none_iff.1 hpieces, hbehind, Closing.behind]

/-- The arguments of a call that ends on its line are the bracketed text there. -/
private theorem argumentText_eq {index col : Nat} {line : Line} (hline : lines[index]? = some line)
    (hcol : col < line.code.length) {inner : List Char} (hinner : Nested inner) (hlineEnd : '\n' ∉ inner)
    (hgroup : '(' :: (inner ++ [')']) <+: windowText (lines.map Line.code) index col) :
    argumentText line col =
      joinPieces (Text.lines (((windowText (lines.map Line.raw) index col).drop 1).take inner.length)) := by
  obtain ⟨hlength, hraw⟩ := hlines line (List.mem_of_getElem? hline)
  rw [windowText_eq (by rw [List.getElem?_map, hline]; rfl) hcol.le] at hgroup
  obtain ⟨tail, htail⟩ := isPrefix_of_isPrefix_following (by simpa using hlineEnd) hgroup
  have hcode : line.code.drop col = '(' :: (inner ++ ')' :: tail) := by simp [← htail]
  have hsize : inner.length + 1 < (line.raw.drop col).length := by
    rw [List.length_drop, hlength, ← List.length_drop, hcode]
    simp
  rw [argumentText, hcode, seekClosing_nested hinner,
    windowText_eq (by rw [List.getElem?_map, hline]; rfl) (hlength ▸ hcol.le),
    List.drop_append_of_le_length (by omega), List.drop_drop,
    List.take_append_of_le_length (by rw [List.length_drop] at hsize ⊢; omega),
    Text.lines_of_notMem fun h => hraw (List.mem_of_mem_drop (List.mem_of_mem_take h)), joinPieces_singleton]
  rfl

end Lines

/-- A closing bracket at this place brings the depth back to zero. -/
structure BalancesAt (code : List Char) (k : Nat) : Prop where
  closing : ∃ c, code[k]? = some c ∧ isClosing c = true
  balanced : openBrackets (code.take (k + 1)) = 0

/-- A bracket is found exactly where some closing bracket brings the depth to zero. -/
theorem exists_seekClosing_iff {depth : Int} {s : List Char} :
    (∃ offset, seekClosing depth s = .found offset) ↔
      ∃ k, (∃ c, s[k]? = some c ∧ isClosing c = true) ∧ depth + openBrackets (s.take (k + 1)) = 0 := by
  induction s generalizing depth with
  | nil => simp [seekClosing]
  | cons c s ih =>
    have hstep : ∀ k, depth + openBrackets ((c :: s).take (k + 1)) =
        depth + openBrackets [c] + openBrackets (s.take k) := by
      intro k
      rw [List.take_succ_cons, openBrackets_cons, Int.add_assoc]
    have hnil : openBrackets (s.take 0) = 0 := rfl
    constructor
    · rintro ⟨offset, hfound⟩
      rcases seekClosing_cons_iff.1 hfound with ⟨⟨hclosing, hzero⟩, -⟩ | ⟨-, o, ho, -⟩
      · exact ⟨0, ⟨c, rfl, hclosing⟩, by rw [hstep, hzero, hnil]; rfl⟩
      · obtain ⟨k, hclosing, hzero⟩ := ih.1 ⟨o, ho⟩
        exact ⟨k + 1, hclosing, by rw [hstep, hzero]⟩
    · rintro ⟨k, ⟨d, hd, hclosing⟩, hzero⟩
      rw [hstep] at hzero
      by_cases hhere : isClosing c = true ∧ depth + openBrackets [c] = 0
      · exact ⟨0, seekClosing_cons_iff.2 (.inl ⟨hhere, rfl⟩)⟩
      · cases k with
        | zero =>
          obtain rfl : c = d := Option.some.inj hd
          rw [hnil, Int.add_zero] at hzero
          exact absurd ⟨hclosing, hzero⟩ hhere
        | succ k =>
          obtain ⟨o, ho⟩ := ih.2 ⟨k, ⟨d, hd, hclosing⟩, hzero⟩
          exact ⟨o + 1, seekClosing_cons_iff.2 (.inr ⟨hhere, o, ho, rfl⟩)⟩

/-- Bracket matching is exact on nested text: the bracketed text is the raw text between a parenthesis and its partner,
and so are the arguments on one line.  Whatever the text, the bracket counts as unclosed exactly if no closing bracket
brings the depth back to zero. -/
theorem bracketed_text_ends_at_partner (rules : LexRules) (content : List Char) {index col : Nat} {line : Line}
    (hline : (sourceLines rules content)[index]? = some line) (hcol : col < line.code.length) :
    let raw := windowText (Text.lines content) index col
    let code := windowText (Text.lines (mask rules content)) index col
    let read := bracketTextAt (sourceLines rules content) index col
    (∀ nested, nested <+: code → Nested nested → nested.head? = some '(' →
      ∃ inner rest, nested = '(' :: (inner ++ ')' :: rest) ∧ Nested inner ∧
        (∀ inner' rest', nested = '(' :: (inner' ++ ')' :: rest') → Nested inner' → inner' = inner) ∧
        read = .ok (joinPieces (Text.lines ((raw.drop 1).take inner.length))) ∧
        ('\n' ∉ inner → argumentText line col = joinPieces (Text.lines ((raw.drop 1).take inner.length)))) ∧
    (read = .error (.unclosed (index + 1)) ↔ ∀ k, ¬ BalancesAt code k) ∧
    ((∃ text, read = .ok text) ↔ ∃ k, BalancesAt code k) := by
  intro raw code read
  have hlines : ∀ l ∈ sourceLines rules content, l.raw.length = l.code.length ∧ '\n' ∉ l.raw := by
    intro l hl
    have hmem : l.raw ∈ (sourceLines rules content).map Line.raw := List.mem_map_of_mem hl
    rw [map_raw_sourceLines] at hmem
    exact ⟨length_eq_of_mem_sourceLines hl, Text.notMem_of_mem_lines hmem⟩
  have hread : read = _ := bracketTextAt_eq hlines hline hcol
  rw [map_raw_sourceLines, map_code_sourceLines] at hread
  have hfound : (∃ offset, seekClosing 0 code = .found offset) ↔ ∃ k, BalancesAt code k := by
    rw [exists_seekClosing_iff]
    constructor
    · rintro ⟨k, hclosing, hzero⟩
      exact ⟨k, hclosing, by simpa using hzero⟩
    · rintro ⟨k, hclosing, hzero⟩
      exact ⟨k, hclosing, by simpa using hzero⟩
  refine ⟨fun nested hprefix hnested hfront => ?_, ?_⟩
  · obtain ⟨inner, rest, rfl, hinner, -⟩ := hnested.exists_group hfront
    obtain ⟨tail, htail⟩ := hprefix
    have hseek : seekClosing 0 code = .found (inner.length + 1) := by
      rw [← htail, List.cons_append, List.append_assoc, List.cons_append]
      exact seekClosing_nested hinner _
    refine ⟨inner, rest, rfl, hinner, fun inner' rest' heq hinner' => hinner.inner_unique hinner' heq, ?_,
      fun hlineEnd => ?_⟩
    · rw [hread, hseek]
      rfl
    · have hgroup : '(' :: (inner ++ [')']) <+: code := ⟨rest ++ tail, by simp [← htail]⟩
      have harguments := argumentText_eq hlines hline hcol hinner hlineEnd
      rw [map_raw_sourceLines, map_code_sourceLines] at harguments
      exact harguments hgroup
  · cases hseek : seekClosing 0 code with
    | found offset =>
      have hbalances := hfound.1 ⟨offset, hseek⟩
      rw [hread, hseek]
      simpa using hbalances
    | pending depth =>
      have hnone : ¬ ∃ k, BalancesAt code k := fun h => by
        obtain ⟨offset, hoffset⟩ := hfound.2 h
        rw [hseek] at hoffset
        cases hoffset
      rw [hread, hseek]
      simpa using hnone

/-- A bracket in a string and a pair of another kind do not end the text, which goes on behind the end of the line. -/
theorem bracketed_text_over_two_lines :
    bracketTextAt (sourceLines Extract.Python.rules "f(\")\",\n [a])".toList) 0 1 = .ok "\")\", [a]".toList := by
  have hline : (sourceLines Extract.Python.rules "f(\")\",\n [a])".toList)[0]? =
      some ⟨"f(\")\",".toList, "f(\" \",".toList⟩ := by cbv
  have hcode : windowText (Text.lines (mask Extract.Python.rules "f(\")\",\n [a])".toList)) 0 1 =
      "(\" \",\n [a])".toList := by cbv
  have hinner : Nested "\" \",\n [a]".toList :=
    .other rfl rfl (.other rfl rfl (.other rfl rfl (.other rfl rfl (.other rfl rfl (.other rfl rfl
      (.group rfl (.other rfl rfl .nil) .nil))))))
  have hnested : Nested "(\" \",\n [a])".toList := .group rfl hinner .nil
  have hcol : 1 < "f(\" \",".toList.length := by decide
  obtain ⟨inner, rest, -, -, hunique, hread, -⟩ :=
    (bracketed_text_ends_at_partner _ _ hline hcol).1 _ ⟨[], by rw [List.append_nil, hcode]⟩ hnested rfl
  obtain rfl := hunique _ [] rfl hinner
  exact hread.trans rfl

end CallIndex.Source
