import CallIndex.Proofs.Concatenation
import CallIndex.Proofs.EntryKeys

/-!
# Written paths

A path is written with slashes between its components.  As no component holds a slash, is empty or is a single dot, the
components are read back from what is written, with or without slashes behind them.

* `Path.ofString_absolute` and `Path.ofString_join` say how written paths are read.
* `Path.collapse_append_right`: components without double dots are not touched when a path is resolved.
* `Path.toString_append_inj`: different components below a directory are written differently.
-/

namespace CallIndex

/-- A component of a path that leads to a file or a directory. -/
structure IsComponent (part : String) : Prop where
  ne_empty : part ≠ ""
  slash_notMem : '/' ∉ part.toList
  ne_dot : part ≠ "."
  ne_dots : part ≠ ".."

instance (part : String) : Decidable (IsComponent part) :=
  decidable_of_iff (part ≠ "" ∧ '/' ∉ part.toList ∧ part ≠ "." ∧ part ≠ "..")
    ⟨fun h => ⟨h.1, h.2.1, h.2.2.1, h.2.2.2⟩, fun h => ⟨h.ne_empty, h.slash_notMem, h.ne_dot, h.ne_dots⟩⟩

/-! ### Joined components -/

theorem IsComponent.concat {parts : List String} {last : String} (h : ∀ part ∈ parts, IsComponent part)
    (hlast : IsComponent last) : ∀ part ∈ parts ++ [last], IsComponent part :=
  List.forall_mem_append.2 ⟨h, List.forall_mem_singleton.2 hlast⟩

namespace Text

theorem join_cons_cons (sep a b : String) (parts : List String) :
    join sep (a :: b :: parts) = a ++ sep ++ join sep (b :: parts) := by
  simp only [join, String.intercalate_cons_cons]

theorem join_append (sep : String) {front parts : List String} (hfront : front ≠ []) (hparts : parts ≠ []) :
    join sep (front ++ parts) = join sep front ++ sep ++ join sep parts := by
  induction front with
  | nil => exact absurd rfl hfront
  | cons a front ih =>
    cases front with
    | nil =>
      obtain ⟨b, parts, rfl⟩ := List.exists_cons_of_ne_nil hparts
      exact join_cons_cons sep a b parts
    | cons b front =>
      rw [List.cons_append, List.cons_append, join_cons_cons, ← List.cons_append, ih (List.cons_ne_nil _ _),
        join_cons_cons]
      simp only [String.append_assoc]

/-- What is joined begins with its first part. -/
private theorem exists_toList_join (sep a : String) (parts : List String) :
    ∃ rest, (join sep (a :: parts)).toList = a.toList ++ rest := by
  cases parts with
  | nil => exact ⟨[], by simp [join]⟩
  | cons b parts =>
    rw [join_cons_cons, String.append_assoc, String.toList_append]
    exact ⟨_, rfl⟩

private theorem splitAtChar_replicate (sep : Char) (count : Nat) :
    splitAtChar sep (List.replicate count sep) = List.replicate (count + 1) [] := by
  induction count with
  | zero => rfl
  | succ count ih => rw [List.replicate_succ, splitAtChar, if_pos rfl, ih, ← List.replicate_succ]

end Text

namespace Path

/-- Is a part between slashes a component? -/
private def isKept (part : String) : Bool :=
  part ≠ "" && part ≠ "."

private theorem parts_ofString (s : String) :
    (ofString s).parts = ((Text.splitAtChar '/' s.toList).map String.ofList).filter isKept :=
  rfl

/-- Parts that are joined by slashes are read back, whatever the number of slashes behind them. -/
private theorem filter_splitAtChar_join {parts : List String} (h : ∀ part ∈ parts, '/' ∉ part.toList) (slashes : Nat) :
    ((Text.splitAtChar '/' ((Text.join "/" parts).toList ++ List.replicate slashes '/')).map String.ofList).filter
      isKept = parts.filter isKept := by
  induction parts with
  | nil =>
    have hempty : (Text.join "/" []).toList = [] := rfl
    rw [hempty, List.nil_append, Text.splitAtChar_replicate]
    simp [isKept]
  | cons a parts ih =>
    have ha : '/' ∉ a.toList := h a List.mem_cons_self
    cases parts with
    | nil =>
      have hone : Text.join "/" [a] = a := by simp [Text.join]
      rw [hone, Text.splitAtChar_append_of_notMem ha, Text.splitAtChar_replicate, List.replicate_succ]
      simp [isKept, List.filter_cons]
    | cons b parts =>
      have hlist : (Text.join "/" (a :: b :: parts)).toList ++ List.replicate slashes '/' =
          a.toList ++ '/' :: ((Text.join "/" (b :: parts)).toList ++ List.replicate slashes '/') := by
        rw [Text.join_cons_cons]
        simp
      have hrest := ih fun part hpart => h part (List.mem_cons_of_mem _ hpart)
      rw [hlist, Text.splitAtChar_append_of_notMem ha, Text.splitAtChar, if_pos rfl, List.modifyHead_cons,
        List.append_nil, List.map_cons, String.ofList_toList, List.filter_cons, hrest, ← List.filter_cons]

private theorem filter_isKept {parts : List String} (h : ∀ part ∈ parts, IsComponent part) :
    parts.filter isKept = parts := by
  rw [List.filter_eq_self]
  intro part hpart
  simp [isKept, (h part hpart).ne_empty, (h part hpart).ne_dot]

/-- Components are told by what is written. -/
private theorem join_injective {parts parts' : List String} (h : ∀ part ∈ parts, IsComponent part)
    (h' : ∀ part ∈ parts', IsComponent part) (heq : Text.join "/" parts = Text.join "/" parts') : parts = parts' := by
  have hparts := filter_splitAtChar_join (fun part hpart => (h part hpart).slash_notMem) 0
  have hparts' := filter_splitAtChar_join (fun part hpart => (h' part hpart).slash_notMem) 0
  rw [filter_isKept h, heq] at hparts
  rw [filter_isKept h'] at hparts'
  exact hparts.symm.trans hparts'

private theorem takeWhile_slash_join {a : String} (hne : a ≠ "") (hslash : '/' ∉ a.toList) (parts : List String)
    (rest : List Char) : (((Text.join "/" (a :: parts)).toList ++ rest).takeWhile (· = '/')) = [] := by
  obtain ⟨more, hmore⟩ := Text.exists_toList_join "/" a parts
  rw [hmore]
  cases ha : a.toList with
  | nil => exact absurd (String.toList_eq_nil_iff.1 ha) hne
  | cons c cs =>
    have hc : c ≠ '/' := by
      rintro rfl
      exact hslash (by simp [ha])
    simp [hc]

/-- An absolute path is read as it is written. -/
theorem ofString_absolute {parts : List String} (h : ∀ part ∈ parts, IsComponent part) :
    ofString (toString ⟨.slash, parts⟩) = ⟨.slash, parts⟩ := by
  have hlist : (toString ⟨.slash, parts⟩).toList = '/' :: (Text.join "/" parts).toList := by
    simp [toString]
  have hslashes : ((toString ⟨.slash, parts⟩).toList.takeWhile (· = '/')).length = 1 := by
    rw [hlist]
    cases parts with
    | nil => rfl
    | cons a parts =>
      have ha := h a List.mem_cons_self
      have hnone := takeWhile_slash_join ha.ne_empty ha.slash_notMem parts []
      rw [List.append_nil] at hnone
      simp [hnone]
  have hparts : (ofString (toString ⟨.slash, parts⟩)).parts = parts := by
    have hjoin := filter_splitAtChar_join (fun part hpart => (h part hpart).slash_notMem) 0
    rw [List.replicate_zero, List.append_nil] at hjoin
    rw [parts_ofString, hlist, Text.splitAtChar, if_pos rfl, List.map_cons, List.filter_cons_of_neg (by simp [isKept]),
      hjoin, filter_isKept h]
  have hroot : (ofString (toString ⟨.slash, parts⟩)).root = .slash := by
    rw [ofString, hslashes]
    rfl
  calc ofString (toString ⟨.slash, parts⟩)
      = ⟨(ofString (toString ⟨.slash, parts⟩)).root, (ofString (toString ⟨.slash, parts⟩)).parts⟩ := rfl
    _ = ⟨.slash, parts⟩ := by rw [hroot, hparts]

/-- Parts that are joined by slashes are a relative path, single dots apart. -/
theorem ofString_join {a : String} {parts : List String} (hne : a ≠ "")
    (h : ∀ part ∈ a :: parts, '/' ∉ part.toList) (slashes : Nat) :
    ofString (Text.join "/" (a :: parts) ++ String.ofList (List.replicate slashes '/')) =
      ⟨.relative, (a :: parts).filter fun part => part ≠ "" && part ≠ "."⟩ := by
  have hlist : (Text.join "/" (a :: parts) ++ String.ofList (List.replicate slashes '/')).toList =
      (Text.join "/" (a :: parts)).toList ++ List.replicate slashes '/' := by
    rw [String.toList_append, String.toList_ofList]
  have hparts := filter_splitAtChar_join h slashes
  rw [ofString, hlist, takeWhile_slash_join hne (h a List.mem_cons_self)]
  exact congrArg (Path.mk .relative) hparts

/-! ### Resolved paths -/

theorem collapse_append (above : List String) {parts : List String} (h : ∀ part ∈ parts, part ≠ "..")
    (rest : List String) : collapse above (parts ++ rest) = collapse (parts.reverse ++ above) rest := by
  induction parts generalizing above with
  | nil => rfl
  | cons part parts ih =>
    rw [List.cons_append, collapse, if_neg (h part List.mem_cons_self),
      ih _ fun part hpart => h part (List.mem_cons_of_mem _ hpart)]
    simp

/-- Double dots lead up. -/
theorem collapse_dots (above : List String) (count : Nat) (rest : List String) :
    collapse above (List.replicate count ".." ++ rest) = collapse (above.drop count) rest := by
  induction count generalizing above with
  | zero => rfl
  | succ count ih => rw [List.replicate_succ, List.cons_append, collapse, if_pos rfl, ih, List.drop_tail]

/-- Components without double dots stay. -/
theorem collapse_append_right (above front : List String) {parts : List String} (h : ∀ part ∈ parts, part ≠ "..") :
    collapse above (front ++ parts) = collapse above front ++ parts := by
  induction front generalizing above with
  | nil =>
    have hcollapse := collapse_append above h []
    rw [List.append_nil] at hcollapse
    simp [hcollapse, collapse]
  | cons part front ih =>
    rw [List.cons_append, collapse, collapse]
    split
    · exact ih above.tail
    · exact ih (part :: above)

/-- Different components below a directory are written differently. -/
theorem toString_append_inj {base parts parts' : List String} (hne : parts ≠ []) (hne' : parts' ≠ [])
    (h : ∀ part ∈ parts, IsComponent part) (h' : ∀ part ∈ parts', IsComponent part)
    (heq : toString ⟨.slash, base ++ parts⟩ = toString ⟨.slash, base ++ parts'⟩) : parts = parts' := by
  apply join_injective h h'
  replace heq : "/" ++ Text.join "/" (base ++ parts) = "/" ++ Text.join "/" (base ++ parts') := heq
  rw [String.append_right_inj] at heq
  by_cases hbase : base = []
  · rwa [hbase] at heq
  · rw [Text.join_append "/" hbase hne, Text.join_append "/" hbase hne', String.append_right_inj] at heq
    exact heq

/-! ### Names of files -/

/-- The last dot of a name stands before its extension. -/
theorem splitName_extension {stem ext : String} (hstem : stem ≠ "") (hext : ext ≠ "") (hdot : '.' ∉ ext.toList) :
    splitName (stem ++ "." ++ ext) = (stem, "." ++ ext) := by
  have hlast : Text.cutAtLast? ['.'] ('.' :: ext.toList) = some ([], ext.toList) := by
    rw [Text.cutAtLast?, Text.cutAtLast?_eq_none (List.mem_singleton_self _) hdot]
    rfl
  have hlist : (stem ++ "." ++ ext).toList = stem.toList ++ '.' :: ext.toList := by simp
  have hcut := Text.cutAtLast?_append hlast stem.toList
  rw [List.append_nil, ← hlist] at hcut
  have hfront : stem.toList.isEmpty = false := by simpa using hstem
  have hback : ext.toList.isEmpty = false := by simpa using hext
  rw [splitName, hcut]
  simp only [hfront, hback, Bool.or_self, Bool.false_eq_true, ↓reduceIte, String.ofList_toList, Prod.mk.injEq, true_and]
  rw [← String.toList_inj]
  simp

end Path

end CallIndex
