import CallIndex.Console.PictographTable
import CallIndex.Text.Basic

/-!
# Pictographs

On the console a name between colons, such as `:warning:`, stands for a pictograph; a name that has none stays as it is.
Behind the name, `-text` or `-emoji` asks for one of the two ways to show it.
-/

namespace CallIndex.Markup

/-- Names with their pictographs, read from words by turns. -/
def pairUp : List String → List (String × String)
  | name :: glyph :: rest => (name, glyph) :: pairUp rest
  | _ => []

/-- The pictograph of a name in small letters. -/
def pictograph? (name : String) : Option String :=
  (pictographRows.flatMap fun row => pairUp ((Text.splitAtChar ' ' row.toList).map String.ofList)).lookup name

/-- The name without the way to show it, and the mark that stands for that way. -/
def splitVariant (body : List Char) : List Char × List Char :=
  match Text.dropFront? "-emoji".toList.reverse body.reverse, Text.dropFront? "-text".toList.reverse body.reverse with
  | some name, _ => (name.reverse, [Char.ofNat 0xfe0f])
  | none, some name => (name.reverse, [Char.ofNat 0xfe0e])
  | none, none => (body, [])

/-- What is shown for a text between two colons. -/
def shownName (body : List Char) : List Char :=
  let (name, mark) := splitVariant body
  match pictograph? (Text.lowerCase (String.ofList name)) with
  | some glyph => glyph.toList ++ mark
  | none => ':' :: body ++ [':']

/-- The text between a colon, which `s` stands behind, and the next one, and what follows; there are no blanks in it. -/
def nameBehind? (s : List Char) : Option (List Char × List Char) :=
  let isInside := fun c => c ≠ ':' && !Text.isBlank c
  match s.dropWhile isInside with
  | ':' :: behind => some (s.takeWhile isInside, behind)
  | _ => none

theorem length_lt_of_nameBehind? {s body behind : List Char} (h : nameBehind? s = some (body, behind)) :
    behind.length < s.length := by
  unfold nameBehind? at h
  dsimp only at h
  split at h
  · rename_i rest hd
    cases h
    have := (List.dropWhile_suffix (fun c => c ≠ ':' && !Text.isBlank c) (l := s)).length_le
    rw [hd, List.length_cons] at this
    omega
  · cases h

/-- A text with its names replaced by pictographs. -/
def replaceNames (s : List Char) : List Char :=
  match s with
  | [] => []
  | c :: rest =>
    if c = ':' then
      match h : nameBehind? rest with
      | some (body, behind) =>
        have := length_lt_of_nameBehind? h
        shownName body ++ replaceNames behind
      | none => c :: replaceNames rest
    else c :: replaceNames rest
termination_by s.length
decreasing_by
  · exact Nat.lt_succ_of_lt this
  · exact Nat.lt_succ_self _
  · exact Nat.lt_succ_self _

end CallIndex.Markup
