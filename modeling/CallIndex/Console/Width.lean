import CallIndex.Console.WidthTable
import CallIndex.Text.Basic

/-!
# Columns of a console

Characters take no, one or two columns. A joiner makes one sign of the characters around it, and a presentation
selector makes some signs wider. Tabs are replaced by blanks up to the next column divisible by eight.

* `columns` counts the columns of a text.
* `expandTabs` replaces the tabs of a text.
-/

namespace CallIndex.Markup

/-- The number of columns of a character that stands alone. -/
def charWidth (c : Char) : Nat :=
  if Text.inRanges c.toNat zeroWidthRanges then 0
  else if Text.inRanges c.toNat wideRanges then 2
  else 1

/-- The character that joins the signs around it. -/
def joiner : Char := Char.ofNat 0x200d

/-- The character that asks for the wide form of the sign before it. -/
def wideSelector : Char := Char.ofNat 0xfe0f

/-- The number of columns of a text behind the sign `last`, if there is one that can still be made wider. -/
def columnsAfter (last : Option Char) : List Char → Nat
  | [] => 0
  | c :: s =>
    if c = joiner then
      match s with
      | [] => 0
      | _ :: s => columnsAfter last s
    else if c = wideSelector then
      (if last.any fun d => Text.inRanges d.toNat widenedRanges then 1 else 0) + columnsAfter none s
    else charWidth c + columnsAfter (if charWidth c = 0 then last else some c) s

/-- The number of columns of a text. -/
def columns (s : List Char) : Nat :=
  columnsAfter none s

/-- The distance between two places where a tab can end. -/
def tabWidth : Nat := 8

/-- Puts the parts of a line together, with blanks in the place of the tabs between them; `col` is the column of the
first part. A tab is at least one blank. -/
def joinAtTabs (col : Nat) : List (List Char) → List Char
  | [] => []
  | [part] => part
  | part :: rest =>
    let col := col + columns (part ++ [' '])
    let fill := (tabWidth - col % tabWidth) % tabWidth
    part ++ ' ' :: List.replicate fill ' ' ++ joinAtTabs (col + fill) rest

/-- Replaces the tabs of a text. -/
def expandTabs (s : List Char) : List Char :=
  List.intercalate ['\n'] ((Text.lines s).map fun line => joinAtTabs 0 (Text.splitAtChar '\t' line))

end CallIndex.Markup
