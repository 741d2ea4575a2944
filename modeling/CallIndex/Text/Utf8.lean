/-!
# Decoding of UTF-8 with repair

Bytes are decoded to characters; a sequence of bytes that is no character, cut as long as it could still become one,
is decoded as one fault.

* `Utf8.decode` gives the characters and the faults in order.
* `Utf8.firstFault?` tells where and why the first fault arises.
* `Utf8.repair` puts the replacement character in the place of each fault.
-/

namespace CallIndex.Text.Utf8

/-- A decoded character, or bytes that are none. -/
inductive Decoded where
  | char (c : Char)
  | fault
  deriving DecidableEq, Repr

/-- The smallest and largest second byte behind a first byte, and how many bytes follow it in all. -/
def leadRange (b : Nat) : Option (Nat × Nat × Nat) :=
  if 0xc2 ≤ b && b ≤ 0xdf then some (0x80, 0xbf, 1)
  else if b = 0xe0 then some (0xa0, 0xbf, 2)
  else if b = 0xed then some (0x80, 0x9f, 2)
  else if 0xe1 ≤ b && b ≤ 0xef then some (0x80, 0xbf, 2)
  else if b = 0xf0 then some (0x90, 0xbf, 3)
  else if b = 0xf4 then some (0x80, 0x8f, 3)
  else if 0xf1 ≤ b && b ≤ 0xf3 then some (0x80, 0xbf, 3)
  else none

/-- The payload of a first byte with `n` bytes behind it. -/
def leadBits (b n : Nat) : Nat :=
  if n = 1 then b - 0xc0 else if n = 2 then b - 0xe0 else b - 0xf0

/-- Reads `n` more bytes of a character whose payload so far is `value`; the next byte lies between `lo` and `hi`. -/
def more (value lo hi : Nat) : Nat → List UInt8 → Decoded × List UInt8
  | 0, bytes => (.char (Char.ofNat value), bytes)
  | _ + 1, [] => (.fault, [])
  | n + 1, b :: bytes =>
    if lo ≤ b.toNat && b.toNat ≤ hi then more (value * 64 + (b.toNat - 0x80)) 0x80 0xbf n bytes
    else (.fault, b :: bytes)

/-- Reading never gives back more bytes than there were. -/
theorem length_more_le (value lo hi n : Nat) (bytes : List UInt8) :
    (more value lo hi n bytes).2.length ≤ bytes.length := by
  induction n generalizing value lo hi bytes with
  | zero => simp [more]
  | succ n ih =>
    cases bytes with
    | nil => simp [more]
    | cons b bytes =>
      simp only [more]
      split
      · exact Nat.le_succ_of_le (ih _ _ _ _)
      · exact Nat.le_refl _

/-- The unit that starts with the byte `b`, and the bytes behind it. -/
def decodeOne (b : UInt8) (bytes : List UInt8) : Decoded × List UInt8 :=
  if b.toNat < 0x80 then (.char (Char.ofNat b.toNat), bytes)
  else match leadRange b.toNat with
    | none => (.fault, bytes)
    | some (lo, hi, n) => more (leadBits b.toNat n) lo hi n bytes

theorem length_decodeOne_le (b : UInt8) (bytes : List UInt8) : (decodeOne b bytes).2.length ≤ bytes.length := by
  unfold decodeOne
  split
  · exact Nat.le_refl _
  · split
    · exact Nat.le_refl _
    · exact length_more_le _ _ _ _ _

/-- Decodes bytes, `units` being what has been decoded so far, last first. -/
def decodeOnto (units : List Decoded) : List UInt8 → List Decoded
  | [] => units.reverse
  | b :: bytes =>
    have := length_decodeOne_le b bytes
    decodeOnto ((decodeOne b bytes).1 :: units) (decodeOne b bytes).2
termination_by bytes => bytes.length
decreasing_by simp only [List.length_cons]; omega

/-- Decodes bytes. -/
def decode (bytes : List UInt8) : List Decoded :=
  decodeOnto [] bytes

/-! ### Faults and repair -/

/-- Why bytes are no character. -/
inductive FaultReason where
  /-- No character starts with the first byte. -/
  | start
  /-- The byte behind them does not continue the character. -/
  | continuation
  /-- No byte comes behind them. -/
  | ending
  deriving DecidableEq, Repr

/-- Bytes that are no character: their position, their number, the first of them, and the reason. -/
structure Fault where
  position : Nat
  count : Nat
  first : UInt8
  reason : FaultReason
  deriving DecidableEq, Repr

/-- The wording of a fault. -/
def Fault.message (f : Fault) : String :=
  let place :=
    if f.count = 1 then "byte 0x" ++ String.ofList (hexByte f.first.toNat) ++ " in position " ++ toString f.position
    else "bytes in position " ++ toString f.position ++ "-" ++ toString (f.position + f.count - 1)
  let reason := match f.reason with
    | .start => "invalid start byte"
    | .continuation => "invalid continuation byte"
    | .ending => "unexpected end of data"
  "'utf-8' codec can't decode " ++ place ++ ": " ++ reason
where
  hexByte (n : Nat) : List Char := [Nat.digitChar (n / 16), Nat.digitChar (n % 16)]

/-- The first fault in bytes that start at a position. -/
def firstFault? (position : Nat) : List UInt8 → Option Fault
  | [] => none
  | b :: bytes =>
    have := length_decodeOne_le b bytes
    let count := 1 + (bytes.length - (decodeOne b bytes).2.length)
    match (decodeOne b bytes).1 with
    | .char _ => firstFault? (position + count) (decodeOne b bytes).2
    | .fault =>
      some ⟨position, count, b,
        if (leadRange b.toNat).isNone then .start
        else if (decodeOne b bytes).2.isEmpty then .ending
        else .continuation⟩
termination_by bytes => bytes.length
decreasing_by simp only [List.length_cons]; omega

/-- The character that stands for bytes that are none. -/
def replacement : Char := Char.ofNat 0xfffd

/-- The text of decoded bytes. -/
def repair (units : List Decoded) : List Char :=
  units.map fun
    | .char c => c
    | .fault => replacement

/-- The bytes of the replacement character. -/
def replacementBytes : List UInt8 := [0xef, 0xbf, 0xbd]

/-- Do these bytes stand somewhere among others? -/
def occursIn (pattern : List UInt8) : List UInt8 → Bool
  | [] => pattern.isEmpty
  | b :: bytes => pattern.isPrefixOf (b :: bytes) || occursIn pattern bytes

/-- Is the repair of bytes to a text worth a note? It is when the text holds a replacement character whose bytes do not
stand among them. -/
def isNoteworthy (bytes : List UInt8) (text : List Char) : Bool :=
  text.contains replacement && !occursIn replacementBytes bytes

end CallIndex.Text.Utf8
