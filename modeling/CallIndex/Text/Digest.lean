/-!
# SHA-256

The digest of a byte sequence: the message is padded to blocks of 64 bytes, each block is expanded to 64 words, and
64 rounds mix them into eight words of state.
-/

namespace CallIndex.Text

/-- The round constants: the first 32 bits of the fractional parts of the cube roots of the first 64 primes. -/
def roundConstants : Array UInt32 := #[
  0x428a2f98, 0x71374491, 0xb5c0fbcf, 0xe9b5dba5, 0x3956c25b, 0x59f111f1, 0x923f82a4, 0xab1c5ed5,
  0xd807aa98, 0x12835b01, 0x243185be, 0x550c7dc3, 0x72be5d74, 0x80deb1fe, 0x9bdc06a7, 0xc19bf174,
  0xe49b69c1, 0xefbe4786, 0x0fc19dc6, 0x240ca1cc, 0x2de92c6f, 0x4a7484aa, 0x5cb0a9dc, 0x76f988da,
  0x983e5152, 0xa831c66d, 0xb00327c8, 0xbf597fc7, 0xc6e00bf3, 0xd5a79147, 0x06ca6351, 0x14292967,
  0x27b70a85, 0x2e1b2138, 0x4d2c6dfc, 0x53380d13, 0x650a7354, 0x766a0abb, 0x81c2c92e, 0x92722c85,
  0xa2bfe8a1, 0xa81a664b, 0xc24b8b70, 0xc76c51a3, 0xd192e819, 0xd6990624, 0xf40e3585, 0x106aa070,
  0x19a4c116, 0x1e376c08, 0x2748774c, 0x34b0bcb5, 0x391c0cb3, 0x4ed8aa4a, 0x5b9cca4f, 0x682e6ff3,
  0x748f82ee, 0x78a5636f, 0x84c87814, 0x8cc70208, 0x90befffa, 0xa4506ceb, 0xbef9a3f7, 0xc67178f2]

/-- The eight words of state. -/
structure DigestState where
  a : UInt32 := 0x6a09e667
  b : UInt32 := 0xbb67ae85
  c : UInt32 := 0x3c6ef372
  d : UInt32 := 0xa54ff53a
  e : UInt32 := 0x510e527f
  f : UInt32 := 0x9b05688c
  g : UInt32 := 0x1f83d9ab
  h : UInt32 := 0x5be0cd19

/-- Rotation to the right. -/
def rotateRight (x : UInt32) (n : UInt32) : UInt32 :=
  (x >>> n) ||| (x <<< (32 - n))

/-- The message with a one bit, zeros, and its length in bits as eight bytes behind it. -/
def padMessage (bytes : ByteArray) : Array UInt8 :=
  let length := bytes.size
  let zeros := (119 - length % 64) % 64
  let bits := length * 8
  let tail := (List.range 8).map fun i => (bits >>> (8 * (7 - i))).toUInt8
  bytes.data ++ #[0x80] ++ Array.replicate zeros 0 ++ tail.toArray

/-- The word that starts at byte `i`. -/
def wordAt (message : Array UInt8) (i : Nat) : UInt32 :=
  let byte := fun k => (message.getD (i + k) 0).toUInt32
  (byte 0 <<< 24) ||| (byte 1 <<< 16) ||| (byte 2 <<< 8) ||| byte 3

/-- The 64 words of the block that starts at byte `start`. -/
def schedule (message : Array UInt8) (start : Nat) : Array UInt32 :=
  let first := (Array.range 16).map fun i => wordAt message (start + 4 * i)
  (List.range 48).foldl (fun w i =>
    let back := fun k => w.getD (i + 16 - k) 0
    let s0 := rotateRight (back 15) 7 ^^^ rotateRight (back 15) 18 ^^^ (back 15 >>> 3)
    let s1 := rotateRight (back 2) 17 ^^^ rotateRight (back 2) 19 ^^^ (back 2 >>> 10)
    w.push (back 16 + s0 + back 7 + s1)) first

/-- One round. -/
def digestRound (s : DigestState) (k w : UInt32) : DigestState :=
  let s1 := rotateRight s.e 6 ^^^ rotateRight s.e 11 ^^^ rotateRight s.e 25
  let choice := (s.e &&& s.f) ^^^ (~~~s.e &&& s.g)
  let t1 := s.h + s1 + choice + k + w
  let s0 := rotateRight s.a 2 ^^^ rotateRight s.a 13 ^^^ rotateRight s.a 22
  let majority := (s.a &&& s.b) ^^^ (s.a &&& s.c) ^^^ (s.b &&& s.c)
  let t2 := s0 + majority
  ⟨t1 + t2, s.a, s.b, s.c, s.d + t1, s.e, s.f, s.g⟩

/-- The state behind one block. -/
def digestBlock (message : Array UInt8) (s : DigestState) (block : Nat) : DigestState :=
  let words := schedule message (64 * block)
  let r := (List.range 64).foldl (fun r i => digestRound r (roundConstants.getD i 0) (words.getD i 0)) s
  ⟨s.a + r.a, s.b + r.b, s.c + r.c, s.d + r.d, s.e + r.e, s.f + r.f, s.g + r.g, s.h + r.h⟩

/-- A word as eight hexadecimal digits. -/
def wordHex (w : UInt32) : String :=
  String.ofList ((List.range 8).map fun i => Nat.digitChar ((w >>> (4 * (7 - i)).toUInt32).toNat % 16))

/-- The SHA-256 digest in lower-case hexadecimal digits. -/
def sha256Hex (bytes : ByteArray) : String :=
  let message := padMessage bytes
  let s := (List.range (message.size / 64)).foldl (digestBlock message) {}
  String.join ([s.a, s.b, s.c, s.d, s.e, s.f, s.g, s.h].map wordHex)

end CallIndex.Text
