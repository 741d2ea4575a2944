import CallIndex.Proofs.WorkspaceRuns
import Mathlib.Data.List.Infix

/-!
# Repair of bytes

The bytes of a file are cut into units (`Segments`): encoded characters, and maximal subparts of what is no character.
Both are told by the encoding of characters alone.  The decoder goes by a table of first bytes and of the ranges behind
them; it finds these units, and there is no other way to cut the bytes.

* `utf8EncodeChar_payload`, `follows_of_utf8EncodeChar`: the table holds the encoded characters and nothing else.
* `segments_iff`: decoding finds the units of the bytes.
* `isValidUTF8_iff`: bytes are valid exactly if all their units are characters.
* `Segments.replacement_mem_iff`: the replacement character is a unit wherever its bytes occur.
* `read_reports_repair`: what is read from a file, and when a repair is reported.
-/

namespace CallIndex.Text.Utf8

open String (utf8EncodeChar)

/-! ### First bytes and the bytes behind them -/

/-- The table of first bytes, by the number of bytes that follow. -/
private theorem leadRange_eq_some_iff {b lo hi n : Nat} : leadRange b = some (lo, hi, n) ↔
    (n = 1 ∧ 0xc2 ≤ b ∧ b ≤ 0xdf ∧ lo = 0x80 ∧ hi = 0xbf) ∨
    (n = 2 ∧ 0xe0 ≤ b ∧ b ≤ 0xef ∧ (b = 0xe0 ∧ lo = 0xa0 ∨ b ≠ 0xe0 ∧ lo = 0x80) ∧
      (b = 0xed ∧ hi = 0x9f ∨ b ≠ 0xed ∧ hi = 0xbf)) ∨
    (n = 3 ∧ 0xf0 ≤ b ∧ b ≤ 0xf4 ∧ (b = 0xf0 ∧ lo = 0x90 ∨ b ≠ 0xf0 ∧ lo = 0x80) ∧
      (b = 0xf4 ∧ hi = 0x8f ∨ b ≠ 0xf4 ∧ hi = 0xbf)) := by
  simp only [leadRange, Bool.and_eq_true, decide_eq_true_eq]
  split_ifs <;> simp only [Option.some.injEq, Prod.mk.injEq, false_iff] <;> omega

/-- These bytes may follow a first byte: `n` of them at most, the first between `lo` and `hi`. -/
def Follows : Nat → Nat → Nat → List UInt8 → Prop
  | _, _, _, [] => True
  | _, _, 0, _ :: _ => False
  | lo, hi, n + 1, b :: s => lo ≤ b.toNat ∧ b.toNat ≤ hi ∧ Follows 0x80 0xbf n s

@[simp] theorem follows_nil (lo hi n : Nat) : Follows lo hi n [] := by
  unfold Follows
  trivial

@[simp] theorem follows_cons {lo hi n : Nat} {b : UInt8} {s : List UInt8} :
    Follows lo hi (n + 1) (b :: s) ↔ lo ≤ b.toNat ∧ b.toNat ≤ hi ∧ Follows 0x80 0xbf n s := Iff.rfl

@[simp] theorem not_follows_zero {lo hi : Nat} {b : UInt8} {s : List UInt8} : ¬ Follows lo hi 0 (b :: s) := id

private theorem follows_of_isPrefix {lo hi n : Nat} {p s : List UInt8} (hp : p <+: s) (h : Follows lo hi n s) :
    Follows lo hi n p := by
  induction p generalizing lo hi n s with
  | nil => exact follows_nil _ _ _
  | cons b p ih =>
    obtain ⟨t, rfl⟩ := hp
    cases n with
    | zero => exact absurd h not_follows_zero
    | succ n =>
      obtain ⟨hlo, hhi, h⟩ := follows_cons.1 h
      exact follows_cons.2 ⟨hlo, hhi, ih (List.prefix_append p t) h⟩

/-- Bytes that may follow a first byte can be completed. -/
private theorem exists_follows {lo hi n : Nat} {s : List UInt8} (hlo : lo ≤ hi) (hhi : hi ≤ 0xbf)
    (h : Follows lo hi n s) : ∃ t, Follows lo hi n (s ++ t) ∧ (s ++ t).length = n := by
  induction n generalizing lo hi s with
  | zero =>
    cases s with
    | nil => exact ⟨[], follows_nil _ _ _, rfl⟩
    | cons b s => exact absurd h not_follows_zero
  | succ n ih =>
    cases s with
    | nil =>
      obtain ⟨t, ht, hlength⟩ := ih (by decide) (by decide) (follows_nil 0x80 0xbf n)
      have hb := UInt8.toNat_ofNat' (n := lo)
      refine ⟨UInt8.ofNat lo :: t, follows_cons.2 ⟨?_, ?_, ht⟩, congrArg (· + 1) hlength⟩
      all_goals omega
    | cons b s =>
      obtain ⟨hb, hb', hs⟩ := follows_cons.1 h
      obtain ⟨t, ht, hlength⟩ := ih (by decide) (by decide) hs
      exact ⟨t, follows_cons.2 ⟨hb, hb', ht⟩, congrArg (· + 1) hlength⟩

/-- The code of a character with these bytes behind the payload `value` of the first one. -/
def payload (value : Nat) (s : List UInt8) : Nat :=
  s.foldl (fun v b => v * 64 + (b.toNat - 0x80)) value

private theorem payload_cons (value : Nat) (b : UInt8) (s : List UInt8) :
    payload value (b :: s) = payload (value * 64 + (b.toNat - 0x80)) s := by
  rw [payload, List.foldl_cons, payload]

/-- What is read behind a first byte: all the bytes of a character, or as many as may follow. -/
private theorem more_cases (value lo hi n : Nat) (bytes : List UInt8) :
    ∃ s rest, bytes = s ++ rest ∧ Follows lo hi n s ∧
      (s.length = n ∧ more value lo hi n bytes = (.char (Char.ofNat (payload value s)), rest) ∨
       s.length < n ∧ more value lo hi n bytes = (.fault, rest) ∧ ∀ b ∈ rest.head?, ¬ Follows lo hi n (s ++ [b])) := by
  induction n generalizing value lo hi bytes with
  | zero => exact ⟨[], bytes, rfl, follows_nil _ _ _, .inl ⟨rfl, rfl⟩⟩
  | succ n ih =>
    cases bytes with
    | nil => exact ⟨[], [], rfl, follows_nil _ _ _, .inr ⟨Nat.succ_pos n, rfl, by simp⟩⟩
    | cons b bytes =>
      rw [more]
      by_cases hrange : lo ≤ b.toNat ∧ b.toNat ≤ hi
      · obtain ⟨s, rest, rfl, hs, hread⟩ := ih (value * 64 + (b.toNat - 0x80)) 0x80 0xbf bytes
        rw [if_pos (by simpa using hrange)]
        refine ⟨b :: s, rest, rfl, follows_cons.2 ⟨hrange.1, hrange.2, hs⟩, ?_⟩
        rw [payload_cons]
        rcases hread with ⟨hlength, hread⟩ | ⟨hlength, hread, hstop⟩
        · exact .inl ⟨congrArg (· + 1) hlength, hread⟩
        · exact .inr ⟨Nat.succ_lt_succ hlength, hread, fun d hd h => hstop d hd (follows_cons.1 h).2.2⟩
      · rw [if_neg (by simpa using hrange)]
        refine ⟨[], b :: bytes, rfl, follows_nil _ _ _, .inr ⟨Nat.succ_pos n, rfl, ?_⟩⟩
        intro d hd h
        cases hd
        obtain ⟨hlo, hhi, -⟩ := follows_cons.1 h
        exact hrange ⟨hlo, hhi⟩

/-! ### Encoded characters -/

private theorem toNat_val_ofNat {v : Nat} (h : v.isValidChar) : (Char.ofNat v).val.toNat = v := by
  rw [Char.ofNat, dif_pos h]
  rfl

private theorem utf8EncodeChar_ascii {b : UInt8} (h : b.toNat < 0x80) : utf8EncodeChar (Char.ofNat b.toNat) = [b] := by
  have hc := toNat_val_ofNat (show b.toNat.isValidChar by simp only [Nat.isValidChar]; omega)
  simp only [utf8EncodeChar, hc]
  rw [if_pos (by omega), UInt8.ofNat_toNat]

private theorem utf8EncodeChar_two {v : Nat} {b x : UInt8} (hv : v = (b.toNat - 0xc0) * 64 + (x.toNat - 0x80))
    (hb : 0xc2 ≤ b.toNat ∧ b.toNat ≤ 0xdf) (hx : 0x80 ≤ x.toNat ∧ x.toNat ≤ 0xbf) :
    utf8EncodeChar (Char.ofNat v) = [b, x] := by
  have hc : (Char.ofNat v).val.toNat = v := toNat_val_ofNat (by simp only [Nat.isValidChar]; omega)
  simp only [utf8EncodeChar, hc]
  rw [if_neg (by omega), if_pos (by omega)]
  simp only [List.cons.injEq, ← UInt8.toNat_inj, UInt8.toNat_ofNat', and_true]
  omega

private theorem utf8EncodeChar_three {v : Nat} {b x y : UInt8}
    (hv : v = ((b.toNat - 0xe0) * 64 + (x.toNat - 0x80)) * 64 + (y.toNat - 0x80))
    (hb : 0xe0 ≤ b.toNat ∧ b.toNat ≤ 0xef) (hx : 0x80 ≤ x.toNat ∧ x.toNat ≤ 0xbf)
    -- no longer than needed, and no surrogate
    (hspecial : (b.toNat = 0xe0 → 0xa0 ≤ x.toNat) ∧ (b.toNat = 0xed → x.toNat ≤ 0x9f))
    (hy : 0x80 ≤ y.toNat ∧ y.toNat ≤ 0xbf) :
    utf8EncodeChar (Char.ofNat v) = [b, x, y] := by
  have hc : (Char.ofNat v).val.toNat = v := toNat_val_ofNat (by simp only [Nat.isValidChar]; omega)
  simp only [utf8EncodeChar, hc]
  rw [if_neg (by omega), if_neg (by omega), if_pos (by omega)]
  simp only [List.cons.injEq, ← UInt8.toNat_inj, UInt8.toNat_ofNat', and_true]
  omega

private theorem utf8EncodeChar_four {v : Nat} {b x y z : UInt8}
    (hv : v = (((b.toNat - 0xf0) * 64 + (x.toNat - 0x80)) * 64 + (y.toNat - 0x80)) * 64 + (z.toNat - 0x80))
    (hb : 0xf0 ≤ b.toNat ∧ b.toNat ≤ 0xf4) (hx : 0x80 ≤ x.toNat ∧ x.toNat ≤ 0xbf)
    -- no longer than needed, and not behind the last code
    (hspecial : (b.toNat = 0xf0 → 0x90 ≤ x.toNat) ∧ (b.toNat = 0xf4 → x.toNat ≤ 0x8f))
    (hy : 0x80 ≤ y.toNat ∧ y.toNat ≤ 0xbf) (hz : 0x80 ≤ z.toNat ∧ z.toNat ≤ 0xbf) :
    utf8EncodeChar (Char.ofNat v) = [b, x, y, z] := by
  have hc : (Char.ofNat v).val.toNat = v := toNat_val_ofNat (by simp only [Nat.isValidChar]; omega)
  simp only [utf8EncodeChar, hc]
  rw [if_neg (by omega), if_neg (by omega), if_neg (by omega)]
  simp only [List.cons.injEq, ← UInt8.toNat_inj, UInt8.toNat_ofNat', and_true]
  omega

/-- A first byte of the table and all the bytes that follow encode a character. -/
theorem utf8EncodeChar_payload {b : UInt8} {lo hi n : Nat} {s : List UInt8}
    (hlead : leadRange b.toNat = some (lo, hi, n)) (hs : Follows lo hi n s) (hlength : s.length = n) :
    utf8EncodeChar (Char.ofNat (payload (leadBits b.toNat n) s)) = b :: s := by
  rcases leadRange_eq_some_iff.1 hlead with ⟨rfl, hrow⟩ | ⟨rfl, hrow⟩ | ⟨rfl, hrow⟩
  · obtain ⟨x, rfl⟩ := List.length_eq_one_iff.1 hlength
    obtain ⟨hx, hx', -⟩ := follows_cons.1 hs
    exact utf8EncodeChar_two rfl (by omega) (by omega)
  · obtain ⟨x, y, rfl⟩ := List.length_eq_two.1 hlength
    obtain ⟨hx, hx', hs⟩ := follows_cons.1 hs
    obtain ⟨hy, hy', -⟩ := follows_cons.1 hs
    exact utf8EncodeChar_three rfl (by omega) (by omega) (by omega) (by omega)
  · obtain ⟨x, y, z, rfl⟩ := List.length_eq_three.1 hlength
    obtain ⟨hx, hx', hs⟩ := follows_cons.1 hs
    obtain ⟨hy, hy', hs⟩ := follows_cons.1 hs
    obtain ⟨hz, hz', -⟩ := follows_cons.1 hs
    exact utf8EncodeChar_four rfl (by omega) (by omega) (by omega) (by omega) (by omega)

private theorem exists_bound (b k special usual : Nat) : ∃ bound, b = k ∧ bound = special ∨ b ≠ k ∧ bound = usual := by
  by_cases h : b = k
  · exact ⟨special, .inl ⟨h, rfl⟩⟩
  · exact ⟨usual, .inr ⟨h, rfl⟩⟩

/-- A character is encoded by one byte, or by a first byte of the table and the bytes that follow. -/
theorem follows_of_utf8EncodeChar {c : Char} {b : UInt8} {s : List UInt8} (h : utf8EncodeChar c = b :: s) :
    (b.toNat < 0x80 ∧ s = []) ∨
      ∃ lo hi, leadRange b.toNat = some (lo, hi, s.length) ∧ Follows lo hi s.length s := by
  have hvalid : c.val.toNat.isValidChar := c.valid
  simp only [Nat.isValidChar] at hvalid
  simp only [utf8EncodeChar] at h
  generalize c.val.toNat = v at h hvalid
  split_ifs at h with hone htwo hthree
  · cases h
    left
    rw [UInt8.toNat_ofNat']
    exact ⟨by omega, rfl⟩
  · cases h
    have hb := UInt8.toNat_ofNat' (n := v / 64 % 0x20 + 0xc0)
    have hx := UInt8.toNat_ofNat' (n := v % 0x40 + 0x80)
    right
    refine ⟨0x80, 0xbf, leadRange_eq_some_iff.2 (.inl ⟨rfl, ?_⟩), follows_cons.2 ⟨?_, ?_, follows_nil _ _ _⟩⟩
    all_goals omega
  · cases h
    have hb := UInt8.toNat_ofNat' (n := v / 4096 % 0x10 + 0xe0)
    have hx := UInt8.toNat_ofNat' (n := v / 64 % 0x40 + 0x80)
    have hy := UInt8.toNat_ofNat' (n := v % 0x40 + 0x80)
    obtain ⟨lo, hlo⟩ := exists_bound (UInt8.ofNat (v / 4096 % 0x10 + 0xe0)).toNat 0xe0 0xa0 0x80
    obtain ⟨hi, hhi⟩ := exists_bound (UInt8.ofNat (v / 4096 % 0x10 + 0xe0)).toNat 0xed 0x9f 0xbf
    right
    refine ⟨lo, hi, leadRange_eq_some_iff.2 (.inr (.inl ⟨rfl, ?_, ?_, hlo, hhi⟩)),
      follows_cons.2 ⟨?_, ?_, follows_cons.2 ⟨?_, ?_, follows_nil _ _ _⟩⟩⟩
    all_goals omega
  · cases h
    have hb := UInt8.toNat_ofNat' (n := v / 262144 % 0x08 + 0xf0)
    have hx := UInt8.toNat_ofNat' (n := v / 4096 % 0x40 + 0x80)
    have hy := UInt8.toNat_ofNat' (n := v / 64 % 0x40 + 0x80)
    have hz := UInt8.toNat_ofNat' (n := v % 0x40 + 0x80)
    obtain ⟨lo, hlo⟩ := exists_bound (UInt8.ofNat (v / 262144 % 0x08 + 0xf0)).toNat 0xf0 0x90 0x80
    obtain ⟨hi, hhi⟩ := exists_bound (UInt8.ofNat (v / 262144 % 0x08 + 0xf0)).toNat 0xf4 0x8f 0xbf
    right
    refine ⟨lo, hi, leadRange_eq_some_iff.2 (.inr (.inr ⟨rfl, ?_, ?_, hlo, hhi⟩)),
      follows_cons.2 ⟨?_, ?_, follows_cons.2 ⟨?_, ?_, follows_cons.2 ⟨?_, ?_, follows_nil _ _ _⟩⟩⟩⟩
    all_goals omega

private theorem exists_cons_utf8EncodeChar (c : Char) : ∃ b s, utf8EncodeChar c = b :: s := by
  apply List.exists_cons_of_length_pos
  rw [String.length_utf8EncodeChar]
  exact c.utf8Size_pos

/-- No encoding of a character is the beginning of another one. -/
private theorem utf8EncodeChar_append_inj {c c' : Char} {rest rest' : List UInt8}
    (h : utf8EncodeChar c ++ rest = utf8EncodeChar c' ++ rest') : c = c' ∧ rest = rest' := by
  have hbytes := congrArg (fun bytes : List UInt8 => bytes.toByteArray.utf8DecodeChar? 0) h
  simp only [List.toByteArray_append, ByteArray.utf8DecodeChar?_utf8EncodeChar_append, Option.some.injEq] at hbytes
  subst hbytes
  exact ⟨rfl, List.append_cancel_left h⟩

/-! ### Maximal subparts -/

/-- Some character begins with these bytes. -/
def BeginsCharacter (p : List UInt8) : Prop :=
  ∃ c, p <+: utf8EncodeChar c

private theorem beginsCharacter_cons_iff {b : UInt8} {s : List UInt8} :
    BeginsCharacter (b :: s) ↔
      (b.toNat < 0x80 ∧ s = []) ∨ ∃ lo hi n, leadRange b.toNat = some (lo, hi, n) ∧ Follows lo hi n s := by
  constructor
  · rintro ⟨c, t, ht⟩
    rcases follows_of_utf8EncodeChar ht.symm with ⟨hb, hs⟩ | ⟨lo, hi, hlead, hs⟩
    · exact .inl ⟨hb, (List.append_eq_nil_iff.1 hs).1⟩
    · exact .inr ⟨lo, hi, _, hlead, follows_of_isPrefix (List.prefix_append s t) hs⟩
  · rintro (⟨hb, rfl⟩ | ⟨lo, hi, n, hlead, hs⟩)
    · exact ⟨_, by rw [utf8EncodeChar_ascii hb]⟩
    · have hrow := leadRange_eq_some_iff.1 hlead
      obtain ⟨t, ht, hlength⟩ := exists_follows (by omega) (by omega) hs
      exact ⟨_, t, (utf8EncodeChar_payload hlead ht hlength).symm⟩

/-- Bytes at the front of others that are no character, cut as long as they could still become one. -/
structure MaximalSubpart (part rest : List UInt8) : Prop where
  ne_nil : part ≠ []
  /-- No character stands there. -/
  unconvertible : ∀ c, ¬ utf8EncodeChar c <+: part ++ rest
  begins : BeginsCharacter part ∨ part.length = 1
  longest : ∀ p, p <+: part ++ rest → BeginsCharacter p → p.length ≤ part.length

/-- There is one maximal subpart at the front of the bytes. -/
private theorem MaximalSubpart.unique {part part' rest rest' : List UInt8} (h : MaximalSubpart part rest)
    (h' : MaximalSubpart part' rest') (heq : part ++ rest = part' ++ rest') : part = part' ∧ rest = rest' := by
  have hle : ∀ {p r p' r' : List UInt8}, MaximalSubpart p r → MaximalSubpart p' r' → p ++ r = p' ++ r' →
      p.length ≤ p'.length := by
    intro p r p' r' hp hp' heq
    rcases hp.begins with hbegins | hone
    · exact hp'.longest p (heq ▸ List.prefix_append p r) hbegins
    · rw [hone]
      exact List.length_pos_of_ne_nil hp'.ne_nil
  exact List.append_inj heq (Nat.le_antisymm (hle h h' heq) (hle h' h heq.symm))

/-- Where the next byte may not follow, nothing longer may. -/
private theorem length_le_of_stop {lo hi n : Nat} {p s rest : List UInt8}
    (hstop : ∀ d ∈ rest.head?, ¬ Follows lo hi n (s ++ [d])) (hp : p <+: s ++ rest) (h : Follows lo hi n p) :
    p.length ≤ s.length := by
  by_contra hlength
  cases rest with
  | nil =>
    rw [List.append_nil] at hp
    exact hlength hp.length_le
  | cons d rest =>
    have hd : s ++ [d] <+: p := List.prefix_of_prefix_length_le ⟨rest, by simp⟩ hp (by simp; omega)
    exact hstop d rfl (follows_of_isPrefix hd h)

private theorem maximalSubpart_cons {b : UInt8} {s rest : List UInt8} (hb : ¬ b.toNat < 0x80)
    (hbegins : BeginsCharacter (b :: s) ∨ s = [])
    (hlong : ∀ lo hi n, leadRange b.toNat = some (lo, hi, n) →
      s.length < n ∧ ∀ p, p <+: s ++ rest → Follows lo hi n p → p.length ≤ s.length) :
    MaximalSubpart (b :: s) rest where
  ne_nil := by simp
  unconvertible := by
    intro c hc
    obtain ⟨b', s', hencode⟩ := exists_cons_utf8EncodeChar c
    rw [hencode, List.cons_append, List.cons_prefix_cons] at hc
    obtain ⟨rfl, hs'⟩ := hc
    rcases follows_of_utf8EncodeChar hencode with ⟨hascii, -⟩ | ⟨lo, hi, hlead, hfollows⟩
    · exact hb hascii
    · obtain ⟨hlt, hle⟩ := hlong _ _ _ hlead
      exact absurd (hle s' hs' hfollows) (by omega)
  begins := hbegins.imp_right fun hs => by rw [hs]; rfl
  longest := by
    intro p hp hstarts
    cases p with
    | nil => exact Nat.zero_le _
    | cons b' p =>
      rw [List.cons_append, List.cons_prefix_cons] at hp
      obtain ⟨rfl, hp⟩ := hp
      rcases beginsCharacter_cons_iff.1 hstarts with ⟨hascii, -⟩ | ⟨lo, hi, n, hlead, hfollows⟩
      · exact absurd hascii hb
      · exact Nat.succ_le_succ ((hlong _ _ _ hlead).2 p hp hfollows)

/-- One unit: a character is read, or a maximal subpart. -/
private theorem decodeOne_cases (b : UInt8) (bytes : List UInt8) :
    (∃ c rest, decodeOne b bytes = (.char c, rest) ∧ b :: bytes = utf8EncodeChar c ++ rest) ∨
      ∃ part rest, decodeOne b bytes = (.fault, rest) ∧ b :: bytes = part ++ rest ∧ MaximalSubpart part rest := by
  rw [decodeOne]
  by_cases hascii : b.toNat < 0x80
  · rw [if_pos hascii]
    exact .inl ⟨_, _, rfl, by rw [utf8EncodeChar_ascii hascii]; rfl⟩
  · rw [if_neg hascii]
    cases hlead : leadRange b.toNat with
    | none =>
      -- no character starts with the byte, which is a maximal subpart by itself
      refine .inr ⟨[b], bytes, rfl, rfl, maximalSubpart_cons hascii (.inr rfl) ?_⟩
      intro lo hi n hrow
      rw [hlead] at hrow
      cases hrow
    | some row =>
      obtain ⟨lo, hi, n⟩ := row
      obtain ⟨s, rest, rfl, hs, ⟨hlength, hread⟩ | ⟨hlength, hread, hstop⟩⟩ :=
        more_cases (leadBits b.toNat n) lo hi n bytes
      · exact .inl ⟨_, rest, hread, by rw [utf8EncodeChar_payload hlead hs hlength]; rfl⟩
      · refine .inr ⟨b :: s, rest, hread, rfl, maximalSubpart_cons hascii
          (.inl (beginsCharacter_cons_iff.2 (.inr ⟨lo, hi, n, hlead, hs⟩))) ?_⟩
        intro lo' hi' n' hrow
        rw [hlead] at hrow
        cases hrow
        exact ⟨hlength, fun p hp => length_le_of_stop hstop hp⟩

private theorem decodeOne_of_char {b : UInt8} {bytes rest : List UInt8} {c : Char}
    (h : b :: bytes = utf8EncodeChar c ++ rest) : decodeOne b bytes = (.char c, rest) := by
  rcases decodeOne_cases b bytes with ⟨c', rest', hdecode, heq⟩ | ⟨part, rest', -, heq, hmaximal⟩
  · obtain ⟨rfl, rfl⟩ := utf8EncodeChar_append_inj (h.symm.trans heq)
    exact hdecode
  · exact absurd ⟨rest, h.symm.trans heq⟩ (hmaximal.unconvertible c)

private theorem decodeOne_of_maximalSubpart {b : UInt8} {bytes part rest : List UInt8}
    (hmaximal : MaximalSubpart part rest) (h : b :: bytes = part ++ rest) : decodeOne b bytes = (.fault, rest) := by
  rcases decodeOne_cases b bytes with ⟨c, rest', -, heq⟩ | ⟨part', rest', hdecode, heq, hmaximal'⟩
  · exact absurd ⟨rest', heq.symm.trans h⟩ (hmaximal.unconvertible c)
  · obtain ⟨rfl, rfl⟩ := hmaximal.unique hmaximal' (h.symm.trans heq)
    exact hdecode

/-! ### Units -/

/-- Bytes in units: encoded characters, and maximal subparts of what is no character. -/
inductive Segments : List UInt8 → List Decoded → Prop
  | nil : Segments [] []
  | char (c : Char) {rest : List UInt8} {units : List Decoded} (hrest : Segments rest units) :
      Segments (utf8EncodeChar c ++ rest) (.char c :: units)
  | fault {part rest : List UInt8} {units : List Decoded} (hpart : MaximalSubpart part rest)
      (hrest : Segments rest units) : Segments (part ++ rest) (.fault :: units)

private theorem Segments.decodeOnto_eq {bytes : List UInt8} {units : List Decoded} (h : Segments bytes units)
    (before : List Decoded) : decodeOnto before bytes = before.reverse ++ units := by
  induction h generalizing before with
  | nil => simp [decodeOnto]
  | @char c rest units _ ih =>
    obtain ⟨b, s, hencode⟩ := exists_cons_utf8EncodeChar c
    have hone : decodeOne b (s ++ rest) = (.char c, rest) := decodeOne_of_char (by rw [hencode]; rfl)
    rw [hencode, List.cons_append, decodeOnto, hone, ih]
    simp
  | @fault part rest units hpart _ ih =>
    obtain ⟨b, s, rfl⟩ := List.exists_cons_of_ne_nil hpart.ne_nil
    have hone : decodeOne b (s ++ rest) = (.fault, rest) := decodeOne_of_maximalSubpart hpart rfl
    rw [List.cons_append, decodeOnto, hone, ih]
    simp

private theorem exists_segments (bytes : List UInt8) : ∃ units, Segments bytes units := by
  induction hn : bytes.length using Nat.strong_induction_on generalizing bytes with
  | _ n ih =>
    subst hn
    cases bytes with
    | nil => exact ⟨[], .nil⟩
    | cons b bytes =>
      have hlt : (decodeOne b bytes).2.length < (b :: bytes).length := Nat.lt_succ_of_le (length_decodeOne_le b bytes)
      obtain ⟨units, hunits⟩ := ih _ hlt _ rfl
      rcases decodeOne_cases b bytes with ⟨c, rest, hdecode, heq⟩ | ⟨part, rest, hdecode, heq, hmaximal⟩
      · rw [hdecode] at hunits
        rw [heq]
        exact ⟨_, .char c hunits⟩
      · rw [hdecode] at hunits
        rw [heq]
        exact ⟨_, .fault hmaximal hunits⟩

/-- Decoding finds the units of the bytes, and there is one way only to cut the bytes into units. -/
theorem segments_iff {bytes : List UInt8} {units : List Decoded} : Segments bytes units ↔ units = decode bytes := by
  have heq : ∀ {units}, Segments bytes units → units = decode bytes := fun h => (h.decodeOnto_eq []).symm
  constructor
  · exact heq
  · rintro rfl
    obtain ⟨units, hunits⟩ := exists_segments bytes
    exact heq hunits ▸ hunits

/-! ### Valid bytes -/

private theorem segments_flatMap (cs : List Char) : Segments (cs.flatMap utf8EncodeChar) (cs.map .char) := by
  induction cs with
  | nil => exact .nil
  | cons c cs ih => exact .char c ih

private theorem Segments.exists_chars {bytes : List UInt8} {units : List Decoded} (h : Segments bytes units)
    (hfault : .fault ∉ units) : ∃ cs : List Char, bytes = cs.flatMap utf8EncodeChar := by
  induction h with
  | nil => exact ⟨[], rfl⟩
  | char c _ ih =>
    obtain ⟨cs, rfl⟩ := ih fun hmem => hfault (by simp [hmem])
    exact ⟨c :: cs, rfl⟩
  | fault _ _ _ => exact absurd (by simp) hfault

/-- Bytes are valid exactly if all their units are characters. -/
theorem isValidUTF8_iff {bytes : ByteArray} : bytes.IsValidUTF8 ↔ .fault ∉ decode bytes.data.toList := by
  constructor
  · rintro ⟨cs, rfl⟩
    rw [List.utf8Encode, List.data_toByteArray, List.toList_toArray, ← segments_iff.1 (segments_flatMap cs)]
    simp
  · intro hfault
    obtain ⟨cs, hcs⟩ := (segments_iff.2 rfl).exists_chars hfault
    refine ⟨cs, ByteArray.ext ?_⟩
    rw [List.utf8Encode, List.data_toByteArray, ← hcs, Array.toArray_toList]

/-! ### The replacement character -/

private theorem utf8EncodeChar_replacement : utf8EncodeChar replacement = replacementBytes := by decide

private theorem Follows.toNat_le {lo hi n : Nat} {s : List UInt8} (hhi : hi ≤ 0xbf) (h : Follows lo hi n s) :
    ∀ b ∈ s, b.toNat ≤ 0xbf := by
  induction s generalizing lo hi n with
  | nil => simp
  | cons b s ih =>
    cases n with
    | zero => exact absurd h not_follows_zero
    | succ n =>
      obtain ⟨-, hb, hs⟩ := follows_cons.1 h
      exact List.forall_mem_cons.2 ⟨hb.trans hhi, ih (by decide) hs⟩

private theorem BeginsCharacter.notMem {b : UInt8} {s : List UInt8} (h : BeginsCharacter (b :: s)) : 0xef ∉ s := by
  rcases beginsCharacter_cons_iff.1 h with ⟨-, rfl⟩ | ⟨lo, hi, n, hlead, hs⟩
  · simp
  · have hrow := leadRange_eq_some_iff.1 hlead
    intro hmem
    exact absurd (hs.toNat_le (by omega) _ hmem) (by decide)

private theorem replacementBytes_infix {s rest : List UInt8} (hs : 0xef ∉ s) :
    replacementBytes <:+: s ++ rest ↔ replacementBytes <:+: rest := by
  induction s with
  | nil => rfl
  | cons b s ih =>
    have hb : (0xef : UInt8) ≠ b := fun h => hs (by simp [h])
    rw [List.cons_append, List.infix_cons_iff, ih fun h => hs (by simp [h])]
    simp [replacementBytes, List.cons_prefix_cons, hb]

private theorem replacementBytes_infix_cons {b : UInt8} {s rest : List UInt8} (hs : 0xef ∉ s) :
    replacementBytes <:+: b :: s ++ rest ↔ replacementBytes <+: b :: s ++ rest ∨ replacementBytes <:+: rest := by
  rw [List.cons_append, List.infix_cons_iff, replacementBytes_infix hs]

/-- The replacement character is among the units exactly if its bytes stand somewhere: no other unit can hold or cut
them. -/
theorem Segments.replacement_mem_iff {bytes : List UInt8} {units : List Decoded} (h : Segments bytes units) :
    .char replacement ∈ units ↔ replacementBytes <:+: bytes := by
  induction h with
  | nil => simp [replacementBytes]
  | @char c rest units _ ih =>
    obtain ⟨b, s, hencode⟩ := exists_cons_utf8EncodeChar c
    have hs : 0xef ∉ s := BeginsCharacter.notMem ⟨c, by rw [hencode]⟩
    have hfront : replacementBytes <+: b :: s ++ rest ↔ replacement = c := by
      rw [← hencode, ← utf8EncodeChar_replacement]
      constructor
      · rintro ⟨tail, htail⟩
        exact (utf8EncodeChar_append_inj htail).1
      · rintro rfl
        exact List.prefix_append _ _
    rw [hencode, replacementBytes_infix_cons hs, hfront, ← ih, List.mem_cons, Decoded.char.injEq]
  | @fault part rest units hpart _ ih =>
    obtain ⟨b, s, rfl⟩ := List.exists_cons_of_ne_nil hpart.ne_nil
    have hs : 0xef ∉ s := by
      rcases hpart.begins with hbegins | hone
      · exact hbegins.notMem
      · rw [List.length_eq_zero_iff.1 (Nat.succ.inj hone)]
        simp
    have hfront : ¬ replacementBytes <+: b :: s ++ rest := by
      rw [← utf8EncodeChar_replacement]
      exact hpart.unconvertible replacement
    rw [replacementBytes_infix_cons hs, ← ih, List.mem_cons]
    simp only [hfront, false_or, reduceCtorEq]

private theorem occursIn_iff {pattern bytes : List UInt8} : occursIn pattern bytes = true ↔ pattern <:+: bytes := by
  induction bytes with
  | nil => rw [occursIn, List.isEmpty_iff, List.infix_nil]
  | cons b bytes ih => rw [occursIn, Bool.or_eq_true, List.isPrefixOf_iff_prefix, ih, List.infix_cons_iff]

/-- The text holds the replacement character for every fault, and wherever it was written. -/
private theorem replacement_mem_repair {units : List Decoded} :
    replacement ∈ repair units ↔ .fault ∈ units ∨ .char replacement ∈ units := by
  induction units with
  | nil => simp [repair]
  | cons unit units ih =>
    rw [repair, List.map_cons, List.mem_cons, ← repair, ih, List.mem_cons, List.mem_cons]
    cases unit with
    | fault => simp
    | char c =>
      simp only [reduceCtorEq, false_or, Decoded.char.injEq]
      exact or_left_comm

/-- A repair is noted exactly if the bytes are not valid and those of the replacement character do not occur. -/
private theorem isNoteworthy_decode {bytes : ByteArray} :
    isNoteworthy bytes.data.toList (repair (decode bytes.data.toList)) = true ↔
      ¬ bytes.IsValidUTF8 ∧ ¬ replacementBytes <:+: bytes.data.toList := by
  rw [isNoteworthy, Bool.and_eq_true, List.contains_iff_mem, replacement_mem_repair, Bool.not_eq_true', Bool.eq_false_iff,
    ne_eq, occursIn_iff, isValidUTF8_iff, not_not, (segments_iff.2 rfl).replacement_mem_iff]
  constructor
  · rintro ⟨hfault | hwritten, hnone⟩
    · exact ⟨hfault, hnone⟩
    · exact absurd hwritten hnone
  · rintro ⟨hfault, hnone⟩
    exact ⟨.inl hfault, hnone⟩

end CallIndex.Text.Utf8

namespace CallIndex.Workspace

open Text.Utf8

/-- The text of a readable file is that of its bytes, with the replacement character for each maximal subpart that is no
character.  The repair is reported exactly if the bytes are not valid and those of the replacement character do not
occur among them. -/
theorem read_reports_repair {ws : Workspace} {t : FileTree} {key : String} {bytes : ByteArray}
    (hsources : ws.sources = .tree t) (hfile : t.status (Path.ofString key).parts = .file bytes)
    (hsize : bytes.size ≤ ws.settings.maxFileSize) :
    ∃ units, Segments bytes.data.toList units ∧ (∀ units', Segments bytes.data.toList units' → units' = units) ∧
      (¬ bytes.IsValidUTF8 ∧ ¬ replacementBytes <:+: bytes.data.toList →
        (readSource key).run ws =
          (.ok (String.ofList (repair units)), ws.logged [key ++ ": undecodable bytes replaced"])) ∧
      (bytes.IsValidUTF8 ∨ replacementBytes <:+: bytes.data.toList →
        (readSource key).run ws = (.ok (String.ofList (repair units)), ws)) := by
  have hread : ws.read key = .ok ⟨String.ofList (repair (decode bytes.data.toList)),
      isNoteworthy bytes.data.toList (repair (decode bytes.data.toList))⟩ := by
    rw [read, hsources, Sources.read, hfile]
    simp [Nat.not_lt.2 hsize]
  rw [run_readSource, hread]
  refine ⟨decode bytes.data.toList, segments_iff.2 rfl, fun units' => segments_iff.1, fun hnoted => ?_,
    fun hquiet => ?_⟩
  · rw [isNoteworthy_decode.2 hnoted]
    rfl
  · have hquiet' : isNoteworthy bytes.data.toList (repair (decode bytes.data.toList)) = false := by
      rw [Bool.eq_false_iff, ne_eq, isNoteworthy_decode]
      rintro ⟨hinvalid, hnone⟩
      exact hquiet.elim hinvalid hnone
    rw [hquiet']
    simp [readingNotes, logged]

/-- A comment with a replacement character and a byte that belongs to none. -/
def mixedBytes : ByteArray := ⟨#[0x23, 0xef, 0xbf, 0xbd, 0xff, 0x0a]⟩

/-- A workspace whose only file is that comment. -/
def mixedSource : Workspace :=
  { sources := .tree { files := [(["a.py"], mixedBytes)] } }

private theorem decode_mixedBytes :
    decode mixedBytes.data.toList = [.char '#', .char replacement, .fault, .char '\n'] := by
  decide +kernel

/-- The repaired byte goes unreported, as the file has a replacement character of its own. -/
theorem mixed_source_not_reported :
    ¬ mixedBytes.IsValidUTF8 ∧ (readSource "/a.py").run mixedSource = (.ok "#\ufffd\ufffd\n", mixedSource) := by
  have hfile : FileTree.status { files := [(["a.py"], mixedBytes)] } (Path.ofString "/a.py").parts =
      .file mixedBytes := rfl
  have hsize : mixedBytes.size ≤ mixedSource.settings.maxFileSize := by decide
  obtain ⟨units, hunits, -, -, hquiet⟩ := read_reports_repair rfl hfile hsize
  obtain rfl := segments_iff.1 hunits
  rw [isValidUTF8_iff, decode_mixedBytes]
  refine ⟨by simp, ?_⟩
  rw [hquiet (.inr ⟨[0x23], [0xff, 0x0a], rfl⟩), decode_mixedBytes]
  rfl

end CallIndex.Workspace
