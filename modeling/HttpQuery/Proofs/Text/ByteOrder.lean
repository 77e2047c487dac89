import HttpQuery.Text.Utf8
import Mathlib.Algebra.Group.Nat.Defs
import Mathlib.Order.Monotone.Basic

/-! # The order of texts and the order of their bytes

Texts are compared by their code points, and the bytes that are sent are compared byte by byte. Both
orders are the same: the bytes of a character are the digits of its code point to the base 64, the
highest first, and a longer sequence starts with a greater byte.

* `Before`: two lists of bytes that are in order whatever comes after them.
* `encodeChar_before`: the bytes of two characters in order.
* `utf8Bytes_lt_iff`: texts are in order exactly if their bytes are.
* `utf8Bytes_inj`: texts with the same bytes are the same. -/

namespace HttpQuery.Text

/-- **Bytes that come before others** whatever is appended to both. -/
def Before (low high : Bytes) : Prop := ∀ after rest : Bytes, low ++ after < high ++ rest

variable {x y : UInt8} {low high : Bytes}

theorem before_cons (h : x < y) (low high : Bytes) : Before (x :: low) (y :: high) :=
  fun _ _ => List.cons_lt_cons_iff.2 (.inl h)

theorem before_concat (shared : Bytes) (h : x < y) : Before (shared ++ [x]) (shared ++ [y]) := by
  intro after rest
  rw [List.append_assoc, List.append_assoc]
  exact List.append_left_lt (before_cons h [] [] after rest)

theorem Before.concat (h : Before low high) (x y : UInt8) : Before (low ++ [x]) (high ++ [y]) := by
  intro after rest
  rw [List.append_assoc, List.append_assoc]
  exact h ([x] ++ after) ([y] ++ rest)

/-! ### The bytes of a character -/

/-- A number as a first byte on top of `lead` and `n` further bytes, each a digit to the base 64. -/
def byteSequence (lead : Nat) : Nat → Nat → Bytes
  | 0, code => [.ofNat (lead + code)]
  | n + 1, code => byteSequence lead n (code / 64) ++ [.ofNat (0x80 + code % 64)]

theorem byteSequence_eq_cons (lead n code : Nat) :
    ∃ further, byteSequence lead n code = .ofNat (lead + code / 64 ^ n) :: further := by
  induction n generalizing code with
  | zero => exact ⟨[], by rw [pow_zero, Nat.div_one]; rfl⟩
  | succ n ih =>
    obtain ⟨further, hfurther⟩ := ih (code / 64)
    refine ⟨further ++ [.ofNat (0x80 + code % 64)], ?_⟩
    rw [byteSequence, hfurther, Nat.div_div_eq_div_mul, ← pow_succ', List.cons_append]

theorem ofNat_lt_ofNat {m n : Nat} (h : m < n) (hn : n < 256) : UInt8.ofNat m < UInt8.ofNat n :=
  (UInt8.ofNat_lt_iff_lt (Nat.lt_trans h hn) hn).2 h

/-- Sequences of one length are in the order of their numbers. -/
theorem byteSequence_before {lead n v w : Nat} (h : v < w) (hfits : lead + w / 64 ^ n < 256) :
    Before (byteSequence lead n v) (byteSequence lead n w) := by
  induction n generalizing v w with
  | zero =>
    rw [pow_zero, Nat.div_one] at hfits
    exact before_cons (ofNat_lt_ofNat (Nat.add_lt_add_left h lead) hfits) [] []
  | succ n ih =>
    rcases Nat.lt_or_eq_of_le (Nat.div_le_div_right (c := 64) h.le) with hhigh | hhigh
    · refine (ih hhigh ?_).concat _ _
      rwa [Nat.div_div_eq_div_mul, ← pow_succ']
    · -- The first parts are the same, so it is the last digit that differs.
      rw [byteSequence, byteSequence, hhigh]
      exact before_concat _ (ofNat_lt_ofNat (by omega) (by omega))

/-- The number of bytes of a code point after the first one. -/
def furtherBytes (code : Nat) : Nat :=
  if code ≤ 0x7F then 0 else if code ≤ 0x7FF then 1 else if code ≤ 0xFFFF then 2 else 3

/-- The least first byte before so many further bytes. -/
def leadByte : Nat → Nat
  | 0 => 0
  | 1 => 0xC0
  | 2 => 0xE0
  | 3 => 0xF0
  | _ => 0xF8

theorem leadByte_monotone : Monotone leadByte :=
  monotone_nat_of_le_succ fun n =>
    match n with
    | 0 | 1 | 2 | 3 => by decide
    | _ + 4 => Nat.le_refl 0xF8

theorem leadByte_le (n : Nat) : leadByte n ≤ 0xF8 := by
  unfold leadByte
  split <;> decide

theorem code_lt (c : Char) : c.toNat < 0x110000 := by
  have hvalid : c.toNat < 0xD800 ∨ 0xDFFF < c.toNat ∧ c.toNat < 0x110000 := c.valid
  omega

/-- **The bytes of a character** are the digits of its code point. -/
theorem encodeChar_eq (c : Char) :
    String.utf8EncodeChar c =
      byteSequence (leadByte (furtherBytes c.toNat)) (furtherBytes c.toNat) c.toNat := by
  have hlt := code_lt c
  unfold String.utf8EncodeChar furtherBytes
  rw [Char.toNat_val]
  dsimp only
  split_ifs <;> simp (disch := omega) [byteSequence, leadByte, Nat.div_div_eq_div_mul,
    Nat.mod_eq_of_lt, Nat.add_comm]

/-- The first byte of a character is less than those of the characters with more bytes. -/
theorem firstByte_lt {code : Nat} (h : code < 0x110000) :
    leadByte (furtherBytes code) + code / 64 ^ furtherBytes code <
      leadByte (furtherBytes code + 1) := by
  unfold furtherBytes
  split_ifs <;> simp only [leadByte] <;> omega

theorem furtherBytes_le {v w : Nat} (h : v < w) : furtherBytes v ≤ furtherBytes w := by
  unfold furtherBytes
  split_ifs <;> omega

/-- **The bytes of two characters in order** are in order. -/
theorem encodeChar_before {c d : Char} (h : c.toNat < d.toNat) :
    Before (String.utf8EncodeChar c) (String.utf8EncodeChar d) := by
  have hc := firstByte_lt (code_lt c)
  have hd := firstByte_lt (code_lt d)
  have hbyte := leadByte_le (furtherBytes d.toNat + 1)
  rw [encodeChar_eq, encodeChar_eq]
  rcases Nat.lt_or_eq_of_le (furtherBytes_le h) with hmore | hsame
  · obtain ⟨first, hfirst⟩ := byteSequence_eq_cons (leadByte (furtherBytes c.toNat))
      (furtherBytes c.toNat) c.toNat
    obtain ⟨second, hsecond⟩ := byteSequence_eq_cons (leadByte (furtherBytes d.toNat))
      (furtherBytes d.toNat) d.toNat
    have hlead : leadByte (furtherBytes c.toNat + 1) ≤ leadByte (furtherBytes d.toNat) :=
      leadByte_monotone hmore
    rw [hfirst, hsecond]
    refine before_cons (ofNat_lt_ofNat ?_ (by omega)) first second
    exact Nat.lt_of_lt_of_le hc (Nat.le_add_right_of_le hlead)
  · rw [hsame]
    exact byteSequence_before h (by omega)

/-! ### The bytes of a text -/

theorem flatMap_encodeChar_lt {s t : List Char} (h : s < t) :
    s.flatMap String.utf8EncodeChar < t.flatMap String.utf8EncodeChar := by
  induction h with
  | nil =>
    obtain ⟨byte, bytes, hbytes⟩ := List.exists_cons_of_ne_nil String.utf8EncodeChar_ne_nil
    rw [List.flatMap_cons, hbytes]
    exact List.nil_lt_cons _ _
  | rel h => exact encodeChar_before h _ _
  | cons h ih => exact List.append_left_lt ih

/-- **Texts are in order exactly if their bytes are.** -/
theorem utf8Bytes_lt_iff {s t : String} : utf8Bytes s < utf8Bytes t ↔ s < t := by
  refine ⟨fun h => ?_, fun h => flatMap_encodeChar_lt (String.lt_iff.1 h)⟩
  by_contra hnot
  by_cases heq : t = s
  · rw [heq] at h
    exact List.lt_irrefl _ h
  · have hlt : t < s := Std.lt_of_le_of_ne (String.not_lt.1 hnot) heq
    exact List.lt_asymm h (flatMap_encodeChar_lt (String.lt_iff.1 hlt))

theorem utf8Bytes_inj {s t : String} : utf8Bytes s = utf8Bytes t ↔ s = t := by
  refine ⟨fun h => ?_, fun h => congrArg utf8Bytes h⟩
  by_contra hne
  by_cases hlt : s < t
  · exact List.lt_irrefl _ (h ▸ utf8Bytes_lt_iff.2 hlt)
  · have hgt : t < s := Std.lt_of_le_of_ne (String.not_lt.1 hlt) (Ne.symm hne)
    exact List.lt_irrefl _ (h ▸ utf8Bytes_lt_iff.2 hgt)

end HttpQuery.Text
