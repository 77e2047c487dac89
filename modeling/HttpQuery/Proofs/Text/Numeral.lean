import HttpQuery.Proofs.Text.Lowercase
import HttpQuery.Text.Digits
import HttpQuery.Text.Numeral
import Mathlib.Algebra.Group.Nat.Defs

/-! # Decimal numerals

The value of a decimal numeral is read if it fits: the values of its first parts are no larger than
that of the whole, so none of them is refused on the way. Apart from one plus sign in front, nothing
else is read.

* `IsDecimal`, `decimalValue`: decimal numerals, and their values.
* `IsNumeral64`, `readNumeral_eq_ok_iff`: the texts that are read, and what is read.
* `readNumeral_of_isDecimal`: the numerals among them.
* `Overflows`, `BreaksOff`: the two ways in which digits are not read to their end.
* `readNumeral_eq_tooLarge_iff`, `readNumeral_eq_invalidDigit_iff`: why a text is not read.
* `lowercase_of_isDecimal`: a numeral is its own lower-case form. -/

namespace HttpQuery.Text

/-- The value of a list of decimal digits. -/
def decimalValue (digits : List Char) : Nat :=
  ofDigits 10 (digits.map fun c => c.toNat - '0'.toNat)

/-- **A decimal numeral**: one or more ASCII digits. -/
def IsDecimal (text : List Char) : Prop := text ≠ [] ∧ ∀ c ∈ text, c.isDigit = true

instance (text : List Char) : Decidable (IsDecimal text) :=
  decidable_of_iff (text ≠ [] ∧ text.all Char.isDigit = true)
    (and_congr_right fun _ => List.all_eq_true)

variable {c : Char} {text : List Char} {value : Nat}

theorem ascii_of_isDigit (h : c.isDigit = true) : c.toNat < 128 := by
  have hle : c.toNat ≤ '9'.toNat := by
    simp only [Char.isDigit, Bool.and_eq_true, decide_eq_true_eq] at h
    exact UInt32.le_iff_toNat_le.1 h.2
  exact Nat.lt_of_le_of_lt hle (by decide)

theorem digitValue?_of_isDigit (h : c.isDigit = true) :
    digitValue? c = some (c.toNat - '0'.toNat) :=
  if_pos h

theorem le_foldl_digits (digits : List Nat) :
    value ≤ digits.foldl (fun n d => n * 10 + d) value := by
  induction digits generalizing value with
  | nil => exact Nat.le_refl _
  | cons d digits ih =>
    have hrest : value * 10 + d ≤ digits.foldl (fun n d => n * 10 + d) (value * 10 + d) := ih
    rw [List.foldl_cons]
    omega

/-- **Digits are read** if the value of all of them fits. -/
theorem readDigits_of_isDigit (h : ∀ c ∈ text, c.isDigit = true)
    (hlt : (text.map fun c => c.toNat - '0'.toNat).foldl (fun n d => n * 10 + d) value < 2 ^ 64) :
    readDigits value text =
      .ok ((text.map fun c => c.toNat - '0'.toNat).foldl (fun n d => n * 10 + d) value) := by
  induction text generalizing value with
  | nil => rfl
  | cons c text ih =>
    rw [List.map_cons, List.foldl_cons] at hlt ⊢
    -- The value so far is no larger than that of all digits, so it fits as well.
    have hfirst := Nat.lt_of_le_of_lt (le_foldl_digits _) hlt
    have hstep : readDigits value (c :: text) =
        readDigits (value * 10 + (c.toNat - '0'.toNat)) text := by
      rw [readDigits, digitValue?_of_isDigit (h c List.mem_cons_self)]
      exact if_pos hfirst
    rw [hstep]
    exact ih (fun d hd => h d (List.mem_cons_of_mem c hd)) hlt

/-! ### All texts that are read -/

/-- A text without a plus sign in front. -/
def dropPlus : List Char → List Char
  | '+' :: text => text
  | text => text

/-- **A numeral of 64 bits**: behind at most one plus sign, a decimal numeral whose value fits. -/
def IsNumeral64 (text : List Char) : Prop :=
  IsDecimal (dropPlus text) ∧ decimalValue (dropPlus text) < 2 ^ 64

instance (text : List Char) : Decidable (IsNumeral64 text) := inferInstanceAs (Decidable (_ ∧ _))

theorem isDigit_of_digitValue? {d : Nat} (h : digitValue? c = some d) : c.isDigit = true := by
  unfold digitValue? at h
  split at h
  · assumption
  · cases h

/-- What is read of digits is their value. -/
theorem readDigits_eq_ok_iff {n : Nat} (hvalue : value < 2 ^ 64) :
    readDigits value text = .ok n ↔
      (∀ c ∈ text, c.isDigit = true) ∧ n < 2 ^ 64 ∧
        n = (text.map fun c => c.toNat - '0'.toNat).foldl (fun n d => n * 10 + d) value := by
  refine ⟨fun h => ?_, ?_⟩
  · induction text generalizing value with
    | nil =>
      obtain rfl : value = n := Except.ok.inj h
      exact ⟨nofun, hvalue, rfl⟩
    | cons c text ih =>
      unfold readDigits at h
      split at h
      · cases h
      · next d hd =>
        have hdigit := isDigit_of_digitValue? hd
        obtain rfl := Option.some.inj (hd.symm.trans (digitValue?_of_isDigit hdigit))
        split at h
        · next hfits =>
          obtain ⟨hdigits, hlt, hn⟩ := ih hfits h
          exact ⟨List.forall_mem_cons.2 ⟨hdigit, hdigits⟩, hlt, hn⟩
        · cases h
  · rintro ⟨hdigits, hlt, rfl⟩
    exact readDigits_of_isDigit hdigits hlt

theorem readNumeral_of_dropPlus (h : dropPlus text ≠ []) :
    readNumeral text = readDigits 0 (dropPlus text) := by
  unfold readNumeral
  split
  · exact absurd rfl h
  · exact absurd rfl h
  · rfl
  · next hplus =>
    rw [dropPlus]
    exact hplus

theorem readNumeral_ne_ok_of_dropPlus (h : dropPlus text = []) (n : Nat) :
    readNumeral text ≠ .ok n := by
  unfold dropPlus at h
  split at h
  · rw [h]; nofun
  · rw [h]; nofun

/-- **The texts that are read** are the numerals of 64 bits, each with its value. -/
theorem readNumeral_eq_ok_iff {n : Nat} :
    readNumeral text = .ok n ↔ IsNumeral64 text ∧ n = decimalValue (dropPlus text) := by
  by_cases h : dropPlus text = []
  · exact iff_of_false (readNumeral_ne_ok_of_dropPlus h n) fun hnumeral => hnumeral.1.1.1 h
  · rw [readNumeral_of_dropPlus h, readDigits_eq_ok_iff (by decide)]
    constructor
    · rintro ⟨hdigits, hlt, rfl⟩
      exact ⟨⟨⟨h, hdigits⟩, hlt⟩, rfl⟩
    · rintro ⟨⟨hdecimal, hlt⟩, rfl⟩
      exact ⟨hdecimal.2, hlt, rfl⟩

theorem dropPlus_of_isDecimal (h : IsDecimal text) : dropPlus text = text := by
  unfold dropPlus
  split
  · exact absurd (h.2 '+' List.mem_cons_self) (by decide)
  · rfl

/-- **Decimal numerals are read** if their value fits. -/
theorem readNumeral_of_isDecimal (h : IsDecimal text) (hlt : decimalValue text < 2 ^ 64) :
    readNumeral text = .ok (decimalValue text) := by
  rw [readNumeral_eq_ok_iff, IsNumeral64, dropPlus_of_isDecimal h]
  exact ⟨⟨h, hlt⟩, rfl⟩

/-- A decimal numeral is its own lower-case form. -/
theorem lowercase_of_isDecimal (h : IsDecimal text) : lowercase text = text := by
  have hdigit : ∀ c ∈ text, c.toLower = c := by
    intro c hc
    have hd := h.2 c hc
    exact of_ascii (fun c => c.isDigit = true → c.toLower = c) (by decide) (ascii_of_isDigit hd) hd
  rw [lowercase, lowercaseFrom_of_ascii fun c hc => ascii_of_isDigit (h.2 c hc)]
  rw [List.map_congr_left hdigit, List.map_id']

/-! ### Why a text is not read -/

/-- **Digits that do not fit**: behind the digits `done` the text goes on with digits, and the value
of all of them is too large. -/
def Overflows (done text : List Char) : Prop :=
  ∃ digits rest, text = digits ++ rest ∧ (∀ d ∈ digits, d.isDigit = true) ∧
    2 ^ 64 ≤ decimalValue (done ++ digits)

/-- **Digits that break off**: behind the digits `done` the text goes on with digits that still fit,
and then comes a character that is no digit. -/
def BreaksOff (done text : List Char) : Prop :=
  ∃ digits c rest, text = digits ++ c :: rest ∧ (∀ d ∈ digits, d.isDigit = true) ∧
    decimalValue (done ++ digits) < 2 ^ 64 ∧ c.isDigit = false

variable {done : List Char}

theorem decimalValue_append (digits more : List Char) :
    decimalValue (digits ++ more) =
      (more.map fun c => c.toNat - '0'.toNat).foldl (fun n d => n * 10 + d)
        (decimalValue digits) := by
  rw [decimalValue, ofDigits, List.map_append, List.foldl_append]
  rfl

/-- The value grows with the digits. -/
theorem decimalValue_le_append (digits more : List Char) :
    decimalValue digits ≤ decimalValue (digits ++ more) := by
  rw [decimalValue_append]
  exact le_foldl_digits _

theorem overflows_nil (h : decimalValue done < 2 ^ 64) : ¬Overflows done [] := by
  rintro ⟨digits, rest, htext, -, hlarge⟩
  obtain ⟨rfl, -⟩ := List.append_eq_nil_iff.1 htext.symm
  rw [List.append_nil] at hlarge
  omega

theorem overflows_cons_iff (h : decimalValue done < 2 ^ 64) :
    Overflows done (c :: text) ↔ c.isDigit = true ∧ Overflows (done ++ [c]) text := by
  constructor
  · rintro ⟨digits, rest, htext, hdigits, hlarge⟩
    -- The digits before `c` fit, so `c` is one of those that do not.
    cases digits with
    | nil =>
      rw [List.append_nil] at hlarge
      omega
    | cons d digits =>
      obtain ⟨rfl, rfl⟩ := List.cons.inj htext
      obtain ⟨hd, hdigits⟩ := List.forall_mem_cons.1 hdigits
      exact ⟨hd, digits, rest, rfl, hdigits, by rwa [List.append_assoc]⟩
  · rintro ⟨hc, digits, rest, rfl, hdigits, hlarge⟩
    exact ⟨c :: digits, rest, rfl, List.forall_mem_cons.2 ⟨hc, hdigits⟩,
      by rwa [List.append_assoc] at hlarge⟩

/-- Digits that do not fit never fit again. -/
theorem overflows_of_le (h : 2 ^ 64 ≤ decimalValue done) (text : List Char) :
    Overflows done text :=
  ⟨[], text, rfl, nofun, by rwa [List.append_nil]⟩

theorem breaksOff_nil : ¬BreaksOff done [] := by
  rintro ⟨digits, c, rest, htext, -⟩
  exact List.cons_ne_nil c rest (List.append_eq_nil_iff.1 htext.symm).2

theorem breaksOff_cons_iff (h : decimalValue done < 2 ^ 64) :
    BreaksOff done (c :: text) ↔
      c.isDigit = false ∨ c.isDigit = true ∧ BreaksOff (done ++ [c]) text := by
  constructor
  · rintro ⟨digits, b, rest, htext, hdigits, hfits, hb⟩
    cases digits with
    | nil =>
      obtain ⟨rfl, -⟩ := List.cons.inj htext
      exact .inl hb
    | cons d digits =>
      obtain ⟨rfl, rfl⟩ := List.cons.inj htext
      obtain ⟨hd, hdigits⟩ := List.forall_mem_cons.1 hdigits
      exact .inr ⟨hd, digits, b, rest, rfl, hdigits, by rwa [List.append_assoc], hb⟩
  · rintro (hc | ⟨hc, digits, b, rest, rfl, hdigits, hfits, hb⟩)
    · exact ⟨[], c, text, rfl, nofun, by rwa [List.append_nil], hc⟩
    · exact ⟨c :: digits, b, rest, rfl, List.forall_mem_cons.2 ⟨hc, hdigits⟩,
        by rwa [List.append_assoc] at hfits, hb⟩

/-- Digits that do not fit cannot break off any more. -/
theorem not_breaksOff_of_le (h : 2 ^ 64 ≤ decimalValue done) : ¬BreaksOff done text := by
  rintro ⟨digits, c, rest, -, -, hfits, -⟩
  have hgrows := decimalValue_le_append done digits
  omega

/-- One step of the reading: the value so far is that of the digits already read. -/
theorem readDigits_cons (done : List Char) (c : Char) (text : List Char) :
    readDigits (decimalValue done) (c :: text) =
      if c.isDigit = true then
        if decimalValue (done ++ [c]) < 2 ^ 64 then readDigits (decimalValue (done ++ [c])) text
        else .error .tooLarge
      else .error .invalidDigit := by
  have hnext : decimalValue (done ++ [c]) = decimalValue done * 10 + (c.toNat - '0'.toNat) :=
    decimalValue_append done [c]
  rw [readDigits, hnext]
  by_cases hc : c.isDigit = true
  · rw [digitValue?_of_isDigit hc, if_pos hc]
    rfl
  · have hnone : digitValue? c = none := by
      cases hd : digitValue? c with
      | none => rfl
      | some d => exact absurd (isDigit_of_digitValue? hd) hc
    rw [hnone, if_neg hc]

/-- **Digits are refused as too large** exactly if they do not fit, whatever comes behind them. -/
theorem readDigits_eq_tooLarge_iff (h : decimalValue done < 2 ^ 64) :
    readDigits (decimalValue done) text = .error .tooLarge ↔ Overflows done text := by
  induction text generalizing done with
  | nil => exact iff_of_false nofun (overflows_nil h)
  | cons c text ih =>
    rw [readDigits_cons, overflows_cons_iff h]
    split
    · next hc =>
      split
      · next hfits => rw [ih hfits, and_iff_right hc]
      · next hlarge => exact iff_of_true rfl ⟨hc, overflows_of_le (Nat.not_lt.1 hlarge) text⟩
    · next hc => exact iff_of_false nofun fun hboth => hc hboth.1

/-- **A character is refused** exactly if the digits before it fit and it is no digit. -/
theorem readDigits_eq_invalidDigit_iff (h : decimalValue done < 2 ^ 64) :
    readDigits (decimalValue done) text = .error .invalidDigit ↔ BreaksOff done text := by
  induction text generalizing done with
  | nil => exact iff_of_false nofun breaksOff_nil
  | cons c text ih =>
    rw [readDigits_cons, breaksOff_cons_iff h]
    split
    · next hc =>
      split
      · next hfits =>
        rw [ih hfits]
        simp [hc]
      · next hlarge => simp [hc, not_breaksOff_of_le (Nat.not_lt.1 hlarge)]
    · next hc => exact iff_of_true rfl (.inl (Bool.eq_false_iff.2 hc))

/-- Digits are never empty for the one who reads them. -/
theorem readDigits_ne_empty (value : Nat) (text : List Char) :
    readDigits value text ≠ .error .empty := by
  induction text generalizing value with
  | nil => nofun
  | cons c text ih =>
    unfold readDigits
    split
    · nofun
    · split
      · exact ih _
      · nofun

theorem dropPlus_eq_nil_iff : dropPlus text = [] ↔ text = [] ∨ text = ['+'] := by
  unfold dropPlus
  split
  · simp
  · next hplus =>
    refine ⟨.inl, fun h => h.resolve_right ?_⟩
    rintro rfl
    exact hplus [] rfl

/-- **The empty text is no numeral.** -/
theorem readNumeral_eq_empty_iff : readNumeral text = .error .empty ↔ text = [] := by
  by_cases h : dropPlus text = []
  · rcases dropPlus_eq_nil_iff.1 h with rfl | rfl <;> simp [readNumeral]
  · rw [readNumeral_of_dropPlus h]
    refine iff_of_false (readDigits_ne_empty 0 _) ?_
    rintro rfl
    exact h rfl

theorem decimalValue_nil_lt : decimalValue [] < 2 ^ 64 := by decide

/-- **A text is refused as too large** if its digits do not fit. -/
theorem readNumeral_eq_tooLarge_iff :
    readNumeral text = .error .tooLarge ↔ Overflows [] (dropPlus text) := by
  by_cases h : dropPlus text = []
  · rw [h]
    refine iff_of_false ?_ (overflows_nil decimalValue_nil_lt)
    rcases dropPlus_eq_nil_iff.1 h with rfl | rfl <;> nofun
  · rw [readNumeral_of_dropPlus h]
    exact readDigits_eq_tooLarge_iff decimalValue_nil_lt

/-- **A character of a text is refused** if it is a lone plus sign, or is no digit and the digits
before it fit. -/
theorem readNumeral_eq_invalidDigit_iff :
    readNumeral text = .error .invalidDigit ↔ text = ['+'] ∨ BreaksOff [] (dropPlus text) := by
  by_cases h : dropPlus text = []
  · rw [h, or_iff_left breaksOff_nil]
    rcases dropPlus_eq_nil_iff.1 h with rfl | rfl <;> simp [readNumeral]
  · rw [readNumeral_of_dropPlus h, or_iff_right]
    · exact readDigits_eq_invalidDigit_iff decimalValue_nil_lt
    · rintro rfl
      exact h rfl

/-- A minus sign in front is no digit. -/
theorem breaksOff_of_minus (h : text.head? = some '-') : BreaksOff [] (dropPlus text) := by
  obtain ⟨rest, rfl⟩ := List.head?_eq_some_iff.1 h
  exact ⟨[], '-', rest, rfl, nofun, by decide, by decide⟩

end HttpQuery.Text
