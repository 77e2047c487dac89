import HttpQuery.Proofs.Text.Fields
import HttpQuery.Query.Command
import HttpQuery.Query.Tokenize

/-! # The tokens of a field

A reserved word may be written in any letter case, and a value in single quotes. The quotes are
case-ignorable, so they hide neither the end of a word nor a letter from the text between them, and
no reserved word starts with one.

* `ofField_lowercase_word`: the token of a reserved word.
* `ofField_lowercase_quoted`: the token of a value in quotes. -/

namespace HttpQuery

open Text

/-! ### Reserved words -/

theorem word_ne_nil : ∀ kind ∈ Kind.reserved, kind.word.toList ≠ [] := by decide

theorem ofWord?_word : ∀ kind ∈ Kind.reserved, Kind.ofWord? kind.word.toList = some kind := by
  decide

/-- A character whose ASCII lower-case form is ASCII is ASCII. -/
theorem ascii_of_toLower {c : Char} (h : c.toLower.toNat < 128) : c.toNat < 128 := by
  unfold Char.toLower at h
  split at h
  · next hcapital =>
    have hle : c.toNat ≤ 'Z'.toNat := UInt32.le_iff_toNat_le.1 hcapital.2
    exact Nat.lt_of_le_of_lt hle (by decide)
  · exact h

/-- The letter case of an ASCII character does not make it a blank. -/
theorem isBlank_toLower {c : Char} (h : c.toNat < 128) : isBlank c.toLower = isBlank c :=
  of_ascii (fun c => isBlank c.toLower = isBlank c) (by decide) h

variable {kind : Kind} {field text : List Char}

/-- A field is read to its own tokens only. -/
theorem flatMap_ofField_of_not_blank (hne : text ≠ []) (h : ∀ c ∈ text, isBlank c = false) :
    (fields (lowercase text)).flatMap Token.ofField = Token.ofField (lowercase text) := by
  rw [fields_lowercase_of_not_blank hne h, List.flatMap_singleton]

/-- The spelling of a reserved word: ASCII characters without blanks and percent signs. -/
theorem mem_word (hkind : kind ∈ Kind.reserved) {c : Char} (hc : c ∈ kind.word.toList) :
    c.toNat < 128 ∧ isBlank c = false ∧ c ≠ '%' := by
  have hall : ∀ kind ∈ Kind.reserved, kind.word.toList.all (fun c =>
      decide (c.toNat < 128 ∧ isBlank c = false ∧ c ≠ '%')) = true := by
    decide
  exact of_decide_eq_true (List.all_eq_true.1 (hall kind hkind) c hc)

/-- A reserved word in any letter case: ASCII characters without blanks and percent signs. -/
theorem mem_field_of_word (hkind : kind ∈ Kind.reserved)
    (hfield : field.map Char.toLower = kind.word.toList) :
    ∀ c ∈ field, c.toNat < 128 ∧ isBlank c = false ∧ c ≠ '%' := by
  intro c hc
  have hmem : c.toLower ∈ kind.word.toList := by
    rw [← hfield]
    exact List.mem_map_of_mem hc
  obtain ⟨hascii, hblank, hpercent⟩ := mem_word hkind hmem
  have hc : c.toNat < 128 := ascii_of_toLower hascii
  refine ⟨hc, by rwa [← isBlank_toLower hc], ?_⟩
  rintro rfl
  exact hpercent rfl

/-- **The token of a reserved word** in any letter case. -/
theorem ofField_lowercase_word (hkind : kind ∈ Kind.reserved)
    (hfield : field.map Char.toLower = kind.word.toList) :
    Token.ofField (lowercase field) = [.reserved kind] := by
  have hascii : ∀ c ∈ field, c.toNat < 128 :=
    fun c hc => (mem_field_of_word hkind hfield c hc).1
  rw [lowercase, lowercaseFrom_of_ascii hascii, hfield, Token.ofField, ofWord?_word kind hkind]
  simp only [String.ofList_toList]
  rfl

/-! ### Values in quotes -/

/-- A text in single quotes. -/
def quoted (text : List Char) : List Char := singleQuote :: (text ++ [singleQuote])

/-- A text that can be written as a value: it has no blanks, and no comma at an end. -/
structure Writable (text : List Char) : Prop where
  not_blank : ∀ c ∈ text, isBlank c = false
  head_ne : text.head? ≠ some ','
  last_ne : text.getLast? ≠ some ','

instance (text : List Char) : Decidable (Writable text) :=
  decidable_of_iff (text.all (fun c => !isBlank c) = true ∧ text.head? ≠ some ',' ∧
      text.getLast? ≠ some ',')
    ⟨fun h => ⟨by simpa using h.1, h.2.1, h.2.2⟩,
      fun h => ⟨by simpa using h.not_blank, h.head_ne, h.last_ne⟩⟩

theorem quoted_ne_nil (text : List Char) : quoted text ≠ [] := List.cons_ne_nil _ _

/-- Quotes are no blanks. -/
theorem quoted_not_blank (h : ∀ c ∈ text, isBlank c = false) :
    ∀ c ∈ quoted text, isBlank c = false := by
  have hquote : isBlank singleQuote = false := by decide
  intro c hc
  have hmem : c = singleQuote ∨ c ∈ text := by simpa [quoted, or_comm] using hc
  rcases hmem with rfl | hmem
  · exact hquote
  · exact h c hmem

theorem Writable.quoted_not_blank (h : Writable text) : ∀ c ∈ quoted text, isBlank c = false :=
  HttpQuery.quoted_not_blank h.not_blank

theorem isMark_comma_and_singleQuote : IsMark ',' ∧ IsMark singleQuote := by decide +kernel

theorem isMark_comma : IsMark ',' := isMark_comma_and_singleQuote.1

theorem isMark_singleQuote : IsMark singleQuote := isMark_comma_and_singleQuote.2

/-- The lower-case form of a value can be written as one. -/
theorem Writable.lowercase (h : Writable text) : Writable (lowercase text) where
  not_blank := lowercase_not_blank h.not_blank
  head_ne := mt isMark_comma.head?_lowercase_iff.1 h.head_ne
  last_ne := mt isMark_comma.getLast?_lowercase_iff.1 h.last_ne

/-- A quoted text is lower-cased between its quotes. -/
theorem lowercase_quoted (text : List Char) :
    lowercase (quoted text) = quoted (Text.lowercase text) := by
  rw [quoted, isMark_singleQuote.lowercase_cons, isMark_singleQuote.lowercase_concat, quoted]

theorem withoutLeading_cons_self (mark : Char) (text : List Char) :
    withoutLeading mark (mark :: text) = text := if_pos rfl

theorem withoutLeading_eq_self {mark : Char} (h : text.head? ≠ some mark) :
    withoutLeading mark text = text := by
  cases text with
  | nil => rfl
  | cons c rest => exact if_neg fun hc => h (congrArg some hc)

theorem withoutTrailing_concat (mark : Char) (text : List Char) :
    withoutTrailing mark (text ++ [mark]) = text := by
  rw [withoutTrailing, if_pos List.getLast?_concat, List.dropLast_concat]

theorem withoutTrailing_eq_self {mark : Char} (h : text.getLast? ≠ some mark) :
    withoutTrailing mark text = text := if_neg h

theorem unquote_quoted (text : List Char) : unquote (quoted text) = text := by
  rw [unquote, quoted, withoutLeading_cons_self, withoutTrailing_concat]

/-- A text without quotes at its ends stays as it is. -/
theorem unquote_eq_self (hhead : text.head? ≠ some singleQuote)
    (hlast : text.getLast? ≠ some singleQuote) : unquote text = text := by
  rw [unquote, withoutLeading_eq_self hhead, withoutTrailing_eq_self hlast]

/-- No reserved word has a quote in it. -/
theorem ofWord?_of_mem (h : singleQuote ∈ text) : Kind.ofWord? text = none := by
  have hword : ∀ kind ∈ Kind.reserved, singleQuote ∉ kind.word.toList := by decide
  refine Kind.ofWord?_eq_none_iff.2 fun kind hkind heq => ?_
  rw [← heq] at h
  exact hword kind hkind h

theorem ofWord?_quoted (text : List Char) : Kind.ofWord? (quoted text) = none :=
  ofWord?_of_mem List.mem_cons_self

theorem ofTrailing_eq_singleton_iff {token : Token} :
    Token.ofTrailing text = [token] ↔ text.getLast? ≠ some ',' ∧ token = .value text := by
  unfold Token.ofTrailing
  split
  · next hlast => simp [hlast]
  · next hlast => simp [hlast, eq_comm]

/-- **One token is read** exactly where no comma stands at an end. -/
theorem ofListed_eq_singleton_iff {token : Token} :
    Token.ofListed text = [token] ↔
      text.head? ≠ some ',' ∧ text.getLast? ≠ some ',' ∧ token = .value text := by
  unfold Token.ofListed
  split
  · next rest =>
    -- The comma is a token, and what follows it is at least one more.
    have hmore : Token.ofTrailing rest ≠ [] := by
      unfold Token.ofTrailing
      split <;> simp
    simp [hmore]
  · next hhead =>
    have hhead : text.head? ≠ some ',' := by
      intro h
      obtain ⟨rest, rfl⟩ := List.head?_eq_some_iff.1 h
      exact hhead rest rfl
    rw [ofTrailing_eq_singleton_iff]
    simp [hhead]

theorem ofListed_of_writable (h : Writable text) : Token.ofListed text = [.value text] :=
  ofListed_eq_singleton_iff.2 ⟨h.head_ne, h.last_ne, rfl⟩

/-- **The token of a value in quotes.** -/
theorem ofField_lowercase_quoted (h : Writable text) :
    Token.ofField (lowercase (quoted text)) = [.text (String.ofList (Text.lowercase text))] := by
  rw [lowercase_quoted, Token.ofField, ofWord?_quoted]
  simp only [unquote_quoted]
  exact ofListed_of_writable h.lowercase

end HttpQuery
