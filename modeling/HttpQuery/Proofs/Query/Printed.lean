import HttpQuery.Proofs.Query.Gaps
import Mathlib.Data.List.Forall2

/-! # Printed tokens

A token is *printed* as a field: a reserved word as it is spelled, and a value in single quotes or,
where it would be read as the same value without them, as it is. The fields are joined with gaps
between them, in any order and whether or not a grammar takes them. They are read back as the tokens
that were printed, their values lower-cased. A value with a comma at an end has no printed form:
even in quotes it is not read as one token.

* `Bare`: the values that need no quotes.
* `Printed`, `Joined`: the printed forms of a token, and of a list of fields.
* `Printed.ofField_eq`: one printed token is read back.
* `inQuotes`, `tokenize_inQuotes_iff`: the values that can be printed in quotes.
* `tokenize_printed`: printed tokens are read back. -/

namespace HttpQuery

open Text

/-! ### Printed forms -/

/-- **A value that needs no quotes**: it is not empty, no quote at an end is taken off, and it is no
reserved word or symbol when it is lower-cased. -/
structure Bare (text : List Char) : Prop where
  ne_nil : text ≠ []
  head_ne : text.head? ≠ some singleQuote
  last_ne : text.getLast? ≠ some singleQuote
  not_reserved : Kind.ofWord? (lowercase text) = none

instance (text : List Char) : Decidable (Bare text) :=
  decidable_of_iff (text ≠ [] ∧ text.head? ≠ some singleQuote ∧
      text.getLast? ≠ some singleQuote ∧ Kind.ofWord? (lowercase text) = none)
    ⟨fun h => ⟨h.1, h.2.1, h.2.2.1, h.2.2.2⟩,
      fun h => ⟨h.ne_nil, h.head_ne, h.last_ne, h.not_reserved⟩⟩

/-- **The ways to print a token.** -/
inductive Printed : Token → List Char → Prop where
  /-- A reserved word as it is spelled. -/
  | word {kind : Kind} (hkind : kind ∈ Kind.reserved) : Printed (.reserved kind) kind.word.toList
  /-- A value in single quotes. -/
  | quoted {value : String} (h : Writable value.toList) :
      Printed (.text value) (quoted value.toList)
  /-- A value without quotes. -/
  | bare {value : String} (h : Writable value.toList) (hbare : Bare value.toList) :
      Printed (.text value) value.toList

/-- **Fields that are joined to a text**: each after a gap, and a last gap. A gap may be empty only
where no field stands before it, or none after it. -/
inductive Joined : List (List Char) → List Char → Prop where
  | done {gap : List Char} (hgap : gap.all isBlank = true) : Joined [] gap
  | field {field gap rest : List Char} {others : List (List Char)}
      (hgap : gap.all isBlank = true) (hend : endsField rest = true) (hrest : Joined others rest) :
      Joined (field :: others) (gap ++ (field ++ rest))

variable {token : Token} {tokens : List Token} {field text : List Char}
  {printed : List (List Char)}

/-! ### Reading one field -/

/-- **The token of a value without quotes.** -/
theorem ofField_lowercase_bare (h : Writable text) (hbare : Bare text) :
    Token.ofField (lowercase text) = [.text (String.ofList (lowercase text))] := by
  have hhead : (lowercase text).head? ≠ some singleQuote :=
    mt isMark_singleQuote.head?_lowercase_iff.1 hbare.head_ne
  have hlast : (lowercase text).getLast? ≠ some singleQuote :=
    mt isMark_singleQuote.getLast?_lowercase_iff.1 hbare.last_ne
  have hunquote : unquote (lowercase text) = lowercase text := unquote_eq_self hhead hlast
  rw [Token.ofField, hbare.not_reserved]
  simp only [hunquote]
  exact ofListed_of_writable h.lowercase

theorem map_toLower_word : ∀ kind ∈ Kind.reserved,
    kind.word.toList.map Char.toLower = kind.word.toList := by decide

/-- A printed token is a field. -/
theorem Printed.isField (h : Printed token field) :
    field ≠ [] ∧ ∀ c ∈ field, isBlank c = false := by
  cases h with
  | @word kind hkind => exact ⟨word_ne_nil kind hkind, fun c hc => (mem_word hkind hc).2.1⟩
  | quoted h => exact ⟨quoted_ne_nil _, h.quoted_not_blank⟩
  | bare h hbare => exact ⟨hbare.ne_nil, h.not_blank⟩

/-- **A printed token is read back**, its value lower-cased. -/
theorem Printed.ofField_eq (h : Printed token field) :
    Token.ofField (lowercase field) = [token.mapText lowerText] := by
  cases h with
  | @word kind hkind =>
    rw [Token.mapText_reserved hkind]
    exact ofField_lowercase_word hkind (map_toLower_word kind hkind)
  | quoted h => exact ofField_lowercase_quoted h
  | bare h hbare => exact ofField_lowercase_bare h hbare

/-! ### Reading the whole text -/

/-- **Joined fields are the fields of the text.** -/
theorem Joined.fields_eq (h : Joined printed text)
    (hfields : ∀ field ∈ printed, field ≠ [] ∧ ∀ c ∈ field, isBlank c = false) :
    fields text = printed := by
  induction h with
  | @done gap hgap =>
    have hend : fields (gap ++ []) = fields [] := fields_gap hgap
    rwa [List.append_nil] at hend
  | @field field gap rest others hgap hend hrest ih =>
    obtain ⟨⟨hne, hblank⟩, hothers⟩ := List.forall_mem_cons.1 hfields
    rw [fields_gap hgap, fields_field hne hblank hend, ih hothers]

/-- The fields of printed tokens are read back one by one. -/
theorem flatMap_ofField_printed (h : List.Forall₂ Printed tokens printed) :
    (printed.flatMap fun field => Token.ofField (lowercase field)) =
      tokens.map (Token.mapText lowerText) := by
  induction h with
  | nil => rfl
  | cons hfield _ ih => rw [List.flatMap_cons, hfield.ofField_eq, ih]; rfl

theorem isField_of_mem_printed (h : List.Forall₂ Printed tokens printed) :
    ∀ field ∈ printed, field ≠ [] ∧ ∀ c ∈ field, isBlank c = false := by
  induction h with
  | nil => exact List.forall_mem_nil _
  | cons hfield _ ih => exact List.forall_mem_cons.2 ⟨hfield.isField, ih⟩

/-! ### What can be printed in quotes -/

/-- A value in single quotes. -/
def inQuotes (value : String) : String := "'" ++ value ++ "'"

theorem toList_inQuotes (value : String) : (inQuotes value).toList = quoted value.toList := by
  rw [inQuotes, String.toList_append, String.toList_append]
  rfl

/-- **A value in quotes is read as one token** exactly where it has no comma at an end. -/
theorem tokenize_inQuotes_iff {value : String} (h : ∀ c ∈ value.toList, isBlank c = false) :
    tokenize (inQuotes value) = [.text (lowerText value)] ↔
      value.toList.head? ≠ some ',' ∧ value.toList.getLast? ≠ some ',' := by
  have hne : (inQuotes value).toList ≠ [] := by
    rw [toList_inQuotes]
    exact quoted_ne_nil _
  have hblank : ∀ c ∈ (inQuotes value).toList, isBlank c = false := by
    rw [toList_inQuotes]
    exact quoted_not_blank h
  rw [tokenize_field hne hblank, toList_inQuotes, lowercase_quoted, Token.ofField, ofWord?_quoted]
  simp only [unquote_quoted]
  rw [ofListed_eq_singleton_iff]
  -- The commas at the ends of the value are those of its lower-case form.
  have htoken : Token.text (lowerText value) = .value (lowercase value.toList) := rfl
  rw [Ne, Ne, isMark_comma.head?_lowercase_iff, isMark_comma.getLast?_lowercase_iff]
  exact and_congr_right fun _ => and_iff_left htoken

/-- **Printed tokens are read back.** Whatever tokens are printed and joined, they are the tokens of
the text, their values lower-cased; and a value in quotes is read as one token only if it neither
starts nor ends with a comma. -/
theorem tokenize_printed (tokens : List Token) (printed : List (List Char)) (query value : String)
    (hprinted : List.Forall₂ Printed tokens printed) (hjoined : Joined printed query.toList)
    (hvalue : ∀ c ∈ value.toList, isBlank c = false) :
    tokenize query = tokens.map (Token.mapText lowerText) ∧
      (tokenize (inQuotes value) = [.text (lowerText value)] ↔
        value.toList.head? ≠ some ',' ∧ value.toList.getLast? ≠ some ',') := by
  refine ⟨?_, tokenize_inQuotes_iff hvalue⟩
  rw [tokenize_eq_flatMap, hjoined.fields_eq (isField_of_mem_printed hprinted)]
  exact flatMap_ofField_printed hprinted

/-- Tokens in an order that no grammar takes. The values are a reserved word, two quotes, nothing,
and a text with a quote and an equals sign inside. -/
def scrambledTokens : List Token :=
  [.reserved .comma, .text "From", .reserved .equal, .text "''", .text "", .text "ΑΣ='Σ"]

/-- These tokens printed, all but the last value in quotes. -/
def scrambledFields : List (List Char) :=
  [[','], quoted "From".toList, ['='], quoted "''".toList, quoted [], "ΑΣ='Σ".toList]

/-- These fields joined. -/
def scrambledText : String := ", 'From' =\t'''' ''  ΑΣ='Σ "

theorem joined_scrambled : Joined scrambledFields scrambledText.toList := by
  have htext : scrambledText.toList =
      [] ++ ([','] ++ ([' '] ++ (quoted "From".toList ++ ([' '] ++ (['='] ++ (['\t'] ++
      (quoted "''".toList ++ ([' '] ++ (quoted [] ++ ([' ', ' '] ++
      ("ΑΣ='Σ".toList ++ [' ']))))))))))) := by
    decide
  rw [htext]
  exact
    .field (by decide) (by decide) <| .field (by decide) (by decide) <|
    .field (by decide) (by decide) <| .field (by decide) (by decide) <|
    .field (by decide) (by decide) <| .field (by decide) (by decide) <|
    .done (by decide)

/-- They are read back; and a value that ends with a comma is not read as one token. -/
theorem tokenize_scrambled :
    List.Forall₂ Printed scrambledTokens scrambledFields ∧
      Joined scrambledFields scrambledText.toList ∧
      (∀ c ∈ "a,".toList, isBlank c = false) ∧
      tokenize scrambledText = [.reserved .comma, .text "from", .reserved .equal, .text "''",
        .text "", .text "ας='σ"] ∧
      (tokenize (inQuotes "a,") = [.text (lowerText "a,")] ↔
        "a,".toList.head? ≠ some ',' ∧ "a,".toList.getLast? ≠ some ',') := by
  have hprinted : List.Forall₂ Printed scrambledTokens scrambledFields :=
    .cons (.word (by decide)) <| .cons (.quoted (by decide)) <| .cons (.word (by decide)) <|
    .cons (.quoted (by decide)) <| .cons (.quoted (by decide)) <|
    .cons (.bare (by decide) (by decide +kernel)) .nil
  have hvalue : ∀ c ∈ ['a', ','], isBlank c = false :=
    List.forall_mem_cons.2 ⟨by decide, List.forall_mem_singleton.2 (by decide)⟩
  have hlower : scrambledTokens.map (Token.mapText lowerText) = [.reserved .comma, .text "from",
      .reserved .equal, .text "''", .text "", .text "ας='σ"] := by
    decide +kernel
  have hread := tokenize_printed scrambledTokens scrambledFields scrambledText "a," hprinted
    joined_scrambled hvalue
  rw [hlower] at hread
  exact ⟨hprinted, joined_scrambled, hvalue, hread⟩

end HttpQuery
