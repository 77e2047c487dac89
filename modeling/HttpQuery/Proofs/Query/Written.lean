import HttpQuery.Proofs.Query.Placeholders
import HttpQuery.Proofs.Query.Tokens

/-! # Written queries

A list of tokens is *written* with blanks between its tokens, each reserved word in any letter case,
and each value in single quotes: as its text with the percent signs doubled, or as a placeholder
that takes the text from the arguments. Whatever is chosen, the query is bound and cut into these
tokens again, their values lower-cased.

* `Spelled`, `Written`: the ways to write one token, and a list of tokens.
* `Spelled.fills`: the field of one token, when its placeholder is filled.
* `Written.tokenize_eq`: the tokens of a written query. -/

namespace HttpQuery

open Text

/-! ### Ways to write -/

/-- **The ways to write a token**, each with the texts that it takes from the arguments. -/
inductive Spelled : Token → List Char → List String → Prop where
  /-- A reserved word in any letter case. -/
  | word {kind : Kind} {field : List Char} (hkind : kind ∈ Kind.reserved)
      (hfield : field.map Char.toLower = kind.word.toList) : Spelled (.reserved kind) field []
  /-- A text in quotes. -/
  | literal (text : String) : Spelled (.text text) (quoted (doubled text.toList)) []
  /-- A placeholder in quotes. -/
  | argument (text : String) : Spelled (.text text) (quoted ['%', 's']) [text]

/-- **The ways to write a list of tokens**: each token after a gap, and a last gap. A gap may be
empty only where no token stands before it, or none after it. -/
inductive Written : List Token → List Char → List String → Prop where
  | done {gap : List Char} (hgap : gap.all isBlank = true) : Written [] gap []
  | token {token : Token} {tokens : List Token} {gap field rest : List Char}
      {texts others : List String} (hgap : gap.all isBlank = true)
      (hfield : Spelled token field texts) (hend : endsField rest = true)
      (hrest : Written tokens rest others) :
      Written (token :: tokens) (gap ++ (field ++ rest)) (texts ++ others)

/-! ### The values of a token -/

/-- The lower-case form of a text. -/
def lowerText (text : String) : String := String.ofList (lowercase text.toList)

/-- A token with its text changed, if it is a value. -/
def Token.mapText (f : String → String) (token : Token) : Token :=
  if token.kind = .value then .text (f token.literal) else token

theorem Token.mapText_reserved {kind : Kind} (hkind : kind ∈ Kind.reserved)
    (f : String → String) : (Token.reserved kind).mapText f = .reserved kind := by
  refine if_neg ?_
  rintro (rfl : kind = .value)
  exact absurd hkind (by decide)

/-- A token that can be written: if it is a value, its text can. -/
def Token.Writable (token : Token) : Prop :=
  token.kind = .value → HttpQuery.Writable token.literal.toList

instance (token : Token) : Decidable token.Writable := inferInstanceAs (Decidable (_ → _))

/-! ### What is read of a written query -/

variable {token : Token} {tokens : List Token} {field text : List Char} {texts : List String}

theorem ne_percent_of_isBlank {c : Char} (h : isBlank c = true) : c ≠ '%' := by
  rintro rfl
  exact absurd h (by decide)

/-- A gap fills to itself. -/
theorem Fills.gap {gap : List Char} (h : gap.all isBlank = true) : Fills gap [] gap :=
  plain fun hc => ne_percent_of_isBlank (List.all_eq_true.1 h _ hc) rfl

/-- A part that fills does so between quotes. -/
theorem Fills.quoted {part result : List Char} (h : Fills part texts result) :
    Fills (quoted part) texts (quoted result) := by
  have hquote : Fills [singleQuote] [] [singleQuote] := char (by decide)
  have hpart := hquote.append (h.append hquote)
  rwa [List.append_nil] at hpart

/-- A field that ends before a text ends before what the text fills to. -/
theorem Fills.endsField_eq {result : List Char} (h : Fills text texts result)
    (hend : endsField text = true) : endsField result = true := by
  have hfill := h.fill_eq [] []
  rw [List.append_nil, List.append_nil, pieces_nil, fill, List.append_nil] at hfill
  cases text with
  | nil => rw [← hfill, pieces_nil]; rfl
  | cons c text =>
    have hc : isBlank c = true := hend
    rw [← hfill, ← fill_singles, singles_cons_of_ne (ne_percent_of_isBlank hc)]
    exact hc

/-- **The field of one token**, when its placeholder is filled. -/
theorem Spelled.fills (h : Spelled token field texts) (hvalue : token.Writable) :
    ∃ result, Fills field texts result ∧ result ≠ [] ∧ (∀ c ∈ result, isBlank c = false) ∧
      Token.ofField (lowercase result) = [token.mapText lowerText] := by
  cases h with
  | @word kind _ hkind hfield =>
    have hmem := mem_field_of_word hkind hfield
    have hne : field ≠ [] := by
      rintro rfl
      exact word_ne_nil kind hkind hfield.symm
    refine ⟨field, .plain fun hc => (hmem _ hc).2.2 rfl, hne, fun c hc => (hmem c hc).2.1, ?_⟩
    rw [ofField_lowercase_word hkind hfield, Token.mapText_reserved hkind]
  | literal text =>
    have htext : HttpQuery.Writable text.toList := hvalue rfl
    exact ⟨quoted text.toList, (Fills.doubled _).quoted, List.cons_ne_nil _ _,
      htext.quoted_not_blank, ofField_lowercase_quoted htext⟩
  | argument text =>
    have htext : HttpQuery.Writable text.toList := hvalue rfl
    exact ⟨quoted text.toList, (Fills.placeholder text).quoted, List.cons_ne_nil _ _,
      htext.quoted_not_blank, ofField_lowercase_quoted htext⟩

/-- **A written list of tokens**, when its placeholders are filled. -/
theorem Written.fills (h : Written tokens text texts) (hvalues : ∀ token ∈ tokens, token.Writable) :
    ∃ result, Fills text texts result ∧
      (fields (lowercase result)).flatMap Token.ofField = tokens.map (Token.mapText lowerText) := by
  induction h with
  | @done gap hgap =>
    have hfields : fields (lowercase (gap ++ [])) = [] := fields_lowercase_gap hgap
    rw [List.append_nil] at hfields
    refine ⟨gap, .gap hgap, ?_⟩
    rw [hfields]
    rfl
  | @token token tokens gap field rest texts others hgap hfield hend hrest ih =>
    obtain ⟨head, hhead, hne, hblank, htoken⟩ :=
      hfield.fills (hvalues token List.mem_cons_self)
    obtain ⟨tail, htail, htokens⟩ := ih fun t ht => hvalues t (List.mem_cons_of_mem token ht)
    -- The rest still starts with a blank when it is filled, so the field ends where it did.
    refine ⟨gap ++ (head ++ tail), (Fills.gap hgap).append (hhead.append htail), ?_⟩
    rw [fields_lowercase_gap hgap, fields_lowercase_field hne hblank (htail.endsField_eq hend),
      List.flatMap_cons, htoken, htokens, List.map_cons]
    rfl

/-- **The tokens of a written query**, when it is bound. -/
theorem Written.tokenize_eq {query : String} (h : Written tokens query.toList texts)
    (hvalues : ∀ token ∈ tokens, token.Writable) :
    ∃ bound, substitute query texts = .ok bound ∧
      tokenize bound = tokens.map (Token.mapText lowerText) := by
  obtain ⟨result, hfills, htokens⟩ := h.fills hvalues
  refine ⟨String.ofList result, hfills.substitute_eq, ?_⟩
  rw [tokenize, String.toList_ofList, htokens]

end HttpQuery
