import HttpQuery.Proofs.Query.Literals
import Mathlib.Data.List.Forall2

/-! # No text is lost

A reader drops two things of a query: its blanks, and the single quotes around a field that is no
reserved word. All other characters of the lower-cased query stand in the literals of the tokens,
each once and in their order, and nothing else stands there. A field has a value at most, and a
comma at most on each side of it, so it has between one and three tokens.

* `BetweenQuotes`: a field and the text between the quotes at its ends.
* `Token.ReadFrom`: what the tokens of a field are; `readFrom_ofField`: the tokens of each field.
* `Token.Sound`: what each token is; `sound_of_mem_tokenize`: the tokens of a query.
* `tokenize_keeps_text`: the tokens of a query and its text. -/

namespace HttpQuery

open Text

/-! ### The quotes of a field -/

/-- The mark that stands at an end of a text, if it is `mark`. -/
def markAt (mark : Char) (atEnd : Option Char) : List Char :=
  if atEnd = some mark then [mark] else []

/-- **A field without the quotes at its ends**: the one in front of it is taken off, if there is
one, and then the one at the end of what is left. -/
def BetweenQuotes (field text : List Char) : Prop :=
  ∃ rest, field = markAt singleQuote field.head? ++ rest ∧
    rest = text ++ markAt singleQuote rest.getLast?

theorem markAt_append_withoutLeading (mark : Char) (text : List Char) :
    markAt mark text.head? ++ withoutLeading mark text = text := by
  cases text with
  | nil => rfl
  | cons c rest =>
    by_cases h : c = mark
    · simp [markAt, withoutLeading, h]
    · simp [markAt, withoutLeading, h]

theorem withoutTrailing_append_markAt (mark : Char) (text : List Char) :
    withoutTrailing mark text ++ markAt mark text.getLast? = text := by
  unfold withoutTrailing markAt
  split
  · next hlast => exact List.dropLast_append_getLast? mark hlast
  · exact List.append_nil text

theorem betweenQuotes_unquote (field : List Char) : BetweenQuotes field (unquote field) :=
  ⟨withoutLeading singleQuote field, (markAt_append_withoutLeading singleQuote field).symm,
    (withoutTrailing_append_markAt singleQuote _).symm⟩

namespace Token

/-! ### The tokens of a field -/

theorem literals_flatten (parts : List (List Token)) :
    literals parts.flatten = parts.flatMap literals := by
  induction parts with
  | nil => rfl
  | cons tokens parts ih =>
    rw [List.flatten_cons, List.flatMap_cons, ← ih, literals, List.flatMap_append]
    rfl

/-- **The tokens of a field.** A reserved word or symbol is kept as it is, and of any other field
what stands between its quotes. There is at most one token other than a comma. -/
structure ReadFrom (field : List Char) (tokens : List Token) : Prop where
  reserved : ∀ kind ∈ Kind.reserved, field = kind.word.toList → literals tokens = field
  free : (∀ kind ∈ Kind.reserved, field ≠ kind.word.toList) → BetweenQuotes field (literals tokens)
  one_le : 1 ≤ tokens.length
  le_three : tokens.length ≤ 3
  others : (tokens.filter fun token => token.kind ≠ .comma).length ≤ 1

/-- **What each token is.** Only a value has a literal of its own, the ends of a query are no
tokens, and each character of a literal is no blank and is its own lower-case form. -/
structure Sound (token : Token) : Prop where
  literal_eq : token.kind ≠ .value → token.literal = token.kind.word
  ne_start : token.kind ≠ .start
  ne_finish : token.kind ≠ .finish
  settled : ∀ c ∈ token.literal.toList, isBlank c = false ∧ lowercase [c] = [c]

variable {field text : List Char} {token : Token} {kind : Kind}

/-- A field that spells a reserved word or symbol is one token. -/
theorem ofField_of_ofWord? (h : Kind.ofWord? field = some kind) :
    ofField field = [⟨kind, kind.word⟩] := by
  obtain ⟨-, hword⟩ := Kind.word_of_ofWord? h
  rw [ofField, h, ← hword]
  simp only [String.ofList_toList]

theorem ofField_of_ofWord?_eq_none (h : Kind.ofWord? field = none) :
    ofField field = ofListed (unquote field) := by
  rw [ofField, h]

/-- **The tokens of each field.** -/
theorem readFrom_ofField (field : List Char) : ReadFrom field (ofField field) := by
  cases h : Kind.ofWord? field with
  | some kind =>
    obtain ⟨hmem, hword⟩ := Kind.word_of_ofWord? h
    rw [ofField_of_ofWord? h]
    exact
      { reserved := fun _ _ _ => by rw [← hword]; exact List.append_nil _
        free := fun hfree => absurd hword.symm (hfree kind hmem)
        one_le := Nat.le_refl 1
        le_three := by simp
        others := List.length_filter_le _ _ }
  | none =>
    have hfree := Kind.ofWord?_eq_none_iff.1 h
    rw [ofField_of_ofWord?_eq_none h]
    obtain ⟨before, body, after, hbefore, hafter, htokens, -⟩ := exists_ofListed (unquote field)
    refine
      { reserved := fun kind hmem heq => absurd heq.symm (hfree kind hmem)
        free := fun _ => by rw [literals_ofListed]; exact betweenQuotes_unquote field
        one_le := ?_
        le_three := ?_
        others := ?_ }
    all_goals
      rw [htokens]
      rcases hbefore with rfl | rfl <;> rcases hafter with rfl | rfl <;>
        simp [comma, value]

/-! ### The tokens of a query -/

/-- A token of a field is a reserved word with its spelling, a comma or a value. -/
theorem kind_of_mem_ofField (h : token ∈ ofField field) :
    token.kind = .value ∨ token.kind ∈ Kind.reserved ∧ token.literal = token.kind.word := by
  cases hword : Kind.ofWord? field with
  | some kind =>
    rw [ofField_of_ofWord? hword, List.mem_singleton] at h
    rw [h]
    exact .inr ⟨(Kind.word_of_ofWord? hword).1, rfl⟩
  | none =>
    rw [ofField_of_ofWord?_eq_none hword] at h
    obtain ⟨before, body, after, hbefore, hafter, htokens, -⟩ := exists_ofListed (unquote field)
    have hcomma : ∀ side, IsSide side → token ∈ side → token = comma := by
      rintro side (rfl | rfl) hmem
      · cases hmem
      · exact List.mem_singleton.1 hmem
    rw [htokens, List.mem_append, List.mem_cons] at h
    rcases h with hside | rfl | hside
    · rw [hcomma before hbefore hside]
      exact .inr ⟨by decide, rfl⟩
    · exact .inl rfl
    · rw [hcomma after hafter hside]
      exact .inr ⟨by decide, rfl⟩

/-- **The tokens of a query are sound.** -/
theorem sound_of_mem_tokenize {query : String} (h : token ∈ tokenize query) : Sound token := by
  obtain ⟨field, hfield, htoken⟩ := List.mem_flatMap.1 h
  have hends : ∀ kind ∈ Kind.reserved, kind ≠ .start ∧ kind ≠ .finish := by decide
  have hkind := kind_of_mem_ofField htoken
  refine ⟨fun hne => (hkind.resolve_left hne).2, ?_, ?_, fun c hc => ⟨?_, ?_⟩⟩
  · rcases hkind with hvalue | ⟨hmem, -⟩
    · rw [hvalue]; decide
    · exact (hends _ hmem).1
  · rcases hkind with hvalue | ⟨hmem, -⟩
    · rw [hvalue]; decide
    · exact (hends _ hmem).2
  · exact not_blank_of_mem_fields hfield (literal_subset_of_mem_ofField htoken hc)
  · have hform := lowerChar_of_mem_lowercaseFrom (literal_subset_lowercase h hc)
    exact lowercaseFrom_eq_self (List.forall_mem_singleton.2 hform)

end Token

/-- **No text of a query is lost, and none is invented.** The tokens are read field by field, and
the fields hold all characters of the lower-cased query but the blanks. So the literals, put
together, are this text without the quotes around its fields. Each field has between one and three
tokens, at most one of them other than a comma, and each token is sound. -/
theorem tokenize_keeps_text (query : String) :
    ∃ parts : List (List Token), tokenize query = parts.flatten ∧
      Token.literals (tokenize query) = parts.flatMap Token.literals ∧
      List.Forall₂ Token.ReadFrom (fields (lowercase query.toList)) parts ∧
      (fields (lowercase query.toList)).flatten =
        (lowercase query.toList).filter (fun c => !isBlank c) ∧
      ∀ token ∈ tokenize query, token.Sound := by
  refine ⟨(fields (lowercase query.toList)).map Token.ofField, rfl, Token.literals_flatten _, ?_,
    flatten_fields _, fun _ => Token.sound_of_mem_tokenize⟩
  rw [List.forall₂_map_right_iff, List.forall₂_same]
  exact fun field _ => Token.readFrom_ofField field

/-- Fields of quotes and commas, and a reserved word beside a quote. -/
example : Token.literals (tokenize "'','' ,', ' From'") = "',',',from".toList := by
  decide +kernel

end HttpQuery
