import HttpQuery.Proofs.Text.Fields
import HttpQuery.Query.Tokenize
import Mathlib.Data.List.Basic

/-! # The literals of the tokens

A token is cut out of a field, and a field out of the lower-cased query. So the literals of the
tokens hold characters of the lower-cased query only, and none of them has an ASCII capital letter,
whatever marks were removed around it.

* `Token.exists_ofListed`, `Token.literals_ofListed`: the tokens of a field that is no reserved
  word, and their literals.
* `literal_subset_lowercase`: the literals hold characters of the lower-cased query.
* `map_toLower_literal`: they have no ASCII capital letters.
* `blankless_literal`: they have no blanks. -/

namespace HttpQuery

open Text

variable {mark : Char} {token : Token} {field text : List Char} {query : String}

/-! ### Marks that are removed -/

theorem withoutLeading_subset : withoutLeading mark text ⊆ text := by
  cases text with
  | nil => exact List.Subset.refl _
  | cons c cs =>
    rw [withoutLeading]
    split
    · exact List.subset_cons_self c cs
    · exact List.Subset.refl _

theorem withoutTrailing_subset : withoutTrailing mark text ⊆ text := by
  unfold withoutTrailing
  split
  · exact List.dropLast_subset text
  · exact List.Subset.refl _

theorem unquote_subset : unquote field ⊆ field :=
  List.Subset.trans withoutTrailing_subset withoutLeading_subset

/-! ### Tokens of a field -/

theorem literal_value : (Token.value text).literal.toList = text := String.toList_ofList

namespace Token

/-- The literals of some tokens, put together. -/
def literals (tokens : List Token) : List Char := tokens.flatMap fun token => token.literal.toList

theorem literal_subset_literals {tokens : List Token} (h : token ∈ tokens) :
    token.literal.toList ⊆ literals tokens :=
  fun _ hc => List.mem_flatMap.2 ⟨token, h, hc⟩

/-- The comma at one side of a value, if there is one. -/
def IsSide (tokens : List Token) : Prop := tokens = [] ∨ tokens = [comma]

theorem exists_ofTrailing (text : List Char) :
    ∃ body after, IsSide after ∧ ofTrailing text = value body :: after ∧
      body ++ literals after = text := by
  unfold ofTrailing
  split
  · next hlast =>
    exact ⟨text.dropLast, [comma], .inr rfl, rfl, List.dropLast_append_getLast? ',' hlast⟩
  · exact ⟨text, [], .inl rfl, rfl, List.append_nil text⟩

/-- **The tokens of a field that is no reserved word**: a value, and maybe a comma at each side.
They make up the text between its quotes. -/
theorem exists_ofListed (text : List Char) :
    ∃ before body after, IsSide before ∧ IsSide after ∧
      ofListed text = before ++ value body :: after ∧
      literals before ++ (body ++ literals after) = text := by
  unfold ofListed
  split
  · next rest =>
    obtain ⟨body, after, hafter, htokens, htext⟩ := exists_ofTrailing rest
    exact ⟨[comma], body, after, .inr rfl, hafter, by rw [htokens]; rfl, by rw [htext]; rfl⟩
  · obtain ⟨body, after, hafter, htokens, htext⟩ := exists_ofTrailing text
    exact ⟨[], body, after, .inl rfl, hafter, htokens, htext⟩

theorem literals_ofListed (text : List Char) : literals (ofListed text) = text := by
  obtain ⟨before, body, after, -, -, htokens, htext⟩ := exists_ofListed text
  rw [htokens, literals, List.flatMap_append, List.flatMap_cons, literal_value]
  exact htext

end Token

theorem literal_subset_of_mem_ofListed (h : token ∈ Token.ofListed text) :
    token.literal.toList ⊆ text := by
  rw [← Token.literals_ofListed text]
  exact Token.literal_subset_literals h

/-- **The tokens of a field hold its characters.** -/
theorem literal_subset_of_mem_ofField (h : token ∈ Token.ofField field) :
    token.literal.toList ⊆ field := by
  unfold Token.ofField at h
  split at h
  · rw [List.mem_singleton.1 h]
    simp only [String.toList_ofList]
    exact List.Subset.refl _
  · exact List.Subset.trans (literal_subset_of_mem_ofListed h) unquote_subset

/-! ### Tokens of a query -/

/-- **The tokens of a query hold characters of its lower-case form.** -/
theorem literal_subset_lowercase (h : token ∈ tokenize query) :
    token.literal.toList ⊆ lowercase query.toList := by
  obtain ⟨field, hfield, htoken⟩ := List.mem_flatMap.1 h
  exact List.Subset.trans (literal_subset_of_mem_ofField htoken) (subset_of_mem_fields hfield)

/-- A text without blanks. -/
def Blankless (text : String) : Prop := ∀ c ∈ text.toList, isBlank c = false

/-- **No token has a blank.** -/
theorem blankless_literal (h : token ∈ tokenize query) : Blankless token.literal := by
  intro c hc
  obtain ⟨field, hfield, htoken⟩ := List.mem_flatMap.1 h
  exact not_blank_of_mem_fields hfield (literal_subset_of_mem_ofField htoken hc)

/-- **No token has an ASCII capital letter.** -/
theorem map_toLower_literal (h : token ∈ tokenize query) :
    token.literal.map Char.toLower = token.literal := by
  rw [← String.toList_inj, String.toList_map]
  calc token.literal.toList.map Char.toLower
    _ = token.literal.toList.map id := List.map_congr_left fun _ hc =>
        toLower_of_mem_lowercase (literal_subset_lowercase h hc)
    _ = token.literal.toList := List.map_id _

end HttpQuery
