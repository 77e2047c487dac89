import HttpQuery.Proofs.Grammar.Words
import HttpQuery.Proofs.Query.Written

/-! # Templates

A *template* is a query in which every placeholder is a field of its own, in quotes. Its tokens
stand before it gets any texts: each of them is a token of the template, the same for all texts, or
a slot, one for each placeholder, which one text fills as a value. So no text that can be written as
a value changes anything but the literals of the slots, and what is read of the query is the same
but for these.

* `IsTemplate`: the queries that are templates.
* `slots`, `fillSlots`: the tokens of a template, with slots, and these tokens with texts in them.
* `flatMap_ofField_template`: the tokens of a template when it is filled.
* `tokenize_template`: two ways to fill it. -/

namespace HttpQuery

open Text

/-! ### Slots -/

/-- The field of a placeholder in quotes. -/
def slotField : List Char := quoted ['%', 's']

/-- **A template**: every placeholder is a field of its own, in quotes. -/
def IsTemplate (query : List Char) : Prop :=
  ∀ field ∈ fields query, field = slotField ∨ placeholderCount field = 0

instance (query : List Char) : Decidable (IsTemplate query) :=
  inferInstanceAs (Decidable (∀ _ ∈ _, _))

/-- The tokens of a field, with `none` for a slot. -/
def slotsOfField (field : List Char) : List (Option Token) :=
  if field = slotField then [none]
  else (Token.ofField (lowercase (fill (pieces field) []))).map some

/-- **The tokens of a template**, with `none` for a slot. -/
def slots (query : List Char) : List (Option Token) := (fields query).flatMap slotsOfField

/-- **The tokens of a template with texts in its slots**, from left to right. -/
def fillSlots : List (Option Token) → List String → List Token
  | [], _ => []
  | some token :: rest, texts => token :: fillSlots rest texts
  | none :: rest, [] => fillSlots rest []
  | none :: rest, text :: texts => .text text :: fillSlots rest texts

variable {c : Char} {first second text : List Char} {texts others : List String}

theorem fillSlots_append {first second : List (Option Token)}
    (h : texts.length = first.count none) :
    fillSlots (first ++ second) (texts ++ others) =
      fillSlots first texts ++ fillSlots second others := by
  induction first generalizing texts with
  | nil =>
    obtain rfl : texts = [] := List.eq_nil_of_length_eq_zero h
    rfl
  | cons slot first ih =>
    cases slot with
    | some token =>
      rw [List.count_cons_of_ne (by simp)] at h
      exact congrArg (token :: ·) (ih h)
    | none =>
      rw [List.count_cons_self] at h
      cases texts with
      | nil => cases h
      | cons text texts => exact congrArg (Token.text text :: ·) (ih (Nat.succ.inj h))

theorem fillSlots_map_some (tokens : List Token) : fillSlots (tokens.map some) texts = tokens := by
  induction tokens with
  | nil => rfl
  | cons token tokens ih => exact congrArg (token :: ·) ih

/-- The kinds of the tokens are those of the template, and a slot is a value. -/
theorem map_kind_fillSlots {slots : List (Option Token)} (h : texts.length = slots.count none) :
    (fillSlots slots texts).map Token.kind =
      slots.map fun slot => (slot.map Token.kind).getD .value := by
  induction slots generalizing texts with
  | nil => rfl
  | cons slot slots ih =>
    cases slot with
    | some token =>
      rw [List.count_cons_of_ne (by simp)] at h
      exact congrArg (token.kind :: ·) (ih h)
    | none =>
      rw [List.count_cons_self] at h
      cases texts with
      | nil => cases h
      | cons text texts => exact congrArg (Kind.value :: ·) (ih (Nat.succ.inj h))

/-! ### The parts of a template -/

/-- A blank belongs to no verb. -/
theorem ne_s_of_isBlank (h : isBlank c = true) : c ≠ 's' := by
  rintro rfl
  exact absurd h (by decide)

theorem isTemplate_append_blank (h : isBlank c = true) :
    IsTemplate (first ++ c :: second) ↔ IsTemplate first ∧ IsTemplate second := by
  rw [IsTemplate, fields_append_blank h]
  exact List.forall_mem_append

theorem slots_append_blank (h : isBlank c = true) :
    slots (first ++ c :: second) = slots first ++ slots second := by
  rw [slots, fields_append_blank h, List.flatMap_append]
  rfl

theorem pieces_slotField :
    pieces slotField = [.text [singleQuote], .placeholder, .text [singleQuote]] := by
  decide +kernel

theorem count_slotsOfField (h : text = slotField ∨ placeholderCount text = 0) :
    (slotsOfField text).count none = placeholderCount text := by
  rw [slotsOfField]
  split
  · next hslot =>
    rw [hslot, placeholderCount, pieces_slotField]
    rfl
  · next hslot =>
    rw [h.resolve_left hslot, List.count_eq_zero]
    simp

/-- **A template has a slot for each placeholder.** -/
theorem count_slots (h : IsTemplate text) : (slots text).count none = placeholderCount text := by
  induction text using blank_induction with
  | part field hblank =>
    by_cases hne : field = []
    · rw [hne, placeholderCount_nil]
      rfl
    · rw [IsTemplate, fields_of_not_blank hne hblank] at h
      rw [slots, fields_of_not_blank hne hblank, List.flatMap_singleton]
      exact count_slotsOfField (h field List.mem_cons_self)
  | blank first c second hc ihfirst ihsecond =>
    obtain ⟨hfirst, hsecond⟩ := (isTemplate_append_blank hc).1 h
    rw [slots_append_blank hc, List.count_append, ihfirst hfirst, ihsecond hsecond,
      placeholderCount_append_cons (ne_percent_of_isBlank hc) (ne_s_of_isBlank hc)]

/-- The tokens of one field of a template. -/
theorem flatMap_ofField_field (hne : text ≠ []) (hblank : ∀ c ∈ text, isBlank c = false)
    (h : text = slotField ∨ placeholderCount text = 0)
    (hlength : texts.length = placeholderCount text)
    (hwritable : ∀ text ∈ texts, Writable text.toList) :
    (fields (lowercase (fill (pieces text) texts))).flatMap Token.ofField =
      fillSlots (slotsOfField text) (texts.map lowerText) := by
  rw [slotsOfField]
  split
  · next hslot =>
    subst hslot
    -- The one text stands between the quotes.
    rw [placeholderCount, pieces_slotField] at hlength
    obtain ⟨value, rfl⟩ : ∃ value, texts = [value] := List.length_eq_one_iff.1 hlength
    have hvalue : Writable value.toList := hwritable value List.mem_cons_self
    have hfill : fill (pieces slotField) [value] = quoted value.toList := by
      rw [pieces_slotField]
      rfl
    have hquoted : quoted value.toList ≠ [] := List.cons_ne_nil _ _
    rw [hfill, flatMap_ofField_of_not_blank hquoted hvalue.quoted_not_blank,
      ofField_lowercase_quoted hvalue]
    rfl
  · next hslot =>
    have hzero : placeholderCount text = 0 := h.resolve_left hslot
    obtain rfl : texts = [] := List.eq_nil_of_length_eq_zero (hlength.trans hzero)
    rw [flatMap_ofField_of_not_blank (fill_ne_nil hne hzero)
      fun c hc => hblank c (mem_of_mem_fill hc)]
    exact (fillSlots_map_some _).symm

/-- **The tokens of a template when it is filled.** -/
theorem flatMap_ofField_template (h : IsTemplate text)
    (hlength : texts.length = placeholderCount text)
    (hwritable : ∀ text ∈ texts, Writable text.toList) :
    (fields (lowercase (fill (pieces text) texts))).flatMap Token.ofField =
      fillSlots (slots text) (texts.map lowerText) := by
  induction text using blank_induction generalizing texts with
  | part field hblank =>
    by_cases hne : field = []
    · subst hne
      obtain rfl : texts = [] :=
        List.eq_nil_of_length_eq_zero (hlength.trans placeholderCount_nil)
      rw [pieces_nil]
      rfl
    · rw [IsTemplate, fields_of_not_blank hne hblank] at h
      rw [slots, fields_of_not_blank hne hblank, List.flatMap_singleton]
      exact flatMap_ofField_field hne hblank (h field List.mem_cons_self) hlength hwritable
  | blank first c second hc ihfirst ihsecond =>
    obtain ⟨hfirst, hsecond⟩ := (isTemplate_append_blank hc).1 h
    have hpercent := ne_percent_of_isBlank hc
    have hs := ne_s_of_isBlank hc
    rw [placeholderCount_append_cons hpercent hs] at hlength
    -- The texts are those of the first part, and then those of the second.
    obtain ⟨before, after, rfl, hbefore⟩ :
        ∃ before after, texts = before ++ after ∧ before.length = placeholderCount first :=
      ⟨texts.take (placeholderCount first), texts.drop (placeholderCount first),
        (List.take_append_drop _ _).symm, by rw [List.length_take]; omega⟩
    have hafter : after.length = placeholderCount second := by
      rw [List.length_append] at hlength
      omega
    obtain ⟨hwritablefirst, hwritablesecond⟩ := List.forall_mem_append.1 hwritable
    have hslots : (before.map lowerText).length = (slots first).count none := by
      rw [List.length_map, count_slots hfirst, hbefore]
    rw [fill_append_cons hpercent hs hbefore, fields_lowercase_append_blank hc,
      List.flatMap_append, slots_append_blank hc, List.map_append, fillSlots_append hslots,
      ihfirst hfirst hbefore hwritablefirst, ihsecond hsecond hafter hwritablesecond]

/-- The tokens of a template, when it is bound. -/
theorem tokenize_substitute_template {query : String} (h : IsTemplate query.toList)
    (hlength : texts.length = placeholderCount query.toList)
    (hwritable : ∀ text ∈ texts, Writable text.toList) :
    ∃ bound, substitute query texts = .ok bound ∧
      tokenize bound = fillSlots (slots query.toList) (texts.map lowerText) := by
  refine ⟨String.ofList (fill (pieces query.toList) texts), if_pos hlength.symm, ?_⟩
  rw [tokenize, String.toList_ofList]
  exact flatMap_ofField_template h hlength hwritable

/-! ### Two ways to fill a template -/

/-- **Texts cannot change the structure of a template.** Each placeholder becomes one value, its
text lower-cased; all other tokens, and the places of all of them, are those of the template. So
with any texts the kinds are the same, and the query is read or is refused with the same error. -/
theorem tokenize_template (query : String) (texts others : List String)
    (htemplate : IsTemplate query.toList)
    (htexts : texts.length = placeholderCount query.toList)
    (hothers : others.length = placeholderCount query.toList)
    (hwritable : ∀ text ∈ texts ++ others, Writable text.toList) :
    (slots query.toList).count none = placeholderCount query.toList ∧
      ∃ bound changed, substitute query texts = .ok bound ∧ substitute query others = .ok changed ∧
        tokenize bound = fillSlots (slots query.toList) (texts.map lowerText) ∧
        tokenize changed = fillSlots (slots query.toList) (others.map lowerText) ∧
        (tokenize bound).map Token.kind = (tokenize changed).map Token.kind ∧
        ∀ mode,
          ((∃ fields, Fields.ofQuery mode bound = .ok fields) ↔
            ∃ fields, Fields.ofQuery mode changed = .ok fields) ∧
          ∀ cause, Fields.ofQuery mode bound = .error cause ↔
            Fields.ofQuery mode changed = .error cause := by
  obtain ⟨hwritabletexts, hwritableothers⟩ := List.forall_mem_append.1 hwritable
  obtain ⟨bound, hbound, htokens⟩ := tokenize_substitute_template htemplate htexts hwritabletexts
  obtain ⟨changed, hchanged, hmore⟩ :=
    tokenize_substitute_template htemplate hothers hwritableothers
  have hcount := count_slots htemplate
  have hkinds : (tokenize bound).map Token.kind = (tokenize changed).map Token.kind := by
    rw [htokens, hmore, map_kind_fillSlots (by rw [List.length_map, htexts, hcount]),
      map_kind_fillSlots (by rw [List.length_map, hothers, hcount])]
  refine ⟨hcount, bound, changed, hbound, hchanged, htokens, hmore, hkinds, fun mode => ⟨?_, ?_⟩⟩
  · exact exists_ofTokens_eq_ok_iff.trans (hkinds ▸ exists_ofTokens_eq_ok_iff.symm)
  · exact Graph.read_eq_error_congr (grammar mode) hkinds

/-- A template with two slots. -/
def twoSlots : String := "FROM '%s' where 'AΣ' =  '%s' "

/-- This template with a reserved word and an empty text, and with texts that look like parts of a
query. -/
theorem tokenize_twoSlots :
    IsTemplate twoSlots.toList ∧ (slots twoSlots.toList).count none = 2 ∧
      ∃ bound changed, substitute twoSlots ["from", ""] = .ok bound ∧
        substitute twoSlots ["'Σ", "%s"] = .ok changed ∧
        tokenize bound = [.reserved .fromWord, .text "from", .reserved .whereWord, .text "aς",
          .reserved .equal, .text ""] ∧
        tokenize changed = [.reserved .fromWord, .text "'σ", .reserved .whereWord, .text "aς",
          .reserved .equal, .text "%s"] ∧
        (tokenize bound).map Token.kind = (tokenize changed).map Token.kind ∧
        ∀ mode,
          ((∃ fields, Fields.ofQuery mode bound = .ok fields) ↔
            ∃ fields, Fields.ofQuery mode changed = .ok fields) ∧
          ∀ cause, Fields.ofQuery mode bound = .error cause ↔
            Fields.ofQuery mode changed = .error cause := by
  have htemplate : IsTemplate twoSlots.toList := by decide +kernel
  have hplaceholders : placeholderCount twoSlots.toList = 2 := by decide +kernel
  have hslots : slots twoSlots.toList = [some (.reserved .fromWord), none,
      some (.reserved .whereWord), some (.text "aς"), some (.reserved .equal), none] := by
    decide +kernel
  have htexts : ["from", ""].map lowerText = ["from", ""] := by decide +kernel
  have hothers : ["'Σ", "%s"].map lowerText = ["'σ", "%s"] := by decide +kernel
  have hfilled := tokenize_template twoSlots ["from", ""] ["'Σ", "%s"] htemplate
    hplaceholders.symm hplaceholders.symm (by decide)
  rw [hslots, htexts, hothers, hplaceholders] at hfilled
  rw [hslots]
  exact ⟨htemplate, hfilled⟩

end HttpQuery
