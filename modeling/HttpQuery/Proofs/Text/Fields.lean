import HttpQuery.Proofs.Text.Lowercase

/-! # The fields of the parts of a text

A blank ends the field before it and starts nothing, so the fields of a text are those of its parts
around any blank. As a text is also lower-cased part by part around its blanks, the two steps can be
taken for each part on its own.

* `blank_induction`: induction on the parts of a text between its blanks.
* `fields_append_blank`: the fields of the parts of a text around a blank.
* `flatten_fields`: the fields of a text, put together.
* `fields_lowercase_append_blank`: the lower-cased fields of these parts.
* `fields_lowercase`: the fields of a lower-cased text.
* `fields_append_gap`: the fields of the parts of a text around a gap.
* `fields_field`, `fields_lowercase_field`: the fields of a text that starts with a field. -/

namespace HttpQuery.Text

variable {c : Char} {field gap first second text : List Char}

theorem consField_append (rest more : List (List Char)) :
    consField field rest ++ more = consField field (rest ++ more) := by
  cases field <;> rfl

/-! ### Around a blank -/

/-- **Induction on the parts of a text between its blanks.** -/
theorem blank_induction {motive : List Char → Prop}
    (part : ∀ field, (∀ c ∈ field, isBlank c = false) → motive field)
    (blank : ∀ first c second, isBlank c = true → motive first → motive second →
      motive (first ++ c :: second)) (text : List Char) : motive text := by
  -- The part that was read so far has no blanks.
  have hall : ∀ text done : List Char, (∀ c ∈ done, isBlank c = false) →
      motive (done ++ text) := by
    intro text
    induction text with
    | nil =>
      intro done hdone
      rw [List.append_nil]
      exact part done hdone
    | cons c text ih =>
      intro done hdone
      cases hc : isBlank c with
      | true => exact blank done c text hc (part done hdone) (ih [] (List.forall_mem_nil _))
      | false =>
        rw [List.append_cons]
        refine ih _ fun d hd => ?_
        rcases List.mem_append.1 hd with hd | hd
        · exact hdone d hd
        · rwa [List.mem_singleton.1 hd]
  exact hall text [] (List.forall_mem_nil _)

theorem leadingField_append_blank (h : isBlank c = true) :
    leadingField (first ++ c :: second) =
      ((leadingField first).1, (leadingField first).2 ++ fields second) := by
  induction first with
  | nil =>
    show leadingField (c :: second) = ([], fields second)
    rw [leadingField, if_pos h]
    rfl
  | cons d first ih =>
    rw [List.cons_append, leadingField, leadingField, ih]
    split
    · rw [consField_append]
    · rfl

/-- **The fields of a text are those of its parts around a blank.** -/
theorem fields_append_blank (h : isBlank c = true) :
    fields (first ++ c :: second) = fields first ++ fields second := by
  rw [fields, leadingField_append_blank h, ← consField_append]
  rfl

/-- **Lower-cased fields are found part by part around a blank.** -/
theorem fields_lowercase_append_blank (h : isBlank c = true) :
    fields (lowercase (first ++ c :: second)) =
      fields (lowercase first) ++ fields (lowercase second) := by
  rw [lowercase, lowercaseFrom_append_blank h, fields_append_blank h]
  rfl

/-! ### Gaps and single fields -/

theorem leadingField_of_not_blank (h : ∀ c ∈ field, isBlank c = false) :
    leadingField field = (field, []) := by
  induction field with
  | nil => rfl
  | cons c field ih =>
    rw [leadingField, h c List.mem_cons_self, ih fun d hd => h d (List.mem_cons_of_mem c hd)]
    rfl

/-- A text without blanks is one field. -/
theorem fields_of_not_blank (hne : field ≠ []) (h : ∀ c ∈ field, isBlank c = false) :
    fields field = [field] := by
  rw [fields, leadingField_of_not_blank h]
  cases field with
  | nil => exact absurd rfl hne
  | cons c field => rfl

/-- **A field holds characters of its text.** -/
theorem subset_of_mem_fields (h : field ∈ fields text) : field ⊆ text := by
  induction text using blank_induction with
  | part part hpart =>
    cases part with
    | nil => cases h
    | cons c cs =>
      rw [fields_of_not_blank (List.cons_ne_nil c cs) hpart, List.mem_singleton] at h
      rw [h]
      exact List.Subset.refl _
  | blank first c second hc ihFirst ihSecond =>
    rw [fields_append_blank hc] at h
    rcases List.mem_append.1 h with h | h
    · exact List.subset_append_of_subset_left _ (ihFirst h)
    · exact List.subset_append_of_subset_right _ (List.subset_cons_of_subset c (ihSecond h))

/-- **The fields hold all characters of a text but the blanks**, in their order. -/
theorem flatten_fields (text : List Char) :
    (fields text).flatten = text.filter fun c => !isBlank c := by
  induction text using blank_induction with
  | part field hfield =>
    have hall : field.filter (fun c => !isBlank c) = field :=
      List.filter_eq_self.2 fun c hc => by simp [hfield c hc]
    rw [hall]
    by_cases hne : field = []
    · rw [hne]
      rfl
    · rw [fields_of_not_blank hne hfield, List.flatten_singleton]
  | blank first c second hc ihfirst ihsecond =>
    rw [fields_append_blank hc, List.flatten_append, ihfirst, ihsecond, List.filter_append,
      List.filter_cons_of_neg (by simp [hc])]

/-- A field has no blanks. -/
theorem not_blank_of_mem_fields (h : field ∈ fields text) (hc : c ∈ field) : isBlank c = false := by
  have hmem : c ∈ text.filter fun c => !isBlank c := by
    rw [← flatten_fields]
    exact List.mem_flatten.2 ⟨field, h, hc⟩
  simpa using (List.mem_filter.1 hmem).2

/-- A text without blanks is lower-cased to one without blanks. -/
theorem lowercase_not_blank (h : ∀ c ∈ field, isBlank c = false) :
    ∀ c ∈ lowercase field, isBlank c = false := by
  intro c hc
  rcases mem_or_of_mem_lowercaseFrom hc with hmem | hform
  · exact h c hmem
  · exact hform.2

/-- A text without blanks is one field when it is lower-cased. -/
theorem fields_lowercase_of_not_blank (hne : field ≠ []) (h : ∀ c ∈ field, isBlank c = false) :
    fields (lowercase field) = [lowercase field] :=
  fields_of_not_blank (mt lowercaseFrom_eq_nil_iff.1 hne) (lowercase_not_blank h)

/-- **The fields of a lower-cased text** are its fields, each lower-cased on its own: no sigma looks
beyond its field, and no blank is made or lost. -/
theorem fields_lowercase (text : List Char) :
    fields (lowercase text) = (fields text).map lowercase := by
  induction text using blank_induction with
  | part field hfield =>
    by_cases hne : field = []
    · rw [hne]
      rfl
    · rw [fields_lowercase_of_not_blank hne hfield, fields_of_not_blank hne hfield]
      rfl
  | blank first c second hc ihfirst ihsecond =>
    rw [fields_lowercase_append_blank hc, fields_append_blank hc, ihfirst, ihsecond,
      List.map_append]

/-- A gap has no fields, and leaves those after it alone. -/
theorem fields_gap (h : gap.all isBlank = true) : fields (gap ++ text) = fields text := by
  induction gap with
  | nil => rfl
  | cons c gap ih =>
    obtain ⟨hc, hgap⟩ : isBlank c = true ∧ gap.all isBlank = true := by
      rwa [List.all_cons, Bool.and_eq_true] at h
    rw [List.cons_append, fields_cons_of_isBlank hc, ih hgap]

/-- **The fields of a text are those of its parts around a gap.** -/
theorem fields_append_gap (hne : gap ≠ []) (h : gap.all isBlank = true) :
    fields (first ++ (gap ++ second)) = fields first ++ fields second := by
  cases gap with
  | nil => exact absurd rfl hne
  | cons c gap =>
    obtain ⟨hc, hgap⟩ : isBlank c = true ∧ gap.all isBlank = true := by
      rwa [List.all_cons, Bool.and_eq_true] at h
    rw [List.cons_append, fields_append_blank hc, fields_gap hgap]

theorem fields_lowercase_gap (h : gap.all isBlank = true) :
    fields (lowercase (gap ++ text)) = fields (lowercase text) := by
  rw [fields_lowercase, fields_gap h, fields_lowercase]

/-- Whether a field ends before a text: the text is empty or starts with a blank. -/
def endsField : List Char → Bool
  | [] => true
  | c :: _ => isBlank c

/-- **A text that starts with a field**, if the field ends there. -/
theorem fields_field (hne : field ≠ []) (h : ∀ c ∈ field, isBlank c = false)
    (hend : endsField text = true) : fields (field ++ text) = field :: fields text := by
  cases text with
  | nil => rw [List.append_nil, fields_of_not_blank hne h]; rfl
  | cons c text =>
    have hc : isBlank c = true := hend
    rw [fields_append_blank hc, fields_of_not_blank hne h, fields_cons_of_isBlank hc]
    rfl

theorem fields_lowercase_field (hne : field ≠ []) (h : ∀ c ∈ field, isBlank c = false)
    (hend : endsField text = true) :
    fields (lowercase (field ++ text)) = lowercase field :: fields (lowercase text) := by
  rw [fields_lowercase, fields_field hne h hend, List.map_cons, fields_lowercase]

end HttpQuery.Text
