import HttpQuery.Proofs.Query.Written

/-! # The tokens of the parts of a query

A query is read field by field, each field lower-cased on its own. So its tokens are those of its
parts around any gap, whatever capital sigmas stand beside it; gaps at the ends of a query do not
count, and neither does its letter case.

* `tokenize_eq_flatMap`: a query is read field by field.
* `tokenize_append_gap`, `tokenize_gap_append`, `tokenize_append_end`: gaps inside a query and at
  its ends.
* `tokenize_lowerText`: the tokens of a lower-cased query.
* `tokenize_parts`: all of these, for the parts of one query. -/

namespace HttpQuery

open Text

variable {gap : String}

/-- **A query is read field by field.** -/
theorem tokenize_eq_flatMap (query : String) :
    tokenize query =
      (fields query.toList).flatMap fun field => Token.ofField (lowercase field) := by
  rw [tokenize, fields_lowercase, List.flatMap_map]

/-- A query that is one field. -/
theorem tokenize_field {query : String} (hne : query.toList ≠ [])
    (h : ∀ c ∈ query.toList, isBlank c = false) :
    tokenize query = Token.ofField (lowercase query.toList) := by
  rw [tokenize, flatMap_ofField_of_not_blank hne h]

/-- **The tokens of a query are those of its parts around a gap.** -/
theorem tokenize_append_gap (hne : gap ≠ "") (hgap : gap.toList.all isBlank = true)
    (first second : String) :
    tokenize (first ++ gap ++ second) = tokenize first ++ tokenize second := by
  have hne : gap.toList ≠ [] := mt String.toList_eq_nil_iff.1 hne
  rw [tokenize_eq_flatMap, String.toList_append, String.toList_append, List.append_assoc,
    fields_append_gap hne hgap, List.flatMap_append, ← tokenize_eq_flatMap, ← tokenize_eq_flatMap]

theorem tokenize_gap_append (hgap : gap.toList.all isBlank = true) (query : String) :
    tokenize (gap ++ query) = tokenize query := by
  rw [tokenize_eq_flatMap, String.toList_append, fields_gap hgap, ← tokenize_eq_flatMap]

theorem tokenize_append_end (hgap : gap.toList.all isBlank = true) (query : String) :
    tokenize (query ++ gap) = tokenize query := by
  by_cases hne : gap = ""
  · rw [hne, String.append_empty]
  · have hparts := tokenize_append_gap hne hgap query ""
    rw [String.append_empty] at hparts
    rw [hparts]
    exact List.append_nil _

/-- **A query has the tokens of its lower-case form.** -/
theorem tokenize_lowerText (query : String) : tokenize (lowerText query) = tokenize query := by
  rw [tokenize, lowerText, String.toList_ofList, lowercase_lowercase]
  rfl

/-- **Blanks part a query, and nothing else does.** The tokens around a gap are those of the two
parts, gaps at the ends do not count, and the query may be lower-cased before: this gives the same
fields as lower-casing each field on its own. -/
theorem tokenize_parts (first gap second : String) (hne : gap ≠ "")
    (hgap : gap.toList.all isBlank = true) :
    tokenize (first ++ gap ++ second) = tokenize first ++ tokenize second ∧
      tokenize (gap ++ first) = tokenize first ∧ tokenize (first ++ gap) = tokenize first ∧
      tokenize (lowerText first) = tokenize first ∧
      fields (lowercase first.toList) = (fields first.toList).map lowercase :=
  ⟨tokenize_append_gap hne hgap first second, tokenize_gap_append hgap first,
    tokenize_append_end hgap first, tokenize_lowerText first, fields_lowercase first.toList⟩

/-- A gap between two letters, the first of which is a capital sigma: it ends its word there. -/
theorem tokenize_sigmaBeforeGap :
    "\u2003" ≠ "" ∧ "\u2003".toList.all isBlank = true ∧
      tokenize ("from 'ΟΔΟΣ." ++ "\u2003" ++ "Α'") =
        [.reserved .fromWord, .text "οδος."] ++ [.text "α"] ∧
      tokenize ("\u2003" ++ "from 'ΟΔΟΣ.") = [.reserved .fromWord, .text "οδος."] ∧
      tokenize ("from 'ΟΔΟΣ." ++ "\u2003") = [.reserved .fromWord, .text "οδος."] ∧
      tokenize (lowerText "from 'ΟΔΟΣ.") = [.reserved .fromWord, .text "οδος."] ∧
      fields (lowercase "from 'ΟΔΟΣ.".toList) = (fields "from 'ΟΔΟΣ.".toList).map lowercase := by
  have hfirst : tokenize "from 'ΟΔΟΣ." = [.reserved .fromWord, .text "οδος."] := by decide +kernel
  have hsecond : tokenize "Α'" = [.text "α"] := by decide +kernel
  have hne : "\u2003" ≠ "" := by decide
  have hgap : "\u2003".toList.all isBlank = true := by decide
  have hparts := tokenize_parts "from 'ΟΔΟΣ." "\u2003" "Α'" hne hgap
  rw [hfirst, hsecond] at hparts
  exact ⟨hne, hgap, hparts⟩

end HttpQuery
