import HttpQuery.Proofs.Compile.Stages
import HttpQuery.Proofs.Query.Placeholders
import HttpQuery.Proofs.Text.Lowercase
import Mathlib.Data.List.Forall2

/-! # The letter case of a query

The placeholders of a query are found before it is lower-cased, and the letter of a verb counts.
Any other ASCII letter may be written in either case: the query has the same pieces but for these
letters, so it fills to texts that differ in them only, and these have the same lower-case form.

* `Recased`, `Argument.Recased`: queries and arguments that differ in the case of such letters.
* `Recased.singles_eq`: the pieces of such queries.
* `tokenize_congr`: the tokens of such texts.
* `compile_recased`: such queries with such arguments compile alike. -/

namespace HttpQuery

open Text

/-- Texts that differ in the case of ASCII letters only. -/
def SameLetters (first second : List Char) : Prop :=
  first.map Char.toLower = second.map Char.toLower

/-- **Queries that differ in the case of ASCII letters only**, and not in that of a letter directly
after a percent sign. -/
structure Recased (query other : List Char) : Prop where
  letters : SameLetters query other
  after_percent : ∀ i, query[i]? = some '%' → query[i + 1]? = other[i + 1]?

/-- **Arguments that differ in the case of ASCII letters only**, and only in texts. -/
inductive Argument.Recased : Argument → Argument → Prop where
  | text {s t : String} (h : SameLetters s.toList t.toList) : Recased (.text s) (.text t)
  | value (v : Json) : Recased (.value v) (.value v)

instance (first second : List Char) : Decidable (SameLetters first second) :=
  inferInstanceAs (Decidable (_ = _))

instance (query other : List Char) : Decidable (Recased query other) :=
  decidable_of_iff (SameLetters query other ∧
      ∀ i < query.length, query[i]? = some '%' → query[i + 1]? = other[i + 1]?)
    ⟨fun h => ⟨h.1, fun i hi => h.2 i (List.getElem?_eq_some_iff.1 hi).1 hi⟩,
      fun h => ⟨h.letters, fun i _ => h.after_percent i⟩⟩

variable {c : Char} {query other text : List Char} {texts others : List String}

/-! ### The pieces -/

/-- A piece with its letters in lower case. -/
def Piece.toLower : Piece → Piece
  | .text run => .text (run.map Char.toLower)
  | .percent => .percent
  | .placeholder => .placeholder

theorem Recased.of_cons (h : Recased (c :: text) other) :
    ∃ d rest, other = d :: rest ∧ c.toLower = d.toLower ∧ Recased text rest ∧
      (c = '%' → text.head? = rest.head?) := by
  obtain ⟨d, rest, rfl, hd, hrest⟩ := List.map_eq_cons_iff.1 h.letters.symm
  refine ⟨d, rest, rfl, hd.symm, ⟨hrest.symm, fun i hi => h.after_percent (i + 1) hi⟩, ?_⟩
  rintro rfl
  rw [List.head?_eq_getElem?, List.head?_eq_getElem?]
  exact h.after_percent 0 rfl

/-- A verb stays as it is. -/
theorem Recased.of_verb {verb : Char} (h : Recased ('%' :: verb :: text) other) :
    ∃ rest, other = '%' :: verb :: rest ∧ Recased text rest := by
  obtain ⟨d, more, rfl, hd, hmore, hhead⟩ := h.of_cons
  obtain rfl : d = '%' := (toLower_eq_iff (by decide)).1 hd.symm
  obtain ⟨e, rest, rfl, -, hrest, -⟩ := hmore.of_cons
  obtain rfl : verb = e := Option.some.inj (hhead rfl)
  exact ⟨rest, rfl, hrest⟩

/-- **The pieces of such queries** differ in the case of their letters. -/
theorem Recased.singles_eq (h : Recased query other) :
    (singles query).map Piece.toLower = (singles other).map Piece.toLower := by
  fun_induction singles query generalizing other with
  | case1 =>
    rw [List.map_eq_nil_iff.1 h.letters.symm]
    rfl
  | case2 text ih =>
    obtain ⟨rest, rfl, hrest⟩ := h.of_verb
    exact congrArg (Piece.placeholder :: ·) (ih hrest)
  | case3 text ih =>
    obtain ⟨rest, rfl, hrest⟩ := h.of_verb
    exact congrArg (Piece.percent :: ·) (ih hrest)
  | case4 c text hplaceholder hdoubled ih =>
    obtain ⟨d, rest, rfl, hd, hrest, hhead⟩ := h.of_cons
    rw [singles_cons, List.map_cons, List.map_cons, ih hrest, Piece.toLower, Piece.toLower,
      List.map_singleton, List.map_singleton, hd]
    -- The other query has no verb here, since the first one has none.
    rintro rfl
    obtain rfl : c = '%' := (toLower_eq_iff (by decide)).1 hd
    rw [← hhead rfl]
    exact head?_ne_of_no_verb (fun _ => hplaceholder _ rfl) (fun _ => hdoubled _ rfl)

theorem count_map_toLower (ps : List Piece) :
    (ps.map Piece.toLower).count .placeholder = ps.count .placeholder := by
  induction ps with
  | nil => rfl
  | cons piece ps ih => cases piece <;> simp [Piece.toLower, ih]

theorem Recased.placeholderCount_eq (h : Recased query other) :
    placeholderCount query = placeholderCount other := by
  rw [← count_singles, ← count_singles, ← count_map_toLower, h.singles_eq, count_map_toLower]

/-! ### The texts -/

/-- A text with its ASCII letters in lower case. -/
def asciiLower (text : String) : String := String.ofList (text.toList.map Char.toLower)

theorem map_toLower_fill (ps : List Piece) (texts : List String) :
    (fill ps texts).map Char.toLower = fill (ps.map Piece.toLower) (texts.map asciiLower) := by
  induction ps generalizing texts with
  | nil => rfl
  | cons piece ps ih =>
    cases piece with
    | text run => rw [fill, List.map_append, ih, List.map_cons, Piece.toLower, fill]
    | percent => exact congrArg ('%' :: ·) (ih texts)
    | placeholder =>
      cases texts with
      | nil => exact ih []
      | cons text texts =>
        rw [fill, List.map_append, ih, List.map_cons, List.map_cons, Piece.toLower, fill,
          asciiLower, String.toList_ofList]

/-- **The tokens of texts that differ in the case of ASCII letters.** -/
theorem tokenize_congr {first second : String} (h : SameLetters first.toList second.toList) :
    tokenize first = tokenize second := by
  rw [tokenize, tokenize, ← lowercase_map_toLower first.toList, h, lowercase_map_toLower]

/-- Such queries with such texts are bound to texts with the same tokens, or they are refused with
the same error. -/
theorem Recased.substitute {query other : String} (h : Recased query.toList other.toList)
    (htexts : texts.map asciiLower = others.map asciiLower) :
    (∃ bound changed, substitute query texts = .ok bound ∧ substitute other others = .ok changed ∧
        tokenize bound = tokenize changed) ∨
      ∃ cause, substitute query texts = .error cause ∧ substitute other others = .error cause := by
  have hcount := h.placeholderCount_eq
  have hlength : texts.length = others.length := by
    rw [← List.length_map asciiLower, htexts, List.length_map]
  unfold HttpQuery.substitute
  rw [← hcount, ← hlength]
  split
  · refine .inl ⟨_, _, rfl, rfl, tokenize_congr ?_⟩
    rw [SameLetters, String.toList_ofList, String.toList_ofList, ← fill_singles, ← fill_singles,
      map_toLower_fill, map_toLower_fill, h.singles_eq, htexts]
  · exact .inr ⟨_, rfl, rfl⟩

/-! ### The arguments -/

theorem map_asciiLower_text? {arguments more : List Argument}
    (h : List.Forall₂ Argument.Recased arguments more) :
    (arguments.filterMap Argument.text?).map asciiLower =
      (more.filterMap Argument.text?).map asciiLower := by
  induction h with
  | nil => rfl
  | cons hargument _ ih =>
    cases hargument with
    | value v => exact ih
    | @text s t hletters =>
      have hlower : asciiLower s = asciiLower t := congrArg String.ofList hletters
      simp only [List.filterMap_cons, Argument.text?, List.map_cons, hlower, ih]

theorem findSome?_value? {arguments more : List Argument}
    (h : List.Forall₂ Argument.Recased arguments more) :
    arguments.findSome? Argument.value? = more.findSome? Argument.value? := by
  induction h with
  | nil => rfl
  | cons hargument _ ih =>
    cases hargument with
    | value v => rfl
    | text hletters => exact ih

/-! ### Compiling -/

/-- **Queries are case-insensitive.** The case of ASCII letters does not count in a query, except
directly after a percent sign, nor in the texts of its arguments: the descriptor is the same, or the
error. -/
theorem compile_recased (mode : Mode) (query other : String) (arguments more : List Argument)
    (hquery : Recased query.toList other.toList)
    (harguments : List.Forall₂ Argument.Recased arguments more) :
    compile mode query arguments = compile mode other more := by
  rw [compile_eq_ofTokens, compile_eq_ofTokens, findSome?_value? harguments]
  rcases hquery.substitute (map_asciiLower_text? harguments) with
    ⟨bound, changed, hbound, hchanged, htokens⟩ | ⟨cause, hbound, hchanged⟩
  · rw [hbound, hchanged, Except.bind, Except.bind, htokens]
  · rw [hbound, hchanged]

/-- A query with letters beside a capital sigma and after percent signs. -/
def besideSigma : String := "FROM HΣ%sΣ where A%S = '50%'"

/-- This query in another letter case. -/
def besideSigmaRecased : String := "from hΣ%sΣ WHERE a%S = '50%'"

/-- Both queries compile alike, with arguments that differ in their letter case too. -/
theorem compile_besideSigma :
    Recased besideSigma.toList besideSigmaRecased.toList ∧
      compile .body besideSigma [.text "Ab", .value .null] =
        compile .body besideSigmaRecased [.text "aB", .value .null] := by
  have hrecased : Recased besideSigma.toList besideSigmaRecased.toList := by decide
  have harguments : List.Forall₂ Argument.Recased [.text "Ab", .value .null]
      [.text "aB", .value .null] :=
    .cons (.text (by decide)) (.cons (.value .null) .nil)
  exact ⟨hrecased, compile_recased .body _ _ _ _ hrecased harguments⟩

end HttpQuery
