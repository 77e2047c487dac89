import HttpQuery.Proofs.Query.Pieces

/-! # Filling the parts of a query

A part of a query *fills* to a text if it does so wherever it stands: it takes its own texts, and
leaves the pieces and the texts after it alone. This holds of every part that does not end inside a
verb, and parts that fill can be put together. A query can also be parted at any character that
belongs to no verb, whatever stands before it.

* `singles_append_cons`, `fill_append_cons`: the pieces of the parts, and their texts.
* `Fills`, `Fills.append`: parts that fill, and their composition.
* `Fills.plain`, `Fills.doubled`, `Fills.placeholder`: a text without percent signs, a text with all
  of them doubled, and a placeholder.
* `Fills.substitute_eq`, `substitute_plain`: a query that fills is substituted. -/

namespace HttpQuery

variable {first second text : List Char} {texts others : List String} {c : Char}

/-- **A part of a query that fills** to `result` with `texts`, wherever it stands. -/
structure Fills (part : List Char) (texts : List String) (result : List Char) : Prop where
  fill_eq : ∀ rest others,
    fill (pieces (part ++ rest)) (texts ++ others) = result ++ fill (pieces rest) others
  count_eq : ∀ rest, placeholderCount (part ++ rest) = texts.length + placeholderCount rest

/-- What follows a percent sign that starts no verb. -/
theorem head?_ne_of_no_verb (hplaceholder : ∀ rest, text = 's' :: rest → False)
    (hdoubled : ∀ rest, text = '%' :: rest → False) :
    text.head? ≠ some 's' ∧ text.head? ≠ some '%' := by
  constructor
  · intro h
    obtain ⟨rest, rfl⟩ := List.head?_eq_some_iff.1 h
    exact hplaceholder rest rfl
  · intro h
    obtain ⟨rest, rfl⟩ := List.head?_eq_some_iff.1 h
    exact hdoubled rest rfl

/-! ### Parting a query -/

/-- **A character that belongs to no verb parts the pieces.** -/
theorem singles_append_cons (hpercent : c ≠ '%') (hs : c ≠ 's') (first second : List Char) :
    singles (first ++ c :: second) = singles first ++ .text [c] :: singles second := by
  fun_induction singles first with
  | case1 => exact singles_cons_of_ne hpercent second
  | case2 rest ih => exact congrArg (Piece.placeholder :: ·) ih
  | case3 rest ih => exact congrArg (Piece.percent :: ·) ih
  | case4 d rest hplaceholder hdoubled ih =>
    rw [List.cons_append, singles_cons, ih, List.cons_append]
    -- What follows `d` is in the first part, or it is `c`.
    rintro rfl
    cases rest with
    | nil => exact ⟨by simpa using hs, by simpa using hpercent⟩
    | cons e rest =>
      have hhead : (e :: rest).head? ≠ some 's' ∧ (e :: rest).head? ≠ some '%' :=
        head?_ne_of_no_verb (fun _ => hplaceholder _ rfl) (fun _ => hdoubled _ rfl)
      exact hhead

theorem placeholderCount_append_cons (hpercent : c ≠ '%') (hs : c ≠ 's')
    (first second : List Char) :
    placeholderCount (first ++ c :: second) = placeholderCount first + placeholderCount second := by
  rw [← count_singles, singles_append_cons hpercent hs, List.count_append,
    List.count_cons_of_ne (by simp), count_singles, count_singles]

/-- Pieces are filled part by part, if the first part takes as many texts as it has placeholders. -/
theorem fill_append {first second : List Piece} (h : texts.length = first.count .placeholder) :
    fill (first ++ second) (texts ++ others) = fill first texts ++ fill second others := by
  induction first generalizing texts with
  | nil =>
    obtain rfl : texts = [] := List.eq_nil_of_length_eq_zero h
    rfl
  | cons piece first ih =>
    cases piece with
    | text run =>
      rw [List.count_cons_of_ne (by simp)] at h
      have hrest := ih h
      rw [List.cons_append, fill, fill, hrest, List.append_assoc]
    | percent =>
      rw [List.count_cons_of_ne (by simp)] at h
      exact congrArg ('%' :: ·) (ih h)
    | placeholder =>
      rw [List.count_cons_self] at h
      cases texts with
      | nil => cases h
      | cons text texts =>
        have hrest := ih (Nat.succ.inj h)
        rw [List.cons_append, List.cons_append, fill, fill, hrest, List.append_assoc]

/-- **A query is filled part by part**, where it is parted at such a character. -/
theorem fill_append_cons (hpercent : c ≠ '%') (hs : c ≠ 's') {first second : List Char}
    (h : texts.length = placeholderCount first) :
    fill (pieces (first ++ c :: second)) (texts ++ others) =
      fill (pieces first) texts ++ c :: fill (pieces second) others := by
  rw [← fill_singles, singles_append_cons hpercent hs, fill_append (h.trans (count_singles _).symm),
    fill_singles, ← fill_singles second]
  rfl

/-- Without texts, what a query fills to stands in the query. -/
theorem mem_of_mem_fill {d : Char} (h : d ∈ fill (pieces text) []) : d ∈ text := by
  rw [← fill_singles] at h
  fun_induction singles text with
  | case1 => exact h
  | case2 rest ih => exact List.mem_cons_of_mem _ (List.mem_cons_of_mem _ (ih h))
  | case3 rest ih =>
    rcases List.mem_cons.1 h with rfl | h
    · exact List.mem_cons_self
    · exact List.mem_cons_of_mem _ (List.mem_cons_of_mem _ (ih h))
  | case4 c rest _ _ ih =>
    rcases List.mem_cons.1 h with rfl | h
    · exact List.mem_cons_self
    · exact List.mem_cons_of_mem _ (ih h)

/-- A query without placeholders does not vanish. -/
theorem fill_ne_nil (hne : text ≠ []) (hzero : placeholderCount text = 0) :
    fill (pieces text) texts ≠ [] := by
  rw [← count_singles] at hzero
  rw [← fill_singles]
  fun_cases singles text with
  | case1 => exact absurd rfl hne
  | case2 rest =>
    rw [singles, List.count_cons_self] at hzero
    cases hzero
  | case3 rest => exact List.cons_ne_nil _ _
  | case4 c rest hplaceholder hdoubled => exact List.cons_ne_nil _ _

/-! ### Parts that fill -/

namespace Fills

theorem nil : Fills [] [] [] where
  fill_eq _ _ := rfl
  count_eq _ := (Nat.zero_add _).symm

/-- **Parts that fill can be put together.** -/
theorem append {result more : List Char} (hfirst : Fills first texts result)
    (hsecond : Fills second others more) :
    Fills (first ++ second) (texts ++ others) (result ++ more) where
  fill_eq rest still := by
    rw [List.append_assoc, List.append_assoc, hfirst.fill_eq, hsecond.fill_eq, List.append_assoc]
  count_eq rest := by
    rw [List.append_assoc, hfirst.count_eq, hsecond.count_eq, List.length_append]
    omega

theorem char (h : c ≠ '%') : Fills [c] [] [c] where
  fill_eq rest others := by
    rw [List.singleton_append, ← fill_singles, singles_cons_of_ne h, ← fill_singles]
    rfl
  count_eq rest := by
    rw [List.singleton_append, ← count_singles, singles_cons_of_ne h, List.count_cons_of_ne,
      count_singles]
    · exact (Nat.zero_add _).symm
    · simp

theorem percent : Fills ['%', '%'] [] ['%'] where
  fill_eq rest others := congrArg (fill · others) (pieces_percent rest)
  count_eq rest := by
    show (pieces ('%' :: '%' :: rest)).count .placeholder = _
    rw [pieces_percent, List.count_cons_of_ne (by simp)]
    exact (Nat.zero_add _).symm

theorem placeholder (text : String) : Fills ['%', 's'] [text] text.toList where
  fill_eq rest others := congrArg (fill · (text :: others)) (pieces_placeholder rest)
  count_eq rest := by
    show (pieces ('%' :: 's' :: rest)).count .placeholder = _
    rw [pieces_placeholder, List.count_cons_self]
    exact Nat.add_comm _ _

/-- A text without percent signs fills to itself. -/
theorem plain (h : '%' ∉ text) : Fills text [] text := by
  induction text with
  | nil => exact nil
  | cons c text ih =>
    obtain ⟨hc, htext⟩ : c ≠ '%' ∧ '%' ∉ text := by simpa [eq_comm] using h
    exact (char hc).append (ih htext)

end Fills

/-- A text with its percent signs doubled. -/
def doubled (text : List Char) : List Char :=
  text.flatMap fun c => if c = '%' then ['%', '%'] else [c]

/-- A text with its percent signs doubled fills to the text. -/
theorem Fills.doubled (text : List Char) : Fills (doubled text) [] text := by
  induction text with
  | nil => exact nil
  | cons c text ih =>
    rw [HttpQuery.doubled, List.flatMap_cons]
    by_cases hc : c = '%'
    · rw [if_pos hc, hc]
      exact percent.append ih
    · rw [if_neg hc]
      exact (char hc).append ih

/-- **A query that fills is substituted.** -/
theorem Fills.substitute_eq {query : String} {result : List Char}
    (h : Fills query.toList texts result) :
    substitute query texts = .ok (String.ofList result) := by
  have hcount := h.count_eq []
  have hfill := h.fill_eq [] []
  rw [List.append_nil] at hcount hfill
  rw [List.append_nil] at hfill
  rw [placeholderCount_nil, Nat.add_zero] at hcount
  rw [substitute, if_pos hcount, hfill, pieces_nil, fill, List.append_nil]

/-- A query without percent signs is substituted by itself. -/
theorem substitute_plain {query : String} (h : '%' ∉ query.toList) :
    substitute query [] = .ok query := by
  rw [(Fills.plain h).substitute_eq, String.ofList_toList]

end HttpQuery
