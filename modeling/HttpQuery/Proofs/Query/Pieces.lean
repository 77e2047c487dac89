import HttpQuery.Query.Placeholder

/-! # Reading the pieces of a query

Each step of the reading takes something of the query, and there is a step as long as anything is
left. So the reading cannot fail, and it ends at the end of the query. Where a piece is a run of
characters that stand for themselves, it may as well be a piece for each of these: the same texts
are filled in, and the pieces then follow the query character by character.

* `TextReader.Progresses`: a reader that finds nothing in no characters; `exists_many`: it can be
  repeated on any text.
* `Starts`, `exists_starts`: the piece that a text starts with, if there is any text.
* `many_readPiece`: the reading ends at the end of the query.
* `flatMap_written_pieces`: the pieces make up the query.
* `singles`, `singles_eq`: the pieces, character by character; `fill_singles`, `count_singles`. -/

namespace HttpQuery

/-! ### Repeated reading -/

namespace TextReader

variable {α : Type} {read : TextReader α} {text rest : List Char} {found : α}

/-- **A reader that finds nothing in no characters**: whatever it finds, less text is left. -/
def Progresses (read : TextReader α) : Prop :=
  ∀ text found rest, read text = some (found, rest) → rest.length < text.length

theorem many_of_none (h : read text = none) : read.many text = some ([], text) := by
  rw [many, h]

theorem many_of_some (h : read text = some (found, rest)) (hlt : rest.length < text.length) :
    read.many text = (read.many rest).map fun (more, left) => (found :: more, left) := by
  rw [many, h]
  exact if_pos hlt

/-- **A reader that progresses can be repeated** on any text, and nothing more is found where it
ends. -/
theorem Progresses.exists_many (h : read.Progresses) (text : List Char) :
    ∃ all left, read.many text = some (all, left) ∧ read left = none := by
  fun_induction many read text with
  | case1 text hread => exact ⟨[], text, rfl, hread⟩
  | case2 text found rest hread hlt ih =>
    obtain ⟨more, left, hmany, hend⟩ := ih
    exact ⟨found :: more, left, by rw [hmany]; rfl, hend⟩
  | case3 text found rest hread hstuck => exact absurd (h text found rest hread) hstuck

end TextReader

/-! ### One piece -/

/-- The characters that a piece is read from. -/
def Piece.written : Piece → List Char
  | .text run => run
  | .percent => ['%', '%']
  | .placeholder => ['%', 's']

/-- **The piece that a text starts with**, and the text after it. -/
inductive Starts : List Char → Piece → List Char → Prop
  | placeholder (rest : List Char) : Starts ('%' :: 's' :: rest) .placeholder rest
  | percent (rest : List Char) : Starts ('%' :: '%' :: rest) .percent rest
  | run {c : Char} (hc : c ≠ '%') (rest : List Char) :
      Starts (c :: rest) (.text (c :: rest.takeWhile (· ≠ '%'))) (rest.dropWhile (· ≠ '%'))
  | sign {rest : List Char} (hs : rest.head? ≠ some 's') (hpercent : rest.head? ≠ some '%') :
      Starts ('%' :: rest) (.text ['%']) rest

variable {text rest : List Char} {piece : Piece}

/-- **Any text starts with a piece.** -/
theorem exists_starts (h : text ≠ []) :
    ∃ piece rest, readPiece text = some (piece, rest) ∧ Starts text piece rest := by
  cases text with
  | nil => exact absurd rfl h
  | cons c text =>
    by_cases hc : c = '%'
    · subst hc
      by_cases hs : text.head? = some 's'
      · obtain ⟨rest, rfl⟩ := List.head?_eq_some_iff.1 hs
        exact ⟨_, _, rfl, .placeholder rest⟩
      by_cases hpercent : text.head? = some '%'
      · obtain ⟨rest, rfl⟩ := List.head?_eq_some_iff.1 hpercent
        exact ⟨_, _, rfl, .percent rest⟩
      refine ⟨_, _, ?_, .sign hs hpercent⟩
      cases text with
      | nil => rfl
      | cons d text =>
        rw [List.head?_cons, Option.some_inj] at hs hpercent
        simp [readPiece, TextReader.first, TextReader.mark, TextReader.run, Ne.symm hs,
          Ne.symm hpercent]
    · refine ⟨_, _, ?_, .run hc text⟩
      simp [readPiece, TextReader.first, TextReader.mark, TextReader.run, hc, Ne.symm hc]

/-- A piece and the text after it make up the text. -/
theorem Starts.text_eq (h : Starts text piece rest) : text = piece.written ++ rest := by
  cases h with
  | placeholder rest => rfl
  | percent rest => rfl
  | run hc rest => rw [Piece.written, List.cons_append, List.takeWhile_append_dropWhile]
  | sign hs hpercent => rfl

/-- Each step takes something of the text. -/
theorem Starts.length_lt (h : Starts text piece rest) : rest.length < text.length := by
  have hwritten : piece.written ≠ [] := by
    cases h <;> exact List.cons_ne_nil _ _
  rw [h.text_eq, List.length_append]
  exact Nat.lt_add_of_pos_left (List.length_pos_iff.2 hwritten)

/-- What is read at the start of a text. -/
theorem starts_of_readPiece (h : readPiece text = some (piece, rest)) : Starts text piece rest := by
  have hne : text ≠ [] := by
    rintro rfl
    cases h
  obtain ⟨found, after, hread, hstarts⟩ := exists_starts hne
  rw [hread] at h
  cases h
  exact hstarts

theorem readPiece_eq_none_iff : readPiece text = none ↔ text = [] := by
  constructor
  · intro h
    cases text with
    | nil => rfl
    | cons c text =>
      obtain ⟨piece, rest, hread, -⟩ := exists_starts (List.cons_ne_nil c text)
      rw [hread] at h
      cases h
  · rintro rfl
    rfl

theorem progresses_readPiece : readPiece.Progresses :=
  fun _ _ _ h => (starts_of_readPiece h).length_lt

/-! ### All pieces -/

/-- **The reading ends at the end of the query**, and so never fails. -/
theorem many_readPiece (query : List Char) : readPiece.many query = some (pieces query, []) := by
  obtain ⟨all, left, hmany, hend⟩ := progresses_readPiece.exists_many query
  obtain rfl := readPiece_eq_none_iff.1 hend
  rw [pieces, hmany]

@[simp] theorem pieces_nil : pieces [] = [] := by
  rw [pieces, TextReader.many_of_none rfl]

@[simp] theorem placeholderCount_nil : placeholderCount [] = 0 := by
  rw [placeholderCount, pieces_nil, List.count_nil]

/-- The pieces of a query, one step at a time. -/
theorem pieces_of_readPiece (h : readPiece text = some (piece, rest)) :
    pieces text = piece :: pieces rest := by
  have hmany := TextReader.many_of_some h (progresses_readPiece _ _ _ h)
  rw [many_readPiece, many_readPiece] at hmany
  exact (Prod.mk.inj (Option.some.inj hmany)).1

theorem pieces_placeholder (rest : List Char) :
    pieces ('%' :: 's' :: rest) = .placeholder :: pieces rest :=
  pieces_of_readPiece rfl

theorem pieces_percent (rest : List Char) :
    pieces ('%' :: '%' :: rest) = .percent :: pieces rest :=
  pieces_of_readPiece rfl

/-- **Induction on the steps of the reading.** -/
theorem pieces_induction {motive : List Char → List Piece → Prop} (nil : motive [] [])
    (step : ∀ text piece rest, Starts text piece rest → motive rest (pieces rest) →
      motive text (piece :: pieces rest)) (query : List Char) : motive query (pieces query) := by
  induction hlength : query.length using Nat.strongRecOn generalizing query with
  | ind n ih =>
    by_cases hne : query = []
    · rw [hne, pieces_nil]
      exact nil
    · obtain ⟨piece, rest, hread, hstarts⟩ := exists_starts hne
      rw [pieces_of_readPiece hread]
      exact step query piece rest hstarts (ih rest.length (hlength ▸ hstarts.length_lt) rest rfl)

/-- **The pieces make up the whole query.** -/
theorem flatMap_written_pieces (query : List Char) :
    (pieces query).flatMap Piece.written = query := by
  induction query using pieces_induction with
  | nil => rfl
  | step text piece rest hstarts ih => rw [List.flatMap_cons, ih, ← hstarts.text_eq]

/-! ### Character by character -/

/-- **The pieces of a query, character by character**: each character that stands for itself is a
piece of its own. -/
def singles : List Char → List Piece
  | [] => []
  | '%' :: 's' :: cs => .placeholder :: singles cs
  | '%' :: '%' :: cs => .percent :: singles cs
  | c :: cs => .text [c] :: singles cs

/-- A piece, character by character. -/
def Piece.singles : Piece → List Piece
  | .text run => run.map fun c => .text [c]
  | piece => [piece]

/-- A character that starts no verb stands for itself. -/
theorem singles_cons {c : Char} (h : c = '%' → text.head? ≠ some 's' ∧ text.head? ≠ some '%') :
    singles (c :: text) = .text [c] :: singles text := by
  rw [singles]
  · rintro rest rfl rfl
    exact (h rfl).1 rfl
  · rintro rest rfl rfl
    exact (h rfl).2 rfl

theorem singles_cons_of_ne {c : Char} (h : c ≠ '%') (text : List Char) :
    singles (c :: text) = .text [c] :: singles text :=
  singles_cons fun hc => absurd hc h

/-- Characters without a percent sign among them stand for themselves. -/
theorem singles_append {run : List Char} (h : ∀ c ∈ run, c ≠ '%') (text : List Char) :
    singles (run ++ text) = run.map (fun c => .text [c]) ++ singles text := by
  induction run with
  | nil => rfl
  | cons c run ih =>
    obtain ⟨hc, hrun⟩ := List.forall_mem_cons.1 h
    rw [List.cons_append, singles_cons_of_ne hc, ih hrun, List.map_cons, List.cons_append]

theorem Starts.singles_eq (h : Starts text piece rest) :
    HttpQuery.singles text = piece.singles ++ HttpQuery.singles rest := by
  cases h with
  | placeholder rest => rfl
  | percent rest => rfl
  | @run c hc rest =>
    have hrun : ∀ d ∈ c :: rest.takeWhile (· ≠ '%'), d ≠ '%' :=
      List.forall_mem_cons.2
        ⟨hc, fun d hd => of_decide_eq_true (List.all_eq_true.1 List.all_takeWhile d hd)⟩
    have h := singles_append hrun (rest.dropWhile (· ≠ '%'))
    rwa [List.cons_append, List.takeWhile_append_dropWhile] at h
  | sign hs hpercent => exact singles_cons fun _ => ⟨hs, hpercent⟩

/-- **The same pieces**, character by character. -/
theorem singles_eq (query : List Char) : singles query = (pieces query).flatMap Piece.singles := by
  induction query using pieces_induction with
  | nil => rfl
  | step text piece rest hstarts ih => rw [hstarts.singles_eq, ih, List.flatMap_cons]

theorem fill_map_text (run : List Char) (ps : List Piece) (texts : List String) :
    fill (run.map (fun c => .text [c]) ++ ps) texts = run ++ fill ps texts := by
  induction run with
  | nil => rfl
  | cons c run ih => exact congrArg (c :: ·) ih

/-- **They are filled alike.** -/
theorem fill_singles (query : List Char) (texts : List String) :
    fill (singles query) texts = fill (pieces query) texts := by
  rw [singles_eq]
  induction pieces query generalizing texts with
  | nil => rfl
  | cons piece ps ih =>
    rw [List.flatMap_cons]
    cases piece with
    | text run => rw [Piece.singles, fill_map_text, ih, fill]
    | percent => exact congrArg ('%' :: ·) (ih texts)
    | placeholder =>
      cases texts with
      | nil => exact ih []
      | cons text texts => exact congrArg (text.toList ++ ·) (ih texts)

/-- They hold the same placeholders. -/
theorem count_singles (query : List Char) :
    (singles query).count .placeholder = placeholderCount query := by
  rw [singles_eq, placeholderCount]
  induction pieces query with
  | nil => rfl
  | cons piece ps ih =>
    rw [List.flatMap_cons, List.count_append, ih]
    cases piece with
    | text run =>
      have hnone : (run.map fun c => Piece.text [c]).count .placeholder = 0 :=
        List.count_eq_zero.2 (by simp)
      rw [Piece.singles, hnone, Nat.zero_add, List.count_cons_of_ne (by simp)]
    | percent => rw [List.count_cons_of_ne (by simp)]; exact Nat.zero_add _
    | placeholder => rw [List.count_cons_self]; exact Nat.add_comm _ _

end HttpQuery
