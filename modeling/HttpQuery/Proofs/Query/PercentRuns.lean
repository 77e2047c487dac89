import HttpQuery.Proofs.Query.Placeholders

/-! # Runs of percent signs

A query is cut in exactly one way at its runs of percent signs: into *stretches*, each of which is a
run, maybe an empty one, and the character that ends it, and a last run at the end of the query. No
stretch ends in a percent sign, so these runs are the maximal ones. What a run says depends on its
length and on the character after it only: the signs are taken in pairs, one that is left over
stands for itself, but together with an `s` it is a placeholder.

* `PercentRuns`, `PercentRuns.ofText`: a query, cut at its runs; `text_eq_iff`: there is one way.
* `PercentRuns.placeholders`, `PercentRuns.fill`: its placeholders, and what it fills to.
* `singles_run`, `singles_placeholder`: the pieces of one run.
* `fill_text`, `placeholderCount_text`: the pieces of a query agree with its runs.
* `substitute_eq_runs`: a query is substituted run by run. -/

namespace HttpQuery

/-! ### A query and its runs -/

/-- **A stretch of a query**: a run of percent signs and the character that ends it. -/
structure Stretch where
  percents : Nat
  stop : Char
  stop_ne : stop ≠ '%'

/-- **A query, cut at its runs of percent signs**: the stretches, and the run at the end. -/
structure PercentRuns where
  stretches : List Stretch
  last : Nat

namespace Stretch

/-- The text of a stretch. -/
def text (stretch : Stretch) : List Char :=
  List.replicate stretch.percents '%' ++ [stretch.stop]

/-- A run of odd length that is directly followed by `s`. -/
def IsPlaceholder (stretch : Stretch) : Prop := stretch.percents % 2 = 1 ∧ stretch.stop = 's'

instance (stretch : Stretch) : Decidable stretch.IsPlaceholder :=
  inferInstanceAs (Decidable (_ ∧ _))

end Stretch

/-- **What stretches fill to.** Of a placeholder with `2 * k + 1` percent signs there remain `k` of
them and the next text, in the place of its `s`; of any other run there remains half of the signs,
rounded up. -/
def fillStretches : List Stretch → List String → List Char
  | [], _ => []
  | stretch :: rest, texts =>
    if stretch.IsPlaceholder then
      List.replicate (stretch.percents / 2) '%' ++
        ((texts.headD "").toList ++ fillStretches rest texts.tail)
    else
      List.replicate ((stretch.percents + 1) / 2) '%' ++ stretch.stop :: fillStretches rest texts

namespace PercentRuns

/-- The text of a query that is cut at its runs. -/
def text (runs : PercentRuns) : List Char :=
  runs.stretches.flatMap Stretch.text ++ List.replicate runs.last '%'

/-- The number of placeholders. -/
def placeholders (runs : PercentRuns) : Nat := runs.stretches.countP fun s => s.IsPlaceholder

/-- **What a query fills to**, run by run. -/
def fill (runs : PercentRuns) (texts : List String) : List Char :=
  fillStretches runs.stretches texts ++ List.replicate ((runs.last + 1) / 2) '%'

/-- A query with one more percent sign in front. -/
def lengthen : PercentRuns → PercentRuns
  | ⟨[], last⟩ => ⟨[], last + 1⟩
  | ⟨stretch :: rest, last⟩ => ⟨{ stretch with percents := stretch.percents + 1 } :: rest, last⟩

/-- A query with one more character in front. -/
def cons (c : Char) (runs : PercentRuns) : PercentRuns :=
  if h : c = '%' then runs.lengthen else ⟨⟨0, c, h⟩ :: runs.stretches, runs.last⟩

/-- **The runs of a text.** -/
def ofText (text : List Char) : PercentRuns := text.foldr cons ⟨[], 0⟩

theorem text_lengthen (runs : PercentRuns) : runs.lengthen.text = '%' :: runs.text := by
  obtain ⟨stretches, last⟩ := runs
  cases stretches with
  | nil => rfl
  | cons stretch rest => rfl

theorem text_cons (c : Char) (runs : PercentRuns) : (cons c runs).text = c :: runs.text := by
  unfold cons
  split
  · next h => rw [text_lengthen, h]
  · rfl

theorem text_ofText (text : List Char) : (ofText text).text = text := by
  induction text with
  | nil => rfl
  | cons c text ih =>
    show (cons c (ofText text)).text = c :: text
    rw [text_cons, ih]

/-- The runs of a text, one character at a time. -/
theorem ofText_cons (c : Char) (text : List Char) : ofText (c :: text) = cons c (ofText text) := rfl

theorem ofText_last (last : Nat) : ofText (List.replicate last '%') = ⟨[], last⟩ := by
  induction last with
  | zero => rfl
  | succ last ih => rw [List.replicate_succ, ofText_cons, ih]; rfl

theorem ofText_stretch (stretch : Stretch) (text : List Char) :
    ofText (List.replicate stretch.percents '%' ++ stretch.stop :: text) =
      ⟨stretch :: (ofText text).stretches, (ofText text).last⟩ := by
  obtain ⟨n, c, hc⟩ := stretch
  show ofText (List.replicate n '%' ++ c :: text) = _
  induction n with
  | zero => exact dif_neg hc
  | succ n ih => rw [List.replicate_succ, List.cons_append, ofText_cons, ih]; rfl

/-- The text of a query, one stretch at a time. -/
theorem text_mk_cons (stretch : Stretch) (rest : List Stretch) (last : Nat) :
    PercentRuns.text ⟨stretch :: rest, last⟩ =
      List.replicate stretch.percents '%' ++ stretch.stop :: PercentRuns.text ⟨rest, last⟩ := by
  simp [PercentRuns.text, Stretch.text]

theorem ofText_text (runs : PercentRuns) : ofText runs.text = runs := by
  obtain ⟨stretches, last⟩ := runs
  induction stretches with
  | nil => exact ofText_last last
  | cons stretch rest ih => rw [text_mk_cons, ofText_stretch, ih]

/-- **A text is cut in exactly one way.** -/
theorem text_eq_iff {runs : PercentRuns} {text : List Char} :
    runs.text = text ↔ runs = ofText text := by
  constructor
  · rintro rfl
    exact (ofText_text runs).symm
  · rintro rfl
    exact text_ofText text

end PercentRuns

/-! ### The pieces of a run -/

variable {n : Nat} {rest : List Char} {texts : List String}

theorem singles_pairs (k : Nat) (rest : List Char) :
    singles (List.replicate (2 * k) '%' ++ rest) = List.replicate k .percent ++ singles rest := by
  induction k with
  | zero => rfl
  | succ k ih =>
    rw [Nat.mul_succ, List.replicate_succ, List.replicate_succ]
    exact congrArg (Piece.percent :: ·) ih

/-- A run as its pairs and the sign that is left over. -/
theorem replicate_pairs (n : Nat) :
    List.replicate n '%' = List.replicate (2 * (n / 2)) '%' ++ List.replicate (n % 2) '%' := by
  rw [List.replicate_append_replicate, Nat.div_add_mod]

/-- **A run whose last sign starts no verb.** -/
theorem singles_run (h : n % 2 = 1 → rest.head? ≠ some 's' ∧ rest.head? ≠ some '%') :
    singles (List.replicate n '%' ++ rest) =
      List.replicate (n / 2) .percent ++
        (List.replicate (n % 2) (.text ['%']) ++ singles rest) := by
  rw [replicate_pairs, List.append_assoc, singles_pairs]
  rcases Nat.mod_two_eq_zero_or_one n with hn | hn
  · rw [hn]
    rfl
  · rw [hn, List.replicate_one, List.replicate_one, List.singleton_append,
      singles_cons fun _ => h hn]
    rfl

/-- **A run whose last sign makes a placeholder.** -/
theorem singles_placeholder (hn : n % 2 = 1) (rest : List Char) :
    singles (List.replicate n '%' ++ 's' :: rest) =
      List.replicate (n / 2) .percent ++ .placeholder :: singles rest := by
  rw [replicate_pairs, List.append_assoc, singles_pairs, hn]
  rfl

/-- A stretch that is no placeholder. -/
theorem singles_stretch {stretch : Stretch} (h : ¬ stretch.IsPlaceholder) (rest : List Char) :
    singles (List.replicate stretch.percents '%' ++ stretch.stop :: rest) =
      List.replicate (stretch.percents / 2) .percent ++
        (List.replicate (stretch.percents % 2) (.text ['%']) ++
          .text [stretch.stop] :: singles rest) := by
  rw [singles_run, singles_cons_of_ne stretch.stop_ne]
  intro hodd
  rw [List.head?_cons, Ne, Option.some_inj, Ne, Option.some_inj]
  exact ⟨fun hs => h ⟨hodd, hs⟩, stretch.stop_ne⟩

/-- Pieces that fill to percent signs. -/
theorem fill_replicate {piece : Piece}
    (h : ∀ ps texts, fill (piece :: ps) texts = '%' :: fill ps texts) (k : Nat) (ps : List Piece) :
    fill (List.replicate k piece ++ ps) texts = List.replicate k '%' ++ fill ps texts := by
  induction k with
  | zero => rfl
  | succ k ih => rw [List.replicate_succ, List.cons_append, h, ih, List.replicate_succ]; rfl

/-- A run of which one half remains, rounded up. -/
theorem fill_run (n : Nat) (ps : List Piece) :
    fill (List.replicate (n / 2) .percent ++ (List.replicate (n % 2) (.text ['%']) ++ ps)) texts =
      List.replicate ((n + 1) / 2) '%' ++ fill ps texts := by
  have hhalf : n / 2 + n % 2 = (n + 1) / 2 := by omega
  rw [fill_replicate fun _ _ => rfl, fill_replicate fun _ _ => rfl, ← List.append_assoc,
    List.replicate_append_replicate, hhalf]

/-! ### The pieces of a query -/

/-- **What a stretch fills to**, before any rest. -/
theorem fill_singles_stretch (stretch : Stretch) (rest : List Char) :
    fill (singles (List.replicate stretch.percents '%' ++ stretch.stop :: rest)) texts =
      if stretch.IsPlaceholder then
        List.replicate (stretch.percents / 2) '%' ++
          ((texts.headD "").toList ++ fill (singles rest) texts.tail)
      else
        List.replicate ((stretch.percents + 1) / 2) '%' ++
          stretch.stop :: fill (singles rest) texts := by
  split
  · next h =>
    rw [h.2, singles_placeholder h.1, fill_replicate fun _ _ => rfl]
    cases texts <;> rfl
  · next h =>
    rw [singles_stretch h, fill_run]
    rfl

/-- **The placeholders of a stretch**, before any rest. -/
theorem placeholderCount_stretch (stretch : Stretch) (rest : List Char) :
    placeholderCount (List.replicate stretch.percents '%' ++ stretch.stop :: rest) =
      placeholderCount rest + if stretch.IsPlaceholder then 1 else 0 := by
  rw [← count_singles, ← count_singles]
  split
  · next h =>
    rw [h.2, singles_placeholder h.1]
    simp [List.count_replicate]
  · next h =>
    rw [singles_stretch h]
    simp [List.count_replicate]

namespace PercentRuns

/-- The run at the end of a query. -/
theorem singles_last (last : Nat) :
    singles (PercentRuns.text ⟨[], last⟩) =
      List.replicate (last / 2) .percent ++ (List.replicate (last % 2) (.text ['%']) ++ []) := by
  rw [← List.append_nil (PercentRuns.text _)]
  exact singles_run fun _ => ⟨nofun, nofun⟩

/-- **A query fills to what its runs fill to.** -/
theorem fill_text (runs : PercentRuns) (texts : List String) :
    HttpQuery.fill (pieces runs.text) texts = runs.fill texts := by
  rw [← fill_singles]
  obtain ⟨stretches, last⟩ := runs
  induction stretches generalizing texts with
  | nil => rw [singles_last, fill_run]; exact List.append_nil _
  | cons stretch rest ih =>
    rw [text_mk_cons, fill_singles_stretch, ih, ih]
    simp only [fill, fillStretches]
    split
    · rw [List.append_assoc, List.append_assoc]
    · rw [List.append_assoc, List.cons_append]

/-- **The placeholders of a query are its odd runs before an `s`.** -/
theorem placeholderCount_text (runs : PercentRuns) :
    placeholderCount runs.text = runs.placeholders := by
  obtain ⟨stretches, last⟩ := runs
  induction stretches with
  | nil =>
    rw [← count_singles, singles_last]
    simp [placeholders, List.count_replicate]
  | cons stretch rest ih =>
    rw [text_mk_cons, placeholderCount_stretch, ih, placeholders, placeholders, List.countP_cons]
    simp

end PercentRuns

/-! ### The query as a whole -/

/-- **A query is substituted run by run.** It is cut at its runs of percent signs in one way only,
and its placeholders are the runs of odd length directly before an `s`. If they are as many as the
texts, each of them gives way to its text, and the others to half of their signs; otherwise the two
numbers are the error. The reading of the pieces never fails: it goes on to the end of the query, of
which nothing is left out of the pieces. -/
theorem substitute_eq_runs (query : String) (texts : List String) :
    ∃ runs : PercentRuns, (∀ other : PercentRuns, other.text = query.toList ↔ other = runs) ∧
      substitute query texts =
        (if runs.placeholders = texts.length then .ok (String.ofList (runs.fill texts))
        else .error (.placeholderCount runs.placeholders texts.length)) ∧
      readPiece.many query.toList = some (pieces query.toList, []) ∧
      (pieces query.toList).flatMap Piece.written = query.toList := by
  refine ⟨.ofText query.toList, fun _ => PercentRuns.text_eq_iff, ?_, many_readPiece _,
    flatMap_written_pieces _⟩
  have htext := PercentRuns.text_ofText query.toList
  have hfill := PercentRuns.fill_text (.ofText query.toList) texts
  have hcount := PercentRuns.placeholderCount_text (.ofText query.toList)
  rw [htext] at hfill hcount
  rw [substitute, hfill, hcount]

/-- Two pairs and a placeholder, a pair and a sign that is left over, and a text that is not looked
at again. -/
example : substitute "%%%%%s%%%" ["%s"] = .ok "%%%s%%" := by cbv

end HttpQuery
