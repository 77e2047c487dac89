import HttpQuery.Proofs.Grammar.Steps
import Mathlib.Computability.Language
import Mathlib.Tactic.Abel

/-! # The words of the grammar

The kinds of the tokens of a query form a regular language, given here by the expressions of the
grammar. Each place of a query has a *rest*: the words that may still follow when the reader stands
there. The rests satisfy one equation for each place: a word of the rest is empty, if the query may
end there, or it starts with the kind of a next place and goes on in that place's rest.

* `Syntax.query`: the language of queries.
* `Place.rest`, `Place.rest_eq`: the rest of a place, and its equation.
* `exists_run_iff_mem_rest`: a reader at a place runs to an end of the query exactly along the words
  of the rest.
* `ofTokens_succeeds_iff_mem_query`: the queries that are read are the words of the language. -/

namespace HttpQuery

open scoped Computability

/-! ### The expressions of the grammar -/

namespace Syntax

/-- The language of one word. -/
def word (kinds : List Kind) : Language Kind := {kinds}

/-- A clause: a header, a member of the body, or the payload. -/
def clause : Language Kind :=
  word [.header, .value, .equal, .value] + word [.value, .equal, .value] +
    word [.payload, .equal] * (word [.question] + word [.value])

/-- An option: a method, credentials, or a timeout. -/
def queryOption : Language Kind :=
  word [.get] + word [.post] + word [.put] + word [.patch] + word [.delete] +
    word [.basicAuth, .value, .comma, .value] + word [.timeout, .value]

/-- The clauses after the first one. -/
def moreClauses : Language Kind := (word [.andWord] * clause)∗

/-- The clauses, if there are any. -/
def clauseList : Language Kind := 1 + word [.whereWord] * clause * moreClauses

/-- The options. -/
def optionList : Language Kind := (word [.withWord] * queryOption)∗

/-- The names of response headers after the first one. -/
def moreNames : Language Kind := (word [.comma, .value])∗

/-- The names of response headers, in the mode that has them. -/
def nameList : Mode → Language Kind
  | .body => 1
  | .headerSelection => word [.value] * moreNames

/-- **The language of queries.** -/
def query (mode : Mode) : Language Kind :=
  nameList mode * word [.fromWord, .value] * clauseList * optionList

/-- A word is written kind by kind. -/
theorem word_cons (kind other : Kind) (kinds : List Kind) :
    word (kind :: other :: kinds) = word [kind] * word (other :: kinds) := by
  ext w
  rw [Language.mem_mul]
  constructor
  · rintro rfl
    exact ⟨[kind], rfl, other :: kinds, rfl, rfl⟩
  · rintro ⟨a, rfl, b, rfl, rfl⟩
    rfl

theorem mem_word_mul {kind : Kind} {l : Language Kind} {w : List Kind} :
    w ∈ word [kind] * l ↔ ∃ v ∈ l, kind :: v = w := by
  rw [Language.mem_mul]
  constructor
  · rintro ⟨a, rfl, b, hb, rfl⟩
    exact ⟨b, hb, rfl⟩
  · rintro ⟨v, hv, rfl⟩
    exact ⟨[kind], rfl, v, hv, rfl⟩

theorem mem_sum_map {α : Type} {f : α → Language Kind} {xs : List α} {w : List Kind} :
    w ∈ (xs.map f).sum ↔ ∃ x ∈ xs, w ∈ f x := by
  induction xs with
  | nil => simp
  | cons x xs ih => rw [List.map_cons, List.sum_cons, Language.mem_add, ih]; simp

/-! ### One step into a repetition -/

theorem moreNames_eq : moreNames = 1 + word [.comma, .value] * moreNames :=
  (Language.one_add_self_mul_kstar_eq_kstar _).symm

theorem moreClauses_eq : moreClauses = 1 + word [.andWord] * clause * moreClauses :=
  (Language.one_add_self_mul_kstar_eq_kstar _).symm

theorem optionList_eq : optionList = 1 + word [.withWord] * queryOption * optionList :=
  (Language.one_add_self_mul_kstar_eq_kstar _).symm

end Syntax

/-! ### The rest of a place -/

namespace Place

open Syntax

/-- **The words that may follow a place.** -/
def rest (mode : Mode) : Place → Language Kind
  | .start => query mode
  | .outputHeader => moreNames * (word [.fromWord, .value] * (clauseList * optionList))
  | .outputComma =>
    word [.value] * (moreNames * (word [.fromWord, .value] * (clauseList * optionList)))
  | .source => word [.value] * (clauseList * optionList)
  | .url => clauseList * optionList
  | .finish => 0
  | .clauses | .nextClause => clause * (moreClauses * optionList)
  | .header => word [.value, .equal, .value] * (moreClauses * optionList)
  | .headerKey | .jsonKey => word [.equal, .value] * (moreClauses * optionList)
  | .headerEqual | .jsonEqual => word [.value] * (moreClauses * optionList)
  | .payload => word [.equal] * (word [.question] + word [.value]) * (moreClauses * optionList)
  | .payloadEqual => (word [.question] + word [.value]) * (moreClauses * optionList)
  | .headerValue | .jsonValue | .payloadPlaceholder | .payloadValue => moreClauses * optionList
  | .option => queryOption * optionList
  | .basicAuth => word [.value, .comma, .value] * optionList
  | .basicLogin => word [.comma, .value] * optionList
  | .basicComma | .timeout => word [.value] * optionList
  | .get | .post | .put | .patch | .delete | .basicPassword | .timeoutValue => optionList

/-- The words that start at one of some places. -/
def entries (mode : Mode) (places : List Place) : Language Kind :=
  (places.map fun place => word [(place.rule mode).kind] * place.rest mode).sum

theorem entries_cons (mode : Mode) (place : Place) (places : List Place) :
    entries mode (place :: places) =
      word [(place.rule mode).kind] * place.rest mode + entries mode places := rfl

theorem entries_nil (mode : Mode) : entries mode [] = 0 := rfl

/-- What may follow an option: nothing, or another option. -/
theorem optionList_eq_entries (mode : Mode) : optionList = 1 + entries mode afterOption := by
  conv_lhs => rw [optionList_eq]
  simp only [afterOption, entries_cons, entries_nil, rule, rest, mul_zero, zero_add, add_zero,
    mul_assoc]

/-- What may follow a clause: nothing, an option, or another clause. -/
theorem moreClauses_mul_eq_entries (mode : Mode) :
    moreClauses * optionList = 1 + entries mode afterClause := by
  conv_lhs => rw [moreClauses_eq, add_mul, one_mul]
  conv_lhs => enter [1]; rw [optionList_eq_entries mode]
  simp only [afterClause, afterOption, entries_cons, entries_nil, rule, rest, mul_zero, zero_add,
    add_zero, mul_assoc, add_assoc]

/-- **The equation of a place.** -/
theorem rest_eq (mode : Mode) (place : Place) :
    place.rest mode =
      (if .finish ∈ (place.rule mode).next then 1 else 0) +
        entries mode (place.rule mode).next := by
  -- The sums on the two sides differ in order only, as the places come in order of priority.
  cases place with
  | headerValue | jsonValue | payloadPlaceholder | payloadValue =>
    exact moreClauses_mul_eq_entries mode
  | get | post | put | patch | delete | basicPassword | timeoutValue =>
    exact optionList_eq_entries mode
  | outputHeader =>
    rw [rest, moreNames_eq, if_neg (by simp [rule])]
    simp only [rule, rest, entries_cons, entries_nil, word_cons, mul_assoc, add_mul, one_mul]
    abel
  | url =>
    rw [rest, clauseList, add_mul, one_mul, if_pos (by simp [rule])]
    conv_lhs => enter [1]; rw [optionList_eq_entries mode]
    simp only [rule, rest, entries_cons, entries_nil, afterOption, mul_zero, zero_add, mul_assoc]
    abel
  | start =>
    cases mode <;>
      simp [rest, rule, entries_cons, entries_nil, query, nameList, word_cons, mul_assoc]
  | finish => simp [rest, rule, entries_nil]
  | clauses | nextClause | option =>
    rw [if_neg (by simp [rule, clauseStarts, optionStarts])]
    simp only [rest, rule, clause, queryOption, clauseStarts, optionStarts, entries_cons,
      entries_nil, word_cons, mul_assoc, add_mul]
    abel
  | _ =>
    rw [if_neg (by simp [rule])]
    simp only [rest, rule, entries_cons, entries_nil, word_cons, mul_assoc, add_mul, zero_add,
      add_zero]

variable {mode : Mode} {place : Place}

theorem mem_entries_iff {places : List Place} {w : List Kind} :
    w ∈ entries mode places ↔
      ∃ next ∈ places, ∃ v ∈ next.rest mode, (next.rule mode).kind :: v = w := by
  simp only [entries, mem_sum_map, mem_word_mul]

/-- The empty word may follow a place exactly if the query may end there. -/
theorem nil_mem_rest_iff : [] ∈ place.rest mode ↔ .finish ∈ (place.rule mode).next := by
  rw [rest_eq, Language.mem_add, mem_entries_iff]
  split_ifs with h <;> simp [h]

/-- A word that follows a place starts with a step. -/
theorem cons_mem_rest_iff {kind : Kind} {w : List Kind} :
    kind :: w ∈ place.rest mode ↔
      ∃ next, place.step mode kind = some next ∧ w ∈ next.rest mode := by
  have hend : kind :: w ∉ (if .finish ∈ (place.rule mode).next then 1 else 0 : Language Kind) := by
    split_ifs <;> simp
  rw [rest_eq, Language.mem_add, mem_entries_iff]
  constructor
  · rintro (h | ⟨next, hmem, v, hv, heq⟩)
    · exact absurd h hend
    · obtain ⟨hkind, rfl⟩ := List.cons.inj heq
      exact ⟨next, step_eq_some_iff.2 ⟨hmem, hkind⟩, hv⟩
  · rintro ⟨next, hstep, hw⟩
    obtain ⟨hmem, hkind⟩ := step_eq_some_iff.1 hstep
    exact .inr ⟨next, hmem, w, hw, by rw [hkind]⟩

/-- Neither end of a query is written. -/
theorem ne_ends_of_mem_rest {w : List Kind} (h : w ∈ place.rest mode) :
    ∀ kind ∈ w, kind ≠ .start ∧ kind ≠ .finish := by
  induction w generalizing place with
  | nil => simp
  | cons kind w ih =>
    obtain ⟨next, hstep, hw⟩ := cons_mem_rest_iff.1 h
    obtain ⟨hmem, rfl⟩ := step_eq_some_iff.1 hstep
    have hstart : (next.rule mode).kind ≠ .start := by
      intro hkind
      rw [kind_eq_start_iff.1 hkind] at hmem
      exact start_not_mem_next mode place hmem
    have hfinish : (next.rule mode).kind ≠ .finish := by
      intro hkind
      rw [kind_eq_finish_iff.1 hkind] at hw
      exact Language.notMem_zero _ hw
    intro k hk
    rcases List.mem_cons.1 hk with rfl | hk
    · exact ⟨hstart, hfinish⟩
    · exact ih hw k hk

end Place

/-! ### Acceptance -/

variable {mode : Mode}

/-- **A reader at a place runs to an end of the query exactly along the words of its rest.** -/
theorem exists_run_iff_mem_rest {place : Place} {fields : Fields} {tokens : List Token} :
    (∃ after, (grammar mode).run ⟨place.index, fields⟩ tokens = some after ∧
        (grammar mode).canEnd after.cursor = true) ↔
      tokens.map Token.kind ∈ place.rest mode := by
  induction tokens generalizing place fields with
  | nil =>
    rw [List.map_nil, Place.nil_mem_rest_iff, ← grammar_canEnd]
    simp
  | cons token tokens ih =>
    rw [List.map_cons, Place.cons_mem_rest_iff, Graph.run_cons, grammar_step]
    cases h : place.step mode token.kind with
    | none => simp
    | some next =>
      simp only [Option.map_some, Option.bind_some, ih, Option.some.injEq, exists_eq_left']

/-- The token lists that are read, by their kinds. -/
theorem exists_ofTokens_eq_ok_iff {tokens : List Token} :
    (∃ fields, Fields.ofTokens mode tokens = .ok fields) ↔
      tokens.map Token.kind ∈ Syntax.query mode := by
  have hrun : (∃ after, (grammar mode).run (grammar mode).initial tokens = some after ∧
      (grammar mode).canEnd after.cursor = true) ↔ tokens.map Token.kind ∈ Syntax.query mode :=
    exists_run_iff_mem_rest
  rw [← hrun]
  simp only [Fields.ofTokens, Graph.read_eq_ok_iff]
  constructor
  · rintro ⟨fields, after, hrun, hend, -⟩
    exact ⟨after, hrun, hend⟩
  · rintro ⟨after, hrun, hend⟩
    exact ⟨after.fields, after, hrun, hend, rfl⟩

/-- **Exactly the words of the grammar are read.** A list of tokens is read if and only if its kinds
are a word of the language of queries. So neither end of a query may be written, and the literals of
the tokens play no part. -/
theorem ofTokens_succeeds_iff_mem_query (mode : Mode) (tokens : List Token) :
    ((∃ fields, Fields.ofTokens mode tokens = .ok fields) ↔
        tokens.map Token.kind ∈ Syntax.query mode) ∧
      ((∃ fields, Fields.ofTokens mode tokens = .ok fields) →
        ∀ token ∈ tokens, token.kind ≠ .start ∧ token.kind ≠ .finish) ∧
      ∀ other : List Token, other.map Token.kind = tokens.map Token.kind →
        ((∃ fields, Fields.ofTokens mode other = .ok fields) ↔
          ∃ fields, Fields.ofTokens mode tokens = .ok fields) := by
  refine ⟨exists_ofTokens_eq_ok_iff, fun h token htoken => ?_, fun other hkinds => ?_⟩
  · have hmem : tokens.map Token.kind ∈ Place.start.rest mode := exists_ofTokens_eq_ok_iff.1 h
    exact Place.ne_ends_of_mem_rest hmem token.kind (List.mem_map_of_mem htoken)
  · rw [exists_ofTokens_eq_ok_iff, exists_ofTokens_eq_ok_iff, hkinds]

end HttpQuery
