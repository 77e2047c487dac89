import HttpQuery.Proofs.Grammar.Meaning
import HttpQuery.Proofs.Grammar.Words

/-! # The command of a query

A query that is read is the written form of a command. The grammar is taken apart expression by
expression: the tokens of a word of a product are those of its factors one after another, and the
tokens of a word of a repetition are those of its rounds, so a clause is found in each round of the
clauses and an option in each round of the options.

* `exists_items_of_kstar`: the rounds of a repetition.
* `exists_clause`, `exists_option`: the clause of some tokens, and the option.
* `Command.SpelledBy`: a command and the tokens of a query that spell it.
* `exists_spelledBy`: every query that is read spells a command.
* `ofTokens_eq_ok_iff`: the fields of a query are those of the command it spells.
* `Command.SpelledBy.exists_literal`: the texts of a command are literals of its tokens. -/

namespace HttpQuery

open scoped Computability

/-- **A command that some tokens spell**: they have the kinds and values of its written form. -/
structure Command.SpelledBy (command : Command) (mode : Mode) (tokens : List Token) : Prop where
  fits : command.Fits mode
  content_eq : tokens.map Token.content = command.tokens.map Token.content

variable {mode : Mode} {tokens : List Token} {fields : Fields}

theorem Token.content_of_reserved {token : Token} {kind : Kind} (h : token.kind = kind)
    (hkind : kind ≠ .value) : token.content = (reserved kind).content := by
  subst h
  simp [content, reserved, hkind]

/-! ### Products and repetitions -/

/-- **The rounds of a repetition.** Where each round has the tokens of an item, all rounds together
have those of a list of items. -/
theorem exists_items_of_kstar {α : Type} {round : Language Kind} {item : α → List Token}
    (hround : ∀ tokens : List Token, tokens.map Token.kind ∈ round →
      ∃ x, tokens.map Token.content = (item x).map Token.content)
    (h : tokens.map Token.kind ∈ round∗) :
    ∃ xs : List α, tokens.map Token.content = (xs.flatMap item).map Token.content := by
  obtain ⟨words, hflatten, hwords⟩ := Language.mem_kstar.1 h
  induction words generalizing tokens with
  | nil =>
    obtain rfl : tokens = [] := List.map_eq_nil_iff.1 hflatten
    exact ⟨[], rfl⟩
  | cons word words ih =>
    obtain ⟨first, rest, rfl, rfl, hrest⟩ := List.map_eq_append_iff.1 hflatten
    obtain ⟨hword, hwords⟩ := List.forall_mem_cons.1 hwords
    obtain ⟨x, hx⟩ := hround first hword
    obtain ⟨xs, hxs⟩ := ih (Language.mem_kstar.2 ⟨words, hrest, hwords⟩) hrest hwords
    exact ⟨x :: xs, by rw [List.map_append, hx, hxs, List.flatMap_cons, List.map_append]⟩

/-- The tokens of a product are those of its factors. -/
theorem exists_append_of_mul {first second : Language Kind}
    (h : tokens.map Token.kind ∈ first * second) :
    ∃ before after, tokens = before ++ after ∧ before.map Token.kind ∈ first ∧
      after.map Token.kind ∈ second := by
  obtain ⟨a, ha, b, hb, hab⟩ := Language.mem_mul.1 h
  obtain ⟨before, after, rfl, rfl, rfl⟩ := List.map_eq_append_iff.1 hab.symm
  exact ⟨before, after, rfl, ha, hb⟩

/-- A reserved word and the tokens of an item. -/
theorem exists_item_of_word_mul {α : Type} {kind : Kind} {l : Language Kind}
    {item : α → List Token} (hkind : kind ≠ .value)
    (hitem : ∀ tokens : List Token, tokens.map Token.kind ∈ l →
      ∃ x, tokens.map Token.content = (item x).map Token.content)
    (h : tokens.map Token.kind ∈ Syntax.word [kind] * l) :
    ∃ x, tokens.map Token.content = (Token.reserved kind :: item x).map Token.content := by
  obtain ⟨rest, hrest, hcons⟩ := Syntax.mem_word_mul.1 h
  obtain ⟨token, tokens, rfl, htoken, rfl⟩ := List.map_eq_cons_iff.1 hcons.symm
  obtain ⟨x, hx⟩ := hitem tokens hrest
  exact ⟨x, by rw [List.map_cons, List.map_cons, Token.content_of_reserved htoken hkind, hx]⟩

/-! ### Clauses and options -/

namespace Syntax

theorem mem_word_iff {w kinds : List Kind} : w ∈ word kinds ↔ w = kinds := Iff.rfl

theorem word_mul_word (first second : List Kind) :
    word first * word second = word (first ++ second) :=
  Set.image2_singleton

/-- The words of a clause. -/
theorem mem_clause_iff {w : List Kind} :
    w ∈ clause ↔ w = [.header, .value, .equal, .value] ∨ w = [.value, .equal, .value] ∨
      w = [.payload, .equal, .question] ∨ w = [.payload, .equal, .value] := by
  rw [clause, mul_add, word_mul_word, word_mul_word]
  simp only [Language.mem_add, mem_word_iff, or_assoc]
  rfl

/-- The words of an option. -/
theorem mem_queryOption_iff {w : List Kind} :
    w ∈ queryOption ↔ (∃ verb : Method, w = [verb.kind]) ∨
      w = [.basicAuth, .value, .comma, .value] ∨ w = [.timeout, .value] := by
  have hverb : (∃ verb : Method, w = [verb.kind]) ↔
      w = [.get] ∨ w = [.post] ∨ w = [.put] ∨ w = [.patch] ∨ w = [.delete] := by
    constructor
    · rintro ⟨verb, rfl⟩
      cases verb <;> simp [Method.kind]
    · rintro (rfl | rfl | rfl | rfl | rfl)
      exacts [⟨.get, rfl⟩, ⟨.post, rfl⟩, ⟨.put, rfl⟩, ⟨.patch, rfl⟩, ⟨.delete, rfl⟩]
  simp only [hverb, queryOption, Language.mem_add, mem_word_iff, or_assoc]

end Syntax

/-- **The clause of some tokens.** -/
theorem exists_clause (h : tokens.map Token.kind ∈ Syntax.clause) :
    ∃ clause : Clause, tokens.map Token.content = clause.tokens.map Token.content := by
  rcases Syntax.mem_clause_iff.1 h with h | h | h | h <;>
    simp only [List.map_eq_cons_iff, List.map_eq_nil_iff] at h
  · obtain ⟨a, _, rfl, ha, b, _, rfl, hb, c, _, rfl, hc, d, _, rfl, hd, rfl⟩ := h
    refine ⟨.header b.literal d.literal, ?_⟩
    simp [Clause.tokens, Token.content, Token.reserved, Token.text, ha, hb, hc, hd]
  · obtain ⟨a, _, rfl, ha, b, _, rfl, hb, c, _, rfl, hc, rfl⟩ := h
    refine ⟨.json a.literal c.literal, ?_⟩
    simp [Clause.tokens, Token.content, Token.reserved, Token.text, ha, hb, hc]
  · obtain ⟨a, _, rfl, ha, b, _, rfl, hb, c, _, rfl, hc, rfl⟩ := h
    refine ⟨.payload .placeholder, ?_⟩
    simp [Clause.tokens, Token.content, Token.reserved, ha, hb, hc]
  · obtain ⟨a, _, rfl, ha, b, _, rfl, hb, c, _, rfl, hc, rfl⟩ := h
    refine ⟨.payload (.literal c.literal), ?_⟩
    simp [Clause.tokens, Token.content, Token.reserved, Token.text, ha, hb, hc]

theorem Method.kind_ne_value (verb : Method) : verb.kind ≠ .value := by cases verb <;> decide

/-- **The option of some tokens.** -/
theorem exists_option (h : tokens.map Token.kind ∈ Syntax.queryOption) :
    ∃ option : QueryOption, tokens.map Token.content = option.tokens.map Token.content := by
  rcases Syntax.mem_queryOption_iff.1 h with ⟨verb, h⟩ | h | h <;>
    simp only [List.map_eq_cons_iff, List.map_eq_nil_iff] at h
  · obtain ⟨a, _, rfl, ha, rfl⟩ := h
    refine ⟨.method verb, ?_⟩
    rw [QueryOption.tokens, List.map_singleton, List.map_singleton,
      Token.content_of_reserved ha verb.kind_ne_value]
  · obtain ⟨a, _, rfl, ha, b, _, rfl, hb, c, _, rfl, hc, d, _, rfl, hd, rfl⟩ := h
    refine ⟨.basicAuth b.literal d.literal, ?_⟩
    simp [QueryOption.tokens, Token.content, Token.reserved, Token.text, ha, hb, hc, hd]
  · obtain ⟨a, _, rfl, ha, b, _, rfl, hb, rfl⟩ := h
    refine ⟨.timeout b.literal, ?_⟩
    simp [QueryOption.tokens, Token.content, Token.reserved, Token.text, ha, hb]

/-! ### The parts of a query -/

/-- The names of response headers behind the first one. -/
theorem exists_furtherNames (h : tokens.map Token.kind ∈ Syntax.moreNames) :
    ∃ names : List String, tokens.map Token.content =
      (names.flatMap fun name => [Token.reserved .comma, .text name]).map Token.content := by
  refine exists_items_of_kstar (fun tokens hround => ?_) h
  simp only [Syntax.mem_word_iff, List.map_eq_cons_iff, List.map_eq_nil_iff] at hround
  obtain ⟨a, _, rfl, ha, b, _, rfl, hb, rfl⟩ := hround
  refine ⟨b.literal, ?_⟩
  simp [Token.content, Token.reserved, Token.text, ha, hb]

/-- The names of response headers, as the mode has them. -/
theorem exists_names (h : tokens.map Token.kind ∈ Syntax.nameList mode) :
    ∃ names : List String, (⟨names, "", [], []⟩ : Command).Fits mode ∧
      tokens.map Token.content = (Token.listOfNames names).map Token.content := by
  cases mode with
  | body =>
    obtain rfl : tokens = [] := List.map_eq_nil_iff.1 h
    exact ⟨[], rfl, rfl⟩
  | headerSelection =>
    obtain ⟨rest, hrest, hcons⟩ := Syntax.mem_word_mul.1 h
    obtain ⟨name, tokens, rfl, hname, rfl⟩ := List.map_eq_cons_iff.1 hcons.symm
    obtain ⟨names, hnames⟩ := exists_furtherNames hrest
    refine ⟨name.literal :: names, List.cons_ne_nil _ _, ?_⟩
    rw [Token.listOfNames, List.map_cons, List.map_cons, hnames]
    simp [Token.content, Token.text, hname]

/-- **The clauses of a query.** -/
theorem exists_clauses (h : tokens.map Token.kind ∈ Syntax.clauseList) :
    ∃ clauses : List Clause,
      tokens.map Token.content = (Clause.tokensOfList clauses).map Token.content := by
  rcases (Language.mem_add _ _ _).1 h with h | h
  · obtain rfl : tokens = [] := List.map_eq_nil_iff.1 h
    exact ⟨[], rfl⟩
  · obtain ⟨before, after, rfl, hbefore, hafter⟩ := exists_append_of_mul h
    obtain ⟨clause, hclause⟩ := exists_item_of_word_mul (by decide) (fun _ => exists_clause) hbefore
    obtain ⟨clauses, hclauses⟩ := exists_items_of_kstar
      (fun _ => exists_item_of_word_mul (by decide) fun _ => exists_clause) hafter
    refine ⟨clause :: clauses, ?_⟩
    rw [List.map_append, hclause, hclauses, ← List.map_append]
    rfl

/-- **The options of a query.** -/
theorem exists_options (h : tokens.map Token.kind ∈ Syntax.optionList) :
    ∃ options : List QueryOption,
      tokens.map Token.content = (QueryOption.tokensOfList options).map Token.content :=
  exists_items_of_kstar (fun _ => exists_item_of_word_mul (by decide) fun _ => exists_option) h

/-- The word `from` and the URL. -/
theorem exists_url (h : tokens.map Token.kind ∈ Syntax.word [.fromWord, .value]) :
    ∃ url : String, tokens.map Token.content =
      [Token.reserved .fromWord, .text url].map Token.content := by
  simp only [Syntax.mem_word_iff, List.map_eq_cons_iff, List.map_eq_nil_iff] at h
  obtain ⟨a, _, rfl, ha, b, _, rfl, hb, rfl⟩ := h
  refine ⟨b.literal, ?_⟩
  simp [Token.content, Token.reserved, Token.text, ha, hb]

/-- **Every query that is read spells a command.** -/
theorem exists_spelledBy (h : Fields.ofTokens mode tokens = .ok fields) :
    ∃ command : Command, command.SpelledBy mode tokens := by
  have hquery : tokens.map Token.kind ∈ Syntax.query mode :=
    exists_ofTokens_eq_ok_iff.1 ⟨fields, h⟩
  obtain ⟨before, last, rfl, hbefore, hlast⟩ := exists_append_of_mul hquery
  obtain ⟨before, middle, rfl, hbefore, hmiddle⟩ := exists_append_of_mul hbefore
  obtain ⟨first, second, rfl, hfirst, hsecond⟩ := exists_append_of_mul hbefore
  obtain ⟨names, hfits, hnames⟩ := exists_names hfirst
  obtain ⟨url, hurl⟩ := exists_url hsecond
  obtain ⟨clauses, hclauses⟩ := exists_clauses hmiddle
  obtain ⟨options, hoptions⟩ := exists_options hlast
  refine ⟨⟨names, url, clauses, options⟩, by cases mode <;> exact hfits, ?_⟩
  rw [List.map_append, List.map_append, List.map_append, hnames, hurl, hclauses, hoptions,
    Command.tokens]
  simp only [List.map_append, List.map_cons, List.append_assoc, List.cons_append, List.map_nil,
    List.nil_append]

/-- The fields of a command, from any tokens that spell it. -/
theorem Command.SpelledBy.ofTokens_eq {command : Command} (h : command.SpelledBy mode tokens) :
    Fields.ofTokens mode tokens = .ok command.fields :=
  (ofTokens_eq_ok_congr h.content_eq).2 (ofTokens_tokens h.fits)

/-- **The fields of a query are those of the command it spells.** -/
theorem ofTokens_eq_ok_iff :
    Fields.ofTokens mode tokens = .ok fields ↔
      ∃ command : Command, command.SpelledBy mode tokens ∧ command.fields = fields := by
  constructor
  · intro h
    obtain ⟨command, hspelled⟩ := exists_spelledBy h
    exact ⟨command, hspelled, Except.ok.inj (hspelled.ofTokens_eq.symm.trans h)⟩
  · rintro ⟨command, hspelled, rfl⟩
    exact hspelled.ofTokens_eq

/-! ### The texts of a command -/

theorem Clause.mem_tokensOfList {clause : Clause} {clauses : List Clause} {token : Token}
    (hclause : clause ∈ clauses) (htoken : token ∈ clause.tokens) :
    token ∈ Clause.tokensOfList clauses := by
  cases clauses with
  | nil => cases hclause
  | cons first rest =>
    rcases List.mem_cons.1 hclause with rfl | hrest
    · exact List.mem_append_left _ (List.mem_cons_of_mem _ htoken)
    · exact List.mem_append_right _
        (List.mem_flatMap.2 ⟨clause, hrest, List.mem_cons_of_mem _ htoken⟩)

theorem QueryOption.mem_tokensOfList {option : QueryOption} {options : List QueryOption}
    {token : Token} (hoption : option ∈ options) (htoken : token ∈ option.tokens) :
    token ∈ QueryOption.tokensOfList options :=
  List.mem_flatMap.2 ⟨option, hoption, List.mem_cons_of_mem _ htoken⟩

theorem mem_listOfNames {names : List String} (h : name ∈ names) :
    Token.text name ∈ Token.listOfNames names := by
  cases names with
  | nil => cases h
  | cons first names =>
    rcases List.mem_cons.1 h with rfl | h
    · exact List.mem_cons_self
    · refine List.mem_cons_of_mem _ (List.mem_flatMap.2 ⟨name, h, ?_⟩)
      exact List.mem_cons_of_mem _ List.mem_cons_self

theorem Command.mem_tokens_of_mem_clauses {command : Command} {clause : Clause} {token : Token}
    (hclause : clause ∈ command.clauses) (htoken : token ∈ clause.tokens) :
    token ∈ command.tokens := by
  have hmem : token ∈ Clause.tokensOfList command.clauses :=
    Clause.mem_tokensOfList hclause htoken
  simp [Command.tokens, hmem]

theorem Command.mem_tokens_of_mem_options {command : Command} {option : QueryOption} {token : Token}
    (hoption : option ∈ command.options) (htoken : token ∈ option.tokens) :
    token ∈ command.tokens := by
  have hmem : token ∈ QueryOption.tokensOfList command.options :=
    QueryOption.mem_tokensOfList hoption htoken
  simp [Command.tokens, hmem]

/-- **A text of a command is the literal of a token** among those that spell the command. -/
theorem Command.SpelledBy.exists_literal {command : Command} {text : String}
    (h : command.SpelledBy mode tokens) (htext : Token.text text ∈ command.tokens) :
    ∃ token ∈ tokens, token.literal = text := by
  have hmem : (Token.text text).content ∈ tokens.map Token.content := by
    rw [h.content_eq]
    exact List.mem_map_of_mem htext
  obtain ⟨token, htoken, hcontent⟩ := List.mem_map.1 hmem
  obtain ⟨hkind, hliteral⟩ := Prod.mk.inj hcontent
  have hvalue : token.kind = .value := hkind
  rw [if_pos hvalue] at hliteral
  exact ⟨token, htoken, Option.some.inj hliteral⟩

end HttpQuery
