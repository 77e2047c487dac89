import HttpQuery.Proofs.Compile.Stages
import HttpQuery.Proofs.Grammar.Commands
import HttpQuery.Proofs.Grammar.Reports

/-! # The two modes

The tables of the modes differ in the row of the start only. Behind the list of names, a reader of
the header-selection mode stands where a reader of the other mode stands at the word `from`, and
from there the two go the same way. They collect the same fields, but for the names, and what one
of them reports the other one reports too, with the tokens of the list counted.

* `Place.InBody`, `Place.inBody_of_mem_next`: the places from the word `from` on, and that they are
  not left.
* `readFrom_withNames`: the two readings from such a place on.
* `ofTokens_listed`: a query behind a list of names.
* `modes_agree`: the two modes, with their descriptors and requests. -/

namespace HttpQuery

/-! ### Names and positions -/

/-- The fields with other names of response headers. -/
def Fields.withNames (names : List String) (fields : Fields) : Fields :=
  { fields with outputHeaders := names }

/-- The descriptor with other names of response headers. -/
def Descriptor.withNames (names : List String) (d : Descriptor) : Descriptor :=
  { d with outputHeaders := names }

/-- The error of a query behind `count` more tokens. -/
def CompileError.shift (count : Nat) : CompileError → CompileError
  | .unexpectedToken position found expected => .unexpectedToken (position + count) found expected
  | cause => cause

/-- **A list of names** as tokens: one or more values with commas between them. -/
structure ListsNames (names : List String) (list : List Token) : Prop where
  ne_nil : names ≠ []
  content_eq : list.map Token.content = (Token.listOfNames names).map Token.content

variable {place next : Place} {fields : Fields} {names : List String}

/-! ### The places that both modes share -/

namespace Place

theorem rule_mode (h : place ≠ .start) (mode : Mode) : place.rule mode = place.rule .body := by
  cases place with
  | start => exact absurd rfl h
  | _ => rfl

theorem kind_mode (mode : Mode) (place : Place) :
    (place.rule mode).kind = (place.rule .body).kind := by
  cases mode <;> cases place <;> rfl

theorem expected_mode (h : place ≠ .start) (mode : Mode) :
    place.expected mode = place.expected .body := by
  simp only [expected, rule_mode h mode, kind_mode mode]

theorem step_mode (h : place ≠ .start) (mode : Mode) : place.step mode = place.step .body := by
  funext kind
  simp only [step, rule_mode h mode, kind_mode mode]

/-- **The places from the word `from` on.** -/
def InBody (place : Place) : Prop :=
  place ≠ .start ∧ place ≠ .outputHeader ∧ place ≠ .outputComma

instance (place : Place) : Decidable place.InBody := inferInstanceAs (Decidable (_ ∧ _ ∧ _))

/-- **The places from the word `from` on are not left.** -/
theorem inBody_of_mem_next {mode : Mode} (h : place.InBody) :
    ∀ next ∈ (place.rule mode).next, next.InBody := by
  revert h
  cases mode <;> cases place <;> decide

theorem inBody_of_step {mode : Mode} {kind : Kind} (h : place.InBody)
    (hstep : place.step mode kind = some next) : next.InBody :=
  inBody_of_mem_next h next (step_eq_some_iff.1 hstep).1

/-- No name is collected at these places. -/
theorem action_ne_appendOutputHeader {mode : Mode} (h : place.InBody) :
    (place.rule mode).action ≠ some .appendOutputHeader := by
  revert h
  cases mode <;> cases place <;> decide

end Place

/-- Any other action leaves the names alone, and does not see them. -/
theorem Fields.applyOption_withNames {action : Option Action} (literal : String)
    (h : action ≠ some .appendOutputHeader) :
    (fields.withNames names).applyOption literal action =
      (fields.applyOption literal action).withNames names := by
  cases action with
  | none => rfl
  | some action =>
    cases action with
    | appendOutputHeader => exact absurd rfl h
    | _ => rfl

/-! ### The readings from the word `from` on -/

/-- A reading goes on from place to place. -/
theorem readFrom_of_step {mode : Mode} {token : Token} {tokens : List Token} {position : Nat}
    (h : place.step mode token.kind = some next) :
    (grammar mode).readFrom place.index fields position (token :: tokens) =
      (grammar mode).readFrom next.index
        (fields.applyOption token.literal (next.rule mode).action) (position + 1) tokens := by
  rw [Graph.readFrom, grammar_transition, h]
  simp only [Option.map_some, Graph.enter, grammar_vertex, Place.vertex]

/-- **From the word `from` on, the modes read alike**, with names put to the fields and tokens put
before the query. -/
theorem readFrom_withNames (h : place.InBody) (fields : Fields) (names : List String)
    (position count : Nat) (tokens : List Token) :
    (grammar .headerSelection).readFrom place.index (fields.withNames names) (position + count)
        tokens =
      (((grammar .body).readFrom place.index fields position tokens).map
        (Fields.withNames names)).mapError (CompileError.shift count) := by
  induction tokens generalizing place fields position with
  | nil =>
    have hend : (grammar .headerSelection).canEnd place.index =
        (grammar .body).canEnd place.index := by
      rw [Graph.canEnd, Graph.canEnd, grammar_transition, grammar_transition, Place.step_mode h.1]
    rw [Graph.readFrom, Graph.readFrom, hend]
    split <;> rfl
  | cons token tokens ih =>
    cases hstep : place.step .body token.kind with
    | none =>
      rw [Graph.readFrom, Graph.readFrom, grammar_transition, grammar_transition,
        Place.step_mode h.1, hstep, grammar_expected, grammar_expected, Place.expected_mode h.1]
      rfl
    | some next =>
      have hnext : next.InBody := Place.inBody_of_step h hstep
      have hselected : place.step .headerSelection token.kind = some next := by
        rw [Place.step_mode h.1, hstep]
      rw [readFrom_of_step hselected, readFrom_of_step hstep, Place.rule_mode hnext.1,
        Fields.applyOption_withNames token.literal (Place.action_ne_appendOutputHeader hnext),
        Nat.add_right_comm]
      exact ih hnext _ (position + 1)

/-! ### A query behind a list of names -/

theorem length_listOfNames (h : names ≠ []) :
    (Token.listOfNames names).length = 2 * names.length - 1 := by
  cases names with
  | nil => exact absurd rfl h
  | cons name names =>
    simp only [Token.listOfNames, List.length_cons, List.length_flatMap, List.length_nil,
      List.map_const', List.sum_replicate_nat]
    omega

theorem ListsNames.length_eq {list : List Token} (h : ListsNames names list) :
    list.length = 2 * names.length - 1 := by
  rw [← length_listOfNames h.ne_nil, ← List.length_map Token.content, h.content_eq,
    List.length_map]

/-- **A query behind a list of names** is read as it is read alone. -/
theorem ofTokens_listed {list : List Token} {source : Token} (hlist : ListsNames names list)
    (hsource : source.kind = .fromWord) (rest : List Token) :
    Fields.ofTokens .headerSelection (list ++ source :: rest) =
      ((Fields.ofTokens .body (source :: rest)).map (Fields.withNames names)).mapError
        (CompileError.shift (2 * names.length - 1)) := by
  have hfits : (⟨names, "", [], []⟩ : Command).Fits .headerSelection := hlist.ne_nil
  obtain ⟨last, hlast, hnames⟩ := run_listOfNames hfits
  have hrun : (grammar .headerSelection).run (grammar .headerSelection).initial list =
      some ⟨last.index, ({} : Fields).withNames names⟩ :=
    (grammar_run_congr hlist.content_eq).trans hnames
  have hselected : Fields.ofTokens .headerSelection (list ++ source :: rest) =
      (grammar .headerSelection).readFrom Place.source.index (({} : Fields).withNames names)
        (2 + list.length) rest := by
    have hread := Graph.readFrom_of_run hrun 1 (source :: rest)
    rw [readFrom_of_step (by rw [hsource]; exact hlast), Nat.add_right_comm] at hread
    exact hread
  have hbody : Fields.ofTokens .body (source :: rest) =
      (grammar .body).readFrom Place.source.index {} 2 rest :=
    readFrom_of_step (by rw [hsource]; rfl)
  rw [hselected, hbody, ← hlist.length_eq]
  exact readFrom_withNames (by decide) {} names 2 list.length rest

/-- **What is read in the header-selection mode** is a query behind a list of names: the command
that it spells starts with one. -/
theorem exists_listsNames {tokens : List Token} {fields : Fields}
    (h : Fields.ofTokens .headerSelection tokens = .ok fields) :
    ∃ (names : List String) (list : List Token) (source : Token) (rest : List Token),
      ListsNames names list ∧ source.kind = .fromWord ∧ tokens = list ++ source :: rest := by
  obtain ⟨command, hspelled⟩ := exists_spelledBy h
  have hcontent := hspelled.content_eq
  rw [Command.tokens, List.map_append, List.map_cons] at hcontent
  obtain ⟨list, after, rfl, hlist, hafter⟩ := List.map_eq_append_iff.1 hcontent
  obtain ⟨source, rest, rfl, hsource, -⟩ := List.map_eq_cons_iff.1 hafter
  exact ⟨command.outputHeaders, list, source, rest, ⟨hspelled.fits, hlist⟩,
    (Prod.mk.inj hsource).1, rfl⟩

/-- In the other mode no names are collected. -/
theorem outputHeaders_of_ofTokens_body {tokens : List Token}
    (h : Fields.ofTokens .body tokens = .ok fields) : fields.outputHeaders = [] := by
  obtain ⟨command, hspelled, rfl⟩ := ofTokens_eq_ok_iff.1 h
  exact hspelled.fits

/-! ### Descriptors and requests -/

theorem Fields.assemble_withNames (names : List String) (fields : Fields) (offered : Option Json) :
    (fields.withNames names).assemble offered =
      (fields.assemble offered).map (Descriptor.withNames names) := by
  have hpayload : (fields.withNames names).payloadOf offered = fields.payloadOf offered := rfl
  have htimeout : (fields.withNames names).timeoutSeconds = fields.timeoutSeconds := rfl
  rw [assemble, assemble, hpayload, htimeout]
  cases fields.payloadOf offered with
  | error cause => rfl
  | ok payload =>
    cases fields.timeoutSeconds with
    | error cause => rfl
    | ok timeout => rfl

/-- The errors of assembling name no position. -/
theorem Fields.assemble_shift (count : Nat) (fields : Fields) (offered : Option Json) :
    (fields.assemble offered).mapError (CompileError.shift count) = fields.assemble offered := by
  cases h : fields.assemble offered with
  | error cause => rcases eq_of_assemble_eq_error h with rfl | ⟨fault, rfl⟩ <;> rfl
  | ok d => rfl

/-- **The descriptor of a query behind a list of names** differs in the names only. -/
theorem Descriptor.ofTokens_listed {list : List Token} {source : Token}
    (hlist : ListsNames names list) (hsource : source.kind = .fromWord) (rest : List Token)
    (offered : Option Json) :
    Descriptor.ofTokens .headerSelection (list ++ source :: rest) offered =
      ((Descriptor.ofTokens .body (source :: rest) offered).map
        (Descriptor.withNames names)).mapError (CompileError.shift (2 * names.length - 1)) := by
  rw [ofTokens, ofTokens, HttpQuery.ofTokens_listed hlist hsource]
  cases Fields.ofTokens .body (source :: rest) with
  | error cause => rfl
  | ok fields =>
    show (fields.withNames names).assemble offered =
      ((fields.assemble offered).map (withNames names)).mapError _
    rw [← Fields.assemble_withNames, Fields.assemble_shift]

/-- The names play no part in a request. -/
theorem Client.request_withNames (client : Client) (d : Descriptor) :
    client.request (d.withNames names) = client.request d := rfl

/-- **The two modes agree.** Behind a list of names a query is read, assembled and requested as it
is alone in the other mode: the names are the response headers to extract and show nowhere else, and
a reported position counts the tokens of the list. All that is read in the header-selection mode is
such a query, and in the other mode no names are collected. -/
theorem modes_agree (names : List String) (list rest : List Token) (source : Token)
    (hlist : ListsNames names list) (hsource : source.kind = .fromWord) :
    (Fields.ofTokens .headerSelection (list ++ source :: rest) =
        ((Fields.ofTokens .body (source :: rest)).map (Fields.withNames names)).mapError
          (CompileError.shift (2 * names.length - 1))) ∧
      (∀ tokens fields, Fields.ofTokens .headerSelection tokens = .ok fields →
        ∃ (names : List String) (list : List Token) (source : Token) (rest : List Token),
          ListsNames names list ∧ source.kind = .fromWord ∧ tokens = list ++ source :: rest) ∧
      (∀ tokens fields, Fields.ofTokens .body tokens = .ok fields → fields.outputHeaders = []) ∧
      ∀ (offered : Option Json) (client : Client),
        (Descriptor.ofTokens .headerSelection (list ++ source :: rest) offered).map
            client.request =
          ((Descriptor.ofTokens .body (source :: rest) offered).map client.request).mapError
            (CompileError.shift (2 * names.length - 1)) := by
  refine ⟨ofTokens_listed hlist hsource rest, fun _ _ => exists_listsNames,
    fun _ _ => outputHeaders_of_ofTokens_body, fun offered client => ?_⟩
  rw [Descriptor.ofTokens_listed hlist hsource]
  cases Descriptor.ofTokens .body (source :: rest) offered with
  | error cause => rfl
  | ok d => exact congrArg Except.ok (client.request_withNames d)

/-- A list of two names, its comma spelled otherwise. -/
def twoNames : List Token := [⟨.value, "etag"⟩, ⟨.comma, ";"⟩, ⟨.value, "date"⟩]

/-- A query without clauses and options. -/
def plainQuery : List Token := [.reserved .fromWord, .text "http"]

/-- A query behind this list, and another one with a report at its third token. -/
theorem modes_agree_twoNames :
    ListsNames ["etag", "date"] twoNames ∧
      Fields.ofTokens .headerSelection (twoNames ++ (plainQuery ++ [.reserved .header])) =
        .error (.unexpectedToken 6 .header [.finish, .whereWord, .withWord]) ∧
      Fields.ofTokens .headerSelection (twoNames ++ plainQuery) =
        .ok { outputHeaders := ["etag", "date"], url := "http" } ∧
      (∃ (names : List String) (list : List Token) (source : Token) (rest : List Token),
        ListsNames names list ∧ source.kind = .fromWord ∧
          twoNames ++ plainQuery = list ++ source :: rest) ∧
      ({ url := "http" } : Fields).outputHeaders = [] ∧
      (Descriptor.ofTokens .headerSelection (twoNames ++ plainQuery) none).map
          Client.unset.request =
        ((Descriptor.ofTokens .body plainQuery none).map Client.unset.request).mapError
          (CompileError.shift 3) := by
  have hlist : ListsNames ["etag", "date"] twoNames := ⟨List.cons_ne_nil _ _, by decide⟩
  have hfits : (⟨[], "http", [], []⟩ : Command).Fits .body := rfl
  have hread : Fields.ofTokens .body [.reserved .fromWord, .text "http"] =
      .ok { url := "http" } := ofTokens_tokens hfits
  have hreport : Fields.ofTokens .body [.reserved .fromWord, .text "http", .reserved .header] =
      .error (.unexpectedToken 3 .header [.finish, .whereWord, .withWord]) := by
    have hwalk : Place.start.walk .body [.fromWord, .value] = some .url := rfl
    exact ofTokens_eq_error hwalk (by decide) rfl
  obtain ⟨hfields, hform, hbody, hrequest⟩ :=
    modes_agree ["etag", "date"] twoNames [.text "http"] (.reserved .fromWord) hlist rfl
  obtain ⟨herror, -⟩ :=
    modes_agree ["etag", "date"] twoNames [.text "http", .reserved .header] (.reserved .fromWord)
      hlist rfl
  rw [hread] at hfields
  rw [hreport] at herror
  exact ⟨hlist, herror, hfields, hform _ _ hfields, hbody _ _ hread, hrequest none .unset⟩

end HttpQuery
