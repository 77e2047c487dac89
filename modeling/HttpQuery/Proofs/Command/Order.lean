import HttpQuery.Proofs.Command.Denotation
import HttpQuery.Proofs.Compile.Stages
import HttpQuery.Proofs.Grammar.Meaning

/-! # Clauses and options in another order

Clauses write under their keys, and of several clauses with one key the last one counts. Options
write in three places, the method, the credentials and the timeout, and again the last one counts.
So clauses may change places unless they write under the same key, and options unless they write in
the same place.

* `Command.Reordered`: commands that differ in the order of such clauses and options.
* `Command.assemble_reordered`: they are assembled alike.
* `descriptor_reordered`: they ask for the same. -/

namespace HttpQuery

/-- **Clauses in another order**, in which those that write under one key keep theirs. -/
structure Clause.Reordered (first second : List Clause) : Prop where
  perm : first.Perm second
  headers : ∀ key, (first.filterMap Clause.header?).filter (·.1 = key) =
    (second.filterMap Clause.header?).filter (·.1 = key)
  members : ∀ key, (first.filterMap Clause.json?).filter (·.1 = key) =
    (second.filterMap Clause.json?).filter (·.1 = key)

/-- **Options in another order**, in which those of one sort keep theirs. -/
structure QueryOption.Reordered (first second : List QueryOption) : Prop where
  perm : first.Perm second
  methods : first.filterMap QueryOption.method? = second.filterMap QueryOption.method?
  credentials : first.filterMap QueryOption.basicAuth? = second.filterMap QueryOption.basicAuth?
  timeouts : first.filterMap QueryOption.timeout? = second.filterMap QueryOption.timeout?

namespace Command

/-- **Commands that differ in the order of their clauses and options.** -/
structure Reordered (command other : Command) : Prop where
  outputHeaders : command.outputHeaders = other.outputHeaders
  url : command.url = other.url
  clauses : Clause.Reordered command.clauses other.clauses
  options : QueryOption.Reordered command.options other.options

variable {mode : Mode} {command other : Command}

theorem Reordered.fits (h : command.Reordered other) (hfits : command.Fits mode) :
    other.Fits mode := by
  cases mode with
  | body => exact h.outputHeaders.symm.trans hfits
  | headerSelection =>
    show other.outputHeaders ≠ []
    rw [← h.outputHeaders]
    exact hfits

/-- The headers of a request do not see the new order. -/
theorem Reordered.headers_eq (h : command.Reordered other) :
    KeyMap.ofList (command.fields.headerKeys.zip command.fields.headerValues) =
      KeyMap.ofList (other.fields.headerKeys.zip other.fields.headerValues) := by
  rw [zip_headers_fields, zip_headers_fields]
  exact KeyMap.ofList_eq_of_filter_eq h.clauses.headers

/-- Nor do the members of its body. -/
theorem Reordered.json_eq (h : command.Reordered other) :
    KeyMap.ofList (command.fields.jsonKeys.zip (command.fields.jsonValues.map Json.string)) =
      KeyMap.ofList (other.fields.jsonKeys.zip (other.fields.jsonValues.map Json.string)) := by
  rw [zip_json_fields, zip_json_fields]
  refine KeyMap.ofList_eq_of_filter_eq fun key => ?_
  rw [List.filter_map, List.filter_map]
  exact congrArg _ (h.clauses.members key)

/-- **Commands that differ in their order are assembled alike**, also if there is an error. -/
theorem assemble_reordered (h : command.Reordered other) (offered : Option Json) :
    command.fields.assemble offered = other.fields.assemble offered := by
  have hpayload : command.fields.payloadOf offered = other.fields.payloadOf offered := by
    have hflag : command.fields.payload = other.fields.payload := h.clauses.perm.any_eq
    unfold Fields.payloadOf
    rw [hflag]
  have htimeout : command.fields.timeoutSeconds = other.fields.timeoutSeconds := by
    have hliteral : command.fields.timeout = other.fields.timeout :=
      congrArg List.getLast? h.options.timeouts
    unfold Fields.timeoutSeconds
    rw [hliteral]
  have hmethod : command.fields.method = other.fields.method :=
    congrArg List.getLast? h.options.methods
  have hcredentials : command.fields.credentials = other.fields.credentials := by
    rw [credentials_fields, credentials_fields, credentials, credentials, h.options.credentials]
  have hurl : command.fields.url = other.fields.url := h.url
  have hnames : command.fields.outputHeaders = other.fields.outputHeaders := h.outputHeaders
  rw [Fields.assemble, Fields.assemble, hpayload, htimeout, h.headers_eq, h.json_eq, hmethod,
    hcredentials, hurl, hnames]

end Command

/-- **The order of independent clauses and options does not count.** Clauses that write under
different keys may change places, and so may options of different sorts: the query has the same
descriptor or the same error, and so the same request. -/
theorem descriptor_reordered (mode : Mode) (command other : Command) (tokens others : List Token)
    (hfits : command.Fits mode) (horder : command.Reordered other)
    (htokens : tokens.map Token.content = command.tokens.map Token.content)
    (hothers : others.map Token.content = other.tokens.map Token.content) (offered : Option Json) :
    Descriptor.ofTokens mode tokens offered = Descriptor.ofTokens mode others offered ∧
      ∀ client : Client, (Descriptor.ofTokens mode tokens offered).map client.request =
        (Descriptor.ofTokens mode others offered).map client.request := by
  have hfirst : Fields.ofTokens mode tokens = .ok command.fields :=
    (ofTokens_eq_ok_congr htokens).2 (ofTokens_tokens hfits)
  have hsecond : Fields.ofTokens mode others = .ok other.fields :=
    (ofTokens_eq_ok_congr hothers).2 (ofTokens_tokens (horder.fits hfits))
  have hdescriptor : Descriptor.ofTokens mode tokens offered =
      Descriptor.ofTokens mode others offered := by
    rw [Descriptor.ofTokens, Descriptor.ofTokens, hfirst, hsecond]
    exact Command.assemble_reordered horder offered
  exact ⟨hdescriptor, fun client => by rw [hdescriptor]⟩

/-- A command with two headers of one key, and with two methods. -/
def twoMethods : Command where
  outputHeaders := []
  url := "http"
  clauses := [.header "a" "1", .json "a" "2", .payload .placeholder, .header "a" "3",
    .header "b" "4"]
  options := [.method .put, .timeout "5", .method .post, .basicAuth "bob" "one"]

/-- This command in another order. -/
def twoMethodsReordered : Command where
  outputHeaders := []
  url := "http"
  clauses := [.header "b" "4", .header "a" "1", .header "a" "3", .json "a" "2",
    .payload .placeholder]
  options := [.basicAuth "bob" "one", .method .put, .method .post, .timeout "5"]

/-- The two commands have the same descriptor, and without a body they have the same error. -/
theorem descriptor_twoMethods :
    twoMethods.Reordered twoMethodsReordered ∧
      Descriptor.ofTokens .body twoMethods.tokens (some .null) =
        Descriptor.ofTokens .body twoMethodsReordered.tokens (some .null) ∧
      Descriptor.ofTokens .body twoMethods.tokens none =
        Descriptor.ofTokens .body twoMethodsReordered.tokens none ∧
      (Descriptor.ofTokens .body twoMethods.tokens (some .null)).map Client.unset.request =
        (Descriptor.ofTokens .body twoMethodsReordered.tokens (some .null)).map
          Client.unset.request := by
  have hclauses : Clause.Reordered twoMethods.clauses twoMethodsReordered.clauses :=
    { perm := by decide
      headers := fun key => by
        have hfirst : twoMethods.clauses.filterMap Clause.header? =
            [("a", "1"), ("a", "3"), ("b", "4")] := rfl
        have hsecond : twoMethodsReordered.clauses.filterMap Clause.header? =
            [("b", "4"), ("a", "1"), ("a", "3")] := rfl
        rw [hfirst, hsecond]
        by_cases ha : "a" = key
        · subst ha
          rfl
        · simp [List.filter_cons, ha]
      members := fun key => rfl }
  have hoptions : QueryOption.Reordered twoMethods.options twoMethodsReordered.options :=
    ⟨by decide, rfl, rfl, rfl⟩
  have horder : twoMethods.Reordered twoMethodsReordered := ⟨rfl, rfl, hclauses, hoptions⟩
  have hoffered := descriptor_reordered .body twoMethods twoMethodsReordered _ _ rfl horder rfl rfl
    (some .null)
  have hmissing := descriptor_reordered .body twoMethods twoMethodsReordered _ _ rfl horder rfl rfl
    none
  exact ⟨horder, hoffered.1, hmissing.1, hoffered.2 .unset⟩

end HttpQuery
