import HttpQuery.Proofs.Command.Denotation
import HttpQuery.Proofs.Compile.Stages
import HttpQuery.Proofs.Grammar.Commands

/-! # The arguments of a query

The arguments are parted by their sort: the texts fill the placeholders, and of the others the first
one is offered as the body. So arguments may stand in any order as long as the texts keep theirs and
the same value stays the first one. Where another value is offered, the query is refused with the
same error, or the descriptors differ in the payload only.

* `Fields.assemble_some`: the descriptors of two bodies.
* `compile_parted`: the results of two lists of arguments. -/

namespace HttpQuery

/-! ### The offered body -/

namespace Fields

theorem payloadOf_some (fields : Fields) (value : Json) :
    fields.payloadOf (some value) = .ok (if fields.payload then some value else none) := by
  unfold payloadOf
  split <;> rfl

/-- **The body that is offered shows in the payload only.** -/
theorem assemble_some (fields : Fields) (value other : Json) :
    fields.assemble (some other) = (fields.assemble (some value)).map fun d =>
      { d with payload := if fields.payload then some other else none } := by
  rw [assemble, assemble, payloadOf_some, payloadOf_some]
  cases fields.timeoutSeconds with
  | error cause => rfl
  | ok seconds => rfl

/-- The payload is the body that is offered, if the query takes one. -/
theorem payload_of_assemble {fields : Fields} {value : Json} {d : Descriptor}
    (h : fields.assemble (some value) = .ok d) :
    d.payload = if fields.payload then some value else none := by
  have hmap := assemble_some fields value value
  rw [h] at hmap
  rw [Except.ok.inj hmap]

/-- With any two bodies the fields are refused for the same reason, or assembled alike. -/
theorem assemble_some_or (fields : Fields) (value other : Json) :
    (∃ cause, fields.assemble (some value) = .error cause ∧
        fields.assemble (some other) = .error cause) ∨
      ∃ d e, fields.assemble (some value) = .ok d ∧ fields.assemble (some other) = .ok e ∧
        e = { d with payload := e.payload } ∧
        d.payload = (if fields.payload then some value else none) ∧
        e.payload = if fields.payload then some other else none := by
  cases hassemble : fields.assemble (some value) with
  | error cause => exact .inl ⟨cause, rfl, by rw [assemble_some fields value, hassemble]; rfl⟩
  | ok d =>
    have hother := assemble_some fields value other
    rw [hassemble] at hother
    exact .inr ⟨d, _, rfl, hother, rfl, payload_of_assemble hassemble, rfl⟩

end Fields

/-! ### Two lists of arguments -/

/-- **What a list of tokens asks for**: it is refused whatever is offered, or it spells a command
whose fields are assembled. -/
theorem Descriptor.ofTokens_error_or (mode : Mode) (tokens : List Token) :
    (∃ cause, ∀ offered, Descriptor.ofTokens mode tokens offered = .error cause) ∨
      ∃ command : Command, command.SpelledBy mode tokens ∧
        ∀ offered, Descriptor.ofTokens mode tokens offered = command.fields.assemble offered := by
  cases hread : Fields.ofTokens mode tokens with
  | error cause => exact .inl ⟨cause, fun offered => by rw [ofTokens, hread]; rfl⟩
  | ok fields =>
    obtain ⟨command, hspelled, rfl⟩ := ofTokens_eq_ok_iff.1 hread
    exact .inr ⟨command, hspelled, fun offered => by rw [ofTokens, hread]; rfl⟩

/-- **Arguments are parted, not mixed.** Only the texts among the arguments count, in their order,
and the first of the others. If two lists of arguments differ in this one only, the query is refused
with the same error, or the descriptors differ in the payload only: it is the offered body itself if
the query has a clause that takes one, whatever members the body would have else, and it is absent
otherwise. -/
theorem compile_parted (mode : Mode) (query : String) (first second : List Argument)
    (htexts : first.filterMap Argument.text? = second.filterMap Argument.text?) :
    ((first.filterMap Argument.value?).head? = (second.filterMap Argument.value?).head? →
        compile mode query first = compile mode query second) ∧
      ∀ value other, (first.filterMap Argument.value?).head? = some value →
        (second.filterMap Argument.value?).head? = some other →
        (∃ cause, compile mode query first = .error cause ∧
            compile mode query second = .error cause) ∨
          ∃ (bound : String) (command : Command) (d e : Descriptor),
            substitute query (first.filterMap Argument.text?) = .ok bound ∧
            command.SpelledBy mode (tokenize bound) ∧
            compile mode query first = .ok d ∧ compile mode query second = .ok e ∧
            e = { d with payload := e.payload } ∧
            d.payload = (if command.takesPayload then some value else none) ∧
            e.payload = (if command.takesPayload then some other else none) ∧
            (command.takesPayload = true → d.body = value ∧ e.body = other) := by
  refine ⟨fun hvalues => ?_, fun value other hfirst hsecond => ?_⟩
  · rw [List.head?_filterMap, List.head?_filterMap] at hvalues
    rw [compile_eq_ofTokens, compile_eq_ofTokens, htexts, hvalues]
  · rw [List.head?_filterMap] at hfirst hsecond
    rw [compile_eq_ofTokens, compile_eq_ofTokens, ← htexts, hfirst, hsecond]
    cases substitute query (first.filterMap Argument.text?) with
    | error cause => exact .inl ⟨cause, rfl, rfl⟩
    | ok bound =>
      simp only [Except.bind]
      rcases Descriptor.ofTokens_error_or mode (tokenize bound) with
        ⟨cause, hcause⟩ | ⟨command, hspelled, hassemble⟩
      · exact .inl ⟨cause, hcause _, hcause _⟩
      · rw [hassemble, hassemble]
        rcases command.fields.assemble_some_or value other with
          hrefused | ⟨d, e, hd, he, hsame, hpayload, hother⟩
        · exact .inl hrefused
        · refine .inr ⟨bound, command, d, e, rfl, hspelled, hd, he, hsame, hpayload, hother,
            fun htakes => ?_⟩
          have htakes : command.fields.payload = true := htakes
          rw [if_pos htakes] at hpayload hother
          rw [Descriptor.body, Descriptor.body, hpayload, hother]
          exact ⟨rfl, rfl⟩

/-- A query with two placeholders that takes its body from an argument. -/
def takesBody : String := "from '%s' where payload = ? and a = %s"

/-- Its results with the body `null` in two places, and with a text in place of `null`. -/
theorem compile_takesBody :
    [Argument.text "http", .text "B%s", .value .null].filterMap Argument.text? =
        [Argument.value .null, .text "http", .value (.bool true), .text "B%s"].filterMap
          Argument.text? ∧
      compile .body takesBody [.text "http", .text "B%s", .value .null] =
        compile .body takesBody [.value .null, .text "http", .value (.bool true), .text "B%s"] ∧
      ∃ d e, compile .body takesBody [.text "http", .text "B%s", .value .null] = .ok d ∧
        compile .body takesBody [.text "http", .value (.string "%s X"), .text "B%s"] = .ok e ∧
        e = { d with payload := e.payload } ∧ d.payload = some .null ∧
        e.payload = some (.string "%s X") ∧ d.body = .null ∧ e.body = .string "%s X" := by
  have hsome : (compile .body takesBody
      [.text "http", .text "B%s", .value .null]).toOption.map (·.payload.isSome) = some true := by
    decide +kernel
  obtain ⟨hsame, -⟩ := compile_parted .body takesBody [.text "http", .text "B%s", .value .null]
    [.value .null, .text "http", .value (.bool true), .text "B%s"] rfl
  obtain ⟨-, hother⟩ := compile_parted .body takesBody [.text "http", .text "B%s", .value .null]
    [.text "http", .value (.string "%s X"), .text "B%s"] rfl
  refine ⟨rfl, hsame rfl, ?_⟩
  rcases hother .null (.string "%s X") rfl rfl with
    ⟨cause, hcause, -⟩ | ⟨_, command, d, e, -, -, hd, he, heq, hpayload, hotherPayload, hbody⟩
  · rw [hcause] at hsome
    cases hsome
  · have htakes : command.takesPayload = true := by
      rw [hd] at hsome
      by_contra hnot
      rw [if_neg hnot] at hpayload
      simp [Except.toOption, hpayload] at hsome
    rw [if_pos htakes] at hpayload hotherPayload
    exact ⟨d, e, hd, he, heq, hpayload, hotherPayload, hbody htakes⟩

end HttpQuery
