import HttpQuery.Proofs.Command.Denotation
import HttpQuery.Proofs.Compile.Stages
import HttpQuery.Proofs.Grammar.Commands
import HttpQuery.Proofs.Graph.Run
import HttpQuery.Proofs.Query.PercentRuns

/-! # Which fault is reported

A query and its arguments may be wrong in several ways at once, but one fault is reported: the first
one in the order of the stages. First the texts must be as many as the placeholders, then the query
with its placeholders filled must be read, then a body must be offered if the query takes one, and
last the timeout must be a numeral. Of several timeouts only the last one is looked at.

* `Fields.LacksPayload`, `Fields.BadTimeout`: the faults of fields that were read.
* `Command.AskedBy`: the command that a query asks for; its faults are those of its fields.
* `Verdict`, `verdict_compile`: what a query may come to, and that it comes to one of these results.
* `compile_first_fault`: each fault, and when it is reported. -/

namespace HttpQuery

open Text

/-! ### The faults of the fields -/

namespace Fields

variable {fields : Fields} {offered : Option Json}

/-- The body is to be an argument, and none is offered. -/
def LacksPayload (fields : Fields) (offered : Option Json) : Prop :=
  fields.payload = true ∧ offered = none

/-- There is a timeout, and it is no numeral. -/
def BadTimeout (fields : Fields) : Prop :=
  ∃ literal, fields.timeout = some literal ∧ ¬IsNumeral64 literal.toList

theorem payloadOf_of_lacksPayload (h : fields.LacksPayload offered) :
    fields.payloadOf offered = .error .missingPayload := by
  obtain ⟨htakes, rfl⟩ := h
  exact if_pos htakes

theorem exists_payloadOf (h : ¬fields.LacksPayload offered) :
    ∃ payload, fields.payloadOf offered = .ok payload := by
  unfold payloadOf
  split
  · next htakes =>
    cases offered with
    | none => exact absurd ⟨htakes, rfl⟩ h
    | some value => exact ⟨some value, rfl⟩
  · exact ⟨none, rfl⟩

theorem exists_timeoutSeconds_eq_error (h : fields.BadTimeout) :
    ∃ fault, fields.timeoutSeconds = .error (.invalidTimeout fault) := by
  obtain ⟨literal, htimeout, hliteral⟩ := h
  rw [timeoutSeconds, htimeout]
  cases hread : readNumeral literal.toList with
  | error fault => exact ⟨fault, by simp only [hread]; rfl⟩
  | ok seconds => exact absurd (readNumeral_eq_ok_iff.1 hread).1 hliteral

theorem exists_timeoutSeconds (h : ¬fields.BadTimeout) :
    ∃ seconds, fields.timeoutSeconds = .ok seconds := by
  rw [timeoutSeconds]
  cases htimeout : fields.timeout with
  | none => exact ⟨defaultTimeout, rfl⟩
  | some literal =>
    have hliteral : IsNumeral64 literal.toList := by
      by_contra hnot
      exact h ⟨literal, htimeout, hnot⟩
    exact ⟨_, by simp only [readNumeral_eq_ok_iff.2 ⟨hliteral, rfl⟩]; rfl⟩

/-- **A missing body is reported**, whatever the timeout is. -/
theorem assemble_of_lacksPayload (h : fields.LacksPayload offered) :
    fields.assemble offered = .error .missingPayload := by
  rw [assemble, payloadOf_of_lacksPayload h]
  rfl

/-- **A bad timeout is reported** if the body is there. -/
theorem exists_assemble_eq_error (h : ¬fields.LacksPayload offered) (hbad : fields.BadTimeout) :
    ∃ fault, fields.assemble offered = .error (.invalidTimeout fault) := by
  obtain ⟨payload, hpayload⟩ := exists_payloadOf h
  obtain ⟨fault, hfault⟩ := exists_timeoutSeconds_eq_error hbad
  exact ⟨fault, by rw [assemble, hpayload, hfault]; rfl⟩

/-- **There is no other fault.** -/
theorem exists_assemble (h : ¬fields.LacksPayload offered) (hgood : ¬fields.BadTimeout) :
    ∃ d, fields.assemble offered = .ok d := by
  obtain ⟨payload, hpayload⟩ := exists_payloadOf h
  obtain ⟨seconds, hseconds⟩ := exists_timeoutSeconds hgood
  exact ⟨_, by rw [assemble, hpayload, hseconds]; rfl⟩

end Fields

/-! ### The faults of a command -/

namespace Command

/-- **A command that a query asks for** once its placeholders are filled. -/
def AskedBy (command : Command) (mode : Mode) (query : String) (arguments : List Argument) : Prop :=
  ∃ bound, substitute query (arguments.filterMap Argument.text?) = .ok bound ∧
    command.SpelledBy mode (tokenize bound)

/-- **A command without its body**: it takes an argument, and each argument is a text. -/
def LacksPayload (command : Command) (arguments : List Argument) : Prop :=
  command.takesPayload = true ∧ arguments.filterMap Argument.value? = []

/-- **A command with a bad timeout**: the last one is no numeral. -/
def BadTimeout (command : Command) : Prop :=
  ∃ literal, command.timeoutLiteral = some literal ∧ ¬IsNumeral64 literal.toList

variable {command : Command} {arguments : List Argument}

theorem lacksPayload_iff :
    command.fields.LacksPayload (arguments.findSome? Argument.value?) ↔
      command.LacksPayload arguments := by
  rw [← List.head?_filterMap, Fields.LacksPayload, List.head?_eq_none_iff]
  rfl

end Command

/-! ### The faults of a query -/

section Stages

variable {mode : Mode} {query bound : String} {arguments : List Argument} {command : Command}

/-- The stage of the placeholders. -/
theorem substitute_eq (query : String) (texts : List String) :
    substitute query texts =
      if (PercentRuns.ofText query.toList).placeholders = texts.length then
        .ok (String.ofList (fill (pieces query.toList) texts))
      else
        .error (.placeholderCount (PercentRuns.ofText query.toList).placeholders texts.length) := by
  have hcount := PercentRuns.placeholderCount_text (.ofText query.toList)
  rw [PercentRuns.text_ofText] at hcount
  rw [substitute, hcount]

theorem compile_of_placeholders_ne (mode : Mode)
    (h : (PercentRuns.ofText query.toList).placeholders ≠
      (arguments.filterMap Argument.text?).length) :
    compile mode query arguments = .error (.placeholderCount
      (PercentRuns.ofText query.toList).placeholders
      (arguments.filterMap Argument.text?).length) := by
  rw [compile_eq_ofTokens, substitute_eq, if_neg h]
  rfl

theorem compile_of_ofQuery {cause : CompileError}
    (hbound : substitute query (arguments.filterMap Argument.text?) = .ok bound)
    (hread : Fields.ofQuery mode bound = .error cause) :
    compile mode query arguments = .error cause := by
  have hread : Fields.ofTokens mode (tokenize bound) = .error cause := hread
  rw [compile_eq_ofTokens, hbound, Except.bind, Descriptor.ofTokens, hread]
  rfl

theorem compile_of_askedBy (h : command.AskedBy mode query arguments) :
    compile mode query arguments =
      command.fields.assemble (arguments.findSome? Argument.value?) := by
  obtain ⟨bound, hbound, hspelled⟩ := h
  rw [compile_eq_ofTokens, hbound, Except.bind, Descriptor.ofTokens, hspelled.ofTokens_eq]
  rfl

theorem compile_of_lacksPayload (h : command.AskedBy mode query arguments)
    (hlacks : command.LacksPayload arguments) :
    compile mode query arguments = .error .missingPayload := by
  rw [compile_of_askedBy h]
  exact Fields.assemble_of_lacksPayload (Command.lacksPayload_iff.2 hlacks)

theorem exists_compile_eq_error (h : command.AskedBy mode query arguments)
    (hoffered : ¬command.LacksPayload arguments) (hbad : command.BadTimeout) :
    ∃ fault, compile mode query arguments = .error (.invalidTimeout fault) := by
  rw [compile_of_askedBy h]
  exact Fields.exists_assemble_eq_error (mt Command.lacksPayload_iff.1 hoffered) hbad

theorem exists_compile (h : command.AskedBy mode query arguments)
    (hoffered : ¬command.LacksPayload arguments) (hgood : ¬command.BadTimeout) :
    ∃ d, compile mode query arguments = .ok d := by
  rw [compile_of_askedBy h]
  exact Fields.exists_assemble (mt Command.lacksPayload_iff.1 hoffered) hgood

end Stages

/-- **What a query may come to**, and why: each result that a query may have stands with the faults
that it has and the earlier ones that it does not have. -/
inductive Verdict (mode : Mode) (query : String) (arguments : List Argument) :
    Except CompileError Descriptor → Prop
  | placeholderCount
      (hne : (PercentRuns.ofText query.toList).placeholders ≠
        (arguments.filterMap Argument.text?).length) :
      Verdict mode query arguments (.error (.placeholderCount
        (PercentRuns.ofText query.toList).placeholders
        (arguments.filterMap Argument.text?).length))
  | incomplete {bound : String}
      (hbound : substitute query (arguments.filterMap Argument.text?) = .ok bound)
      (hread : Fields.ofQuery mode bound = .error .incomplete) :
      Verdict mode query arguments (.error .incomplete)
  | unexpectedToken {bound : String} {position : Nat} {found : Kind} {expected : List Kind}
      (hbound : substitute query (arguments.filterMap Argument.text?) = .ok bound)
      (hread : Fields.ofQuery mode bound = .error (.unexpectedToken position found expected)) :
      Verdict mode query arguments (.error (.unexpectedToken position found expected))
  | missingPayload {command : Command} (hasked : command.AskedBy mode query arguments)
      (hlacks : command.LacksPayload arguments) :
      Verdict mode query arguments (.error .missingPayload)
  | invalidTimeout {command : Command} {fault : NumeralError}
      (hasked : command.AskedBy mode query arguments)
      (hoffered : ¬command.LacksPayload arguments) (hbad : command.BadTimeout) :
      Verdict mode query arguments (.error (.invalidTimeout fault))
  | ok {command : Command} {d : Descriptor} (hasked : command.AskedBy mode query arguments)
      (hoffered : ¬command.LacksPayload arguments) (hgood : ¬command.BadTimeout) :
      Verdict mode query arguments (.ok d)

/-- **Every query comes to one of these results.** -/
theorem verdict_compile (mode : Mode) (query : String) (arguments : List Argument) :
    Verdict mode query arguments (compile mode query arguments) := by
  by_cases hcount : (PercentRuns.ofText query.toList).placeholders =
      (arguments.filterMap Argument.text?).length
  · obtain ⟨bound, hbound⟩ : ∃ bound,
        substitute query (arguments.filterMap Argument.text?) = .ok bound :=
      ⟨_, by rw [substitute_eq, if_pos hcount]⟩
    cases hread : Fields.ofQuery mode bound with
    | error cause =>
      rw [compile_of_ofQuery hbound hread]
      rcases Graph.eq_of_read_eq_error hread with rfl | ⟨position, found, expected, rfl⟩
      · exact .incomplete hbound hread
      · exact .unexpectedToken hbound hread
    | ok fields =>
      obtain ⟨command, hspelled, -⟩ := ofTokens_eq_ok_iff.1 hread
      have hasked : command.AskedBy mode query arguments := ⟨bound, hbound, hspelled⟩
      by_cases hlacks : command.LacksPayload arguments
      · rw [compile_of_lacksPayload hasked hlacks]
        exact .missingPayload hasked hlacks
      · by_cases hbad : command.BadTimeout
        · obtain ⟨fault, hfault⟩ := exists_compile_eq_error hasked hlacks hbad
          rw [hfault]
          exact .invalidTimeout hasked hlacks hbad
        · obtain ⟨d, hd⟩ := exists_compile hasked hlacks hbad
          rw [hd]
          exact .ok hasked hlacks hbad
  · rw [compile_of_placeholders_ne mode hcount]
    exact .placeholderCount hcount

/-- **One fault is reported, the first one.** The texts are not as many as the placeholders,
whatever else is wrong. Or they are, and the query with its placeholders filled is not read; then
the fault is that of its reading. Or it is read, and takes a body that is not there, whatever its
timeouts are. Or the last of the timeouts is no numeral, whatever the others are. A query with none
of these faults compiles. -/
theorem compile_first_fault (mode : Mode) (query : String) (arguments : List Argument) :
    (∀ placeholders supplied,
      compile mode query arguments = .error (.placeholderCount placeholders supplied) ↔
        placeholders = (PercentRuns.ofText query.toList).placeholders ∧
          supplied = (arguments.filterMap Argument.text?).length ∧ placeholders ≠ supplied) ∧
      (compile mode query arguments = .error .incomplete ↔
        ∃ bound, substitute query (arguments.filterMap Argument.text?) = .ok bound ∧
          Fields.ofQuery mode bound = .error .incomplete) ∧
      (∀ position found expected,
        compile mode query arguments = .error (.unexpectedToken position found expected) ↔
          ∃ bound, substitute query (arguments.filterMap Argument.text?) = .ok bound ∧
            Fields.ofQuery mode bound = .error (.unexpectedToken position found expected)) ∧
      (compile mode query arguments = .error .missingPayload ↔
        ∃ command : Command, command.AskedBy mode query arguments ∧
          command.LacksPayload arguments) ∧
      ((∃ fault, compile mode query arguments = .error (.invalidTimeout fault)) ↔
        ∃ command : Command, command.AskedBy mode query arguments ∧
          ¬command.LacksPayload arguments ∧ command.BadTimeout) ∧
      ((∃ d, compile mode query arguments = .ok d) ↔
        ∃ command : Command, command.AskedBy mode query arguments ∧
          ¬command.LacksPayload arguments ∧ ¬command.BadTimeout) := by
  have hverdict := verdict_compile mode query arguments
  refine ⟨fun placeholders supplied => ⟨fun h => ?_, ?_⟩, ⟨fun h => ?_, ?_⟩,
    fun position found expected => ⟨fun h => ?_, ?_⟩, ⟨fun h => ?_, ?_⟩, ⟨?_, ?_⟩, ⟨?_, ?_⟩⟩
  · rw [h] at hverdict
    cases hverdict with
    | placeholderCount hne => exact ⟨rfl, rfl, hne⟩
  · rintro ⟨rfl, rfl, hne⟩
    exact compile_of_placeholders_ne mode hne
  · rw [h] at hverdict
    cases hverdict with
    | incomplete hbound hread => exact ⟨_, hbound, hread⟩
  · rintro ⟨bound, hbound, hread⟩
    exact compile_of_ofQuery hbound hread
  · rw [h] at hverdict
    cases hverdict with
    | unexpectedToken hbound hread => exact ⟨_, hbound, hread⟩
  · rintro ⟨bound, hbound, hread⟩
    exact compile_of_ofQuery hbound hread
  · rw [h] at hverdict
    cases hverdict with
    | missingPayload hasked hlacks => exact ⟨_, hasked, hlacks⟩
  · rintro ⟨command, hasked, hlacks⟩
    exact compile_of_lacksPayload hasked hlacks
  · rintro ⟨fault, h⟩
    rw [h] at hverdict
    cases hverdict with
    | invalidTimeout hasked hoffered hbad => exact ⟨_, hasked, hoffered, hbad⟩
  · rintro ⟨command, hasked, hoffered, hbad⟩
    exact exists_compile_eq_error hasked hoffered hbad
  · rintro ⟨d, h⟩
    rw [h] at hverdict
    cases hverdict with
    | ok hasked hoffered hgood => exact ⟨_, hasked, hoffered, hgood⟩
  · rintro ⟨command, hasked, hoffered, hgood⟩
    exact exists_compile hasked hoffered hgood

/-- A command that takes its body from an argument and has two timeouts. -/
def twoTimeouts (first last : String) : Command where
  outputHeaders := []
  url := "u"
  clauses := [.payload .placeholder]
  options := [.timeout first, .timeout last]

/-- The missing body is reported though the last timeout is bad, and the bad timeout when there is a
body. If only the first timeout is bad, the query compiles. -/
theorem compile_first_fault_twoTimeouts :
    compile .body "from u where payload = ? with timeout +5 with timeout x" [] =
        .error .missingPayload ∧
      (∃ fault, compile .body "from u where payload = ? with timeout +5 with timeout x"
        [.value .null] = .error (.invalidTimeout fault)) ∧
      ∃ d, compile .body "from u where payload = ? with timeout x with timeout +5"
        [.value .null] = .ok d := by
  have hlast : (twoTimeouts "+5" "x").SpelledBy .body
      (tokenize "from u where payload = ? with timeout +5 with timeout x") :=
    ⟨rfl, by decide +kernel⟩
  have hfirst : (twoTimeouts "x" "+5").SpelledBy .body
      (tokenize "from u where payload = ? with timeout x with timeout +5") :=
    ⟨rfl, by decide +kernel⟩
  have hbad : (twoTimeouts "+5" "x").BadTimeout := ⟨"x", rfl, by decide +kernel⟩
  have hgood : ¬(twoTimeouts "x" "+5").BadTimeout := by
    rintro ⟨literal, hliteral, hnot⟩
    obtain rfl : "+5" = literal := Option.some.inj hliteral
    exact hnot (by decide +kernel)
  have hoffered : ∀ command : Command, ¬command.LacksPayload [.value .null] :=
    fun command h => absurd h.2 (List.cons_ne_nil _ _)
  obtain ⟨-, -, -, hmissing, -, -⟩ := compile_first_fault .body
    "from u where payload = ? with timeout +5 with timeout x" []
  obtain ⟨-, -, -, -, hinvalid, -⟩ := compile_first_fault .body
    "from u where payload = ? with timeout +5 with timeout x" [.value .null]
  obtain ⟨-, -, -, -, -, hok⟩ := compile_first_fault .body
    "from u where payload = ? with timeout x with timeout +5" [.value .null]
  exact ⟨hmissing.2 ⟨_, ⟨_, substitute_plain (by decide), hlast⟩, rfl, rfl⟩,
    hinvalid.2 ⟨_, ⟨_, substitute_plain (by decide), hlast⟩, hoffered _, hbad⟩,
    hok.2 ⟨_, ⟨_, substitute_plain (by decide), hfirst⟩, hoffered _, hgood⟩⟩

end HttpQuery
