import HttpQuery.Proofs.Compile.Faults
import HttpQuery.Proofs.Http.Requests

/-! # Timeouts

The timeout of a query is a text of any length, and its value has to fit into 64 bits. It is read
from left to right: the digits read so far must have a value that fits, and the first character that
is no digit, or the first digit that makes the value too large, decides which fault is reported.
Everything else in the descriptor is as it is without the timeout.

* `Fields.assemble_of_timeout`: fields are assembled as without their timeout, and then the timeout
  is read.
* `TimeoutOutcome`: what comes of a timeout.
* `timeout_outcome`: the timeouts of fields, and those of queries. -/

namespace HttpQuery

open Text

/-- The fields without their timeout. -/
def Fields.withoutTimeout (fields : Fields) : Fields := { fields with timeout := none }

/-- A descriptor with a timeout that is read from a literal. -/
def Descriptor.readTimeout (base : Descriptor) (literal : List Char) :
    Except CompileError Descriptor :=
  ((readNumeral literal).mapError .invalidTimeout).map fun seconds =>
    { base with timeout := seconds }

/-- **What comes of a timeout** where everything else is assembled to the descriptor `base`. -/
structure TimeoutOutcome (literal : List Char) (base : Descriptor)
    (result : Except CompileError Descriptor) : Prop where
  /-- It is read exactly if it is a numeral whose value fits. -/
  ok_iff : (∃ d, result = .ok d) ↔ IsNumeral64 literal
  /-- Then its value is the timeout, and nothing else depends on it. -/
  eq_of_ok : ∀ d, result = .ok d → d = { base with timeout := decimalValue (dropPlus literal) }
  /-- A request is given up after that many seconds, and never if there are none. -/
  timeLimit_of_ok : ∀ d, result = .ok d →
    d.timeLimit = (if decimalValue (dropPlus literal) = 0 then none
      else some (decimalValue (dropPlus literal))) ∧
    ∀ (client : Client) (r : Request), client.request d = .ok r → r.timeLimit = d.timeLimit
  /-- Otherwise one of three faults is reported. -/
  error_of_not : ¬IsNumeral64 literal → ∃ fault, result = .error (.invalidTimeout fault)
  empty_iff : result = .error (.invalidTimeout .empty) ↔ literal = []
  /-- A character is refused: a lone plus sign, a minus sign in front, or the first character that
  is no digit, if the value of the digits before it fits. -/
  invalidDigit_iff : result = .error (.invalidTimeout .invalidDigit) ↔
    literal = ['+'] ∨ literal.head? = some '-' ∨ BreaksOff [] (dropPlus literal)
  /-- The value of the first digits does not fit, whatever stands behind them. -/
  tooLarge_iff : result = .error (.invalidTimeout .tooLarge) ↔ Overflows [] (dropPlus literal)

/-- **Fields are assembled as without their timeout**, and then the timeout is read. -/
theorem Fields.assemble_of_timeout {fields : Fields} {offered : Option Json} {base : Descriptor}
    {literal : String} (htimeout : fields.timeout = some literal)
    (hbase : fields.withoutTimeout.assemble offered = .ok base) :
    fields.assemble offered = base.readTimeout literal.toList := by
  obtain ⟨payload, seconds, hpayload, -, rfl⟩ := eq_of_assemble_eq_ok hbase
  have hpayload : fields.payloadOf offered = .ok payload := hpayload
  rw [assemble, hpayload, timeoutSeconds, htimeout, Descriptor.readTimeout]
  dsimp only
  cases readNumeral literal.toList with
  | error fault => rfl
  | ok value => rfl

/-- The time limit of a request is that of its descriptor. -/
theorem Client.timeLimit_of_request {client : Client} {d : Descriptor} {r : Request}
    (h : client.request d = .ok r) : r.timeLimit = d.timeLimit := by
  obtain ⟨queryHeaders, url, -, rfl⟩ := exists_of_request_eq_ok h
  rfl

namespace Descriptor

variable {literal : List Char} {base : Descriptor}

theorem readTimeout_of_error {fault : NumeralError} (h : readNumeral literal = .error fault) :
    base.readTimeout literal = .error (.invalidTimeout fault) := by
  rw [readTimeout, h]
  rfl

theorem readTimeout_of_ok {seconds : Nat} (h : readNumeral literal = .ok seconds) :
    base.readTimeout literal = .ok { base with timeout := seconds } := by
  rw [readTimeout, h]
  rfl

theorem readTimeout_eq_error_iff {fault : NumeralError} :
    base.readTimeout literal = .error (.invalidTimeout fault) ↔
      readNumeral literal = .error fault := by
  refine ⟨fun h => ?_, readTimeout_of_error⟩
  cases hread : readNumeral literal with
  | error cause =>
    rw [readTimeout_of_error hread] at h
    cases h
    rfl
  | ok seconds =>
    rw [readTimeout_of_ok hread] at h
    cases h

theorem readTimeout_eq_ok_iff {d : Descriptor} :
    base.readTimeout literal = .ok d ↔ IsNumeral64 literal ∧
      d = { base with timeout := decimalValue (dropPlus literal) } := by
  constructor
  · intro h
    cases hread : readNumeral literal with
    | error cause =>
      rw [readTimeout_of_error hread] at h
      cases h
    | ok seconds =>
      obtain ⟨hnumeral, rfl⟩ := readNumeral_eq_ok_iff.1 hread
      rw [readTimeout_of_ok hread] at h
      exact ⟨hnumeral, (Except.ok.inj h).symm⟩
  · rintro ⟨hnumeral, rfl⟩
    exact readTimeout_of_ok (readNumeral_eq_ok_iff.2 ⟨hnumeral, rfl⟩)

/-- **The timeout that is read comes to its outcome.** -/
theorem timeoutOutcome_readTimeout (literal : List Char) (base : Descriptor) :
    TimeoutOutcome literal base (base.readTimeout literal) where
  ok_iff := by simp only [readTimeout_eq_ok_iff, exists_and_left, exists_eq, and_true]
  eq_of_ok := fun d hd => (readTimeout_eq_ok_iff.1 hd).2
  timeLimit_of_ok := by
    intro d hd
    obtain ⟨-, rfl⟩ := readTimeout_eq_ok_iff.1 hd
    refine ⟨?_, fun client r hrequest => Client.timeLimit_of_request hrequest⟩
    rw [timeLimit]
    by_cases hzero : decimalValue (dropPlus literal) = 0
    · rw [if_pos hzero]
      exact if_neg (Nat.not_lt.2 (Nat.le_of_eq hzero))
    · rw [if_neg hzero]
      exact if_pos (Nat.pos_of_ne_zero hzero)
  error_of_not := by
    intro hnot
    cases hread : readNumeral literal with
    | error fault => exact ⟨fault, readTimeout_of_error hread⟩
    | ok seconds => exact absurd (readNumeral_eq_ok_iff.1 hread).1 hnot
  empty_iff := readTimeout_eq_error_iff.trans readNumeral_eq_empty_iff
  invalidDigit_iff := by
    rw [readTimeout_eq_error_iff, readNumeral_eq_invalidDigit_iff]
    exact or_congr_right (or_iff_right_of_imp breaksOff_of_minus).symm
  tooLarge_iff := readTimeout_eq_error_iff.trans readNumeral_eq_tooLarge_iff

end Descriptor

/-- **Every timeout comes to its outcome**: that of fields which are assembled without it, and the
last one of a query which compiles without it. -/
theorem timeout_outcome (literal : String) :
    (∀ (fields : Fields) (offered : Option Json) (base : Descriptor),
      fields.timeout = some literal → fields.withoutTimeout.assemble offered = .ok base →
        TimeoutOutcome literal.toList base (fields.assemble offered)) ∧
      ∀ (mode : Mode) (query : String) (arguments : List Argument) (command : Command)
        (base : Descriptor), command.AskedBy mode query arguments →
        command.timeoutLiteral = some literal →
        command.fields.withoutTimeout.assemble (arguments.findSome? Argument.value?) = .ok base →
          TimeoutOutcome literal.toList base (compile mode query arguments) := by
  constructor
  · intro fields offered base htimeout hbase
    rw [Fields.assemble_of_timeout htimeout hbase]
    exact Descriptor.timeoutOutcome_readTimeout _ _
  · intro mode query arguments command base hasked hliteral hbase
    have htimeout : command.fields.timeout = some literal := hliteral
    rw [compile_of_askedBy hasked, Fields.assemble_of_timeout htimeout hbase]
    exact Descriptor.timeoutOutcome_readTimeout _ _

/-- A descriptor of a query without options. -/
def optionless : Descriptor where
  url := "u"
  method := .get
  headers := .empty
  json := .empty
  payload := none
  basicAuth := none
  timeout := defaultTimeout
  outputHeaders := []

/-- The query of this descriptor with a timeout. -/
def timed (literal : String) : Command where
  outputHeaders := []
  url := "u"
  clauses := []
  options := [.timeout literal]

/-- The largest timeout, with zeros in front of it, and two that are no numerals: one is too large
before its letter comes, and the other one would be too large only with what comes behind it. -/
theorem timeout_outcome_largest :
    ({ url := "u", timeout := some "+0018446744073709551615" } : Fields).assemble none =
        .ok { optionless with timeout := 18446744073709551615 } ∧
      compile .body "from u with timeout 18446744073709551616x" [] =
        .error (.invalidTimeout .tooLarge) ∧
      compile .body "from u with timeout 1844674407370955161x6" [] =
        .error (.invalidTimeout .invalidDigit) := by
  have hlarge : (timed "18446744073709551616x").AskedBy .body
      "from u with timeout 18446744073709551616x" [] :=
    ⟨_, substitute_plain (by decide), rfl, by decide +kernel⟩
  have hletter : (timed "1844674407370955161x6").AskedBy .body
      "from u with timeout 1844674407370955161x6" [] :=
    ⟨_, substitute_plain (by decide), rfl, by decide +kernel⟩
  have hread := (timeout_outcome "+0018446744073709551615").1
    { url := "u", timeout := some "+0018446744073709551615" } none optionless rfl rfl
  have htoo := (timeout_outcome "18446744073709551616x").2 _ _ _ _ optionless hlarge rfl rfl
  have hno := (timeout_outcome "1844674407370955161x6").2 _ _ _ _ optionless hletter rfl rfl
  refine ⟨?_, htoo.tooLarge_iff.2 ?_, hno.invalidDigit_iff.2 (.inr (.inr ?_))⟩
  · obtain ⟨d, hd⟩ := hread.ok_iff.2 (by decide +kernel)
    have hvalue : decimalValue (dropPlus "+0018446744073709551615".toList) =
        18446744073709551615 := by decide +kernel
    rw [hd, hread.eq_of_ok d hd, hvalue]
  · exact ⟨"18446744073709551616".toList, ['x'], rfl, List.all_eq_true.1 rfl, by decide +kernel⟩
  · exact ⟨"1844674407370955161".toList, 'x', ['6'], rfl, List.all_eq_true.1 rfl,
      by decide +kernel, rfl⟩

end HttpQuery
