import HttpQuery.Compile
import HttpQuery.Http.Client
import HttpQuery.Proofs.Except

/-! # The stages of compiling

Behind the binding of the arguments, a query counts by its tokens only: these are read, and their
fields are assembled with the body that the arguments offer. So two queries compile alike if they
are bound to texts with the same tokens.

* `Descriptor.ofTokens`, `compile_eq_ofTokens`: the stages behind the binding.
* `Fields.eq_of_assemble_eq_error`: what can be wrong with fields that were read.
* `Fields.eq_of_assemble_eq_ok`: what a descriptor is assembled from. -/

namespace HttpQuery

/-- **The descriptor of a list of tokens** and the body that the arguments offer. -/
def Descriptor.ofTokens (mode : Mode) (tokens : List Token) (offered : Option Json) :
    Except CompileError Descriptor :=
  (Fields.ofTokens mode tokens).bind fun fields => fields.assemble offered

/-- **A query counts by its tokens** when its placeholders are filled. -/
theorem compile_eq_ofTokens (mode : Mode) (query : String) (arguments : List Argument) :
    compile mode query arguments =
      (substitute query (arguments.filterMap Argument.text?)).bind fun bound =>
        Descriptor.ofTokens mode (tokenize bound) (arguments.findSome? Argument.value?) := by
  rw [compile, bindArguments]
  cases substitute query (arguments.filterMap Argument.text?) with
  | error cause => rfl
  | ok bound => rfl

namespace Fields

variable {fields : Fields} {offered : Option Json} {cause : CompileError}

/-- A missing body is the one fault of the payload. -/
theorem eq_of_payloadOf_eq_error (h : fields.payloadOf offered = .error cause) :
    cause = .missingPayload := by
  unfold payloadOf at h
  split at h
  · split at h
    · cases h
    · exact (Except.error.inj h).symm
  · cases h

/-- A bad numeral is the one fault of the timeout. -/
theorem eq_of_timeoutSeconds_eq_error (h : fields.timeoutSeconds = .error cause) :
    ∃ fault, cause = .invalidTimeout fault := by
  unfold timeoutSeconds at h
  split at h
  · cases h
  · next literal _ =>
    cases hread : Text.readNumeral literal.toList with
    | error fault =>
      rw [hread] at h
      exact ⟨fault, (Except.error.inj h).symm⟩
    | ok seconds =>
      rw [hread] at h
      cases h

/-- **What can be wrong with fields that were read**: a missing body, or a bad timeout. -/
theorem eq_of_assemble_eq_error (h : fields.assemble offered = .error cause) :
    cause = .missingPayload ∨ ∃ fault, cause = .invalidTimeout fault := by
  rcases or_of_bind_eq_error h with hpayload | ⟨payload, -, h⟩
  · exact .inl (eq_of_payloadOf_eq_error hpayload)
  · rcases or_of_bind_eq_error h with htimeout | ⟨timeout, -, h⟩
    · exact .inr (eq_of_timeoutSeconds_eq_error htimeout)
    · cases h

/-- **What a descriptor is assembled from**: the payload and the timeout may fail, and all else is
taken from the fields as it is. -/
theorem eq_of_assemble_eq_ok {d : Descriptor} (h : fields.assemble offered = .ok d) :
    ∃ payload seconds, fields.payloadOf offered = .ok payload ∧
      fields.timeoutSeconds = .ok seconds ∧
      d = {
        url := fields.url
        method := fields.method.getD .get
        headers := .ofList (fields.headerKeys.zip fields.headerValues)
        json := .ofList (fields.jsonKeys.zip (fields.jsonValues.map .string))
        payload := payload
        basicAuth := fields.credentials
        timeout := seconds
        outputHeaders := fields.outputHeaders } := by
  obtain ⟨payload, hpayload, h⟩ := exists_of_bind_eq_ok h
  obtain ⟨seconds, hseconds, h⟩ := exists_of_bind_eq_ok h
  exact ⟨payload, seconds, hpayload, hseconds, (Except.ok.inj h).symm⟩

/-- The headers of a descriptor are the keys and values of the fields, put together. -/
theorem headers_of_assemble {d : Descriptor} (h : fields.assemble offered = .ok d) :
    d.headers = .ofList (fields.headerKeys.zip fields.headerValues) := by
  obtain ⟨payload, seconds, -, -, rfl⟩ := eq_of_assemble_eq_ok h
  rfl

/-- So are the members of the body. -/
theorem json_of_assemble {d : Descriptor} (h : fields.assemble offered = .ok d) :
    d.json = .ofList (fields.jsonKeys.zip (fields.jsonValues.map .string)) := by
  obtain ⟨payload, seconds, -, -, rfl⟩ := eq_of_assemble_eq_ok h
  rfl

end Fields

end HttpQuery
