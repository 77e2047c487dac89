import HttpQuery.Compile
import HttpQuery.Proofs.Command.Denotation
import HttpQuery.Proofs.Grammar.Meaning

/-! # Compiling a written command

A command that is written out, token by token, compiles to the descriptor that it denotes, its texts
lower-cased: the arguments fill the placeholders, the query is cut into the tokens that were
written, these are read to the fields of the command, and the fields are assembled.

* `compile_written`: the descriptor of a written command. -/

namespace HttpQuery

open Text

/-- **A written command compiles to its descriptor.** The values may be any texts without blanks and
without a comma at an end, each in the query or among the arguments; the body it takes must be
offered, and its last timeout must be a numeral that fits. -/
theorem compile_written (mode : Mode) (command : Command) (query : String)
    (arguments : List Argument) (hfits : command.Fits mode)
    (hvalues : ∀ token ∈ command.tokens, token.Writable)
    (hwritten : Written command.tokens query.toList (arguments.filterMap Argument.text?))
    (hpayload : command.takesPayload = true → arguments.filterMap Argument.value? ≠ [])
    (htimeout : ∀ literal, command.timeoutLiteral = some literal →
      IsDecimal literal.toList ∧ decimalValue literal.toList < 2 ^ 64) :
    compile mode query arguments =
      .ok ((command.mapTexts lowerText).descriptor
        (arguments.filterMap Argument.value?).head?) := by
  obtain ⟨bound, hbound, htokens⟩ := hwritten.tokenize_eq hvalues
  have hread : Fields.ofQuery mode bound = .ok (command.mapTexts lowerText).fields := by
    rw [Fields.ofQuery, htokens, ← Command.tokens_mapTexts]
    exact ofTokens_tokens (Command.fits_mapTexts lowerText hfits)
  have hoffered : (command.mapTexts lowerText).takesPayload = true →
      (arguments.filterMap Argument.value?).head?.isSome = true := by
    rw [Command.takesPayload_mapTexts, List.isSome_head?]
    exact hpayload
  have hseconds : ∀ literal, (command.mapTexts lowerText).timeoutLiteral = some literal →
      IsDecimal literal.toList ∧ decimalValue literal.toList < 2 ^ 64 := by
    intro literal hliteral
    rw [Command.timeoutLiteral_mapTexts, Option.map_eq_some_iff] at hliteral
    obtain ⟨written, hlast, rfl⟩ := hliteral
    obtain ⟨hdecimal, hlt⟩ := htimeout written hlast
    rw [lowerText, lowercase_of_isDecimal hdecimal, String.ofList_toList]
    exact ⟨hdecimal, hlt⟩
  have hbind : bindArguments query arguments =
      .ok ⟨bound, (arguments.filterMap Argument.value?).head?⟩ := by
    rw [bindArguments, hbound, List.head?_filterMap]
    rfl
  have hassemble := Command.assemble_fields hoffered hseconds
  rw [compile, hbind]
  simp only [bind, Except.bind, hread]
  exact hassemble

/-- A command whose texts are a reserved word, a word with both small forms of sigma, and a percent
sign before an `S`. -/
def reservedUrl : Command where
  outputHeaders := []
  url := "from"
  clauses := [.json "ΣΑΣ" "a%S", .payload .placeholder]
  options := [.timeout "007"]

/-- A way to write this command. -/
def reservedUrlText : String :=
  "From '%s' WHERE 'ΣΑΣ' = 'a%%S'  and payload = ? with TimeOut '007' "

theorem written_reservedUrl :
    Written reservedUrl.tokens reservedUrlText.toList ["from"] := by
  have hquery : reservedUrlText.toList =
      [] ++ ("From".toList ++ ([' '] ++ (quoted ['%', 's'] ++ ([' '] ++ ("WHERE".toList ++
      ([' '] ++ (quoted (doubled "ΣΑΣ".toList) ++ ([' '] ++ ("=".toList ++ ([' '] ++
      (quoted (doubled "a%S".toList) ++ ([' ', ' '] ++ ("and".toList ++ ([' '] ++
      ("payload".toList ++ ([' '] ++ ("=".toList ++ ([' '] ++ ("?".toList ++ ([' '] ++
      ("with".toList ++ ([' '] ++ ("TimeOut".toList ++ ([' '] ++
      (quoted (doubled "007".toList) ++ [' '])))))))))))))))))))))))))  := by
    decide
  rw [hquery]
  exact
    .token (by decide) (.word (by decide) (by decide)) (by decide) <|
    .token (by decide) (.argument "from") (by decide) <|
    .token (by decide) (.word (by decide) (by decide)) (by decide) <|
    .token (by decide) (.literal "ΣΑΣ") (by decide) <|
    .token (by decide) (.word (by decide) (by decide)) (by decide) <|
    .token (by decide) (.literal "a%S") (by decide) <|
    .token (by decide) (.word (by decide) (by decide)) (by decide) <|
    .token (by decide) (.word (by decide) (by decide)) (by decide) <|
    .token (by decide) (.word (by decide) (by decide)) (by decide) <|
    .token (by decide) (.word (by decide) (by decide)) (by decide) <|
    .token (by decide) (.word (by decide) (by decide)) (by decide) <|
    .token (by decide) (.word (by decide) (by decide)) (by decide) <|
    .token (by decide) (.literal "007") (by decide) <|
    .done (by decide)

/-- The descriptor of this command, with the body between the arguments. -/
theorem compile_reservedUrl :
    reservedUrl.Fits .body ∧ (∀ token ∈ reservedUrl.tokens, token.Writable) ∧
      Written reservedUrl.tokens reservedUrlText.toList ["from"] ∧
      compile .body reservedUrlText [.text "from", .value (.bool true)] = .ok {
        url := "from"
        method := .get
        headers := .ofList []
        json := .ofList [("σας", .string "a%s")]
        payload := some (.bool true)
        basicAuth := none
        timeout := 7
        outputHeaders := [] } := by
  have hwritable : ∀ token ∈ reservedUrl.tokens, token.Writable := by decide
  have htimeout : ∀ literal, reservedUrl.timeoutLiteral = some literal →
      IsDecimal literal.toList ∧ decimalValue literal.toList < 2 ^ 64 := by
    rintro _ ⟨⟩
    exact ⟨by decide, by decide⟩
  have hlower : reservedUrl.mapTexts lowerText =
      ⟨[], "from", [.json "σας" "a%s", .payload .placeholder], [.timeout "007"]⟩ := by
    decide +kernel
  have hcompile := compile_written .body reservedUrl reservedUrlText
    [.text "from", .value (.bool true)] rfl hwritable written_reservedUrl
    (fun _ => List.cons_ne_nil _ _) htimeout
  rw [hlower] at hcompile
  exact ⟨rfl, hwritable, written_reservedUrl, hcompile⟩

end HttpQuery
