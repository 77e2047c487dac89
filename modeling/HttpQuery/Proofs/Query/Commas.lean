import HttpQuery.Compile
import HttpQuery.Proofs.Query.Printed

/-! # Commas beside quoted values

Quotes are taken off at the ends of a field, before its commas are split off. So a comma that stands
directly beside a value in quotes hides the quote on its side, which then stays in the value: the
closing quote before a comma, and the opening quote after one. With a gap between the comma and the
value each of them is a field of its own, and no quote is left; nor is there any trouble where the
value has no quotes.

* `Unmarked`: the values that hold no blank, comma or quote.
* `ofField_quoted_comma`, `ofField_comma_quoted`, `ofField_unquoted_comma`: a comma directly beside
  a value.
* `tokenize_quoted_comma`, `tokenize_comma_quoted`: a comma beside a value in quotes, with any gap.
* `tokenize_quotedList`: a list of values in quotes.
* `tokenize_besideComma`: all of these; the comma is mere layout exactly where there is a gap. -/

namespace HttpQuery

open Text

/-- **A value without signs**: it has no blanks, commas and quotes. -/
structure Unmarked (text : List Char) : Prop where
  not_blank : ∀ c ∈ text, isBlank c = false
  not_comma : ',' ∉ text
  not_quote : singleQuote ∉ text

instance (text : List Char) : Decidable (Unmarked text) :=
  decidable_of_iff (text.all (fun c => !isBlank c) = true ∧ ',' ∉ text ∧ singleQuote ∉ text)
    ⟨fun h => ⟨by simpa using h.1, h.2.1, h.2.2⟩,
      fun h => ⟨by simpa using h.not_blank, h.not_comma, h.not_quote⟩⟩

theorem Unmarked.writable {text : List Char} (h : Unmarked text) : Writable text where
  not_blank := h.not_blank
  head_ne := fun hhead => h.not_comma (List.mem_of_head? hhead)
  last_ne := fun hlast => h.not_comma (List.mem_of_getLast? hlast)

variable {text : List Char}

/-! ### A comma directly beside a value -/

theorem ofTrailing_append_comma (text : List Char) :
    Token.ofTrailing (text ++ [',']) = [.value text, .comma] := by
  rw [Token.ofTrailing, if_pos List.getLast?_concat, List.dropLast_concat]

/-- A text that does not start with a comma is a value and what follows it. -/
theorem ofListed_eq_ofTrailing (h : text.head? ≠ some ',') :
    Token.ofListed text = Token.ofTrailing text := by
  unfold Token.ofListed
  split
  · exact absurd rfl h
  · rfl

theorem unquote_quoted_comma (text : List Char) :
    unquote (quoted text ++ [',']) = text ++ [singleQuote] ++ [','] := by
  have hlast : (text ++ [singleQuote] ++ [',']).getLast? ≠ some singleQuote := by
    rw [List.getLast?_concat]
    decide
  rw [unquote, quoted, List.cons_append, withoutLeading_cons_self, withoutTrailing_eq_self hlast]

theorem unquote_comma_quoted (text : List Char) :
    unquote (',' :: quoted text) = ',' :: singleQuote :: text := by
  have hhead : (',' :: quoted text).head? ≠ some singleQuote := by
    rw [List.head?_cons]
    decide
  have hconcat : ',' :: quoted text = ',' :: singleQuote :: text ++ [singleQuote] := rfl
  rw [unquote, withoutLeading_eq_self hhead, hconcat, withoutTrailing_concat]

/-- **A comma directly after a value in quotes**: the closing quote is not at an end. -/
theorem ofField_quoted_comma (h : Writable text) :
    Token.ofField (lowercase (quoted text ++ [','])) =
      [.value (lowercase text ++ [singleQuote]), .comma] := by
  have hmem : ∀ text : List Char, singleQuote ∈ quoted text ++ [','] :=
    fun _ => List.mem_append_left _ List.mem_cons_self
  have hhead : (lowercase text ++ [singleQuote] ++ [',']).head? ≠ some ',' := by
    rw [List.append_assoc, List.head?_append]
    cases hlower : (lowercase text).head? with
    | none => decide
    | some c => exact fun hc => h.lowercase.head_ne (hlower.trans hc)
  rw [isMark_comma.lowercase_concat, lowercase_quoted, Token.ofField, ofWord?_of_mem (hmem _)]
  simp only [unquote_quoted_comma]
  rw [ofListed_eq_ofTrailing hhead, ofTrailing_append_comma]

/-- **A comma directly before a value in quotes**: the opening quote is not at an end. -/
theorem ofField_comma_quoted (h : Writable text) :
    Token.ofField (lowercase (',' :: quoted text)) =
      [.comma, .value (singleQuote :: lowercase text)] := by
  have hmem : ∀ text : List Char, singleQuote ∈ ',' :: quoted text :=
    fun _ => List.mem_cons_of_mem _ List.mem_cons_self
  have hlast : (singleQuote :: lowercase text).getLast? ≠ some ',' := by
    rw [List.getLast?_cons]
    cases hlower : (lowercase text).getLast? with
    | none => decide
    | some c => exact fun hc => h.lowercase.last_ne (hlower.trans hc)
  rw [isMark_comma.lowercase_cons, lowercase_quoted, Token.ofField, ofWord?_of_mem (hmem _)]
  simp only [unquote_comma_quoted]
  rw [Token.ofListed, Token.ofTrailing, if_neg hlast]

/-- **A comma directly after a value without quotes** leaves it as it is. -/
theorem ofField_unquoted_comma (h : Unmarked text) (hne : text ≠ []) :
    Token.ofField (lowercase (text ++ [','])) = [.value (lowercase text), .comma] := by
  have hne : lowercase text ≠ [] := mt lowercaseFrom_eq_nil_iff.1 hne
  have hquote : (lowercase text).head? ≠ some singleQuote :=
    mt isMark_singleQuote.head?_lowercase_iff.1 fun hhead =>
      h.not_quote (List.mem_of_head? hhead)
  have hhead : (lowercase text ++ [',']).head? = (lowercase text).head? :=
    List.head?_append_of_ne_nil _ hne
  -- The only reserved symbol that ends with a comma is the comma.
  have hword : Kind.ofWord? (lowercase text ++ [',']) = none := by
    have hcomma : ∀ kind ∈ Kind.reserved, kind.word.toList.getLast? = some ',' →
        kind.word.toList.dropLast = [] := by decide
    refine Kind.ofWord?_eq_none_iff.2 fun kind hkind heq => ?_
    have hfront := hcomma kind hkind
    rw [heq, List.dropLast_concat] at hfront
    exact hne (hfront List.getLast?_concat)
  have hunquote : unquote (lowercase text ++ [',']) = lowercase text ++ [','] :=
    unquote_eq_self (by rwa [hhead]) (by rw [List.getLast?_concat]; decide)
  rw [isMark_comma.lowercase_concat, Token.ofField, hword]
  simp only [hunquote]
  rw [ofListed_eq_ofTrailing (by rw [hhead]; exact h.writable.lowercase.head_ne),
    ofTrailing_append_comma]

/-! ### A comma beside a value in quotes -/

/-- What a gap between a comma and a value in quotes leaves of the quote on this side. -/
def keptQuote (gap : String) : String := if gap = "" then "'" else ""

theorem keptQuote_of_ne {gap : String} (h : gap ≠ "") : keptQuote gap = "" := if_neg h

variable {value gap : String}

theorem value_append (first second : List Char) :
    Token.value (first ++ second) = .text (String.ofList first ++ String.ofList second) :=
  congrArg Token.text String.ofList_append

theorem tokenize_comma : tokenize "," = [.reserved .comma] := by decide +kernel

theorem tokenize_inQuotes (h : Writable value.toList) :
    tokenize (inQuotes value) = [.text (lowerText value)] :=
  (tokenize_inQuotes_iff h.not_blank).2 ⟨h.head_ne, h.last_ne⟩

/-- A comma and blankless characters around it are one field. -/
theorem not_blank_append_comma {field : List Char} (h : ∀ c ∈ field, isBlank c = false) :
    ∀ c ∈ field ++ [','], isBlank c = false :=
  List.forall_mem_append.2 ⟨h, List.forall_mem_singleton.2 (by decide)⟩

/-- **A comma after a value in quotes** leaves the closing quote if no gap stands between. -/
theorem tokenize_quoted_comma (h : Writable value.toList) (hgap : gap.toList.all isBlank = true) :
    tokenize (inQuotes value ++ gap ++ ",") =
      [.text (lowerText value ++ keptQuote gap), .reserved .comma] := by
  by_cases hne : gap = ""
  · have htext : (inQuotes value ++ gap ++ ",").toList = quoted value.toList ++ [','] := by
      rw [hne, String.append_empty, String.toList_append, toList_inQuotes]
      rfl
    have hblank := not_blank_append_comma h.quoted_not_blank
    rw [← htext] at hblank
    rw [tokenize_field (by rw [htext]; exact List.append_ne_nil_of_right_ne_nil _ (by simp)) hblank,
      htext, ofField_quoted_comma h, value_append, hne]
    rfl
  · rw [tokenize_append_gap hne hgap, tokenize_inQuotes h, tokenize_comma, keptQuote_of_ne hne,
      String.append_empty]
    rfl

/-- **A comma before a value in quotes** leaves the opening quote if no gap stands between. -/
theorem tokenize_comma_quoted (h : Writable value.toList) (hgap : gap.toList.all isBlank = true) :
    tokenize ("," ++ gap ++ inQuotes value) =
      [.reserved .comma, .text (keptQuote gap ++ lowerText value)] := by
  by_cases hne : gap = ""
  · have htext : ("," ++ gap ++ inQuotes value).toList = ',' :: quoted value.toList := by
      rw [hne, String.append_empty, String.toList_append, toList_inQuotes]
      rfl
    have hblank : ∀ c ∈ ("," ++ gap ++ inQuotes value).toList, isBlank c = false := by
      rw [htext]
      exact List.forall_mem_cons.2 ⟨by decide, h.quoted_not_blank⟩
    have htoken : Token.value (singleQuote :: lowercase value.toList) =
        .text ("'" ++ lowerText value) := value_append [singleQuote] _
    rw [tokenize_field (by rw [htext]; exact List.cons_ne_nil _ _) hblank, htext,
      ofField_comma_quoted h, htoken, hne]
    rfl
  · rw [tokenize_append_gap hne hgap, tokenize_inQuotes h, tokenize_comma, keptQuote_of_ne hne,
      String.empty_append]
    rfl

/-- **A comma after a value without quotes** needs no gap. -/
theorem tokenize_unquoted_comma (h : Unmarked value.toList) (hne : value ≠ "") :
    tokenize (value ++ ",") = [.text (lowerText value), .reserved .comma] := by
  have hne : value.toList ≠ [] := mt String.toList_eq_nil_iff.1 hne
  have htext : (value ++ ",").toList = value.toList ++ [','] := String.toList_append
  have hblank := not_blank_append_comma h.not_blank
  rw [← htext] at hblank
  rw [tokenize_field (by rw [htext]; exact List.append_ne_nil_of_left_ne_nil hne _) hblank, htext,
    ofField_unquoted_comma h hne]
  rfl

/-! ### Lists of values in quotes -/

/-- **A list of values in quotes**, each but the last with a gap, a comma and a space after it. -/
def quotedList (gap : String) : List String → String → String
  | [], last => inQuotes last
  | value :: values, last => inQuotes value ++ gap ++ "," ++ " " ++ quotedList gap values last

theorem listOfNames_cons {names : List String} (name : String) (hne : names ≠ []) :
    Token.listOfNames (name :: names) =
      [.text name, .reserved .comma] ++ Token.listOfNames names := by
  cases names with
  | nil => exact absurd rfl hne
  | cons next names => rfl

/-- **A list of values in quotes is a list of values**, each but the last with what its comma leaves
of its closing quote. -/
theorem tokenize_quotedList {values : List String} {last : String}
    (hgap : gap.toList.all isBlank = true)
    (hvalues : ∀ value ∈ values, Writable value.toList) (hlast : Writable last.toList) :
    tokenize (quotedList gap values last) =
      Token.listOfNames ((values.map fun value => lowerText value ++ keptQuote gap) ++
        [lowerText last]) := by
  induction values with
  | nil => exact tokenize_inQuotes hlast
  | cons value values ih =>
    obtain ⟨hvalue, hvalues⟩ := List.forall_mem_cons.1 hvalues
    have hrest :
        (values.map fun value => lowerText value ++ keptQuote gap) ++ [lowerText last] ≠ [] :=
      List.append_ne_nil_of_right_ne_nil _ (List.cons_ne_nil _ _)
    rw [quotedList, tokenize_append_gap (by decide) (by decide), tokenize_quoted_comma hvalue hgap,
      ih hvalues]
    exact (listOfNames_cons _ hrest).symm

/-! ### Layout -/

theorem append_keptQuote_eq_iff (text : String) : text ++ keptQuote gap = text ↔ gap ≠ "" := by
  by_cases hne : gap = ""
  · rw [keptQuote, if_pos hne, ← String.toList_inj, String.toList_append]
    simp [hne]
  · rw [keptQuote_of_ne hne, String.append_empty]
    simp [hne]

theorem keptQuote_append_eq_iff (text : String) : keptQuote gap ++ text = text ↔ gap ≠ "" := by
  by_cases hne : gap = ""
  · rw [keptQuote, if_pos hne, ← String.toList_inj, String.toList_append]
    simp [hne]
  · rw [keptQuote_of_ne hne, String.empty_append]
    simp [hne]

/-- **A comma beside a value in quotes is mere layout exactly where a gap stands between them.**
Without the gap a quote stays in the value: the closing one before a comma, the opening one after
it. So a list of values in quotes is read as these values if there are gaps before its commas, and
otherwise each value but the last ends in a quote. Without quotes no gap is needed. -/
theorem tokenize_besideComma (gap value last : String) (values : List String)
    (hgap : gap.toList.all isBlank = true) (hvalue : Unmarked value.toList)
    (hvalues : ∀ value ∈ values, Unmarked value.toList) (hlast : Unmarked last.toList) :
    tokenize (inQuotes value ++ gap ++ ",") =
        [.text (lowerText value ++ keptQuote gap), .reserved .comma] ∧
      (tokenize (inQuotes value ++ gap ++ ",") = [.text (lowerText value), .reserved .comma] ↔
        gap ≠ "") ∧
      tokenize ("," ++ gap ++ inQuotes value) =
        [.reserved .comma, .text (keptQuote gap ++ lowerText value)] ∧
      (tokenize ("," ++ gap ++ inQuotes value) = [.reserved .comma, .text (lowerText value)] ↔
        gap ≠ "") ∧
      (value ≠ "" → tokenize (value ++ ",") = [.text (lowerText value), .reserved .comma]) ∧
      tokenize (quotedList gap values last) =
        Token.listOfNames ((values.map fun value => lowerText value ++ keptQuote gap) ++
          [lowerText last]) := by
  have hafter := tokenize_quoted_comma hvalue.writable hgap
  have hbefore := tokenize_comma_quoted hvalue.writable hgap
  refine ⟨hafter, ?_, hbefore, ?_, tokenize_unquoted_comma hvalue,
    tokenize_quotedList hgap (fun value h => (hvalues value h).writable) hlast.writable⟩
  · rw [hafter, ← append_keptQuote_eq_iff (lowerText value)]
    simp [Token.text]
  · rw [hbefore, ← keptQuote_append_eq_iff (lowerText value)]
    simp [Token.text]

/-- A login and a password in quotes, without a gap before the comma. -/
theorem tokenize_quotedLogin :
    "".toList.all isBlank = true ∧ Unmarked "Login".toList ∧
      (∀ value ∈ ["Login"], Unmarked value.toList) ∧ Unmarked "Πας".toList ∧
      tokenize "'Login'," = [.text "login'", .reserved .comma] ∧
      tokenize ",'Login'" = [.reserved .comma, .text "'login"] ∧
      tokenize "Login," = [.text "login", .reserved .comma] ∧
      tokenize "'Login', 'Πας'" = [.text "login'", .reserved .comma, .text "πας"] := by
  have hgap : "".toList.all isBlank = true := rfl
  have hvalue : Unmarked "Login".toList := by decide
  have hvalues : ∀ value ∈ ["Login"], Unmarked value.toList := List.forall_mem_singleton.2 hvalue
  have hlast : Unmarked "Πας".toList := by decide
  obtain ⟨hafter, -, hbefore, -, hunquoted, hlist⟩ :=
    tokenize_besideComma "" "Login" "Πας" ["Login"] hgap hvalue hvalues hlast
  exact ⟨hgap, hvalue, hvalues, hlast, hafter, hbefore, hunquoted (by decide), hlist⟩

/-- So the layout of a query changes what is sent: the login keeps a quote unless a gap stands
before the comma. -/
theorem basicAuth_besideComma :
    tokenize "'a'," ≠ [.text "a", .reserved .comma] ∧
      (compile .body "from h with basicauth 'u', 'p'" []).toOption.map Descriptor.basicAuth =
        some (some ⟨"u'", "p"⟩) ∧
      (compile .body "from h with basicauth 'u' , 'p'" []).toOption.map Descriptor.basicAuth =
        some (some ⟨"u", "p"⟩) := by
  refine ⟨?_, ?_, ?_⟩ <;> decide +kernel

end HttpQuery
