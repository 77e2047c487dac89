import HttpQuery.Http.Client

/-! # The values of a name

What an operation does to a list of headers shows in the values of each name. An operation that
replaces values lays new ones *over* those that stand there: the new ones count where there are any.
So the values of a name in a request come from a pile of layers, the headers of the query on top,
then the default headers, then what a request gets by itself; only the credentials of the query are
put behind the values that are there.

* `Headers.layer`: values laid over others.
* `Headers.last?`: the last value of a name.
* `Headers.values_setEach`, `Headers.values_setAll`, `Headers.values_setDefault`: the values after
  an operation.
* `Client.values_assembleHeaders`: the values in a request. -/

namespace HttpQuery

open Text

namespace Headers

/-- **Values laid over others**: they count if there are any. -/
def layer (upper lower : List Bytes) : List Bytes := if upper = [] then lower else upper

/-- The last value of a name. -/
def last? (headers : Headers) (name : String) : Option Bytes := headers.reverse.lookup name

theorem layer_nil (upper : List Bytes) : layer upper [] = upper := by
  unfold layer
  split
  · next h => rw [h]
  · rfl

theorem nil_layer (lower : List Bytes) : layer [] lower = lower := if_pos rfl

theorem cons_layer (value : Bytes) (upper lower : List Bytes) :
    layer (value :: upper) lower = value :: upper :=
  if_neg (List.cons_ne_nil _ _)

theorem layer_assoc (upper middle lower : List Bytes) :
    layer (layer upper middle) lower = layer upper (layer middle lower) := by
  cases upper with
  | nil => rw [nil_layer, nil_layer]
  | cons value upper => rw [cons_layer, cons_layer, cons_layer]

/-! ### Single operations -/

theorem values_append (headers more : Headers) (name : String) :
    values (headers ++ more) name = headers.values name ++ more.values name := by
  rw [values, List.filter_append, List.map_append, values, values]

theorem values_singleton (name other : String) (value : Bytes) :
    values [(name, value)] other = if other = name then [value] else [] := by
  by_cases h : other = name
  · simp [values, h]
  · simp [values, h, Ne.symm h]

theorem values_add (headers : Headers) (name other : String) (value : Bytes) :
    (headers.add name value).values other =
      headers.values other ++ if other = name then [value] else [] := by
  rw [add, values_append, values_singleton]

/-- A name has no values exactly if no header has it. -/
theorem values_eq_nil_iff {headers : Headers} {name : String} :
    headers.values name = [] ↔ ∀ h ∈ headers, h.1 ≠ name := by
  simp [values, List.filter_eq_nil_iff]

theorem any_eq_false_iff {headers : Headers} {name : String} :
    headers.any (·.1 = name) = false ↔ headers.values name = [] := by
  simp [values_eq_nil_iff]

/-- The values of a name among the headers of some names. -/
theorem values_filter (headers : Headers) (keep : String → Bool) (name : String) :
    values (headers.filter fun h => keep h.1) name =
      if keep name then headers.values name else [] := by
  rw [values, List.filter_filter]
  split
  · next hkeep =>
    rw [values]
    congr 1
    refine List.filter_congr fun h _ => ?_
    by_cases hname : h.1 = name
    · simp [hname, hkeep]
    · simp [hname]
  · next hkeep =>
    rw [List.map_eq_nil_iff, List.filter_eq_nil_iff]
    intro h _ hboth
    simp only [Bool.and_eq_true, decide_eq_true_eq] at hboth
    rw [hboth.1] at hboth
    exact hkeep hboth.2

theorem values_set (headers : Headers) (name other : String) (value : Bytes) :
    (headers.set name value).values other =
      layer (if other = name then [value] else []) (headers.values other) := by
  have hfilter : values (headers.filter (·.1 ≠ name)) other =
      if other = name then [] else headers.values other := by
    rw [values_filter headers (· ≠ name)]
    by_cases h : other = name <;> simp [h]
  rw [set, values_add, hfilter]
  split
  · exact (cons_layer value [] _).symm
  · rw [nil_layer, List.append_nil]

/-! ### Many headers -/

theorem last?_cons (headers : Headers) (name other : String) (value : Bytes) :
    last? ((name, value) :: headers) other =
      (headers.last? other).or (if other = name then some value else none) := by
  rw [last?, List.reverse_cons, List.lookup_append, KeyMap.lookup_entry_cons]
  rfl

/-- A name has a last value exactly if a header has it. -/
theorem isSome_last?_iff {headers : Headers} {name : String} :
    (headers.last? name).isSome = true ↔ ∃ h ∈ headers, h.1 = name := by
  induction headers with
  | nil => simp [last?]
  | cons h headers ih =>
    obtain ⟨other, value⟩ := h
    rw [last?_cons, Option.isSome_or, Bool.or_eq_true, ih]
    by_cases hname : name = other
    · simp [hname]
    · simp [hname, Ne.symm hname]

/-- A header is the last one of its name if there is no other value of that name. -/
theorem last?_eq_some_of_unique {headers : Headers} {name : String} {value : Bytes}
    (hmem : (name, value) ∈ headers) (hunique : ∀ h ∈ headers, h.1 = name → h.2 = value) :
    headers.last? name = some value :=
  KeyMap.lookup_eq_some_of_unique (List.mem_reverse.2 hmem)
    fun h hh => hunique h (List.mem_reverse.1 hh)

/-- **Headers that are set one after another** are laid over the others, the last one of a name. -/
theorem values_setEach (headers : Headers) (pairs : List (String × Bytes)) (name : String) :
    (headers.setEach pairs).values name =
      layer (last? pairs name).toList (headers.values name) := by
  induction pairs generalizing headers with
  | nil => exact (nil_layer _).symm
  | cons pair pairs ih =>
    obtain ⟨other, value⟩ := pair
    have hstep : headers.setEach ((other, value) :: pairs) =
        (headers.set other value).setEach pairs := rfl
    rw [hstep, ih, values_set, last?_cons]
    cases last? pairs name with
    | none =>
      rw [Option.none_or, Option.toList_none, nil_layer]
      split <;> rfl
    | some last => rw [Option.some_or, Option.toList_some, cons_layer, cons_layer]

/-- **Headers that replace others** are laid over them. -/
theorem values_setAll (headers more : Headers) (name : String) :
    (headers.setAll more).values name = layer (more.values name) (headers.values name) := by
  rw [setAll, values_append, values_filter headers fun n => !more.any (·.1 = n)]
  by_cases h : more.values name = []
  · rw [h, nil_layer, List.append_nil, any_eq_false_iff.2 h]
    rfl
  · rw [eq_true_of_ne_false (mt any_eq_false_iff.1 h), layer, if_neg h]
    rfl

/-- **A default value** is laid under the others. -/
theorem values_setDefault (headers : Headers) (name other : String) (value : Bytes) :
    (headers.setDefault name value).values other =
      layer (headers.values other) (if other = name then [value] else []) := by
  unfold setDefault
  by_cases hvalues : headers.values name = []
  · rw [any_eq_false_iff.2 hvalues, if_neg Bool.false_ne_true, values_add]
    by_cases hname : other = name
    · rw [hname, hvalues, nil_layer, List.nil_append]
    · rw [if_neg hname, layer_nil, List.append_nil]
  · rw [eq_true_of_ne_false (mt any_eq_false_iff.1 hvalues), if_pos rfl]
    by_cases hname : other = name
    · rw [hname, layer, if_neg hvalues]
    · rw [if_neg hname, layer_nil]

end Headers

/-! ### The headers of a request -/

/-- The header of the user and password of a URL. -/
def urlHeaders (urlCredentials : Option (String × Option String)) : Headers :=
  (urlCredentials.map fun c =>
    ("authorization", utf8Bytes (basicAuthorization c.1 (c.2.getD "")))).toList

/-- **The headers that a request has by itself**, where neither the query nor the settings set them.
-/
def implicitHeaders (urlCredentials : Option (String × Option String)) : Headers :=
  urlHeaders urlCredentials ++ [("content-type", Client.jsonContentType)]

/-- The header of the credentials of a query. -/
def basicAuthHeaders (basicAuth : Option Credentials) : Headers :=
  (basicAuth.map fun c =>
    ("authorization", utf8Bytes (basicAuthorization c.login c.password))).toList

theorem values_basicAuthHeaders (basicAuth : Option Credentials) (name : String) :
    Headers.values (basicAuthHeaders basicAuth) name =
      if name = "authorization" then
        (basicAuth.map fun c => utf8Bytes (basicAuthorization c.login c.password)).toList
      else [] := by
  cases basicAuth with
  | none => split <;> rfl
  | some c => exact Headers.values_singleton "authorization" name _

namespace Client

open Headers

theorem assembleHeaders_eq (client : Client) (queryHeaders : List (String × Bytes))
    (urlCredentials : Option (String × Option String)) (basicAuth : Option Credentials) :
    client.assembleHeaders queryHeaders urlCredentials basicAuth =
      ((urlHeaders urlCredentials).setAll (client.defaultHeaders.setEach queryHeaders)).setDefault
          "content-type" jsonContentType ++
        basicAuthHeaders basicAuth := by
  cases urlCredentials <;> cases basicAuth
  case none.none => exact (List.append_nil _).symm
  case some.none => exact (List.append_nil _).symm
  case none.some => rfl
  case some.some => rfl

/-- The content type is laid under the header of the URL, which has another name. -/
theorem values_implicitHeaders (urlCredentials : Option (String × Option String)) (name : String) :
    values (implicitHeaders urlCredentials) name =
      layer (values (urlHeaders urlCredentials) name)
        (if name = "content-type" then [jsonContentType] else []) := by
  rw [implicitHeaders, values_append, values_singleton]
  by_cases h : name = "content-type"
  · have hurl : values (urlHeaders urlCredentials) name = [] := by
      rw [values_eq_nil_iff, h]
      cases urlCredentials <;> simp [urlHeaders]
    rw [hurl, nil_layer, List.nil_append]
  · rw [if_neg h, layer_nil, List.append_nil]

/-- **The values of a name in a request**: those of the query over the default ones, and these over
those that a request has by itself; the credentials of the query come last. -/
theorem values_assembleHeaders (client : Client) (queryHeaders : List (String × Bytes))
    (urlCredentials : Option (String × Option String)) (basicAuth : Option Credentials)
    (name : String) :
    (client.assembleHeaders queryHeaders urlCredentials basicAuth).values name =
      layer (last? queryHeaders name).toList
          (layer (client.defaultHeaders.values name)
            (values (implicitHeaders urlCredentials) name)) ++
        values (basicAuthHeaders basicAuth) name := by
  rw [assembleHeaders_eq, values_append, values_setDefault, values_setAll, values_setEach,
    layer_assoc, layer_assoc, values_implicitHeaders]

end Client

end HttpQuery
