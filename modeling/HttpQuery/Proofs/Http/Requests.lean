import HttpQuery.Proofs.Except
import HttpQuery.Proofs.Http.Headers

/-! # Requests under different settings

A request is built in two steps: the headers and the URL of the descriptor are read, which may fail,
and then the request is put together, which cannot. Of the client only its reader of URLs comes in
with the first step, whatever that is. Its settings come in with the second step, and there with the
default headers only, which lie under the headers of the query.

* `Descriptor.readParts`, `Client.request_eq`: the two steps.
* `Descriptor.readHeaders_eq`: the headers of a descriptor that are read.
* `Client.values_defaultHeaders`: what the default headers set.
* `request_settings`: the requests of two clients that read URLs alike. -/

namespace HttpQuery

open Text Headers

/-! ### The two steps -/

/-- The headers of a descriptor, the first bad one being reported. -/
def Descriptor.readHeaders (d : Descriptor) : Except RequestError (List (String × Bytes)) :=
  d.headers.toList.mapM fun h => headerPair h.1 h.2

/-- **What a request reads from its descriptor**: the headers, and then the URL. -/
def Descriptor.readParts (d : Descriptor) (readUrl : UrlReader) :
    Except RequestError (List (String × Bytes) × Url) := do
  let queryHeaders ← d.readHeaders
  match readUrl d.url with
  | none => .error .rejected
  | some url => return (queryHeaders, url)

/-- **The request that is put together** from the headers and the URL. -/
def Client.requestOf (client : Client) (d : Descriptor) (queryHeaders : List (String × Bytes))
    (url : Url) : Request where
  method := d.method
  url := if url.credentials?.isSome then url.withoutUser else url
  headers := client.assembleHeaders queryHeaders url.credentials? d.basicAuth
  body := d.body.compact
  timeLimit := d.timeLimit

/-- **Only the first step can fail**, where no more of the client comes in than how it reads URLs.
-/
theorem Client.request_eq (client : Client) (d : Descriptor) :
    client.request d =
      (d.readParts client.readUrl).map fun parts => client.requestOf d parts.1 parts.2 := by
  rw [request, Descriptor.readParts, Descriptor.readHeaders]
  cases d.headers.toList.mapM fun h => headerPair h.1 h.2 with
  | error cause => rfl
  | ok queryHeaders =>
    simp only [bind, Except.bind]
    cases client.readUrl d.url with
    | none => rfl
    | some url => rfl

/-- The headers of the query that is put into a request. -/
theorem Descriptor.readHeaders_of_readParts {d : Descriptor} {readUrl : UrlReader}
    {queryHeaders : List (String × Bytes)} {url : Url}
    (h : d.readParts readUrl = .ok (queryHeaders, url)) : d.readHeaders = .ok queryHeaders := by
  obtain ⟨headers, hread, h⟩ := exists_of_bind_eq_ok h
  split at h
  · cases h
  · rw [hread, (Prod.mk.inj (Except.ok.inj h)).1]

/-- A request that is built is put together from the headers of its descriptor. -/
theorem Client.exists_of_request_eq_ok {client : Client} {d : Descriptor} {r : Request}
    (h : client.request d = .ok r) :
    ∃ queryHeaders url, d.readHeaders = .ok queryHeaders ∧
      r = client.requestOf d queryHeaders url := by
  rw [client.request_eq] at h
  cases hparts : d.readParts client.readUrl with
  | error cause =>
    rw [hparts] at h
    cases h
  | ok parts =>
    rw [hparts] at h
    exact ⟨parts.1, parts.2, Descriptor.readHeaders_of_readParts hparts, (Except.ok.inj h).symm⟩

/-! ### Names and values -/

/-- Names that differ in letter case only. -/
def SameName (first second : String) : Prop := first.map Char.toLower = second.map Char.toLower

/-- A name that some headers set, in any letter case. -/
def Descriptor.Sets (d : Descriptor) (name : String) : Prop :=
  ∃ h ∈ d.headers.toList, SameName h.1 name

/-- A name that a valid default header sets, in any letter case. -/
def Settings.Sets (settings : Settings) (name : String) : Prop :=
  ∃ h ∈ settings.defaultHeaders.toList, (headerPair? h.1 h.2).isSome = true ∧ SameName h.1 name

/-- **The values of a name** in a request, in any letter case. -/
def Request.valuesOf (r : Request) (name : String) : List Bytes :=
  r.headers.values (name.map Char.toLower)

theorem sameName_iff {first second : String} :
    SameName first second ↔ first.toList.map Char.toLower = second.toList.map Char.toLower := by
  rw [SameName, ← String.toList_inj, String.toList_map, String.toList_map]

instance (first second : String) : Decidable (SameName first second) :=
  decidable_of_iff' _ sameName_iff

instance (d : Descriptor) (name : String) : Decidable (d.Sets name) :=
  inferInstanceAs (Decidable (∃ _ ∈ _, _))

instance (settings : Settings) (name : String) : Decidable (settings.Sets name) :=
  inferInstanceAs (Decidable (∃ _ ∈ _, _))

theorem eq_of_headerName? {text name : String} (h : headerName? text = some name) :
    name = text.map Char.toLower := by
  unfold headerName? at h
  split at h
  · exact (Option.some.inj h).symm
  · cases h

theorem eq_of_headerValue? {text : String} {value : Bytes} (h : headerValue? text = some value) :
    value = utf8Bytes text := by
  unfold headerValue? at h
  split at h
  · exact (Option.some.inj h).symm
  · cases h

/-- The parts of a valid header are valid. -/
theorem of_headerPair {name value : String} {pair : String × Bytes}
    (h : headerPair name value = .ok pair) :
    headerName? name = some pair.1 ∧ headerValue? value = some pair.2 := by
  unfold headerPair at h
  split at h
  · cases h
  · next n hname =>
    split at h
    · cases h
    · next v hvalue =>
      rw [hname, hvalue, ← Except.ok.inj h]
      exact ⟨rfl, rfl⟩

/-- A valid header keeps its name, but for the letter case, and its value. -/
theorem eq_of_headerPair {name value : String} {pair : String × Bytes}
    (h : headerPair name value = .ok pair) : pair = (name.map Char.toLower, utf8Bytes value) := by
  obtain ⟨hname, hvalue⟩ := of_headerPair h
  rw [← eq_of_headerName? hname, ← eq_of_headerValue? hvalue]

theorem headerPair?_eq_some_iff {name value : String} {pair : String × Bytes} :
    headerPair? name value = some pair ↔ headerPair name value = .ok pair := by
  rw [headerPair?]
  cases headerPair name value with
  | error cause => simp [Except.toOption]
  | ok read => simp [Except.toOption]

/-- Every header of a descriptor that is read is valid. -/
theorem Descriptor.headerPair_of_readHeaders {d : Descriptor} {queryHeaders : List (String × Bytes)}
    (h : d.readHeaders = .ok queryHeaders) {entry : String × String}
    (hentry : entry ∈ d.headers.toList) :
    headerPair entry.1 entry.2 = .ok (entry.1.map Char.toLower, utf8Bytes entry.2) := by
  have hmem : headerPair entry.1 entry.2 ∈ queryHeaders.map Except.ok := by
    rw [← mapM_eq_ok_iff.1 h]
    exact List.mem_map_of_mem hentry
  obtain ⟨pair, -, hpair⟩ := List.mem_map.1 hmem
  rw [← hpair, eq_of_headerPair hpair.symm]

/-- **The headers of a descriptor that are read**: the names in lower case, and the values. -/
theorem Descriptor.readHeaders_eq {d : Descriptor} {queryHeaders : List (String × Bytes)}
    (h : d.readHeaders = .ok queryHeaders) :
    queryHeaders = d.headers.toList.map fun h => (h.1.map Char.toLower, utf8Bytes h.2) := by
  have hok : queryHeaders.map Except.ok = (d.headers.toList.map fun h =>
      (h.1.map Char.toLower, utf8Bytes h.2)).map (Except.ok : _ → Except RequestError _) := by
    rw [← mapM_eq_ok_iff.1 h, List.map_map]
    exact List.map_congr_left fun _ hentry => headerPair_of_readHeaders h hentry
  exact (List.map_inj_right fun _ _ => Except.ok.inj).1 hok

/-! ### What the layers set -/

/-- The headers of the query set a name exactly if the descriptor does. -/
theorem Descriptor.isSome_last?_iff_sets {d : Descriptor} {queryHeaders : List (String × Bytes)}
    (h : d.readHeaders = .ok queryHeaders) {name : String} :
    (last? queryHeaders (name.map Char.toLower)).isSome = true ↔ d.Sets name := by
  rw [isSome_last?_iff, readHeaders_eq h, Sets]
  constructor
  · rintro ⟨_, hpair, hname⟩
    obtain ⟨entry, hentry, rfl⟩ := List.mem_map.1 hpair
    exact ⟨entry, hentry, hname⟩
  · rintro ⟨entry, hentry, hname⟩
    exact ⟨_, List.mem_map_of_mem hentry, hname⟩

/-- The default headers of a client, and how it reads URLs. -/
theorem Client.eq_of_ofSettings {settings : Settings} {readUrl : UrlReader} {client : Client}
    (h : Client.ofSettings settings readUrl = .ok client) :
    client.defaultHeaders = Headers.setEach [] (validDefaults settings) ∧
      client.readUrl = readUrl := by
  obtain ⟨userAgent, -, h⟩ := exists_of_bind_eq_ok h
  rw [← Except.ok.inj h]
  exact ⟨rfl, rfl⟩

/-- **The default headers of a client**: the last valid one of each name. -/
theorem Client.values_defaultHeaders {settings : Settings} {readUrl : UrlReader} {client : Client}
    (h : Client.ofSettings settings readUrl = .ok client) (name : String) :
    client.defaultHeaders.values name = (last? (validDefaults settings) name).toList := by
  have hempty : values [] name = [] := rfl
  rw [(eq_of_ofSettings h).1, values_setEach, hempty, layer_nil]

/-- The valid default headers set a name exactly if the settings do. -/
theorem Client.isSome_last?_validDefaults_iff {settings : Settings} {name : String} :
    (last? (validDefaults settings) (name.map Char.toLower)).isSome = true ↔
      settings.Sets name := by
  rw [isSome_last?_iff, Settings.Sets]
  constructor
  · rintro ⟨pair, hpair, hname⟩
    obtain ⟨entry, hentry, hread⟩ := List.mem_filterMap.1 hpair
    refine ⟨entry, hentry, by rw [hread]; rfl, ?_⟩
    rw [SameName, ← hname, eq_of_headerPair (headerPair?_eq_some_iff.1 hread)]
  · rintro ⟨entry, hentry, hvalid, hname⟩
    obtain ⟨pair, hread⟩ := Option.isSome_iff_exists.1 hvalid
    refine ⟨pair, List.mem_filterMap.2 ⟨entry, hentry, hread⟩, ?_⟩
    rw [← hname, eq_of_headerPair (headerPair?_eq_some_iff.1 hread)]

/-! ### Two clients -/

/-- The values of a name in the request of a client. -/
theorem Client.valuesOf_requestOf (client : Client) (d : Descriptor)
    (queryHeaders : List (String × Bytes)) (url : Url) (name : String) :
    (client.requestOf d queryHeaders url).valuesOf name =
      layer (last? queryHeaders (name.map Char.toLower)).toList
          (layer (client.defaultHeaders.values (name.map Char.toLower))
            (values (implicitHeaders url.credentials?) (name.map Char.toLower))) ++
        values (basicAuthHeaders d.basicAuth) (name.map Char.toLower) :=
  client.values_assembleHeaders queryHeaders url.credentials? d.basicAuth _

/-- A client whose settings do not set a name has no default header of it. -/
theorem Client.values_defaultHeaders_eq_nil {settings : Settings} {readUrl : UrlReader}
    {client : Client} {name : String} (h : Client.ofSettings settings readUrl = .ok client)
    (hname : ¬ settings.Sets name) :
    client.defaultHeaders.values (name.map Char.toLower) = [] := by
  have hnone : last? (validDefaults settings) (name.map Char.toLower) = none := by
    rwa [← isSome_last?_validDefaults_iff, Bool.not_eq_true, Option.isSome_eq_false_iff,
      Option.isNone_iff_eq_none] at hname
  rw [values_defaultHeaders h, hnone]
  rfl

/-- **Settings do not interfere with what a query says.** In whichever way URLs are read, the
requests of two clients fail for the same reason, or they agree in everything but the headers that
one of the settings sets and the query does not. -/
theorem request_settings (readUrl : UrlReader) (first second : Settings) (client other : Client)
    (hclient : Client.ofSettings first readUrl = .ok client)
    (hother : Client.ofSettings second readUrl = .ok other) (d : Descriptor) :
    (∃ cause, client.request d = .error cause ∧ other.request d = .error cause) ∨
      ∃ r s, client.request d = .ok r ∧ other.request d = .ok s ∧
        r.method = s.method ∧ r.url = s.url ∧ r.body = s.body ∧ r.timeLimit = s.timeLimit ∧
        ∀ name, d.Sets name ∨ ¬ first.Sets name ∧ ¬ second.Sets name →
          r.valuesOf name = s.valuesOf name := by
  rw [client.request_eq, other.request_eq, (Client.eq_of_ofSettings hclient).2,
    (Client.eq_of_ofSettings hother).2]
  cases hparts : d.readParts readUrl with
  | error cause => exact .inl ⟨cause, rfl, rfl⟩
  | ok parts =>
    obtain ⟨queryHeaders, url⟩ := parts
    refine .inr ⟨_, _, rfl, rfl, rfl, rfl, rfl, rfl, fun name hname => ?_⟩
    rw [Client.valuesOf_requestOf, Client.valuesOf_requestOf]
    rcases hname with hset | ⟨hfirst, hsecond⟩
    · have hsome := (Descriptor.isSome_last?_iff_sets
        (Descriptor.readHeaders_of_readParts hparts)).2 hset
      obtain ⟨value, hvalue⟩ := Option.isSome_iff_exists.1 hsome
      rw [hvalue, Option.toList_some, cons_layer, cons_layer]
    · rw [Client.values_defaultHeaders_eq_nil hclient hfirst,
        Client.values_defaultHeaders_eq_nil hother hsecond]

/-- Settings with default headers that the query sets, that it does not set, and that are invalid.
-/
def oftenSet : Settings where
  defaultHeaders := .ofList [("Accept", "text/plain"), ("Authorization", "none"), ("bad name", "x"),
    ("Content-Type", "text/plain")]

/-- A descriptor with a header, and with a user in its URL. -/
def acceptsAny : Descriptor where
  url := "http://bob@localhost"
  method := .get
  headers := .ofList [("accept", "*")]
  json := .empty
  payload := none
  basicAuth := some ⟨"eve", "one"⟩
  timeout := 30
  outputHeaders := []

/-- The client of these settings. -/
def oftenSetClient : Client :=
  ⟨none, Headers.setEach [] (Client.validDefaults oftenSet), Url.parse?⟩

/-- The requests of both clients agree in the header of the query and in one that nobody sets. -/
theorem request_settings_oftenSet :
    Client.ofSettings oftenSet Url.parse? = .ok oftenSetClient ∧
      Client.ofSettings {} Url.parse? = .ok Client.unset ∧ acceptsAny.Sets "ACCEPT" ∧
      ¬ oftenSet.Sets "Bad Name" ∧ ¬ ({} : Settings).Sets "Bad Name" ∧
      ∃ r s, oftenSetClient.request acceptsAny = .ok r ∧ Client.unset.request acceptsAny = .ok s ∧
        r.method = s.method ∧ r.url = s.url ∧ r.body = s.body ∧ r.timeLimit = s.timeLimit ∧
        r.valuesOf "ACCEPT" = s.valuesOf "ACCEPT" ∧
        r.valuesOf "Bad Name" = s.valuesOf "Bad Name" := by
  have haccept : acceptsAny.Sets "ACCEPT" := by decide +kernel
  have hbad : ¬ oftenSet.Sets "Bad Name" := by decide +kernel
  have hnone : ¬ ({} : Settings).Sets "Bad Name" := by decide +kernel
  have hbuilt : (Client.unset.request acceptsAny).toOption.isSome = true := by decide +kernel
  have hclient : Client.ofSettings oftenSet Url.parse? = .ok oftenSetClient := rfl
  have hother : Client.ofSettings {} Url.parse? = .ok Client.unset := rfl
  refine ⟨hclient, hother, haccept, hbad, hnone, ?_⟩
  rcases request_settings Url.parse? oftenSet {} _ _ hclient hother acceptsAny with
    ⟨cause, -, hcause⟩ | ⟨r, s, hr, hs, hmethod, hurl, hbody, htime, hvalues⟩
  · rw [hcause] at hbuilt
    cases hbuilt
  · exact ⟨r, s, hr, hs, hmethod, hurl, hbody, htime, hvalues "ACCEPT" (.inl haccept),
      hvalues "Bad Name" (.inr ⟨hbad, hnone⟩)⟩

end HttpQuery
