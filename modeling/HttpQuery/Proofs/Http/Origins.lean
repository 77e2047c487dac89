import HttpQuery.Proofs.Http.Requests
import HttpQuery.Proofs.Text.ByteOrder

/-! # Where the headers of a request come from

A request is refused for the first header of its descriptor that is invalid, in the order of the
bytes of the keys, and only if there is none for its URL, if the client does not read it. Otherwise
each name has the value of the last header that the descriptor has of it, or else of the last valid
one among the default headers, or else the value that a request has by itself; the credentials of
the descriptor come behind it.

* `IsHeader`, `HeaderFault`, `FirstFault`: valid headers, and what is wrong with the others.
* `RequestVerdict`, `Client.requestVerdict`: what the request of a descriptor may come to.
* `LastNamed`, `lastNamed_or_unnamed`: the last header of a name, if there is one.
* `Standing`, `Client.exists_standing`: what stands under a name before the credentials.
* `request_assembled`: the requests of a client. -/

namespace HttpQuery

open Text Headers

/-! ### Valid headers -/

/-- **A valid header**: both its name and its value are. -/
def IsHeader (entry : String × String) : Prop :=
  (headerName? entry.1).isSome = true ∧ (headerValue? entry.2).isSome = true

instance (entry : String × String) : Decidable (IsHeader entry) :=
  inferInstanceAs (Decidable (_ ∧ _))

/-- **What is wrong with a header**; its name is looked at first. -/
def HeaderFault (entry : String × String) : HeaderPart → Prop
  | .name => headerName? entry.1 = none
  | .value => (headerName? entry.1).isSome = true ∧ headerValue? entry.2 = none

/-- **The first fault** of some headers: that of the first key with one, in the order of the bytes
of the keys. -/
def FirstFault (headers : KeyMap String) (key : String) (part : HeaderPart) : Prop :=
  ∃ value, (key, value) ∈ headers.toList ∧ HeaderFault (key, value) part ∧
    ∀ other ∈ headers.toList, utf8Bytes other.1 < utf8Bytes key → IsHeader other

/-- A header as it is sent: its name in lower case, and the bytes of its value. -/
def sentHeader (entry : String × String) : String × Bytes :=
  (entry.1.map Char.toLower, utf8Bytes entry.2)

variable {entry : String × String} {headers : KeyMap String} {key name : String}
  {part : HeaderPart}

theorem headerPair_of_isHeader (h : IsHeader entry) :
    headerPair entry.1 entry.2 = .ok (sentHeader entry) := by
  obtain ⟨name, hname⟩ := Option.isSome_iff_exists.1 h.1
  obtain ⟨value, hvalue⟩ := Option.isSome_iff_exists.1 h.2
  rw [headerPair, hname, hvalue, eq_of_headerName? hname, eq_of_headerValue? hvalue]
  rfl

theorem headerPair_of_headerFault (h : HeaderFault entry part) :
    headerPair entry.1 entry.2 = .error (.invalidHeader entry.1 part) := by
  cases part with
  | name =>
    have hname : headerName? entry.1 = none := h
    rw [headerPair, hname]
  | value =>
    obtain ⟨name, hname⟩ := Option.isSome_iff_exists.1 h.1
    rw [headerPair, hname, h.2]

/-- Each header is valid, or it has a fault. -/
theorem isHeader_or_headerFault (entry : String × String) :
    IsHeader entry ∨ ∃ part, HeaderFault entry part := by
  cases hname : headerName? entry.1 with
  | none => exact .inr ⟨.name, hname⟩
  | some name =>
    cases hvalue : headerValue? entry.2 with
    | none => exact .inr ⟨.value, by rw [hname]; rfl, hvalue⟩
    | some value => exact .inl ⟨by rw [hname]; rfl, by rw [hvalue]; rfl⟩

theorem not_isHeader_of_headerFault (h : HeaderFault entry part) : ¬IsHeader entry := by
  intro hvalid
  have hpair := headerPair_of_headerFault h
  rw [headerPair_of_isHeader hvalid] at hpair
  cases hpair

/-- The headers before an entry of a map are those whose keys have lesser bytes. -/
theorem KeyMap.forall_before_iff {before after : List (String × String)}
    {P : String × String → Prop} (h : headers.toList = before ++ entry :: after) :
    (∀ other ∈ before, P other) ↔
      ∀ other ∈ headers.toList, utf8Bytes other.1 < utf8Bytes entry.1 → P other := by
  have hsorted := headers.sorted
  rw [show headers.entries = before ++ entry :: after from h, List.pairwise_append] at hsorted
  obtain ⟨-, hafter, hbefore⟩ := hsorted
  rw [h]
  constructor
  · intro hall other hother hlt
    rcases List.mem_append.1 hother with hmem | hmem
    · exact hall other hmem
    · -- The entry and those behind it do not have lesser bytes.
      rcases List.mem_cons.1 hmem with rfl | hmem
      · exact absurd (utf8Bytes_lt_iff.1 hlt) (String.lt_irrefl _)
      · have hgt := (List.pairwise_cons.1 hafter).1 other hmem
        exact absurd (utf8Bytes_lt_iff.1 hlt) (String.lt_asymm hgt)
  · intro hall other hother
    refine hall other (List.mem_append_left _ hother) (utf8Bytes_lt_iff.2 ?_)
    exact hbefore other hother entry List.mem_cons_self

/-! ### What a request comes to -/

namespace Descriptor

variable {d : Descriptor}

theorem readHeaders_of_isHeader (h : ∀ entry ∈ d.headers.toList, IsHeader entry) :
    d.readHeaders = .ok (d.headers.toList.map sentHeader) := by
  rw [readHeaders, mapM_eq_ok_iff, List.map_map]
  exact List.map_congr_left fun entry hentry => headerPair_of_isHeader (h entry hentry)

theorem readHeaders_of_firstFault (h : FirstFault d.headers key part) :
    d.readHeaders = .error (.invalidHeader key part) := by
  obtain ⟨value, hmem, hfault, hbefore⟩ := h
  obtain ⟨before, after, hlist⟩ := List.append_of_mem hmem
  refine mapM_eq_error_iff.2 ⟨before, _, after, hlist, fun other hother => ?_,
    headerPair_of_headerFault hfault⟩
  exact ⟨_, headerPair_of_isHeader ((KeyMap.forall_before_iff hlist).2 hbefore other hother)⟩

/-- A descriptor with an invalid header has a first one. -/
theorem exists_firstFault (h : ¬∀ entry ∈ d.headers.toList, IsHeader entry) :
    ∃ key part, FirstFault d.headers key part := by
  cases hread : d.readHeaders with
  | ok queryHeaders =>
    refine absurd (fun entry hentry => ?_) h
    obtain ⟨hname, hvalue⟩ := of_headerPair (headerPair_of_readHeaders hread hentry)
    exact ⟨by rw [hname]; rfl, by rw [hvalue]; rfl⟩
  | error cause =>
    obtain ⟨before, entry, after, hlist, hbefore, hentry⟩ := mapM_eq_error_iff.1 hread
    have hvalid : ∀ other ∈ before, IsHeader other := by
      intro other hother
      obtain ⟨pair, hpair⟩ := hbefore other hother
      refine (isHeader_or_headerFault other).resolve_right ?_
      rintro ⟨part, hfault⟩
      rw [headerPair_of_headerFault hfault] at hpair
      cases hpair
    rcases isHeader_or_headerFault entry with hheader | ⟨part, hfault⟩
    · rw [headerPair_of_isHeader hheader] at hentry
      cases hentry
    · exact ⟨entry.1, part, entry.2, by rw [hlist]; simp, hfault,
        (KeyMap.forall_before_iff hlist).1 hvalid⟩

end Descriptor

/-- **What the request of a descriptor may come to**, and why. -/
inductive RequestVerdict (client : Client) (d : Descriptor) : Except RequestError Request → Prop
  | invalidHeader {key : String} {part : HeaderPart} (hfault : FirstFault d.headers key part) :
      RequestVerdict client d (.error (.invalidHeader key part))
  | rejected (hheaders : ∀ entry ∈ d.headers.toList, IsHeader entry)
      (hurl : client.readUrl d.url = none) : RequestVerdict client d (.error .rejected)
  | ok {url : Url} (hheaders : ∀ entry ∈ d.headers.toList, IsHeader entry)
      (hurl : client.readUrl d.url = some url) :
      RequestVerdict client d (.ok (client.requestOf d (d.headers.toList.map sentHeader) url))

namespace Client

variable {client : Client} {d : Descriptor}

theorem request_of_firstFault (client : Client) (h : FirstFault d.headers key part) :
    client.request d = .error (.invalidHeader key part) := by
  rw [client.request_eq, Descriptor.readParts, Descriptor.readHeaders_of_firstFault h]
  rfl

theorem request_of_isHeader (client : Client) (h : ∀ entry ∈ d.headers.toList, IsHeader entry) :
    client.request d = match client.readUrl d.url with
      | none => .error .rejected
      | some url => .ok (client.requestOf d (d.headers.toList.map sentHeader) url) := by
  rw [client.request_eq, Descriptor.readParts, Descriptor.readHeaders_of_isHeader h]
  cases client.readUrl d.url with
  | none => rfl
  | some url => rfl

/-- **Every request comes to one of these results.** -/
theorem requestVerdict (client : Client) (d : Descriptor) :
    RequestVerdict client d (client.request d) := by
  by_cases h : ∀ entry ∈ d.headers.toList, IsHeader entry
  · rw [client.request_of_isHeader h]
    cases hurl : client.readUrl d.url with
    | none => exact .rejected h hurl
    | some url => exact .ok h hurl
  · obtain ⟨key, part, hfault⟩ := Descriptor.exists_firstFault h
    rw [client.request_of_firstFault hfault]
    exact .invalidHeader hfault

end Client

/-! ### The last header of a name -/

/-- **The last header of a name**, in any letter case: the one whose key has the greatest bytes. -/
structure LastNamed (entries : List (String × String)) (name : String)
    (entry : String × String) : Prop where
  mem : entry ∈ entries
  sameName : entry.1.map Char.toLower = name
  greatest : ∀ other ∈ entries, other.1.map Char.toLower = name →
    utf8Bytes other.1 ≤ utf8Bytes entry.1

/-- No header has the name, in any letter case. -/
def Unnamed (entries : List (String × String)) (name : String) : Prop :=
  ∀ entry ∈ entries, entry.1.map Char.toLower ≠ name

instance (entries : List (String × String)) (name : String) : Decidable (Unnamed entries name) :=
  inferInstanceAs (Decidable (∀ _ ∈ _, _))

/-- **A name has a last header, which is the one that counts, or it has none.** -/
theorem lastNamed_or_unnamed {entries : List (String × String)}
    (hsorted : entries.Pairwise fun a b => a.1 < b.1) (name : String) :
    (∃ entry, LastNamed entries name entry ∧
        last? (entries.map sentHeader) name = some (utf8Bytes entry.2)) ∨
      Unnamed entries name ∧ last? (entries.map sentHeader) name = none := by
  induction entries with
  | nil => exact .inr ⟨nofun, rfl⟩
  | cons first entries ih =>
    obtain ⟨hfirst, hsorted⟩ := List.pairwise_cons.1 hsorted
    have hlast : last? ((first :: entries).map sentHeader) name =
        (last? (entries.map sentHeader) name).or
          (if name = first.1.map Char.toLower then some (utf8Bytes first.2) else none) :=
      last?_cons _ _ _ _
    rw [hlast]
    rcases ih hsorted with ⟨entry, hentry, hvalue⟩ | ⟨hunnamed, hvalue⟩
    · -- A later header counts, and its key has greater bytes than the first one.
      refine .inl ⟨entry, ⟨List.mem_cons_of_mem _ hentry.mem, hentry.sameName, ?_⟩, by
        rw [hvalue, Option.some_or]⟩
      refine List.forall_mem_cons.2 ⟨fun _ => ?_, hentry.greatest⟩
      exact fun hlt => String.lt_asymm (hfirst entry hentry.mem) (utf8Bytes_lt_iff.1 hlt)
    · rw [hvalue, Option.none_or]
      by_cases hname : name = first.1.map Char.toLower
      · refine .inl ⟨first, ⟨List.mem_cons_self, hname.symm, ?_⟩, if_pos hname⟩
        refine List.forall_mem_cons.2 ⟨fun _ => List.le_refl _, fun other hother hsame => ?_⟩
        exact absurd hsame (hunnamed other hother)
      · refine .inr ⟨List.forall_mem_cons.2 ⟨Ne.symm hname, hunnamed⟩, if_neg hname⟩

/-- The valid default headers of some settings. -/
def Settings.validHeaders (settings : Settings) : List (String × String) :=
  settings.defaultHeaders.toList.filter fun entry => IsHeader entry

theorem headerPair?_eq (entry : String × String) :
    headerPair? entry.1 entry.2 = if IsHeader entry then some (sentHeader entry) else none := by
  rw [headerPair?]
  rcases isHeader_or_headerFault entry with h | ⟨part, h⟩
  · rw [if_pos h, headerPair_of_isHeader h]
    rfl
  · rw [if_neg (not_isHeader_of_headerFault h), headerPair_of_headerFault h]
    rfl

theorem Client.validDefaults_eq (settings : Settings) :
    validDefaults settings = settings.validHeaders.map sentHeader := by
  rw [validDefaults, Settings.validHeaders]
  induction settings.defaultHeaders.toList with
  | nil => rfl
  | cons entry entries ih =>
    rw [List.filterMap_cons, ih, headerPair?_eq, List.filter_cons]
    by_cases h : IsHeader entry <;> simp [h]

theorem Settings.pairwise_validHeaders (settings : Settings) :
    settings.validHeaders.Pairwise fun a b => a.1 < b.1 :=
  settings.defaultHeaders.sorted.filter _

/-- **Only the valid default headers count**: settings with the same ones have them in the same
order. -/
theorem Settings.validHeaders_congr {settings other : Settings}
    (h : ∀ entry, IsHeader entry →
      (entry ∈ other.defaultHeaders.toList ↔ entry ∈ settings.defaultHeaders.toList)) :
    other.validHeaders = settings.validHeaders := by
  have hnodup : ∀ settings : Settings, settings.validHeaders.Nodup :=
    fun settings => settings.defaultHeaders.nodup_toList.filter _
  have hperm : other.validHeaders.Perm settings.validHeaders := by
    refine (List.perm_ext_iff_of_nodup (hnodup _) (hnodup _)).2 fun entry => ?_
    rw [validHeaders, validHeaders, List.mem_filter, List.mem_filter]
    exact and_congr_left fun hvalid => h entry (of_decide_eq_true hvalid)
  exact hperm.eq_of_pairwise (fun _ _ _ _ hab hba => absurd hba (String.lt_asymm hab))
    other.pairwise_validHeaders settings.pairwise_validHeaders

/-! ### What stands under a name -/

/-- **What stands under a name** in a request before the credentials of the query: the value of the
query, or else that of the settings, or else the one that a request has by itself. -/
inductive Standing (settings : Settings) (d : Descriptor) (url : Url) (name : String) :
    List Bytes → Prop
  | query {entry : String × String} (hlast : LastNamed d.headers.toList name entry) :
      Standing settings d url name [utf8Bytes entry.2]
  | settings {entry : String × String} (hquery : Unnamed d.headers.toList name)
      (hlast : LastNamed settings.validHeaders name entry) :
      Standing settings d url name [utf8Bytes entry.2]
  | urlUser {login : String} {password : Option String}
      (hquery : Unnamed d.headers.toList name) (hsettings : Unnamed settings.validHeaders name)
      (hname : name = "authorization") (huser : url.credentials? = some (login, password)) :
      Standing settings d url name [utf8Bytes (basicAuthorization login (password.getD ""))]
  | contentType (hquery : Unnamed d.headers.toList name)
      (hsettings : Unnamed settings.validHeaders name) (hname : name = "content-type") :
      Standing settings d url name [utf8Bytes "application/json"]
  | nothing (hquery : Unnamed d.headers.toList name)
      (hsettings : Unnamed settings.validHeaders name) (hname : name ≠ "content-type")
      (huser : name = "authorization" → url.credentials? = none) :
      Standing settings d url name []

namespace Client

variable {settings : Settings} {readUrl : UrlReader} {client : Client}

/-- What a request has by itself. -/
theorem standing_implicitHeaders {d : Descriptor} (url : Url)
    (hquery : Unnamed d.headers.toList name) (hsettings : Unnamed settings.validHeaders name) :
    Standing settings d url name (values (implicitHeaders url.credentials?) name) := by
  rw [values_implicitHeaders]
  by_cases hcontent : name = "content-type"
  · have hurl : values (urlHeaders url.credentials?) name = [] := by
      rw [values_eq_nil_iff, hcontent]
      cases url.credentials? <;> simp [urlHeaders]
    rw [hurl, nil_layer, if_pos hcontent]
    exact .contentType hquery hsettings hcontent
  · rw [if_neg hcontent, layer_nil]
    by_cases hname : name = "authorization"
    · cases huser : url.credentials? with
      | none => exact .nothing hquery hsettings hcontent fun _ => huser
      | some user =>
        rw [urlHeaders, Option.map_some, Option.toList_some, values_singleton, if_pos hname]
        exact .urlUser hquery hsettings hname huser
    · have hurl : values (urlHeaders url.credentials?) name = [] := by
        rw [values_eq_nil_iff]
        cases url.credentials? <;> simp [urlHeaders, Ne.symm hname]
      rw [hurl]
      exact .nothing hquery hsettings hcontent fun h => absurd h hname

/-- **The values of a name in a request**: what stands under it, and then the credentials. -/
theorem exists_standing (h : ofSettings settings readUrl = .ok client) (d : Descriptor) (url : Url)
    (name : String) :
    ∃ standing, Standing settings d url name standing ∧
      (client.requestOf d (d.headers.toList.map sentHeader) url).headers.values name =
        standing ++ values (basicAuthHeaders d.basicAuth) name := by
  refine ⟨_, ?_, client.values_assembleHeaders _ _ _ name⟩
  rw [values_defaultHeaders h, validDefaults_eq]
  rcases lastNamed_or_unnamed d.headers.sorted name with ⟨entry, hentry, hvalue⟩ | ⟨hquery, hvalue⟩
  · have hvalue : last? (d.headers.toList.map sentHeader) name = some (utf8Bytes entry.2) := hvalue
    rw [hvalue, Option.toList_some, cons_layer]
    exact .query hentry
  · have hvalue : last? (d.headers.toList.map sentHeader) name = none := hvalue
    rw [hvalue, Option.toList_none, nil_layer]
    rcases lastNamed_or_unnamed settings.pairwise_validHeaders name with
      ⟨entry, hentry, hvalue⟩ | ⟨hsettings, hvalue⟩
    · rw [hvalue, Option.toList_some, cons_layer]
      exact .settings hquery hentry
    · rw [hvalue, Option.toList_none, nil_layer]
      exact standing_implicitHeaders url hquery hsettings

/-- A client is determined by the user agent and the valid default headers. -/
theorem ofSettings_congr {other : Settings} (hagent : other.userAgent = settings.userAgent)
    (hheaders : other.validHeaders = settings.validHeaders) :
    ofSettings other readUrl = ofSettings settings readUrl := by
  rw [ofSettings, ofSettings, userAgentOf, userAgentOf, hagent, validDefaults_eq, validDefaults_eq,
    hheaders]

end Client

/-- **The requests of a client**, in whichever way URLs are read. The first invalid header of a
descriptor is reported, whatever the URL is; if there is none, the request is rejected exactly if
the URL is not read. Otherwise there is a request. Each name has in it what stands under that name,
and behind it the credentials of the query, if these are its own. Invalid default headers change
nothing: settings with the same valid ones have the same client. -/
theorem request_assembled (readUrl : UrlReader) (settings : Settings) (client : Client)
    (hclient : Client.ofSettings settings readUrl = .ok client) (d : Descriptor) :
    (∀ key part, client.request d = .error (.invalidHeader key part) ↔
        FirstFault d.headers key part) ∧
      ((∃ key part, client.request d = .error (.invalidHeader key part)) ↔
        ∃ entry ∈ d.headers.toList, ¬IsHeader entry) ∧
      (client.request d = .error .rejected ↔
        (∀ entry ∈ d.headers.toList, IsHeader entry) ∧ readUrl d.url = none) ∧
      ((∀ entry ∈ d.headers.toList, IsHeader entry) → ∀ url, readUrl d.url = some url →
        ∃ r, client.request d = .ok r ∧ ∀ name, ∃ standing, Standing settings d url name standing ∧
          r.headers.values name = standing ++
            if name = "authorization" then
              (d.basicAuth.map fun c => utf8Bytes (basicAuthorization c.login c.password)).toList
            else []) ∧
      ∀ other : Settings, other.userAgent = settings.userAgent →
        (∀ entry, IsHeader entry →
          (entry ∈ other.defaultHeaders.toList ↔ entry ∈ settings.defaultHeaders.toList)) →
        Client.ofSettings other readUrl = .ok client := by
  have hverdict := client.requestVerdict d
  obtain rfl : client.readUrl = readUrl := (Client.eq_of_ofSettings hclient).2
  refine ⟨fun key part => ⟨fun h => ?_, client.request_of_firstFault⟩, ⟨?_, fun h => ?_⟩,
    ⟨fun h => ?_, ?_⟩, fun hheaders url hurl => ?_, fun other hagent hsame => ?_⟩
  · rw [h] at hverdict
    cases hverdict with
    | invalidHeader hfault => exact hfault
  · rintro ⟨key, part, h⟩
    rw [h] at hverdict
    cases hverdict with
    | invalidHeader hfault =>
      obtain ⟨value, hmem, hfault, -⟩ := hfault
      exact ⟨_, hmem, not_isHeader_of_headerFault hfault⟩
  · obtain ⟨entry, hmem, hnot⟩ := h
    obtain ⟨key, part, hfault⟩ :=
      Descriptor.exists_firstFault fun hall => hnot (hall entry hmem)
    exact ⟨key, part, client.request_of_firstFault hfault⟩
  · rw [h] at hverdict
    cases hverdict with
    | rejected hheaders hurl => exact ⟨hheaders, hurl⟩
  · rintro ⟨hheaders, hurl⟩
    rw [client.request_of_isHeader hheaders, hurl]
  · refine ⟨_, by rw [client.request_of_isHeader hheaders, hurl], fun name => ?_⟩
    obtain ⟨standing, hstanding, hvalues⟩ := Client.exists_standing hclient d url name
    rw [values_basicAuthHeaders] at hvalues
    exact ⟨standing, hstanding, hvalues⟩
  · rw [Client.ofSettings_congr hagent (Settings.validHeaders_congr hsame), hclient]

/-- A descriptor with two headers whose names differ in letter case only. -/
def namedTwice : Descriptor :=
  { acceptsAny with headers := .ofList [("accept", "*"), ("ACCEPT", "text/html")] }

/-- A descriptor with two invalid headers, and without a URL. -/
def faultyTwice : Descriptor :=
  { acceptsAny with
    url := ""
    headers := .ofList [("a b", "\n"), ("B", "\n"), ("A", "*")] }

/-- The first fault is reported though the URL is bad as well, and of two headers with one name the
one whose key comes last is sent, not the one that was written last. -/
theorem request_assembled_namedTwice :
    Client.ofSettings oftenSet Url.parse? = .ok oftenSetClient ∧
      oftenSetClient.request faultyTwice = .error (.invalidHeader "B" .value) ∧
      ∃ r, oftenSetClient.request namedTwice = .ok r ∧
        r.headers.values "accept" = [utf8Bytes "*"] := by
  have hclient : Client.ofSettings oftenSet Url.parse? = .ok oftenSetClient := rfl
  have hfault : FirstFault faultyTwice.headers "B" .value :=
    ⟨"\n", by decide +kernel, ⟨by decide +kernel, by decide +kernel⟩, by decide +kernel⟩
  have hheaders : ∀ entry ∈ namedTwice.headers.toList, IsHeader entry := by decide +kernel
  obtain ⟨url, hurl⟩ : ∃ url, Url.parse? namedTwice.url = some url :=
    Option.isSome_iff_exists.1 (by decide +kernel)
  obtain ⟨hfaulty, -⟩ := request_assembled Url.parse? oftenSet oftenSetClient hclient faultyTwice
  obtain ⟨-, -, -, hbuilt, -⟩ :=
    request_assembled Url.parse? oftenSet oftenSetClient hclient namedTwice
  obtain ⟨r, hr, hvalues⟩ := hbuilt hheaders url hurl
  obtain ⟨standing, hstanding, haccept⟩ := hvalues "accept"
  refine ⟨hclient, (hfaulty _ _).2 hfault, r, hr, ?_⟩
  have hnamed : ¬Unnamed namedTwice.headers.toList "accept" :=
    fun h => h ("accept", "*") (by decide +kernel) (by decide +kernel)
  rw [haccept]
  cases hstanding with
  | @query entry hlast =>
    have hcases : entry = ("ACCEPT", "text/html") ∨ entry = ("accept", "*") := by
      have hmem : entry ∈ [("ACCEPT", "text/html"), ("accept", "*")] := hlast.mem
      simpa using hmem
    rcases hcases with rfl | rfl
    · exact absurd (hlast.greatest ("accept", "*") (by decide +kernel) (by decide +kernel))
        (by decide +kernel)
    · rfl
  | settings hquery => exact absurd hquery hnamed
  | urlUser hquery => exact absurd hquery hnamed
  | contentType hquery => exact absurd hquery hnamed
  | nothing hquery => exact absurd hquery hnamed

end HttpQuery
