import HttpQuery.Compile
import HttpQuery.Proofs.Http.Origins

/-! # Credentials beside others

The credentials of a query are put behind what stands under the name `authorization`, and do not
replace it. So they are alone in a request only where nothing stands there: no default header of
that name and no user in the URL. Otherwise the request carries the other credentials as well, and
these come first.

* `standing_authorization`: what stands under the name `authorization` if the query does not set it.
* `request_credentials`: the credentials in a request.
* `credentials_besideOthers`: requests with two credentials. -/

namespace HttpQuery

open Text Headers

/-- **What stands before the credentials of a query**: the last valid default header of the name, or
else the user of the URL, or else nothing. -/
theorem standing_authorization {settings : Settings} {d : Descriptor} {url : Url}
    {standing : List Bytes} (h : Standing settings d url "authorization" standing)
    (hquery : Unnamed d.headers.toList "authorization") :
    (∃ entry, LastNamed settings.validHeaders "authorization" entry ∧
        standing = [utf8Bytes entry.2]) ∨
      Unnamed settings.validHeaders "authorization" ∧
        standing = (url.credentials?.map fun user =>
          utf8Bytes (basicAuthorization user.1 (user.2.getD ""))).toList := by
  cases h with
  | query hlast => exact absurd hlast.sameName (hquery _ hlast.mem)
  | settings _ hlast => exact .inl ⟨_, hlast, rfl⟩
  | urlUser _ hsettings _ huser => exact .inr ⟨hsettings, by rw [huser]; rfl⟩
  | contentType _ _ hname => exact absurd hname (by decide)
  | nothing _ hsettings _ huser => exact .inr ⟨hsettings, by rw [huser rfl]; rfl⟩

/-- **The credentials of a query come last, and they are alone only where nothing else stands under
their name**, in whichever way URLs are read. Before them comes the last valid default header of the
name, whatever the user of the URL is, and if there is none the user of the URL. -/
theorem request_credentials (readUrl : UrlReader) (settings : Settings) (client : Client)
    (hclient : Client.ofSettings settings readUrl = .ok client) (d : Descriptor) (c : Credentials)
    (hauth : d.basicAuth = some c) (hquery : Unnamed d.headers.toList "authorization")
    (r : Request) (hrequest : client.request d = .ok r) :
    ∃ url, readUrl d.url = some url ∧
      ((∃ entry, LastNamed settings.validHeaders "authorization" entry ∧
          r.headers.values "authorization" =
            [utf8Bytes entry.2, utf8Bytes (basicAuthorization c.login c.password)]) ∨
        Unnamed settings.validHeaders "authorization" ∧
          r.headers.values "authorization" =
            (url.credentials?.map fun user =>
              utf8Bytes (basicAuthorization user.1 (user.2.getD ""))).toList ++
            [utf8Bytes (basicAuthorization c.login c.password)]) ∧
      (r.headers.values "authorization" = [utf8Bytes (basicAuthorization c.login c.password)] ↔
        Unnamed settings.validHeaders "authorization" ∧ url.credentials? = none) := by
  have hverdict := client.requestVerdict d
  obtain rfl : client.readUrl = readUrl := (Client.eq_of_ofSettings hclient).2
  rw [hrequest] at hverdict
  cases hverdict with
  | @ok url hheaders hurl =>
    obtain ⟨standing, hstanding, hvalues⟩ :=
      Client.exists_standing hclient d url "authorization"
    rw [values_basicAuthHeaders, if_pos rfl, hauth, Option.map_some, Option.toList_some] at hvalues
    refine ⟨url, hurl, ?_⟩
    rw [hvalues]
    rcases standing_authorization hstanding hquery with
      ⟨entry, hlast, rfl⟩ | ⟨hunnamed, rfl⟩
    · refine ⟨.inl ⟨entry, hlast, rfl⟩, iff_of_false (by simp) fun hboth => ?_⟩
      exact hboth.1 entry hlast.mem hlast.sameName
    · refine ⟨.inr ⟨hunnamed, rfl⟩, ?_⟩
      rw [and_iff_right hunnamed]
      cases url.credentials? <;> simp

/-- The credentials of a descriptor beside a default header and a user in the URL, and alone. -/
theorem request_credentials_acceptsAny :
    (∃ r, oftenSetClient.request acceptsAny = .ok r ∧
        r.headers.values "authorization" ≠ [utf8Bytes (basicAuthorization "eve" "one")]) ∧
      ∃ r, Client.unset.request { acceptsAny with url := "http://localhost" } = .ok r ∧
        r.headers.values "authorization" = [utf8Bytes (basicAuthorization "eve" "one")] := by
  have hclient : Client.ofSettings oftenSet Url.parse? = .ok oftenSetClient := rfl
  have hother : Client.ofSettings {} Url.parse? = .ok Client.unset := rfl
  have hquery : Unnamed acceptsAny.headers.toList "authorization" := by decide +kernel
  obtain ⟨r, hr⟩ : ∃ r, oftenSetClient.request acceptsAny = .ok r :=
    exists_of_isSome_toOption (by decide +kernel)
  obtain ⟨s, hs⟩ :
      ∃ r, Client.unset.request { acceptsAny with url := "http://localhost" } = .ok r :=
    exists_of_isSome_toOption (by decide +kernel)
  obtain ⟨_, -, -, hbeside⟩ := request_credentials Url.parse? oftenSet oftenSetClient hclient
    acceptsAny ⟨"eve", "one"⟩ rfl hquery r hr
  obtain ⟨url, hurl, -, halone⟩ := request_credentials Url.parse? {} Client.unset hother
    { acceptsAny with url := "http://localhost" } ⟨"eve", "one"⟩ rfl hquery s hs
  refine ⟨⟨r, hr, fun h => ?_⟩, s, hs, halone.2 ⟨by decide +kernel, ?_⟩⟩
  · exact absurd (hbeside.1 h).1 (by decide +kernel)
  · have huser : (Url.parse? "http://localhost").bind Url.credentials? = none := by decide +kernel
    have hurl : Url.parse? "http://localhost" = some url := hurl
    rwa [hurl] at huser

/-- The request of a query whose result can be computed. -/
theorem exists_request_of_eq_some {client : Client} {query : String} {auth : Option Credentials}
    {values : List Bytes}
    (h : ((compile .body query []).toOption.bind fun d => (client.request d).toOption.map fun r =>
        (d.basicAuth, decide (Unnamed d.headers.toList "authorization"),
          r.headers.values "authorization")) = some (auth, true, values)) :
    ∃ d r, compile .body query [] = .ok d ∧ d.basicAuth = auth ∧
      Unnamed d.headers.toList "authorization" ∧ client.request d = .ok r ∧
      r.headers.values "authorization" = values := by
  cases hcompile : compile .body query [] with
  | error cause =>
    rw [hcompile] at h
    cases h
  | ok d =>
    rw [hcompile] at h
    cases hrequest : client.request d with
    | error cause =>
      simp only [Except.toOption, Option.bind_some, hrequest] at h
      cases h
    | ok r =>
      simp only [Except.toOption, Option.bind_some, hrequest, Option.map_some, Option.some.injEq,
        Prod.mk.injEq, decide_eq_true_eq] at h
      exact ⟨d, r, rfl, h.1, h.2.1, hrequest, h.2.2⟩

/-- Settings that send a token of their own. -/
def tokenSettings : Settings where
  defaultHeaders := .ofList [("authorization", "Bearer x")]

/-- **A query with credentials may send two authorizations**: beside a default header, and beside a
user in its URL. -/
theorem credentials_besideOthers :
    (∃ client, Client.ofSettings tokenSettings Url.parse? = .ok client ∧
        ∃ d r, compile .body "from 'http://localhost' with basicauth user, pw" [] = .ok d ∧
          d.basicAuth = some ⟨"user", "pw"⟩ ∧ Unnamed d.headers.toList "authorization" ∧
          client.request d = .ok r ∧
          r.headers.values "authorization" =
            [utf8Bytes "Bearer x", utf8Bytes (basicAuthorization "user" "pw")]) ∧
      ∃ client, Client.ofSettings {} Url.parse? = .ok client ∧
        ∃ d r, compile .body "from 'http://bob@localhost' with basicauth user, pw" [] = .ok d ∧
          d.basicAuth = some ⟨"user", "pw"⟩ ∧ Unnamed d.headers.toList "authorization" ∧
          client.request d = .ok r ∧
          r.headers.values "authorization" =
            [utf8Bytes (basicAuthorization "bob" ""), utf8Bytes (basicAuthorization "user" "pw")] :=
  ⟨⟨⟨none, Headers.setEach [] (Client.validDefaults tokenSettings), Url.parse?⟩, rfl,
      exists_request_of_eq_some (by decide +kernel)⟩,
    Client.unset, rfl, exists_request_of_eq_some (by decide +kernel)⟩

end HttpQuery
