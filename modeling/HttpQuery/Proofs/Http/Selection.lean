import HttpQuery.Fetch
import HttpQuery.Proofs.Compile.Faults
import HttpQuery.Proofs.Compile.HeaderNames

/-! # The headers that are picked from a response

Headers are appended to a response one after another, under names in any letter case. Of the names
that are asked for, each is given the first value that was appended under it, and the empty text if
there is none or if it is no visible text; a later value never takes the place of the first one. So
only the order of the values of one name counts, and of the list of names only which ones it has.

* `Headers.ofAppended`, `FirstNamed`: headers that are appended, and the first one of a name.
* `Picked`, `picked_pickHeader`: what is picked for a name.
* `KeyMap.find?_ofList_keyed`: maps with a value for each of some keys.
* `picked_headers`: the headers that are picked, and the names for which a query picks them. -/

namespace HttpQuery

open Text

/-! ### Appended headers -/

/-- **The headers of a response**, appended one after another. A text that is no
name is left out. -/
def Headers.ofAppended (appended : List (String × Bytes)) : Headers :=
  appended.filterMap fun h => (headerName? h.1).map (·, h.2)

/-- **The first value that was appended under a name**, in any letter case. -/
def FirstNamed (appended : List (String × Bytes)) (name : String) (value : Bytes) : Prop :=
  ∃ before other after, appended = before ++ (other, value) :: after ∧ SameName other name ∧
    ∀ h ∈ before, ¬SameName h.1 name

/-- The bytes of visible ASCII characters, the space and the tabulator. -/
def IsVisible (b : UInt8) : Prop := b = 9 ∨ 32 ≤ b ∧ b ≤ 126

/-- **What is picked for a name**: the text whose bytes are its first value, if they are visible,
and otherwise nothing. -/
inductive Picked (appended : List (String × Bytes)) (name : String) : String → Prop
  | shown {value : Bytes} {text : String} (hname : (headerName? name).isSome = true)
      (hfirst : FirstNamed appended name value) (hvisible : ∀ b ∈ value, IsVisible b)
      (htext : utf8Bytes text = value) : Picked appended name text
  | hidden {value : Bytes} {b : UInt8} (hfirst : FirstNamed appended name value)
      (hmem : b ∈ value) (hb : ¬IsVisible b) : Picked appended name ""
  | absent (habsent : ∀ h ∈ appended, ¬SameName h.1 name) : Picked appended name ""
  | invalid (hname : headerName? name = none) : Picked appended name ""

/-! ### Names -/

theorem toLower_toLower (c : Char) : c.toLower.toLower = c.toLower :=
  apply_toLower Char.toLower (by decide) c

theorem isNameChar_toLower (c : Char) : isNameChar c.toLower = isNameChar c :=
  apply_toLower isNameChar (by decide +kernel) c

/-- Whether a text is a name does not depend on its letter case, and nor does the name. -/
theorem headerName?_map_toLower (text : String) :
    headerName? (text.map Char.toLower) = headerName? text := by
  have hempty : text.map Char.toLower ≠ "" ↔ text ≠ "" := by
    rw [← String.toList_inj.ne, ← String.toList_inj.ne, String.toList_map]
    simp
  have hchars : (text.map Char.toLower).toList.all isNameChar = text.toList.all isNameChar := by
    rw [String.toList_map, List.all_map]
    exact List.all_congr rfl isNameChar_toLower
  have hlength : (text.map Char.toLower).length = text.length := by simp
  have hname : (text.map Char.toLower).map Char.toLower = text.map Char.toLower := by
    rw [← String.toList_inj, String.toList_map, String.toList_map, List.map_map]
    exact List.map_congr_left fun c _ => toLower_toLower c
  simp only [headerName?, hempty, hchars, hlength, hname]

theorem headerName?_congr {first second : String} (h : SameName first second) :
    headerName? first = headerName? second := by
  rw [← headerName?_map_toLower first, show first.map Char.toLower = _ from h,
    headerName?_map_toLower]

/-- Names are equal exactly if they are written alike up to the letter case. -/
theorem headerName?_eq_iff {first second name : String} (h : headerName? second = some name) :
    headerName? first = some name ↔ SameName first second := by
  constructor
  · intro hfirst
    rw [SameName, ← eq_of_headerName? hfirst, ← eq_of_headerName? h]
  · intro hsame
    rw [headerName?_congr hsame, h]

/-! ### Values -/

theorem isVisibleByte_iff {b : UInt8} : isVisibleByte b = true ↔ IsVisible b := by
  have hle : b < 127 ↔ b ≤ 126 := by
    rw [UInt8.lt_iff_toNat_lt, UInt8.le_iff_toNat_le]
    exact Nat.lt_succ_iff
  simp only [isVisibleByte, IsVisible, Bool.or_eq_true, Bool.and_eq_true, decide_eq_true_eq,
    beq_iff_eq, hle, or_comm]

theorem encodeChar_of_isVisible {b : UInt8} (h : IsVisible b) :
    String.utf8EncodeChar (Char.ofNat b.toNat) = [b] := by
  have hascii : ∀ n : Fin 128,
      String.utf8EncodeChar (Char.ofNat n.val) = [UInt8.ofNat n.val] := by decide +kernel
  have hlt : b.toNat < 128 := by
    rcases h with rfl | ⟨-, hle⟩
    · decide
    · exact Nat.lt_of_le_of_lt (UInt8.le_iff_toNat_le.1 hle) (by decide)
  have hb := hascii ⟨b.toNat, hlt⟩
  rwa [UInt8.ofNat_toNat] at hb

/-- The text of visible bytes has these bytes. -/
theorem exists_visibleText? {value : Bytes} (h : ∀ b ∈ value, IsVisible b) :
    ∃ text, visibleText? value = some text ∧ utf8Bytes text = value := by
  refine ⟨_, if_pos (List.all_eq_true.2 fun b hb => isVisibleByte_iff.2 (h b hb)), ?_⟩
  rw [utf8Bytes, String.toList_ofList, List.flatMap_map]
  calc value.flatMap (fun b => String.utf8EncodeChar (Char.ofNat b.toNat))
    _ = value.flatMap (fun b => [b]) :=
        List.flatMap_congr fun b hb => encodeChar_of_isVisible (h b hb)
    _ = value := List.flatMap_singleton' value

theorem visibleText?_eq_none {value : Bytes} {b : UInt8} (hmem : b ∈ value) (hb : ¬IsVisible b) :
    visibleText? value = none := by
  refine if_neg fun hall => hb (isVisibleByte_iff.1 ?_)
  exact List.all_eq_true.1 hall b hmem

/-! ### What is picked -/

variable {appended : List (String × Bytes)} {name : String}

theorem ofAppended_cons_of_name {other lower : String} (h : headerName? other = some lower)
    (value : Bytes) :
    Headers.ofAppended ((other, value) :: appended) =
      (lower, value) :: Headers.ofAppended appended := by
  rw [Headers.ofAppended, List.filterMap_cons_some (by rw [h, Option.map_some])]
  rfl

theorem ofAppended_cons_of_no_name {other : String} (h : headerName? other = none)
    (value : Bytes) :
    Headers.ofAppended ((other, value) :: appended) = Headers.ofAppended appended := by
  rw [Headers.ofAppended, List.filterMap_cons_none (by rw [h, Option.map_none])]
  rfl

/-- The first header of a name is the first one that was appended under it. -/
theorem first?_ofAppended {lower : String} (h : headerName? name = some lower) :
    (Headers.ofAppended appended).first? lower =
      (appended.find? fun h => SameName h.1 name).map (·.2) := by
  induction appended with
  | nil => rfl
  | cons header appended ih =>
    obtain ⟨other, value⟩ := header
    rw [List.find?_cons]
    by_cases hsame : SameName other name
    · rw [ofAppended_cons_of_name ((headerName?_eq_iff h).2 hsame)]
      simp [Headers.first?, hsame]
    · cases hother : headerName? other with
      | none =>
        rw [ofAppended_cons_of_no_name hother, ih]
        simp [hsame]
      | some otherLower =>
        have hne : lower ≠ otherLower := by
          rintro rfl
          exact hsame ((headerName?_eq_iff h).1 hother)
        rw [ofAppended_cons_of_name hother, Headers.first?, KeyMap.lookup_entry_cons, if_neg hne,
          ← Headers.first?, ih]
        simp [hsame]

theorem firstNamed_of_find?_eq_some {header : String × Bytes}
    (h : (appended.find? fun h => SameName h.1 name) = some header) :
    FirstNamed appended name header.2 := by
  obtain ⟨hsame, before, after, hlist, hbefore⟩ := List.find?_eq_some_iff_append.1 h
  refine ⟨before, header.1, after, hlist, of_decide_eq_true hsame, fun other hother => ?_⟩
  simpa using hbefore other hother

/-- **What is picked for a name.** -/
theorem picked_pickHeader (appended : List (String × Bytes)) (name : String) :
    Picked appended name (pickHeader (.ofAppended appended) name) := by
  rw [pickHeader]
  cases hname : headerName? name with
  | none => exact .invalid hname
  | some lower =>
    rw [Option.bind_some, first?_ofAppended hname]
    cases hfind : appended.find? fun h => SameName h.1 name with
    | none =>
      refine .absent fun header hmem => ?_
      simpa using List.find?_eq_none.1 hfind header hmem
    | some header =>
      have hfirst := firstNamed_of_find?_eq_some hfind
      rw [Option.map_some, Option.bind_some]
      by_cases hvisible : ∀ b ∈ header.2, IsVisible b
      · obtain ⟨text, hshown, htext⟩ := exists_visibleText? hvisible
        rw [hshown]
        exact .shown (by rw [hname]; rfl) hfirst hvisible htext
      · obtain ⟨b, hmem, hb⟩ : ∃ b ∈ header.2, ¬IsVisible b := by simpa using hvisible
        rw [visibleText?_eq_none hmem hb]
        exact .hidden hfirst hmem hb

theorem pickHeader_congr {headers : Headers} {first second : String} (h : SameName first second) :
    pickHeader headers first = pickHeader headers second := by
  rw [pickHeader, pickHeader, headerName?_congr h]

/-- Only the headers of a name count for it, in their order. -/
theorem pickHeader_of_filter_eq {others : List (String × Bytes)}
    (h : (others.filter fun h => SameName h.1 name) = appended.filter fun h => SameName h.1 name) :
    pickHeader (.ofAppended others) name = pickHeader (.ofAppended appended) name := by
  rw [pickHeader, pickHeader]
  cases hname : headerName? name with
  | none => rfl
  | some lower =>
    rw [Option.bind_some, Option.bind_some, first?_ofAppended hname, first?_ofAppended hname,
      ← List.head?_filter, ← List.head?_filter, h]

/-! ### Maps with a value for each key -/

theorem KeyMap.lookup_keyed {α : Type} (keys : List String) (value : String → α) (key : String) :
    (keys.map fun k => (k, value k)).lookup key =
      if key ∈ keys then some (value key) else none := by
  induction keys with
  | nil => rfl
  | cons first keys ih =>
    rw [List.map_cons, lookup_entry_cons, ih]
    by_cases h : key = first <;> simp [h]

/-- **A map that is built from keys and a value for each of them.** -/
theorem KeyMap.find?_ofList_keyed {α : Type} (keys : List String) (value : String → α)
    (key : String) :
    (KeyMap.ofList (keys.map fun k => (k, value k))).find? key =
      if key ∈ keys then some (value key) else none := by
  rw [find?_ofList, ← List.map_reverse, lookup_keyed]
  simp only [List.mem_reverse]

theorem find?_pickHeaders (headers : Headers) (names : List String) (name : String) :
    (pickHeaders headers names).find? name =
      if name ∈ names then some (pickHeader headers name) else none :=
  KeyMap.find?_ofList_keyed names (pickHeader headers) name

theorem mem_keys_pickHeaders {headers : Headers} {names : List String} {name : String} :
    name ∈ (pickHeaders headers names).keys ↔ name ∈ names := by
  rw [KeyMap.mem_keys_iff, find?_pickHeaders]
  split
  · next h => exact iff_of_true ⟨_, rfl⟩ h
  · next h => exact iff_of_false (by simp) h

/-! ### The names that a query lists -/

/-- The literals of a query are their own lower-case forms. -/
theorem lowercase_literal {query : String} {token : Token} (h : token ∈ tokenize query) :
    lowercase token.literal.toList = token.literal.toList :=
  lowercaseFrom_eq_self fun _ hc => lowerChar_of_mem_lowercaseFrom (literal_subset_lowercase h hc)

/-- **The names that a query lists** are lower-case texts of its command. -/
theorem exists_askedBy_of_compile {mode : Mode} {query : String} {arguments : List Argument}
    {d : Descriptor} (h : compile mode query arguments = .ok d) :
    ∃ command : Command, command.AskedBy mode query arguments ∧
      d.outputHeaders = command.outputHeaders ∧
      ∀ name ∈ command.outputHeaders, lowercase name.toList = name.toList := by
  obtain ⟨bound, command, hbound, hspelled, hassemble⟩ := exists_command_of_compile h
  obtain ⟨payload, seconds, -, -, rfl⟩ := Fields.eq_of_assemble_eq_ok hassemble
  refine ⟨command, ⟨bound, hbound, hspelled⟩, rfl, fun name hname => ?_⟩
  obtain ⟨token, htoken, rfl⟩ :=
    hspelled.exists_literal (List.mem_append_left _ (mem_listOfNames hname))
  exact lowercase_literal htoken

/-- A selection of headers is picked from a response for the names of a descriptor. -/
theorem exists_of_fetchListed {client : Client} {transport : Transport} {query : String}
    {arguments : List Argument} {picked : KeyMap String} {status : Nat}
    (h : client.fetchListed transport query arguments = .ok (picked, status)) :
    ∃ (d : Descriptor) (response : Response),
      compile .headerSelection query arguments = .ok d ∧
        picked = pickHeaders response.headers d.outputHeaders := by
  cases hrun : client.run transport .headerSelection query arguments with
  | error failure =>
    rw [Client.fetchListed, hrun] at h
    cases h
  | ok result =>
    rw [Client.fetchListed, hrun] at h
    obtain ⟨rfl, -⟩ := Prod.mk.inj (Except.ok.inj h)
    obtain ⟨d, hcompile, hrest⟩ := exists_of_bind_eq_ok hrun
    obtain ⟨response, -, hresult⟩ := exists_of_bind_eq_ok hrest
    obtain rfl := Except.ok.inj hresult
    exact ⟨d, response, mapError_eq_ok_iff.1 hcompile, rfl⟩

/-- **Exactly the headers that are asked for are picked.** There is one entry for each name that is
asked for, spelled as it is there, with what is picked for that name; the letter case of the name
does not count. The order of headers of different names does not count either, and nor do the order
and repetitions of the names. A query picks headers for the lower-case names that it lists. -/
theorem picked_headers (appended : List (String × Bytes)) (names : List String) :
    (∀ name, name ∈ (pickHeaders (.ofAppended appended) names).keys ↔ name ∈ names) ∧
      (∀ name ∈ names, ∃ text, (pickHeaders (.ofAppended appended) names).find? name = some text ∧
        Picked appended name text) ∧
      (∀ name ∈ names, ∀ other ∈ names, SameName name other →
        (pickHeaders (.ofAppended appended) names).find? name =
          (pickHeaders (.ofAppended appended) names).find? other) ∧
      (∀ (others : List (String × Bytes)) (more : List String),
        (∀ name, (others.filter fun h => SameName h.1 name) =
          appended.filter fun h => SameName h.1 name) →
        (∀ name, name ∈ more ↔ name ∈ names) →
          pickHeaders (.ofAppended others) more = pickHeaders (.ofAppended appended) names) ∧
      ∀ (client : Client) (transport : Transport) (query : String) (arguments : List Argument)
        (picked : KeyMap String) (status : Nat),
        client.fetchListed transport query arguments = .ok (picked, status) →
          ∃ command : Command, command.AskedBy .headerSelection query arguments ∧
            (∀ name, name ∈ picked.keys ↔ name ∈ command.outputHeaders) ∧
            ∀ name ∈ command.outputHeaders, lowercase name.toList = name.toList := by
  refine ⟨fun name => mem_keys_pickHeaders, fun name hname => ?_,
    fun name hname other hother hsame => ?_, fun others more horder hmore => ?_, ?_⟩
  · exact ⟨_, by rw [find?_pickHeaders, if_pos hname], picked_pickHeader appended name⟩
  · rw [find?_pickHeaders, find?_pickHeaders, if_pos hname, if_pos hother, pickHeader_congr hsame]
  · refine KeyMap.eq_of_find?_eq fun name => ?_
    rw [find?_pickHeaders, find?_pickHeaders, pickHeader_of_filter_eq (horder name)]
    simp only [hmore]
  · intro client transport query arguments picked status h
    obtain ⟨d, response, hcompile, rfl⟩ := exists_of_fetchListed h
    obtain ⟨command, hasked, hnames, hlower⟩ := exists_askedBy_of_compile hcompile
    refine ⟨command, hasked, fun name => ?_, hlower⟩
    rw [mem_keys_pickHeaders, hnames]

/-- Headers with two values of one name, of which the first one is no visible text. -/
def binaryFirst : List (String × Bytes) :=
  [("ETag", [0xFF]), ("Server", utf8Bytes "x"), ("etag", utf8Bytes "later")]

/-- A transport that answers with these headers. -/
def answersBinary : Transport := fun _ =>
  some (utf8Bytes "HTTP/1.1 200 OK\r\nETag: " ++ [0xFF] ++
    utf8Bytes "\r\nServer: x\r\netag: later\r\n\r\n")

/-- The later value is not picked in place of the first one, wherever the other header stands, and a
query that lists these names picks the same. -/
theorem picked_headers_binaryFirst :
    (∃ text, (pickHeaders (.ofAppended binaryFirst) ["etag", "ETAG"]).find? "ETAG" = some text ∧
        Picked binaryFirst "ETAG" text) ∧
      (pickHeaders (.ofAppended binaryFirst) ["etag", "ETAG"]).find? "etag" =
        (pickHeaders (.ofAppended binaryFirst) ["etag", "ETAG"]).find? "ETAG" ∧
      pickHeaders (.ofAppended
          [("Server", utf8Bytes "x"), ("ETag", [0xFF]), ("etag", utf8Bytes "later")])
          ["ETAG", "etag", "ETAG"] =
        pickHeaders (.ofAppended binaryFirst) ["etag", "ETAG"] ∧
      ∃ (picked : KeyMap String) (status : Nat) (command : Command),
        Client.unset.fetchListed answersBinary "ETag, Server from 'http://localhost'" [] =
          .ok (picked, status) ∧
        command.AskedBy .headerSelection "ETag, Server from 'http://localhost'" [] ∧
        ∀ name, name ∈ picked.keys ↔ name ∈ command.outputHeaders := by
  obtain ⟨-, hpicked, hcase, horder, hlisted⟩ := picked_headers binaryFirst ["etag", "ETAG"]
  refine ⟨hpicked "ETAG" (by decide), hcase "etag" (by decide) "ETAG" (by decide) (by decide),
    horder _ _ (fun name => ?_) (by simp [or_comm]), ?_⟩
  · -- No name is that of both headers which change places.
    have hne : ¬SameName "ETag" "Server" := by decide
    by_cases hserver : SameName "Server" name
    · have htag : ¬SameName "ETag" name := fun htag => hne (htag.trans hserver.symm)
      simp [binaryFirst, List.filter_cons, hserver, htag]
    · simp [binaryFirst, List.filter_cons, hserver]
  · obtain ⟨⟨picked, status⟩, hfetch⟩ : ∃ result, Client.unset.fetchListed answersBinary
        "ETag, Server from 'http://localhost'" [] = .ok result :=
      exists_of_isSome_toOption (by decide +kernel)
    obtain ⟨command, hasked, hkeys, -⟩ := hlisted _ _ _ _ picked status hfetch
    exact ⟨picked, status, command, hfetch, hasked, hkeys⟩

end HttpQuery
