import HttpQuery.Proofs.CommandLine.Lines
import HttpQuery.Proofs.CommandLine.Reports
import HttpQuery.Proofs.Compile.Blanks
import HttpQuery.Proofs.Text.ByteOrder

/-! # Requests as tables

A dry run prints a compiled request as a table, with asterisks in the place of the password. So runs
whose requests differ in the password only print the same. Nothing else is hidden: every other part
that the table shows can be read off its text. This needs the texts of a descriptor to be without
blanks, so that they end no line and no name of a header, and it needs the labels of a table to
differ in their first letters, in colours or not.

* `listed_append_inj`: the items under a label can be read off the lines.
* `headLines_inj`: the lines before the body tell what they are made of.
* `table_hides_password`: a dry run prints the parts that are shown, and not the password. -/

namespace HttpQuery

open Style Text

/-! ### Labels -/

variable {shown : Bool} {label other line text : String} {items others rest more : List String}
  {d e : Descriptor}

/-- An indented label. -/
def labelled (shown : Bool) (label : String) : String := "  " ++ dimmed.paint shown label

/-- A text behind its label. -/
def fieldLine (shown : Bool) (label text : String) : String :=
  labelled shown label ++ (" " ++ text)

/-- The labels of a table. -/
def tableLabels : List String :=
  ["Method:", "URL:", "Timeout:", "Headers:", "Basic auth:", "Extract headers:", "Body:"]

theorem isLine_labelled (h : label ∈ tableLabels) : IsLine (labelled shown label) := by
  have hindent : IsLine "  " := by decide
  have hall : ∀ label ∈ tableLabels, IsLine label := by decide
  exact hindent.append ((hall label h).paint shown dimmed)

theorem isLine_fieldLine (h : label ∈ tableLabels) (htext : IsLine text) :
    IsLine (fieldLine shown label text) := by
  have hblank : IsLine " " := by decide
  exact (isLine_labelled h).append (hblank.append htext)

theorem fieldLine_inj (h : fieldLine shown label text = fieldLine shown label other) :
    text = other :=
  (String.append_right_inj _).1 ((String.append_right_inj _).1 h)

/-! ### The first letters of labels -/

/-- The number of characters before the label of a line: the indent and, where colours are shown,
the codes of the dim style. -/
def labelIndent (shown : Bool) : Nat := if shown then 6 else 2

/-- The characters of a line where a label has its first letters. -/
def initials (shown : Bool) (line : String) : List Char :=
  (line.toList.drop (labelIndent shown)).take 2

theorem initials_append (h : labelIndent shown + 2 ≤ line.toList.length) (text : String) :
    initials shown (line ++ text) = initials shown line := by
  rw [initials, initials, String.toList_append, List.drop_append_of_le_length (by omega),
    List.take_append_of_le_length (by rw [List.length_drop]; omega)]

theorem initials_labelled_append (shown : Bool) (h : label ∈ tableLabels) (text : String) :
    initials shown (labelled shown label ++ text) = label.toList.take 2 := by
  have hall : ∀ shown, ∀ label ∈ tableLabels,
      initials shown (labelled shown label) = label.toList.take 2 ∧
        labelIndent shown + 2 ≤ (labelled shown label).toList.length := by decide +kernel
  obtain ⟨hinitials, hlength⟩ := hall shown label h
  rw [initials_append hlength, hinitials]

theorem initials_labelled (shown : Bool) (h : label ∈ tableLabels) :
    initials shown (labelled shown label) = label.toList.take 2 := by
  have hinitials := initials_labelled_append shown h ""
  rwa [String.append_empty] at hinitials

/-- Labels differ in their first letters. -/
theorem eq_of_take_eq (h : label ∈ tableLabels) (hother : other ∈ tableLabels)
    (heq : label.toList.take 2 = other.toList.take 2) : label = other := by
  have hall : ∀ label ∈ tableLabels, ∀ other ∈ tableLabels,
      label.toList.take 2 = other.toList.take 2 → label = other := by decide
  exact hall label h other hother heq

theorem labelled_ne (h : label ∈ tableLabels) (hother : other ∈ tableLabels)
    (hne : label ≠ other) : labelled shown label ≠ labelled shown other := by
  intro heq
  refine hne (eq_of_take_eq h hother ?_)
  rw [← initials_labelled shown h, heq, initials_labelled shown hother]

/-- **A line with a label is no other label.** -/
theorem fieldLine_ne (h : label ∈ tableLabels) (hother : other ∈ tableLabels)
    (hne : label ≠ other) : fieldLine shown label text ≠ labelled shown other := by
  intro heq
  refine hne (eq_of_take_eq h hother ?_)
  rw [← initials_labelled_append shown h (" " ++ text), ← fieldLine, heq,
    initials_labelled shown hother]

/-- A line that does not have the first letters of a label. -/
def Unlabelled (shown : Bool) (line : String) : Prop :=
  ∀ label ∈ tableLabels, initials shown line ≠ label.toList.take 2

instance : Decidable (Unlabelled shown line) :=
  inferInstanceAs (Decidable (∀ label ∈ tableLabels, initials shown line ≠ label.toList.take 2))

theorem not_unlabelled_labelled (h : label ∈ tableLabels) :
    ¬ Unlabelled shown (labelled shown label) :=
  fun hnot => hnot label h (initials_labelled shown h)

theorem not_unlabelled_fieldLine (h : label ∈ tableLabels) :
    ¬ Unlabelled shown (fieldLine shown label text) :=
  fun hnot => hnot label h (initials_labelled_append shown h _)

theorem unlabelled_append (hlength : labelIndent shown + 2 ≤ line.toList.length)
    (h : Unlabelled shown line) (text : String) : Unlabelled shown (line ++ text) := by
  intro label hlabel
  rw [initials_append hlength]
  exact h label hlabel

/-- **What is printed in white behind an indent** has no label. -/
theorem unlabelled_white {indent : String} (hlength : labelIndent false + 2 ≤ indent.toList.length)
    (hplain : Unlabelled false indent)
    (hcoloured : Unlabelled true (indent ++ (Style.of .white).opening)) (text after : String) :
    Unlabelled shown (indent ++ ((Style.of .white).paint shown text ++ after)) := by
  cases shown with
  | false => exact unlabelled_append hlength hplain _
  | true =>
    have hopening : labelIndent true ≤
        labelIndent false + (Style.of .white).opening.toList.length := by decide +kernel
    have hsplit : ∀ body, indent ++ ((Style.of .white).opening ++ body ++ closing ++ after) =
        indent ++ (Style.of .white).opening ++ (body ++ closing ++ after) := by
      simp [String.append_assoc]
    rw [paint, if_pos ⟨rfl, by decide⟩, hsplit]
    refine unlabelled_append ?_ hcoloured _
    rw [String.toList_append, List.length_append]
    omega

/-! ### Items under a label -/

/-- Some items under their label, if there are any. -/
def listed (shown : Bool) (label : String) (items : List String) : List String :=
  if items.isEmpty then [] else labelled shown label :: items

theorem mem_listed (h : line ∈ listed shown label items) :
    line = labelled shown label ∨ line ∈ items := by
  unfold listed at h
  split at h
  · cases h
  · exact List.mem_cons.1 h

theorem head?_listed (h : line ∈ (listed shown label items).head?) :
    line = labelled shown label := by
  unfold listed at h
  split at h
  · cases h
  · exact (Option.mem_some.1 h).symm

/-- **The items under a label can be read off the lines**, if they have no labels and a line with
another label comes next. -/
theorem listed_append_inj (hitems : ∀ line ∈ items, Unlabelled shown line)
    (hothers : ∀ line ∈ others, Unlabelled shown line)
    (hrest : ∀ line ∈ rest.head?, ¬ Unlabelled shown line ∧ line ≠ labelled shown label)
    (hmore : ∀ line ∈ more.head?, ¬ Unlabelled shown line ∧ line ≠ labelled shown label)
    (h : listed shown label items ++ rest = listed shown label others ++ more) :
    items = others ∧ rest = more := by
  -- Where only one side has items, its label would come next on the other side.
  cases items with
  | nil =>
    cases others with
    | nil => exact ⟨rfl, h⟩
    | cons other others =>
      obtain rfl : rest = labelled shown label :: (other :: others ++ more) := h
      exact absurd rfl (hrest _ rfl).2
  | cons item items =>
    cases others with
    | nil =>
      obtain rfl : labelled shown label :: (item :: items ++ rest) = more := h
      exact absurd rfl (hmore _ rfl).2
    | cons other others =>
      exact append_inj_of_forall hitems hothers (fun line hline => (hrest line hline).1)
        (fun line hline => (hmore line hline).1) (List.cons.inj h).2

/-! ### What a table is made of -/

/-- A header in a table. -/
def headerItem (shown : Bool) (header : String × String) : String :=
  "    " ++ ((Style.of .white).paint shown header.1 ++
    (": " ++ (Style.of .yellow).paint shown header.2))

/-- The name of a header to extract in a table. -/
def nameItem (shown : Bool) (name : String) : String :=
  "    • " ++ (Style.of .white).paint shown name

/-- The line of the credentials in a table, without the password. -/
def loginLine (shown : Bool) (login : String) : String :=
  fieldLine shown "Basic auth:"
    ((Style.of .white).paint shown login ++ (" / " ++ dimmed.paint shown "****"))

/-- The lines of a table after those that it always starts with, and before the body. -/
def optionLines (shown : Bool) (d : Descriptor) : List String :=
  listed shown "Headers:" (d.headers.toList.map (headerItem shown)) ++
    (((d.basicAuth.map (·.login)).map (loginLine shown)).toList ++
      listed shown "Extract headers:" (d.outputHeaders.map (nameItem shown)))

/-- The lines of a table before the body. -/
def headLines (shown : Bool) (d : Descriptor) : List String :=
  (Style.of .green).bolder.paint shown "Compiled Request:" ::
  fieldLine shown "Method:" ((Style.of .cyan).paint shown d.method.name) ::
  fieldLine shown "URL:" ((Style.of .white).paint shown d.url) ::
  fieldLine shown "Timeout:" (toString d.timeout ++ "s") :: optionLines shown d

theorem descriptorLines_eq (shown : Bool) (d : Descriptor) :
    descriptorLines shown d = headLines shown d ++ labelled shown "Body:" ::
      ["    " ++ (Style.of .yellow).paint shown d.body.compact] := by
  unfold descriptorLines headLines optionLines listed
  have hheader : headerItem shown = fun header => "    " ++
      (Style.of .white).paint shown header.1 ++ ": " ++
        (Style.of .yellow).paint shown header.2 := by
    funext header
    rw [headerItem, String.append_assoc, String.append_assoc]
  have hname : nameItem shown = fun name => "    • " ++ (Style.of .white).paint shown name := rfl
  cases d.basicAuth <;>
    simp [KeyMap.isEmpty, KeyMap.toList, loginLine, fieldLine, labelled, hheader, hname,
      String.append_assoc]

/-! ### Where the lines end -/

theorem unlabelled_headerItem (header : String × String) :
    Unlabelled shown (headerItem shown header) :=
  unlabelled_white (by decide) (by decide) (by decide +kernel) _ _

theorem unlabelled_nameItem (name : String) : Unlabelled shown (nameItem shown name) := by
  rw [nameItem, ← String.append_empty (s := (Style.of .white).paint shown name)]
  exact unlabelled_white (by decide) (by decide) (by decide +kernel) _ _

theorem isLine_headerItem {header : String × String} (hkey : Blankless header.1)
    (hvalue : Blankless header.2) : IsLine (headerItem shown header) := by
  have hindent : IsLine "    " := by decide
  have hcolon : IsLine ": " := by decide
  exact hindent.append ((hkey.isLine.paint _ _).append (hcolon.append (hvalue.isLine.paint _ _)))

theorem isLine_nameItem {name : String} (h : Blankless name) : IsLine (nameItem shown name) := by
  have hindent : IsLine "    • " := by decide
  exact hindent.append (h.isLine.paint _ _)

theorem forall_fieldLine (h : label ∈ tableLabels) (hne : label ≠ "Body:") (htext : IsLine text) :
    IsLine (fieldLine shown label text) ∧ fieldLine shown label text ≠ labelled shown "Body:" :=
  ⟨isLine_fieldLine h htext, fieldLine_ne h (by decide) hne⟩

theorem forall_loginLine {login : String} (h : Blankless login) :
    IsLine (loginLine shown login) ∧ loginLine shown login ≠ labelled shown "Body:" := by
  have hslash : IsLine " / " := by decide
  have hmarks : IsLine "****" := by decide
  exact forall_fieldLine (by decide) (by decide)
    ((h.isLine.paint _ _).append (hslash.append (hmarks.paint _ _)))

theorem forall_listed (h : label ∈ tableLabels) (hne : label ≠ "Body:")
    (hitems : ∀ line ∈ items, IsLine line ∧ Unlabelled shown line) :
    ∀ line ∈ listed shown label items, IsLine line ∧ line ≠ labelled shown "Body:" := by
  intro line hline
  rcases mem_listed hline with rfl | hitem
  · exact ⟨isLine_labelled h, labelled_ne h (by decide) hne⟩
  · obtain ⟨hisLine, hunlabelled⟩ := hitems line hitem
    refine ⟨hisLine, ?_⟩
    rintro rfl
    exact not_unlabelled_labelled (by decide) hunlabelled

theorem forall_optionLines (hd : d.Blankless) :
    ∀ line ∈ optionLines shown d, IsLine line ∧ line ≠ labelled shown "Body:" := by
  intro line hline
  rcases List.mem_append.1 hline with hline | hline
  · refine forall_listed (by decide) (by decide) (fun item hitem => ?_) line hline
    obtain ⟨header, hheader, rfl⟩ := List.mem_map.1 hitem
    obtain ⟨hkey, hvalue⟩ := hd.headers header hheader
    exact ⟨isLine_headerItem hkey hvalue, unlabelled_headerItem header⟩
  rcases List.mem_append.1 hline with hline | hline
  · obtain ⟨login, hlogin, rfl⟩ := Option.map_eq_some_iff.1 (Option.mem_toList.1 hline)
    obtain ⟨c, hc, rfl⟩ := Option.map_eq_some_iff.1 hlogin
    exact forall_loginLine (hd.login c hc)
  · refine forall_listed (by decide) (by decide) (fun item hitem => ?_) line hline
    obtain ⟨name, hname, rfl⟩ := List.mem_map.1 hitem
    exact ⟨isLine_nameItem (hd.outputHeaders name hname), unlabelled_nameItem name⟩

/-- **The lines before the body** are lines, and none is the label of the body. -/
theorem forall_headLines (hd : d.Blankless) :
    ∀ line ∈ headLines shown d, IsLine line ∧ line ≠ labelled shown "Body:" := by
  have htitle : IsLine "Compiled Request:" := by decide
  have hunlabelled : ∀ shown, (Style.of .green).bolder.paint shown "Compiled Request:" ≠
      labelled shown "Body:" := by decide +kernel
  have hmethod : IsLine d.method.name := by cases d.method <;> decide
  have hseconds : IsLine "s" := by decide
  refine List.forall_mem_cons.2 ⟨⟨htitle.paint _ _, hunlabelled shown⟩, ?_⟩
  refine List.forall_mem_cons.2
    ⟨forall_fieldLine (by decide) (by decide) (hmethod.paint _ _), ?_⟩
  refine List.forall_mem_cons.2
    ⟨forall_fieldLine (by decide) (by decide) (hd.url.isLine.paint _ _), ?_⟩
  refine List.forall_mem_cons.2
    ⟨forall_fieldLine (by decide) (by decide) ((isLine_natural _).append hseconds), ?_⟩
  exact forall_optionLines hd

/-! ### What the lines tell -/

/-- The first of the lines about credentials and headers to extract is a label, but not the one of
the headers. -/
theorem head?_loginLine_append {login : Option String} {names : List String}
    (h : line ∈ ((login.map (loginLine shown)).toList ++
      listed shown "Extract headers:" names).head?) :
    ¬ Unlabelled shown line ∧ line ≠ labelled shown "Headers:" := by
  cases login with
  | none =>
    rw [head?_listed h]
    exact ⟨not_unlabelled_labelled (by decide), labelled_ne (by decide) (by decide) (by decide)⟩
  | some login =>
    obtain rfl : loginLine shown login = line := Option.mem_some.1 h
    exact ⟨not_unlabelled_fieldLine (by decide), fieldLine_ne (by decide) (by decide) (by decide)⟩

theorem headerItem_inj {first second : String × String} (hfirst : Blankless first.1)
    (hsecond : Blankless second.1) (h : headerItem shown first = headerItem shown second) :
    first = second := by
  -- The first blank behind the indent stands after the name and its colon.
  have hname : ∀ {name}, Blankless name → ∀ c ∈ ((Style.of .white).paint shown name ++ ":").toList,
      isBlank c = false := by
    intro name hblankless c hc
    rw [String.toList_append] at hc
    rcases List.mem_append.1 hc with hc | hc
    · exact blankless_paint hblankless c hc
    · rw [List.mem_singleton.1 hc]
      rfl
  have htoList : ∀ header : String × String, (headerItem shown header).toList =
      "    ".toList ++ (((Style.of .white).paint shown header.1 ++ ":").toList ++
        ' ' :: ((Style.of .yellow).paint shown header.2).toList) := by
    intro header
    simp [headerItem]
  have hblank : ∀ text : List Char, ∀ c ∈ (' ' :: text).head?, ¬ isBlank c = false := by
    simp [isBlank]
  have h := congrArg String.toList h
  rw [htoList, htoList] at h
  obtain ⟨hkey, hvalue⟩ := append_inj_of_forall (hname hfirst) (hname hsecond) (hblank _)
    (hblank _) (List.append_cancel_left h)
  have hkey := paint_inj ((String.append_left_inj _).1 (String.toList_inj.1 hkey))
  have hvalue := paint_inj (String.toList_inj.1 (List.cons.inj hvalue).2)
  exact Prod.ext hkey hvalue

theorem nameItem_inj {first second : String}
    (h : nameItem shown first = nameItem shown second) : first = second :=
  paint_inj ((String.append_right_inj _).1 h)

theorem loginLine_inj {first second : String}
    (h : loginLine shown first = loginLine shown second) : first = second :=
  paint_inj ((String.append_left_inj _).1 (fieldLine_inj h))

/-- The lines about credentials and headers to extract tell of both. -/
theorem loginLine_append_inj {login other : Option String} {names more : List String}
    (h : (login.map (loginLine shown)).toList ++ listed shown "Extract headers:" names =
      (other.map (loginLine shown)).toList ++ listed shown "Extract headers:" more) :
    login = other ∧
      listed shown "Extract headers:" names = listed shown "Extract headers:" more := by
  have hne : ∀ {login items} {rest : List String},
      listed shown "Extract headers:" items ≠ loginLine shown login :: rest := by
    intro login items rest heq
    have hhead : loginLine shown login ∈ (listed shown "Extract headers:" items).head? := by
      rw [heq]
      rfl
    exact fieldLine_ne (by decide) (by decide) (by decide) (head?_listed hhead)
  cases login with
  | none =>
    cases other with
    | none => exact ⟨rfl, h⟩
    | some other => exact absurd h hne
  | some login =>
    cases other with
    | none => exact absurd h.symm hne
    | some other =>
      obtain ⟨hlogin, hnames⟩ := List.cons.inj h
      exact ⟨congrArg some (loginLine_inj hlogin), hnames⟩

/-- **The lines on options tell** the headers, the login and the headers to extract. -/
theorem optionLines_inj (hd : d.Blankless) (he : e.Blankless)
    (h : optionLines shown d = optionLines shown e) :
    d.headers = e.headers ∧ d.basicAuth.map (·.login) = e.basicAuth.map (·.login) ∧
      d.outputHeaders = e.outputHeaders := by
  have hheaderItems : ∀ d : Descriptor, ∀ line ∈ d.headers.toList.map (headerItem shown),
      Unlabelled shown line := by
    intro d line hline
    obtain ⟨header, -, rfl⟩ := List.mem_map.1 hline
    exact unlabelled_headerItem header
  have hnameItems : ∀ d : Descriptor, ∀ line ∈ d.outputHeaders.map (nameItem shown),
      Unlabelled shown line := by
    intro d line hline
    obtain ⟨name, -, rfl⟩ := List.mem_map.1 hline
    exact unlabelled_nameItem name
  obtain ⟨hheaders, h⟩ := listed_append_inj (hheaderItems d) (hheaderItems e)
    (fun _ => head?_loginLine_append) (fun _ => head?_loginLine_append) h
  obtain ⟨hlogin, hnames⟩ := loginLine_append_inj h
  have hheaders : d.headers.toList = e.headers.toList := map_inj_of_forall
    (fun header hheader other hother => headerItem_inj (hd.headers header hheader).1
      (he.headers other hother).1) hheaders
  rw [← List.append_nil (listed _ _ (d.outputHeaders.map _)),
    ← List.append_nil (listed _ _ (e.outputHeaders.map _))] at hnames
  have hnames := (listed_append_inj (hnameItems d) (hnameItems e) (by simp) (by simp) hnames).1
  refine ⟨?_, hlogin, (List.map_injective_iff.2 fun _ _ => nameItem_inj) hnames⟩
  exact KeyMap.eq_of_find?_eq fun k => congrArg (List.lookup k) hheaders

/-- **The lines before the body tell** everything but the password and the body. -/
theorem headLines_inj (h : headLines shown d = headLines shown e) :
    d.method = e.method ∧ d.url = e.url ∧ d.timeout = e.timeout ∧
      optionLines shown d = optionLines shown e := by
  have hname : ∀ {first second : Method}, first.name = second.name → first = second := by
    intro first second
    cases first <;> cases second <;> decide
  obtain ⟨hmethod, h⟩ := List.cons.inj (List.cons.inj h).2
  obtain ⟨hurl, h⟩ := List.cons.inj h
  obtain ⟨htimeout, hoptions⟩ := List.cons.inj h
  have htimeout := (String.append_left_inj _).1 (fieldLine_inj htimeout)
  exact ⟨hname (paint_inj (fieldLine_inj hmethod)), paint_inj (fieldLine_inj hurl),
    natural_inj htimeout, hoptions⟩

/-! ### What is shown -/

/-- **Descriptors that agree in all that a table shows**: the body as compact JSON, and of the
credentials the login only. -/
structure Descriptor.ShownAlike (d e : Descriptor) : Prop where
  method : d.method = e.method
  url : d.url = e.url
  timeout : d.timeout = e.timeout
  headers : d.headers = e.headers
  login : d.basicAuth.map (·.login) = e.basicAuth.map (·.login)
  outputHeaders : d.outputHeaders = e.outputHeaders
  body : d.body.compact = e.body.compact

theorem descriptorLines_congr (h : d.ShownAlike e) :
    descriptorLines shown d = descriptorLines shown e := by
  rw [descriptorLines_eq, descriptorLines_eq, headLines, headLines, optionLines, optionLines,
    h.method, h.url, h.timeout, h.headers, h.login, h.outputHeaders, h.body]

/-- **The text of a table tells exactly what the table shows**, if no text of the descriptor has
blanks. -/
theorem linesText_descriptorLines_eq_iff (hd : d.Blankless) (he : e.Blankless) :
    linesText (descriptorLines shown d) = linesText (descriptorLines shown e) ↔
      d.ShownAlike e := by
  refine ⟨fun h => ?_, fun h => by rw [descriptorLines_congr h]⟩
  rw [descriptorLines_eq, descriptorLines_eq] at h
  obtain ⟨hhead, hbody⟩ := linesText_upTo_inj (isLine_labelled (by decide)) (forall_headLines hd)
    (forall_headLines he) h
  obtain ⟨hmethod, hurl, htimeout, hoptions⟩ := headLines_inj hhead
  obtain ⟨hheaders, hlogin, houtput⟩ := optionLines_inj hd he hoptions
  rw [linesText_singleton, linesText_singleton] at hbody
  have hbody := (String.append_right_inj _).1 ((String.append_left_inj _).1 hbody)
  exact ⟨hmethod, hurl, htimeout, hheaders, hlogin, houtput, paint_inj hbody⟩

/-! ### Dry runs -/

/-- **A command line that asks for a table** of the request that its query compiles to, without
sending it and without its query: the arguments are read as a query to run, the payload is absent or
JSON, and the query compiles. -/
def Environment.AsksForTable (env : Environment) (line : List String) (d : Descriptor) : Prop :=
  ∃ input choices arguments,
    Invocation.ofArguments env.configVariable line = some (.run input choices) ∧
      choices.dryRun = true ∧ choices.verbose = false ∧ input.format = .table ∧
      input.arguments = .ok arguments ∧ compile input.mode input.query arguments = .ok d

variable {env other : Environment} {line more : List String}

theorem Outcome.output_inj {first second : String} :
    ({ output := utf8Bytes first } : Outcome) = { output := utf8Bytes second } ↔ first = second :=
  ⟨fun h => utf8Bytes_inj.1 (Outcome.mk.inj h).1, fun h => by rw [h]⟩

/-- A command line that asks for a table prints it. -/
theorem runCommandLine_of_asksForTable (h : env.AsksForTable line d) :
    runCommandLine env line =
      { output := utf8Bytes (linesText (descriptorLines env.colours d)) } := by
  obtain ⟨input, choices, arguments, hline, hdry, hquiet, hformat, harguments, hcompile⟩ := h
  rw [runCommandLine, hline]
  refine (runOutcome_eq_dryRunOutcome harguments hdry hquiet).trans ?_
  rw [dryRunOutcome, hcompile]
  simp only [hformat]
  rfl

theorem Environment.AsksForTable.blankless (h : env.AsksForTable line d) : d.Blankless := by
  obtain ⟨input, choices, arguments, -, -, -, -, -, hcompile⟩ := h
  exact blankless_of_compile hcompile

/-- **A dry run prints a request without its password.** It succeeds, sends nothing, and prints the
table of the descriptor and nothing else. Two runs whose descriptors differ in the password only
have the same outcome, whatever the passwords are and however the queries and arguments are written;
and two runs have the same outcome exactly if their descriptors agree in all that a table shows, so
what is printed of the other parts is what was compiled. -/
theorem table_hides_password (hcolours : env.colours = other.colours)
    (hline : env.AsksForTable line d) (hmore : other.AsksForTable more e) :
    runCommandLine env line =
        { output := utf8Bytes (linesText (descriptorLines env.colours d)) } ∧
      (∀ login password secret, d.basicAuth = some ⟨login, password⟩ →
        e = { d with basicAuth := some ⟨login, secret⟩ } →
        runCommandLine env line = runCommandLine other more) ∧
      (runCommandLine env line = runCommandLine other more ↔ d.ShownAlike e) := by
  have houtcome : runCommandLine env line = runCommandLine other more ↔ d.ShownAlike e := by
    rw [runCommandLine_of_asksForTable hline, runCommandLine_of_asksForTable hmore, ← hcolours,
      Outcome.output_inj, linesText_descriptorLines_eq_iff hline.blankless hmore.blankless]
  refine ⟨runCommandLine_of_asksForTable hline, fun login password secret hauth he => ?_, houtcome⟩
  subst he
  exact houtcome.2 ⟨rfl, rfl, rfl, rfl, by rw [hauth]; rfl, rfl, rfl⟩

/-- A request with a password. -/
def asksEve (password : String) : Descriptor where
  url := "http://h"
  method := .get
  headers := .empty
  json := .empty
  payload := none
  basicAuth := some ⟨"eve", password⟩
  timeout := 30
  outputHeaders := []

/-- Two passwords, one of them in the query and the other one given as an argument. -/
theorem table_hides_password_asksEve :
    noFiles.AsksForTable ["--dry-run", "from http://h with basicauth eve, one"] (asksEve "one") ∧
      noFiles.AsksForTable ["-da", "two", "from 'http://h' with basicauth eve, %s"]
        (asksEve "two") ∧
      runCommandLine noFiles ["--dry-run", "from http://h with basicauth eve, one"] =
        runCommandLine noFiles ["-da", "two", "from 'http://h' with basicauth eve, %s"] := by
  have hcompile : ∀ (query bound : String) (arguments : List Argument) (fields : Fields)
      (d : Descriptor), substitute query (arguments.filterMap Argument.text?) = .ok bound →
      arguments.findSome? Argument.value? = none → Fields.ofQuery .body bound = .ok fields →
      fields.assemble none = .ok d → compile .body query arguments = .ok d := by
    intro query bound arguments fields d hbound hoffered hread hassemble
    rw [compile_eq_ofTokens, hbound, hoffered]
    show Fields.ofQuery .body bound >>= (Fields.assemble · none) = .ok d
    rw [hread]
    exact hassemble
  have hone : noFiles.AsksForTable ["--dry-run", "from http://h with basicauth eve, one"]
      (asksEve "one") :=
    ⟨⟨"from http://h with basicauth eve, one", [], none, false, .table⟩,
      ⟨true, .response, none, false⟩, [], by decide +kernel, rfl, rfl, rfl, rfl,
      hcompile _ _ _ { url := "http://h", basicLogin := "eve", basicPassword := "one" } _
        (substitute_plain (by decide)) rfl (by decide +kernel) rfl⟩
  have hbound : substitute "from 'http://h' with basicauth eve, %s" ["two"] =
      .ok "from 'http://h' with basicauth eve, two" := eq_ok_of_toOption (by decide +kernel)
  have htwo : noFiles.AsksForTable ["-da", "two", "from 'http://h' with basicauth eve, %s"]
      (asksEve "two") :=
    ⟨⟨"from 'http://h' with basicauth eve, %s", ["two"], none, false, .table⟩,
      ⟨true, .response, none, false⟩, [.text "two"], by decide +kernel, rfl, rfl, rfl, rfl,
      hcompile _ _ _ { url := "http://h", basicLogin := "eve", basicPassword := "two" } _
        hbound rfl (by decide +kernel) rfl⟩
  obtain ⟨-, hhidden, -⟩ := table_hides_password rfl hone htwo
  exact ⟨hone, htwo, hhidden "eve" "one" "two" rfl rfl⟩

end HttpQuery
