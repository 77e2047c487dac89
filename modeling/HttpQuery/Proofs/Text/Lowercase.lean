import HttpQuery.Text.Blank
import HttpQuery.Text.Lowercase

/-! # Lower-casing the parts of a text

Only the capital sigma looks beyond its own character, and it looks no further than the nearest
character that is not case-ignorable. Blanks are neither case-ignorable nor cased, so a text is
lower-cased part by part between its blanks. Nor does lower-casing make blanks or marks: what it
writes in the place of another character is a letter.

* `lowercaseFrom_append`: the parts of a text, if the second says nothing to the first.
* `lowercaseFrom_append_blank`: the parts of a text around a blank.
* `mem_or_of_mem_lowercaseFrom`: what stands in a lower-cased text.
* `IsMark.lowercase_cons`, `IsMark.lowercase_concat`: marks at the ends of a text.
* `lowercaseFrom_of_ascii`: the lower-case form of an ASCII text.
* `lowercase_map_toLower`: the letter case of ASCII letters does not count.
* `lowercase_lowercase`: a lower-cased text is its own lower-case form.
* `toLower_of_mem_lowercase`: a lower-cased text has no ASCII capital letters. -/

namespace HttpQuery.Text

/-! ### Blanks have no case -/

/-- The codes of the blanks. -/
def blankCodes : List Nat :=
  [0x9, 0xA, 0xB, 0xC, 0xD, 0x20, 0x85, 0xA0, 0x1680, 0x2000, 0x2001, 0x2002, 0x2003, 0x2004,
    0x2005, 0x2006, 0x2007, 0x2008, 0x2009, 0x200A, 0x2028, 0x2029, 0x202F, 0x205F, 0x3000]

theorem isBlank_iff {c : Char} : isBlank c = true ↔ c.toNat ∈ blankCodes := by
  simp only [isBlank, blankCodes, Bool.or_eq_true, Bool.and_eq_true, decide_eq_true_eq, beq_iff_eq,
    List.mem_cons, List.not_mem_nil, or_false]
  omega

/-- No blank takes part in the letter case, and none has another lower-case form. -/
theorem blankCodes_caseless :
    ∀ n ∈ blankCodes, inRanges caseIgnorableRanges n = false ∧ inRanges casedRanges n = false ∧
      n ≠ 0x130 ∧ CaseRun.lookup lowercaseRuns n = none := by
  decide +kernel

theorem isCaseIgnorable_of_isBlank {c : Char} (h : isBlank c = true) :
    isCaseIgnorable c = false :=
  (blankCodes_caseless c.toNat (isBlank_iff.1 h)).1

theorem isCased_of_isBlank {c : Char} (h : isBlank c = true) : isCased c = false :=
  (blankCodes_caseless c.toNat (isBlank_iff.1 h)).2.1

/-! ### The forms of one character -/

/-- A character that lower-casing can write in the place of another one: it is no blank, and it
comes after the digits, the capital letters and the marks between them. -/
def IsForm (c : Char) : Prop := 0x61 ≤ c.toNat ∧ isBlank c = false

/-- The lower-case forms of a run are forms: they are codes of characters, above the marks, and
there is no blank among them. -/
def CaseRun.Sound (run : CaseRun) : Prop :=
  0x61 ≤ run.target ∧
    (run.target + (run.last - run.first) < 0xD800 ∨
      0xDFFF < run.target ∧ run.target + (run.last - run.first) < 0x110000) ∧
    ∀ n ∈ blankCodes, n < run.target ∨ run.target + (run.last - run.first) < n

instance (run : CaseRun) : Decidable run.Sound := inferInstanceAs (Decidable (_ ∧ _ ∧ _))

theorem lowercaseRuns_sound : ∀ run ∈ lowercaseRuns, run.Sound := by
  decide +kernel

/-- What is looked up lies among the forms of a run, at a distance that its steps make up. -/
theorem CaseRun.of_lookup {runs : List CaseRun} {n m : Nat} (h : lookup runs n = some m) :
    ∃ run ∈ runs, ∃ k ≤ run.last - run.first, k % run.step = 0 ∧ m = run.target + k := by
  induction runs with
  | nil => cases h
  | cons run runs ih =>
    unfold lookup at h
    split at h
    · cases h
    · split at h
      · next hin =>
        obtain ⟨hlast, hstep⟩ : n ≤ run.last ∧ (n - run.first) % run.step = 0 := by simpa using hin
        obtain rfl : run.target + (n - run.first) = m := by simpa using h
        exact ⟨run, List.mem_cons_self, n - run.first, by omega, hstep, rfl⟩
      · obtain ⟨r, hr, hform⟩ := ih h
        exact ⟨r, List.mem_cons_of_mem _ hr, hform⟩

/-- What is looked up in the runs of the standard is the code of a character. -/
theorem toNat_ofNat_of_lookup {n m : Nat} (h : CaseRun.lookup lowercaseRuns n = some m) :
    (Char.ofNat m).toNat = m := by
  obtain ⟨run, hrun, k, hk, -, rfl⟩ := CaseRun.of_lookup h
  obtain ⟨-, hvalid, -⟩ := lowercaseRuns_sound run hrun
  -- A number that is no code would stand for another character.
  have hchar : (run.target + k).isValidChar := by
    unfold Nat.isValidChar
    omega
  rw [Char.ofNat, dif_pos hchar]
  rfl

/-- It is the code of a form. -/
theorem isForm_of_lookup {n m : Nat} (h : CaseRun.lookup lowercaseRuns n = some m) :
    IsForm (Char.ofNat m) := by
  have hm := toNat_ofNat_of_lookup h
  obtain ⟨run, hrun, k, hk, -, rfl⟩ := CaseRun.of_lookup h
  obtain ⟨htarget, -, hblank⟩ := lowercaseRuns_sound run hrun
  refine ⟨by omega, ?_⟩
  cases hb : isBlank (Char.ofNat (run.target + k)) with
  | false => rfl
  | true =>
    have := hblank _ (isBlank_iff.1 hb)
    omega

/-- **The lower-case form of a character** holds the character itself and forms. -/
theorem eq_or_of_mem_lowerChar {c d : Char} (h : d ∈ lowerChar c) : d = c ∨ IsForm d := by
  unfold lowerChar at h
  split at h
  · have hd : d = 'i' ∨ d = '\u0307' := by simpa using h
    rcases hd with rfl | rfl <;> exact .inr ⟨by decide, by decide⟩
  · split at h
    · next m hm =>
      obtain rfl : d = Char.ofNat m := by simpa using h
      exact .inr (isForm_of_lookup hm)
    · exact .inl (by simpa using h)

theorem lowerChar_ne_nil (c : Char) : lowerChar c ≠ [] := by
  unfold lowerChar
  split
  · simp
  · split <;> simp

/-- A blank is its own lower-case form. -/
theorem lowerChar_of_isBlank {c : Char} (h : isBlank c = true) : lowerChar c = [c] := by
  obtain ⟨-, -, hne, hnone⟩ := blankCodes_caseless c.toNat (isBlank_iff.1 h)
  have hc : c ≠ '\u0130' := by
    rintro rfl
    exact hne rfl
  rw [lowerChar, if_neg hc, hnone]

/-- What holds of the first 128 codes holds of an ASCII character. -/
theorem of_ascii (P : Char → Prop) (hall : ∀ n : Fin 128, P (Char.ofNat n)) {c : Char}
    (h : c.toNat < 128) : P c := by
  have hc := hall ⟨c.toNat, h⟩
  rwa [Char.ofNat_toNat] at hc

/-- The lower-case form of an ASCII character. -/
theorem lowerChar_of_ascii {c : Char} (h : c.toNat < 128) : lowerChar c = [c.toLower] :=
  of_ascii (fun c => lowerChar c = [c.toLower]) (by decide +kernel) h

/-! ### The parts of a text -/

section

variable {afterCased : Bool} {c d : Char} {cs text first second : List Char}

/-- The lower-case form of a character before the text `cs`. -/
def formBefore (afterCased : Bool) (c : Char) (cs : List Char) : List Char :=
  if c = capitalSigma then [if afterCased && !casedAhead cs then '\u03C2' else '\u03C3']
  else lowerChar c

theorem lowercaseFrom_cons :
    lowercaseFrom afterCased (c :: cs) =
      formBefore afterCased c cs ++ lowercaseFrom (casedBehind afterCased c) cs := rfl

theorem formBefore_of_ne (h : c ≠ capitalSigma) : formBefore afterCased c cs = lowerChar c :=
  if_neg h

theorem formBefore_ne_nil : formBefore afterCased c cs ≠ [] := by
  unfold formBefore
  split
  · simp
  · exact lowerChar_ne_nil c

/-- What is written in the place of a character: its lower-case form, or one of the two of a capital
sigma. -/
theorem mem_lowerChar_or_of_mem_formBefore (h : d ∈ formBefore afterCased c cs) :
    d ∈ lowerChar c ∨ d = '\u03C2' ∨ d = '\u03C3' := by
  unfold formBefore at h
  split at h
  · rw [List.mem_singleton] at h
    split at h
    · exact .inr (.inl h)
    · exact .inr (.inr h)
  · exact .inl h

theorem eq_or_of_mem_formBefore (h : d ∈ formBefore afterCased c cs) : d = c ∨ IsForm d := by
  rcases mem_lowerChar_or_of_mem_formBefore h with h | rfl | rfl
  · exact eq_or_of_mem_lowerChar h
  · exact .inr ⟨by decide, by decide⟩
  · exact .inr ⟨by decide, by decide⟩

theorem casedAhead_append (h : casedAhead second = false) :
    casedAhead (first ++ second) = casedAhead first := by
  induction first with
  | nil => exact h
  | cons c first ih =>
    rw [List.cons_append, casedAhead, casedAhead, ih]

/-- **A text is lower-cased part by part** where the second part says nothing to the first. -/
theorem lowercaseFrom_append (h : casedAhead second = false) :
    lowercaseFrom afterCased (first ++ second) =
      lowercaseFrom afterCased first ++
        lowercaseFrom (first.foldl casedBehind afterCased) second := by
  induction first generalizing afterCased with
  | nil => rfl
  | cons c first ih =>
    -- Only a sigma looks ahead, and what it finds is in `first` or nowhere.
    have hform : formBefore afterCased c (first ++ second) = formBefore afterCased c first := by
      rw [formBefore, formBefore, casedAhead_append h]
    rw [List.cons_append, lowercaseFrom_cons, lowercaseFrom_cons, hform, ih, List.foldl_cons,
      List.append_assoc]

/-- **A text is lower-cased part by part around a blank.** -/
theorem lowercaseFrom_append_blank (h : isBlank c = true) :
    lowercaseFrom afterCased (first ++ c :: second) =
      lowercaseFrom afterCased first ++ c :: lowercase second := by
  have hahead : casedAhead (c :: second) = false := by
    rw [casedAhead, if_neg (by rw [isCaseIgnorable_of_isBlank h]; decide), isCased_of_isBlank h]
  have hsigma : c ≠ capitalSigma := by
    rintro rfl
    exact absurd h (by decide)
  have hbehind : ∀ before, casedBehind before c = false := by
    intro before
    rw [casedBehind, if_neg (by rw [isCaseIgnorable_of_isBlank h]; decide), isCased_of_isBlank h]
  rw [lowercaseFrom_append hahead, lowercaseFrom_cons, formBefore_of_ne hsigma,
    lowerChar_of_isBlank h, hbehind]
  rfl

/-! ### What stands in a lower-cased text -/

theorem lowercaseFrom_eq_nil_iff : lowercaseFrom afterCased text = [] ↔ text = [] := by
  cases text with
  | nil => exact ⟨fun _ => rfl, fun _ => rfl⟩
  | cons c cs => simp [lowercaseFrom_cons, formBefore_ne_nil]

/-- **A lower-cased text holds characters of the text and forms.** -/
theorem mem_or_of_mem_lowercaseFrom (h : d ∈ lowercaseFrom afterCased text) :
    d ∈ text ∨ IsForm d := by
  induction text generalizing afterCased with
  | nil => cases h
  | cons c cs ih =>
    rcases List.mem_append.1 h with h | h
    · rcases eq_or_of_mem_formBefore h with rfl | hform
      · exact .inl List.mem_cons_self
      · exact .inr hform
    · exact (ih h).imp_left (List.mem_cons_of_mem c)

/-- The first character of a lower-cased text is that of the text or a form. -/
theorem head?_or_of_head?_lowercaseFrom (h : (lowercaseFrom afterCased text).head? = some d) :
    text.head? = some d ∨ IsForm d := by
  cases text with
  | nil => cases h
  | cons c cs =>
    rw [lowercaseFrom_cons, List.head?_append,
      Option.or_of_isSome (List.isSome_head?.2 formBefore_ne_nil)] at h
    rcases eq_or_of_mem_formBefore (List.mem_of_head? h) with rfl | hform
    · exact .inl rfl
    · exact .inr hform

/-- The last character of a lower-cased text is that of the text or a form. -/
theorem getLast?_or_of_getLast?_lowercaseFrom
    (h : (lowercaseFrom afterCased text).getLast? = some d) :
    text.getLast? = some d ∨ IsForm d := by
  induction text generalizing afterCased with
  | nil => cases h
  | cons c cs ih =>
    rw [lowercaseFrom_cons] at h
    cases cs with
    | nil =>
      rw [lowercaseFrom, List.append_nil] at h
      rcases eq_or_of_mem_formBefore (List.mem_of_getLast? h) with rfl | hform
      · exact .inl rfl
      · exact .inr hform
    | cons c' cs =>
      have hne : lowercaseFrom (casedBehind afterCased c) (c' :: cs) ≠ [] := by
        rw [Ne, lowercaseFrom_eq_nil_iff]
        exact List.cons_ne_nil _ _
      rw [List.getLast?_append, Option.or_of_isSome (List.getLast?_isSome.2 hne)] at h
      rw [List.getLast?_cons_cons]
      exact ih h

/-! ### Marks -/

/-- **A mark**: a character before all forms that has no case. -/
structure IsMark (mark : Char) : Prop where
  lt : mark.toNat < 0x61
  lowerChar_eq : lowerChar mark = [mark]
  not_cased : isCased mark = false

instance (mark : Char) : Decidable (IsMark mark) :=
  decidable_of_iff (mark.toNat < 0x61 ∧ lowerChar mark = [mark] ∧ isCased mark = false)
    ⟨fun h => ⟨h.1, h.2.1, h.2.2⟩, fun h => ⟨h.lt, h.lowerChar_eq, h.not_cased⟩⟩

namespace IsMark

variable {mark : Char}

theorem not_form (h : IsMark mark) : ¬ IsForm mark :=
  fun hform => absurd hform.1 (Nat.not_le.2 h.lt)

theorem formBefore_eq (h : IsMark mark) : formBefore afterCased mark cs = [mark] := by
  have hsigma : mark ≠ capitalSigma := by
    rintro rfl
    exact absurd h.lt (by decide)
  rw [formBefore_of_ne hsigma, h.lowerChar_eq]

/-- A mark in front hides no letter from the text after it. -/
theorem lowercase_cons (h : IsMark mark) (text : List Char) :
    lowercase (mark :: text) = mark :: lowercase text := by
  have hbehind : casedBehind false mark = false := by
    unfold casedBehind
    split
    · rfl
    · exact h.not_cased
  rw [lowercase, lowercaseFrom_cons, h.formBefore_eq, hbehind]
  rfl

/-- A mark at the end hides no letter from the text before it. -/
theorem lowercase_concat (h : IsMark mark) (text : List Char) :
    lowercase (text ++ [mark]) = lowercase text ++ [mark] := by
  have hahead : casedAhead [mark] = false := by
    unfold casedAhead
    split
    · rfl
    · exact h.not_cased
  rw [lowercase, lowercaseFrom_append hahead, lowercaseFrom_cons, h.formBefore_eq]
  rfl

/-- Lower-casing neither puts a mark in front of a text nor takes one away. -/
theorem head?_lowercase_iff (h : IsMark mark) :
    (lowercase text).head? = some mark ↔ text.head? = some mark := by
  constructor
  · intro hhead
    exact (head?_or_of_head?_lowercaseFrom hhead).resolve_right h.not_form
  · intro hhead
    obtain ⟨rest, rfl⟩ := List.head?_eq_some_iff.1 hhead
    rw [h.lowercase_cons]
    rfl

/-- Lower-casing neither puts a mark at the end of a text nor takes one away. -/
theorem getLast?_lowercase_iff (h : IsMark mark) :
    (lowercase text).getLast? = some mark ↔ text.getLast? = some mark := by
  constructor
  · intro hlast
    exact (getLast?_or_of_getLast?_lowercaseFrom hlast).resolve_right h.not_form
  · intro hlast
    obtain ⟨front, rfl⟩ := List.getLast?_eq_some_iff.1 hlast
    rw [h.lowercase_concat, List.getLast?_concat]

end IsMark

/-! ### ASCII texts -/

/-- **An ASCII text is lower-cased letter by letter.** -/
theorem lowercaseFrom_of_ascii (h : ∀ c ∈ text, c.toNat < 128) :
    lowercaseFrom afterCased text = text.map Char.toLower := by
  induction text generalizing afterCased with
  | nil => rfl
  | cons c cs ih =>
    have hc : c.toNat < 128 := h c List.mem_cons_self
    have hsigma : c ≠ capitalSigma := by
      rintro rfl
      exact absurd hc (by decide)
    rw [lowercaseFrom_cons, formBefore_of_ne hsigma, lowerChar_of_ascii hc,
      ih fun d hd => h d (List.mem_cons_of_mem c hd)]
    rfl

end

/-! ### The letter case of ASCII letters -/

section

variable {afterCased : Bool} {c : Char} {cs text : List Char}

/-- The ASCII capital letters end at `Z`. -/
theorem toLower_of_lt (h : 'Z'.toNat < c.toNat) : c.toLower = c := by
  unfold Char.toLower
  split
  · next hcapital =>
    have hle : c.toNat ≤ 'Z'.toNat := UInt32.le_iff_toNat_le.1 hcapital.2
    exact absurd h (Nat.not_lt.2 hle)
  · rfl

theorem toLower_of_not_ascii (h : ¬ c.toNat < 128) : c.toLower = c :=
  toLower_of_lt (Nat.lt_of_lt_of_le (by decide) (Nat.not_lt.1 h))

/-- What does not see the letter case of the first 128 characters does not see that of any. -/
theorem apply_toLower {α : Type} (f : Char → α)
    (hall : ∀ n : Fin 128, f (Char.ofNat n).toLower = f (Char.ofNat n)) (c : Char) :
    f c.toLower = f c := by
  by_cases h : c.toNat < 128
  · exact of_ascii (fun c => f c.toLower = f c) hall h
  · rw [toLower_of_not_ascii h]

/-- Nothing that lower-casing asks of a character sees its ASCII letter case. -/
theorem letterCase_toLower (c : Char) :
    (isCased c.toLower, isCaseIgnorable c.toLower, lowerChar c.toLower) =
      (isCased c, isCaseIgnorable c, lowerChar c) :=
  apply_toLower (fun c => (isCased c, isCaseIgnorable c, lowerChar c)) (by decide +kernel) c

theorem isCased_toLower (c : Char) : isCased c.toLower = isCased c :=
  congrArg (·.1) (letterCase_toLower c)

theorem isCaseIgnorable_toLower (c : Char) : isCaseIgnorable c.toLower = isCaseIgnorable c :=
  congrArg (·.2.1) (letterCase_toLower c)

theorem lowerChar_toLower (c : Char) : lowerChar c.toLower = lowerChar c :=
  congrArg (·.2.2) (letterCase_toLower c)

/-- Lower-casing an ASCII letter makes no sign that is no letter. -/
theorem toLower_eq_iff {sign : Char}
    (hall : ∀ n : Fin 128, decide ((Char.ofNat n).toLower = sign) = decide (Char.ofNat n = sign)) :
    c.toLower = sign ↔ c = sign :=
  decide_eq_decide.1 (apply_toLower (fun c => decide (c = sign)) hall c)

theorem casedAhead_map_toLower (text : List Char) :
    casedAhead (text.map Char.toLower) = casedAhead text := by
  induction text with
  | nil => rfl
  | cons c cs ih =>
    rw [List.map_cons, casedAhead, casedAhead, isCaseIgnorable_toLower, isCased_toLower, ih]

theorem formBefore_map_toLower :
    formBefore afterCased c.toLower (cs.map Char.toLower) = formBefore afterCased c cs := by
  have hsigma : c.toLower = capitalSigma ↔ c = capitalSigma := toLower_eq_iff (by decide)
  rw [formBefore, formBefore, casedAhead_map_toLower, lowerChar_toLower]
  simp only [hsigma]

theorem lowercaseFrom_map_toLower (text : List Char) :
    lowercaseFrom afterCased (text.map Char.toLower) = lowercaseFrom afterCased text := by
  induction text generalizing afterCased with
  | nil => rfl
  | cons c cs ih =>
    rw [List.map_cons, lowercaseFrom_cons, lowercaseFrom_cons, formBefore_map_toLower, casedBehind,
      casedBehind, isCaseIgnorable_toLower, isCased_toLower, ih]

/-- **The letter case of ASCII letters does not count**, not even beside a capital sigma. -/
theorem lowercase_map_toLower (text : List Char) :
    lowercase (text.map Char.toLower) = lowercase text :=
  lowercaseFrom_map_toLower text

/-! ### Lower-casing twice -/

/-- Whether no run holds a number from `low` to `high` at a distance of `low` that is made up of
`step`s. The two rows of numbers are told apart by their ends or, where they have the same step, by
their remainders. -/
def CaseRun.avoids (low high step : Nat) : List CaseRun → Bool
  | [] => true
  | run :: runs =>
    Nat.blt high run.first ||
      ((Nat.blt run.last low ||
          ((step == run.step || low == high) && low % run.step != run.first % run.step)) &&
        avoids low high step runs)

theorem mod_eq_of_sub_mod_eq_zero {n k step : Nat} (hle : k ≤ n) (h : (n - k) % step = 0) :
    n % step = k % step := by
  calc n % step
    _ = (k + (n - k)) % step := by rw [Nat.add_sub_cancel' hle]
    _ = k % step := by rw [Nat.add_mod, h, Nat.add_zero, Nat.mod_mod]

theorem CaseRun.lookup_eq_none {low high step n : Nat} {runs : List CaseRun}
    (h : avoids low high step runs = true) (hlow : low ≤ n) (hhigh : n ≤ high)
    (hstep : (n - low) % step = 0) : lookup runs n = none := by
  induction runs with
  | nil => rfl
  | cons run runs ih =>
    simp only [avoids, Bool.or_eq_true, Bool.and_eq_true, Nat.blt_eq, beq_iff_eq, bne_iff_ne] at h
    rw [lookup]
    split
    · rfl
    · next hfirst =>
      obtain ⟨hrun, hruns⟩ := h.resolve_left (by omega)
      rw [if_neg, ih hruns]
      intro hin
      obtain ⟨hlast, hsource⟩ : n ≤ run.last ∧ (n - run.first) % run.step = 0 := by simpa using hin
      obtain ⟨hsame, hremainder⟩ := hrun.resolve_left (by omega)
      -- Counted in the steps of this run, `n` agrees with its first number and with `low`.
      refine hremainder ?_
      rw [← mod_eq_of_sub_mod_eq_zero (Nat.not_lt.1 hfirst) hsource]
      rcases hsame with hsame | hsame
      · rw [← hsame]
        exact (mod_eq_of_sub_mod_eq_zero hlow hstep).symm
      · rw [show n = low by omega]

/-- Whether no lower-case form of a run has a lower-case form of its own. -/
def CaseRun.isSettled (run : CaseRun) : Bool :=
  (Nat.blt (run.target + (run.last - run.first)) 0x130 || Nat.blt 0x130 run.target) &&
    avoids run.target (run.target + (run.last - run.first)) run.step lowercaseRuns

theorem lowercaseRuns_settled : lowercaseRuns.all CaseRun.isSettled = true := by
  decide +kernel

/-- What is looked up in the runs of the standard is not found there again. -/
theorem lookup_eq_none_of_lookup {n m : Nat} (h : CaseRun.lookup lowercaseRuns n = some m) :
    m ≠ 0x130 ∧ CaseRun.lookup lowercaseRuns m = none := by
  obtain ⟨run, hrun, k, hk, hstep, rfl⟩ := CaseRun.of_lookup h
  have hsettled := List.all_eq_true.1 lowercaseRuns_settled run hrun
  simp only [CaseRun.isSettled, Bool.and_eq_true, Bool.or_eq_true, Nat.blt_eq] at hsettled
  obtain ⟨hdotted, havoids⟩ := hsettled
  have hdistance : run.target + k - run.target = k := Nat.add_sub_cancel_left _ _
  exact ⟨by omega, CaseRun.lookup_eq_none havoids (by omega) (by omega) (by rwa [hdistance])⟩

/-- The forms that have a rule of their own are their own lower-case forms, unlike the capital
sigma. -/
theorem lowerChar_of_rule :
    (lowerChar 'i' = ['i'] ∧ lowerChar '\u0307' = ['\u0307']) ∧
      (lowerChar '\u03C2' = ['\u03C2'] ∧ lowerChar '\u03C3' = ['\u03C3']) ∧
        lowerChar capitalSigma ≠ [capitalSigma] := by
  decide +kernel

/-- **A lower-case form is its own lower-case form.** -/
theorem lowerChar_of_mem_lowerChar {d : Char} (h : d ∈ lowerChar c) : lowerChar d = [d] := by
  unfold lowerChar at h
  split at h
  · have hd : d = 'i' ∨ d = '\u0307' := by simpa using h
    rcases hd with rfl | rfl
    · exact lowerChar_of_rule.1.1
    · exact lowerChar_of_rule.1.2
  · next hne =>
    split at h
    · next m hm =>
      obtain rfl : d = Char.ofNat m := by simpa using h
      have hcode := toNat_ofNat_of_lookup hm
      obtain ⟨hdotted, hnone⟩ := lookup_eq_none_of_lookup hm
      have hchar : Char.ofNat m ≠ '\u0130' := by
        intro heq
        rw [heq] at hcode
        exact hdotted hcode.symm
      rw [lowerChar, if_neg hchar, hcode, hnone]
    · next hnone =>
      obtain rfl : d = c := by simpa using h
      rw [lowerChar, if_neg hne, hnone]

theorem lowerChar_of_mem_lowercaseFrom {d : Char} (h : d ∈ lowercaseFrom afterCased text) :
    lowerChar d = [d] := by
  induction text generalizing afterCased with
  | nil => cases h
  | cons c cs ih =>
    rcases List.mem_append.1 h with h | h
    · rcases mem_lowerChar_or_of_mem_formBefore h with h | rfl | rfl
      · exact lowerChar_of_mem_lowerChar h
      · exact lowerChar_of_rule.2.1.1
      · exact lowerChar_of_rule.2.1.2
    · exact ih h

/-- A text of characters that are their own lower-case forms has no capital sigma, so it stays as
it is. -/
theorem lowercaseFrom_eq_self (h : ∀ c ∈ text, lowerChar c = [c]) :
    lowercaseFrom afterCased text = text := by
  induction text generalizing afterCased with
  | nil => rfl
  | cons c cs ih =>
    have hc : lowerChar c = [c] := h c List.mem_cons_self
    have hsigma : c ≠ capitalSigma := by
      rintro rfl
      exact lowerChar_of_rule.2.2 hc
    rw [lowercaseFrom_cons, formBefore_of_ne hsigma, hc,
      ih fun d hd => h d (List.mem_cons_of_mem c hd)]
    rfl

/-- **A lower-cased text is its own lower-case form.** -/
theorem lowercase_lowercase (text : List Char) : lowercase (lowercase text) = lowercase text :=
  lowercaseFrom_eq_self fun _ hd => lowerChar_of_mem_lowercaseFrom hd

/-- **A lower-cased text has no ASCII capital letters.** -/
theorem toLower_of_mem_lowercase {d : Char} (h : d ∈ lowercase text) : d.toLower = d := by
  by_cases hascii : d.toNat < 128
  · have hd := lowerChar_of_mem_lowercaseFrom h
    rw [lowerChar_of_ascii hascii] at hd
    exact List.singleton_inj.1 hd
  · exact toLower_of_not_ascii hascii

end

end HttpQuery.Text
