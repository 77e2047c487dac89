import HttpQuery.CommandLine.Style
import HttpQuery.Proofs.Query.Literals

/-! # Texts in a style

A style only adds codes to a text, and the text can be told from what is printed, whatever codes it
holds itself: where an end of all styles stands in the text, the codes of the style stand behind it
again, and nowhere else.

* `reopened_inj`, `paint_inj`: texts that are printed alike in a style are the same.
* `mem_of_mem_paint`: no blank is added to a text. -/

namespace HttpQuery.Style

open Text

variable {shown : Bool} {s : Style} {start text other rest : List Char} {c : Char}

/-! ### Ends of all styles -/

theorem head?_reopened (start text : List Char) : (reopened start text).head? = text.head? := by
  fun_cases reopened <;> rfl

/-- A character that starts no code stays where it is. -/
theorem exists_of_reopened_eq_cons (hc : c ≠ '\x1b') (h : reopened start text = c :: rest) :
    ∃ cs, text = c :: cs ∧ reopened start cs = rest := by
  cases text with
  | nil => cases h
  | cons d cs =>
    have hhead := head?_reopened start (d :: cs)
    rw [h] at hhead
    obtain rfl : c = d := Option.some.inj hhead
    rw [reopened] at h
    · exact ⟨cs, rfl, (List.cons.inj h).2⟩
    · rintro _ rfl
      exact absurd rfl hc

/-- **The ends of all styles that are printed are those of the text.** -/
theorem exists_of_reopened_eq_closing
    (h : reopened start text = '\x1b' :: '[' :: '0' :: 'm' :: rest) :
    ∃ cs, text = '\x1b' :: '[' :: '0' :: 'm' :: cs := by
  fun_cases reopened start text with
  | case1 => cases h
  | case2 cs => exact ⟨cs, rfl⟩
  | case3 c cs hnot =>
    rw [reopened.eq_3 _ _ _ hnot] at h
    obtain ⟨rfl, hbracket⟩ := List.cons.inj h
    obtain ⟨cs, rfl, hzero⟩ := exists_of_reopened_eq_cons (by decide) hbracket
    obtain ⟨cs, rfl, hend⟩ := exists_of_reopened_eq_cons (by decide) hzero
    obtain ⟨cs, rfl, -⟩ := exists_of_reopened_eq_cons (by decide) hend
    exact ⟨cs, rfl⟩

theorem reopened_inj (h : reopened start text = reopened start other) : text = other := by
  induction text using reopened.induct generalizing other with
  | case1 =>
    have hhead := head?_reopened start other
    rw [← h] at hhead
    exact (List.head?_eq_none_iff.1 hhead.symm).symm
  | case2 cs ih =>
    obtain ⟨rest, rfl⟩ := exists_of_reopened_eq_closing h.symm
    rw [reopened, reopened] at h
    rw [ih (List.append_cancel_left (List.append_cancel_left h))]
  | case3 c cs hnot ih =>
    fun_cases reopened start other with
    | case1 =>
      have hhead := head?_reopened start (c :: cs)
      rw [h] at hhead
      cases hhead
    | case2 rest =>
      rw [reopened.eq_2] at h
      obtain ⟨more, heq⟩ := exists_of_reopened_eq_closing h
      cases heq
      exact (hnot more rfl rfl).elim
    | case3 d rest hother =>
      rw [reopened.eq_3 _ _ _ hnot, reopened.eq_3 _ _ _ hother] at h
      obtain ⟨rfl, hrest⟩ := List.cons.inj h
      rw [ih hrest]

/-- **Texts that are printed alike in a style are the same.** -/
theorem paint_inj {first second : String} (h : s.paint shown first = s.paint shown second) :
    first = second := by
  unfold paint at h
  split at h
  · have h := (String.append_right_inj _).1 ((String.append_left_inj _).1 h)
    exact String.toList_inj.1 (reopened_inj (String.ofList_inj.1 h))
  · exact h

/-! ### Codes -/

theorem mem_of_mem_reopened (h : c ∈ reopened start text) :
    c ∈ text ∨ c ∈ closing.toList ∨ c ∈ start := by
  induction text using reopened.induct with
  | case1 => exact .inl h
  | case2 cs ih =>
    rw [reopened, List.mem_append, List.mem_append] at h
    rcases h with h | h | h
    · exact .inr (.inl h)
    · exact .inr (.inr h)
    · exact (ih h).imp_left fun h => List.mem_append_right ['\x1b', '[', '0', 'm'] h
  | case3 d cs hnot ih =>
    rw [reopened.eq_3 _ _ _ hnot] at h
    rcases List.mem_cons.1 h with rfl | h
    · exact .inl List.mem_cons_self
    · exact (ih h).imp_left (List.mem_cons_of_mem d)

theorem blankless_opening (s : Style) : Blankless s.opening := by
  have hall : s.opening.toList.all (fun c => !isBlank c) = true := by
    obtain ⟨bold, dim, colour⟩ := s
    cases bold <;> cases dim <;> rcases colour with _ | _ | _ | _ | _ | _ <;> decide
  intro c hc
  simpa using List.all_eq_true.1 hall c hc

theorem blankless_closing : Blankless closing := by
  have hall : closing.toList.all (fun c => !isBlank c) = true := by decide
  intro c hc
  simpa using List.all_eq_true.1 hall c hc

/-- **A style adds no blanks to a text.** -/
theorem mem_of_mem_paint {text : String} (h : c ∈ (s.paint shown text).toList)
    (hc : isBlank c = true) : c ∈ text.toList := by
  have hopening : c ∉ s.opening.toList := fun h => by simp [blankless_opening s c h] at hc
  have hclosing : c ∉ closing.toList := fun h => by simp [blankless_closing c h] at hc
  unfold paint at h
  split at h
  · rw [String.toList_append, String.toList_append, String.toList_ofList] at h
    rcases List.mem_append.1 h with h | h
    · rcases List.mem_append.1 h with h | h
      · exact absurd h hopening
      · rcases mem_of_mem_reopened h with h | h | h
        · exact h
        · exact absurd h hclosing
        · exact absurd h hopening
    · exact absurd h hclosing
  · exact h

theorem blankless_paint {text : String} (h : Blankless text) :
    Blankless (s.paint shown text) := by
  intro c hc
  by_contra hblank
  have hblank : isBlank c = true := by simpa using hblank
  exact absurd (h c (mem_of_mem_paint hc hblank)) (by simp [hblank])

end HttpQuery.Style
