import HttpQuery.CommandLine.Report
import HttpQuery.Proofs.CommandLine.Styles

/-! # Lines

Lines are printed with their ends. If none of them holds an end of its own, they can be read off the
text, at least up to a line that is known.

* `append_inj_of_forall`: a list is cut at the first member that a property does not have.
* `IsLine`: a text that holds no end of a line.
* `natural_blank_inj`: a number is read up to the first blank.
* `linesText_upTo_inj`: the lines up to a marker can be read off a text. -/

namespace HttpQuery

open Style Text

/-! ### Lists -/

/-- **A list is cut at the first member** that a property does not have. -/
theorem append_inj_of_forall {α : Type} {p : α → Prop} {first second rest more : List α}
    (hfirst : ∀ a ∈ first, p a) (hsecond : ∀ a ∈ second, p a) (hrest : ∀ a ∈ rest.head?, ¬ p a)
    (hmore : ∀ a ∈ more.head?, ¬ p a) (h : first ++ rest = second ++ more) :
    first = second ∧ rest = more := by
  induction first generalizing second with
  | nil =>
    cases second with
    | nil => exact ⟨rfl, h⟩
    | cons b second =>
      obtain rfl : rest = b :: (second ++ more) := h
      exact absurd (hsecond b List.mem_cons_self) (hrest b rfl)
  | cons a first ih =>
    cases second with
    | nil =>
      obtain rfl : a :: (first ++ rest) = more := h
      exact absurd (hfirst a List.mem_cons_self) (hmore a rfl)
    | cons b second =>
      obtain ⟨hhead, htail⟩ := List.cons.inj h
      obtain ⟨hfirstEq, hrestEq⟩ := ih (fun c hc => hfirst c (List.mem_cons_of_mem _ hc))
        (fun c hc => hsecond c (List.mem_cons_of_mem _ hc)) htail
      exact ⟨by rw [hhead, hfirstEq], hrestEq⟩

theorem map_inj_of_forall {α β : Type} {f : α → β} {first second : List α}
    (hinj : ∀ a ∈ first, ∀ b ∈ second, f a = f b → a = b) (h : first.map f = second.map f) :
    first = second := by
  induction first generalizing second with
  | nil => exact (List.map_eq_nil_iff.1 h.symm).symm
  | cons a first ih =>
    cases second with
    | nil => cases h
    | cons b second =>
      obtain ⟨hhead, htail⟩ := List.cons.inj h
      rw [hinj a List.mem_cons_self b List.mem_cons_self hhead, ih (fun c hc e he =>
        hinj c (List.mem_cons_of_mem _ hc) e (List.mem_cons_of_mem _ he)) htail]

/-! ### Lines -/

/-- A text without the end of a line. -/
def IsLine (text : String) : Prop := '\n' ∉ text.toList

instance {text : String} : Decidable (IsLine text) :=
  inferInstanceAs (Decidable ('\n' ∉ text.toList))

theorem Blankless.isLine {text : String} (h : Blankless text) : IsLine text :=
  fun hmem => absurd (h _ hmem) (by decide)

theorem IsLine.append {first second : String} (hfirst : IsLine first) (hsecond : IsLine second) :
    IsLine (first ++ second) := by
  intro h
  rw [String.toList_append] at h
  exact (List.mem_append.1 h).elim hfirst hsecond

theorem IsLine.paint {text : String} (h : IsLine text) (shown : Bool) (s : Style) :
    IsLine (s.paint shown text) :=
  fun hmem => h (mem_of_mem_paint hmem (by decide))

theorem isDigit_of_mem_natural {n : Nat} {c : Char} (h : c ∈ (toString n).toList) :
    c.isDigit = true := by
  rw [Nat.toString_eq_repr, Nat.toList_repr] at h
  exact Nat.isDigit_of_mem_toDigits (by decide) (by decide) h

theorem isLine_natural (n : Nat) : IsLine (toString n) :=
  fun h => absurd (isDigit_of_mem_natural h) (by decide)

theorem natural_inj {m n : Nat} (h : toString m = toString n) : m = n := by
  have h := congrArg (fun text : String => Nat.ofDigitChars 10 text.toList 0) h
  simpa only [Nat.toString_eq_repr, Nat.toList_repr, Nat.ofDigitChars_ten_toDigits] using h

/-- **A number ends at the first blank.** -/
theorem natural_blank_inj {m n : Nat} {rest more : String}
    (h : toString m ++ (" " ++ rest) = toString n ++ (" " ++ more)) : m = n ∧ rest = more := by
  have hend : ∀ rest : String, ∀ c ∈ (" " ++ rest).toList.head?, ¬ c.isDigit = true := by
    intro rest c hc
    obtain rfl : ' ' = c := by simpa using hc
    decide
  have h : (toString m).toList ++ (" " ++ rest).toList =
      (toString n).toList ++ (" " ++ more).toList := by
    rw [← String.toList_append, h, String.toList_append]
  obtain ⟨hnatural, hrest⟩ := append_inj_of_forall (fun _ => isDigit_of_mem_natural)
    (fun _ => isDigit_of_mem_natural) (hend rest) (hend more) h
  exact ⟨natural_inj (String.toList_inj.1 hnatural),
    (String.append_right_inj _).1 (String.toList_inj.1 hrest)⟩

/-- The first line can be read off a text. -/
theorem linesText_cons_inj {line other : String} {rest more : List String} (hline : IsLine line)
    (hother : IsLine other) (h : linesText (line :: rest) = linesText (other :: more)) :
    line = other ∧ linesText rest = linesText more := by
  have hcons : ∀ line rest, (linesText (line :: rest)).toList =
      line.toList ++ '\n' :: (linesText rest).toList := by simp [linesText]
  have hend : ∀ text : List Char, ∀ c ∈ ('\n' :: text).head?, ¬ c ≠ '\n' := by simp
  have hchars : ∀ {text}, IsLine text → ∀ c ∈ text.toList, c ≠ '\n' := by
    rintro text htext c hc rfl
    exact htext hc
  have h := congrArg String.toList h
  rw [hcons, hcons] at h
  obtain ⟨hfirst, hrest⟩ := append_inj_of_forall (hchars hline) (hchars hother) (hend _) (hend _) h
  exact ⟨String.toList_inj.1 hfirst, String.toList_inj.1 (List.cons.inj hrest).2⟩

/-- **The lines up to a marker can be read off a text**, whatever comes after it. -/
theorem linesText_upTo_inj {marker : String} {lines others rest more : List String}
    (hmarker : IsLine marker) (hlines : ∀ line ∈ lines, IsLine line ∧ line ≠ marker)
    (hothers : ∀ line ∈ others, IsLine line ∧ line ≠ marker)
    (h : linesText (lines ++ marker :: rest) = linesText (others ++ marker :: more)) :
    lines = others ∧ linesText rest = linesText more := by
  -- The first lines are equal, so the marker comes at the same place on both sides.
  induction lines generalizing others with
  | nil =>
    cases others with
    | nil => exact ⟨rfl, (linesText_cons_inj hmarker hmarker h).2⟩
    | cons other others =>
      obtain ⟨hother, hne⟩ := hothers other List.mem_cons_self
      exact absurd (linesText_cons_inj hmarker hother h).1.symm hne
  | cons line lines ih =>
    obtain ⟨hline, hne⟩ := hlines line List.mem_cons_self
    cases others with
    | nil => exact absurd (linesText_cons_inj hline hmarker h).1 hne
    | cons other others =>
      obtain ⟨heq, h⟩ := linesText_cons_inj hline (hothers other List.mem_cons_self).1 h
      obtain ⟨hlinesEq, hrest⟩ := ih (fun l hl => hlines l (List.mem_cons_of_mem _ hl))
        (fun l hl => hothers l (List.mem_cons_of_mem _ hl)) h
      exact ⟨by rw [heq, hlinesEq], hrest⟩

end HttpQuery
