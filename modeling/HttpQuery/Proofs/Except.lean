/-! # Computations that may fail

A computation of several steps gives a result only if each step does, and an error only if one of
the steps does.

* `exists_of_bind_eq_ok`, `or_of_bind_eq_error`: the steps behind a result, and behind an error.
* `mapM_eq_ok_iff`, `mapM_eq_error_iff`: one step for each item of a list. -/

namespace HttpQuery

variable {α β ε : Type} {x : Except ε α} {f : α → Except ε β}

/-- **A result comes from the result of each step.** -/
theorem exists_of_bind_eq_ok {b : β} (h : (x >>= f) = .ok b) : ∃ a, x = .ok a ∧ f a = .ok b := by
  cases x with
  | error cause => cases h
  | ok a => exact ⟨a, rfl, h⟩

/-- **An error comes from the first step or from a later one.** -/
theorem or_of_bind_eq_error {cause : ε} (h : (x >>= f) = .error cause) :
    x = .error cause ∨ ∃ a, x = .ok a ∧ f a = .error cause := by
  cases x with
  | error fault => exact .inl (congrArg Except.error (Except.error.inj h))
  | ok a => exact .inr ⟨a, rfl, h⟩

theorem mapError_eq_ok_iff {ε' : Type} {rename : ε → ε'} {a : α} :
    x.mapError rename = .ok a ↔ x = .ok a := by
  cases x with
  | error cause => exact iff_of_false nofun nofun
  | ok b =>
    constructor
    · intro h
      rw [Except.ok.inj h]
    · intro h
      rw [Except.ok.inj h]
      rfl

theorem eq_ok_of_toOption {a : α} (h : x.toOption = some a) : x = .ok a := by
  cases x with
  | error cause => cases h
  | ok b => exact congrArg Except.ok (Option.some.inj h)

theorem exists_of_isSome_toOption (h : x.toOption.isSome = true) : ∃ a, x = .ok a := by
  cases x with
  | error cause => cases h
  | ok a => exact ⟨a, rfl⟩

/-- A list is read if each item is. -/
theorem mapM_eq_ok_iff {xs : List α} {ys : List β} :
    xs.mapM f = .ok ys ↔ xs.map f = ys.map .ok := by
  induction xs generalizing ys with
  | nil => cases ys <;> simp [pure, Except.pure]
  | cons x xs ih =>
    rw [List.mapM_cons, List.map_cons]
    cases f x with
    | error cause => cases ys <;> simp [bind, Except.bind]
    | ok y =>
      cases hxs : xs.mapM f with
      | error cause => cases ys <;> simp [bind, Except.bind, ← ih, hxs]
      | ok more => cases ys <;> simp [bind, Except.bind, pure, Except.pure, ← ih, hxs]

/-- **The first item that is not read** gives the error. -/
theorem mapM_eq_error_iff {xs : List α} {cause : ε} :
    xs.mapM f = .error cause ↔
      ∃ before x after, xs = before ++ x :: after ∧ (∀ y ∈ before, ∃ b, f y = .ok b) ∧
        f x = .error cause := by
  induction xs with
  | nil => simp [pure, Except.pure]
  | cons x xs ih =>
    rw [List.mapM_cons]
    constructor
    · intro h
      rcases or_of_bind_eq_error h with hx | ⟨b, hx, h⟩
      · exact ⟨[], x, xs, rfl, nofun, hx⟩
      · rcases or_of_bind_eq_error h with hxs | ⟨bs, -, h⟩
        · obtain ⟨before, y, after, rfl, hbefore, hy⟩ := ih.1 hxs
          exact ⟨x :: before, y, after, rfl, List.forall_mem_cons.2 ⟨⟨b, hx⟩, hbefore⟩, hy⟩
        · cases h
    · rintro ⟨before, y, after, heq, hbefore, hy⟩
      cases before with
      | nil =>
        obtain ⟨rfl, rfl⟩ := List.cons.inj heq
        rw [hy]
        rfl
      | cons z before =>
        obtain ⟨rfl, rfl⟩ := List.cons.inj heq
        obtain ⟨⟨b, hx⟩, hbefore⟩ := List.forall_mem_cons.1 hbefore
        rw [hx, ih.2 ⟨before, y, after, rfl, hbefore, hy⟩]
        rfl

end HttpQuery
