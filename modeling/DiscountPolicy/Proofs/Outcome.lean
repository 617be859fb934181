/-! Outcomes of two steps in a row: they succeed when both steps do, and fail as the first step that
fails. So a run of checks reports the first of the failures that there are. -/

namespace DiscountPolicy

variable {ε α β : Type}

@[simp] theorem ok_bind (a : α) (f : α → Except ε β) : (Except.ok a >>= f) = f a := rfl

@[simp] theorem error_bind (e : ε) (f : α → Except ε β) : (Except.error e >>= f) = .error e := rfl

@[simp] theorem pure_eq_ok (a : α) : (pure a : Except ε α) = .ok a := rfl

theorem bind_eq_ok_iff {x : Except ε α} {f : α → Except ε β} {b : β} :
    (x >>= f) = .ok b ↔ ∃ a, x = .ok a ∧ f a = .ok b := by
  cases x with
  | error e => simp
  | ok a => simp

theorem bind_eq_error_iff {x : Except ε α} {f : α → Except ε β} {e : ε} :
    (x >>= f) = .error e ↔ x = .error e ∨ ∃ a, x = .ok a ∧ f a = .error e := by
  cases x with
  | error e' => simp
  | ok a => simp

/-- A check passes, and so does what comes after it. -/
theorem check_bind_eq_ok_iff {x : Except ε Unit} {f : Unit → Except ε β} {b : β} :
    (x >>= f) = .ok b ↔ x = .ok () ∧ f () = .ok b := by
  cases x with
  | error e => simp
  | ok _ => simp

/-- An outcome is a result or a failure. -/
theorem ok_or_error (x : Except ε α) : (∃ a, x = .ok a) ∨ ∃ e, x = .error e := by
  cases x with
  | error e => exact Or.inr ⟨e, rfl⟩
  | ok a => exact Or.inl ⟨a, rfl⟩

theorem exists_ok_of_isOk {x : Except ε α} (h : x.isOk = true) : ∃ a, x = .ok a := by
  cases x with
  | error e => cases h
  | ok a => exact ⟨a, rfl⟩

/-! ### The first of several failures -/

/-- The outcome is the first of these failures, or a result if there are none. -/
def FirstOf (es : List ε) : Except ε α → Prop
  | .ok _ => es = []
  | .error e => es.head? = some e

theorem FirstOf.bind {es fs : List ε} {x : Except ε α} {f : α → Except ε β} (hx : FirstOf es x)
    (hf : ∀ a, x = .ok a → FirstOf fs (f a)) : FirstOf (es ++ fs) (x >>= f) := by
  cases x with
  | error e =>
    rw [error_bind, FirstOf, List.head?_append, show es.head? = some e from hx]
    rfl
  | ok a =>
    rw [ok_bind, show es = [] from hx, List.nil_append]
    exact hf a rfl

/-- A last step that cannot fail adds no failures. -/
theorem FirstOf.bind_ok {es : List ε} {x : Except ε α} (h : FirstOf es x) (f : α → β) :
    FirstOf es (x >>= fun a => .ok (f a)) := by
  cases x with
  | error e => exact h
  | ok a => exact h

theorem FirstOf.exists_ok_iff {es : List ε} {x : Except ε α} (h : FirstOf es x) :
    (∃ a, x = .ok a) ↔ es = [] := by
  cases x with
  | error e =>
    have hhead : es.head? = some e := h
    constructor
    · rintro ⟨a, ha⟩
      cases ha
    · rintro rfl
      cases hhead
  | ok a => exact ⟨fun _ => h, fun _ => ⟨a, rfl⟩⟩

theorem FirstOf.eq_error_iff {es : List ε} {x : Except ε α} (h : FirstOf es x) {e : ε} :
    x = .error e ↔ es.head? = some e := by
  cases x with
  | error e' =>
    rw [show es.head? = some e' from h, Except.error.injEq, Option.some.injEq]
  | ok a => simp [show es = [] from h]

end DiscountPolicy
