import Mathlib.Data.List.DropRight
import Mathlib.Data.List.TakeWhile

/-! A list of two runs: items of a kind, and then items of which the first one is not of the kind.
The two runs are what `takeWhile` and `dropWhile` give. -/

namespace DiscountPolicy

variable {α : Type} {p : α → Bool}

/-- The list does not begin with an item of the kind. -/
def Stops (p : α → Bool) (l : List α) : Prop := ∀ a ∈ l.head?, p a = false

theorem Stops.nil : Stops p [] := fun _ h => nomatch h

theorem Stops.cons {a : α} (l : List α) (h : p a = false) : Stops p (a :: l) := by
  intro b hb
  obtain rfl : a = b := by simpa using hb
  exact h

theorem Stops.of_prefix {l r : List α} (h : Stops p r) (hlr : l <+: r) : Stops p l := by
  intro a ha
  obtain ⟨l, rfl⟩ := List.head?_eq_some_iff.mp ha
  obtain ⟨rest, rfl⟩ := hlr
  exact h a rfl

theorem stops_dropWhile (p : α → Bool) (l : List α) : Stops p (l.dropWhile p) := by
  intro a ha
  have hnot := List.head?_dropWhile_not p l
  rw [Option.mem_def] at ha
  simpa [ha] using hnot

theorem takeWhile_append_stops {l r : List α} (hl : ∀ a ∈ l, p a = true) (hr : Stops p r) :
    (l ++ r).takeWhile p = l := by
  rw [List.takeWhile_append_of_pos hl]
  cases r with
  | nil => simp
  | cons a r => simp [hr a rfl]

theorem dropWhile_append_stops {l r : List α} (hl : ∀ a ∈ l, p a = true) (hr : Stops p r) :
    (l ++ r).dropWhile p = r := by
  rw [List.dropWhile_append_of_pos hl]
  cases r with
  | nil => simp
  | cons a r => simp [hr a rfl]

theorem takeWhile_append_cons {a : α} (l r : List α) (ha : p a = false) :
    (l ++ a :: r).takeWhile p = l.takeWhile p := by
  induction l with
  | nil =>
    rw [List.nil_append, List.takeWhile_cons, ha, List.takeWhile_nil, if_neg Bool.false_ne_true]
  | cons b l ih => rw [List.cons_append, List.takeWhile_cons, List.takeWhile_cons, ih]

/-- What is dropped at the end of a list does not reach past an item that is not of the kind. -/
theorem rdropWhile_append_cons {a : α} (l r : List α) (ha : p a = false) :
    (l ++ a :: r).rdropWhile p = l ++ a :: r.rdropWhile p := by
  induction r using List.reverseRecOn with
  | nil => rw [List.rdropWhile_concat, ha, List.rdropWhile_nil, if_neg Bool.false_ne_true]
  | append_singleton r b ih =>
    rw [← List.cons_append, ← List.append_assoc, List.rdropWhile_concat, List.rdropWhile_concat]
    split
    · exact ih
    · rw [List.append_assoc, List.cons_append]

end DiscountPolicy
