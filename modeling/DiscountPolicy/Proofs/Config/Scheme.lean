import DiscountPolicy.Config

/-! The scheme of a configured address, which is all that is checked of it. -/

namespace DiscountPolicy.Config

variable {c : Config}

/-- The address begins with `http://` or `https://`. -/
def HasScheme (url : String) : Prop :=
  "http://".toList <+: url.toList ∨ "https://".toList <+: url.toList

theorem isHttp_iff {url : String} : isHttp url = true ↔ HasScheme url := by
  rw [isHttp, startsWith, startsWith, Bool.or_eq_true, List.isPrefixOf_iff_prefix,
    List.isPrefixOf_iff_prefix]
  rfl

instance (url : String) : Decidable (HasScheme url) := decidable_of_iff _ isHttp_iff

theorem HasScheme.ne_empty {url : String} (h : HasScheme url) : url ≠ "" := by
  rintro rfl
  rcases h with h | h
  · simp at h
  · simp at h

theorem validate_cases (c : Config) :
    (HasScheme c.apiUrl ∧ c.validate = .ok ()) ∨
    (¬HasScheme c.apiUrl ∧ c.validate = .error (.notHttp c.apiUrl)) := by
  rw [validate, ← isHttp_iff]
  cases isHttp c.apiUrl with
  | true => exact .inl ⟨rfl, rfl⟩
  | false => exact .inr ⟨by simp, rfl⟩

theorem validate_eq_ok_iff : c.validate = .ok () ↔ HasScheme c.apiUrl := by
  rcases c.validate_cases with ⟨hscheme, h⟩ | ⟨hscheme, h⟩
  · exact iff_of_true h hscheme
  · rw [h]
    exact iff_of_false (by simp) hscheme

end DiscountPolicy.Config
