import DiscountPolicy.Proofs.Json.Text

/-! The grammar of structured data. A text is read exactly if its tokens are those of a value that
opens no more than 127 arrays and objects at a time, and it is read as this value in normal form. -/

namespace DiscountPolicy.Json

variable {before : List Json} {members : List (String × Json)} {opened : List Open}
  {ts : List Token} {v w : Json}

/-! ### What may come next -/

/-- After a value, what is left of the text is read to its end. -/
def Continues (w : Json) (opened : List Open) (rest : List Token) (v : Json) : Prop :=
  (complete w opened).bind (run · rest) = some v

theorem moreItems_cases (h : run (.within (.items before :: opened) .more) ts = some v) :
    (∃ us, ts = .closeArray :: us ∧ Continues (.array before.reverse) opened us v) ∨
    ∃ us, ts = .comma :: us ∧ run (.within (.items before :: opened) .value) us = some v := by
  cases ts with
  | nil => cases h
  | cons t us =>
    rw [run_cons] at h
    cases t with
    | closeArray => exact .inl ⟨us, rfl, h⟩
    | comma => exact .inr ⟨us, rfl, h⟩
    | _ => cases h

theorem moreMembers_cases (h : run (.within (.members members :: opened) .more) ts = some v) :
    (∃ us, ts = .closeObject :: us ∧ Continues (.object members) opened us v) ∨
    ∃ us, ts = .comma :: us ∧ run (.within (.members members :: opened) .key) us = some v := by
  cases ts with
  | nil => cases h
  | cons t us =>
    rw [run_cons] at h
    cases t with
    | closeObject => exact .inl ⟨us, rfl, h⟩
    | comma => exact .inr ⟨us, rfl, h⟩
    | _ => cases h

theorem item_cases (h : run (.within (.items before :: opened) .item) ts = some v) :
    (∃ us, ts = .closeArray :: us ∧ Continues (.array before.reverse) opened us v) ∨
    run (.within (.items before :: opened) .value) ts = some v := by
  cases ts with
  | nil => cases h
  | cons t us =>
    rw [run_cons] at h ⊢
    cases t with
    | closeArray => exact .inl ⟨us, rfl, h⟩
    | _ => exact .inr h

theorem firstKey_cases (h : run (.within (.members members :: opened) .firstKey) ts = some v) :
    (∃ us, ts = .closeObject :: us ∧ Continues (.object members) opened us v) ∨
    run (.within (.members members :: opened) .key) ts = some v := by
  cases ts with
  | nil => cases h
  | cons t us =>
    rw [run_cons] at h ⊢
    cases t with
    | closeObject => exact .inl ⟨us, rfl, h⟩
    | _ => exact .inr h

theorem exists_key (h : run (.within (.members members :: opened) .key) ts = some v) :
    ∃ key us, ts = .text key :: .colon :: us ∧
      run (.within (.member members key :: opened) .value) us = some v := by
  cases ts with
  | nil => cases h
  | cons t us =>
    rw [run_cons] at h
    cases t with
    | text key =>
      cases us with
      | nil => cases h
      | cons t us =>
        replace h : run (.within (.member members key :: opened) .colon) (t :: us) = some v := h
        rw [run_cons] at h
        cases t with
        | colon => exact ⟨key, us, rfl, h⟩
        | _ => cases h
    | _ => cases h

theorem enter_bind_eq_some {o : Open} {next : Expected}
    (h : (enter o next opened).bind (run · ts) = some v) :
    opened.length < maxOpen ∧ run (.within (o :: opened) next) ts = some v := by
  rw [enter] at h
  split at h
  · next hlt => exact ⟨hlt, h⟩
  · cases h

/-- A value is a single token, or begins with a bracket or a brace. -/
theorem value_cases (h : run (.within opened .value) ts = some v) :
    (∃ (w : Json) (us : List Token), ts = w.tokens ++ us ∧ w.nesting = 0 ∧
      Continues w.normal opened us v) ∨
    (∃ us, ts = .openArray :: us ∧ opened.length < maxOpen ∧
      run (.within (.items [] :: opened) .item) us = some v) ∨
    ∃ us, ts = .openObject :: us ∧ opened.length < maxOpen ∧
      run (.within (.members [] :: opened) .firstKey) us = some v := by
  cases ts with
  | nil => cases h
  | cons t us =>
    rw [run_cons] at h
    cases t with
    | null => exact .inl ⟨.null, us, rfl, rfl, h⟩
    | bool b => exact .inl ⟨.bool b, us, rfl, rfl, h⟩
    | number n => exact .inl ⟨.number n, us, rfl, rfl, h⟩
    | text s => exact .inl ⟨.text s, us, rfl, rfl, h⟩
    | openArray => exact .inr (.inl ⟨us, rfl, enter_bind_eq_some h⟩)
    | openObject => exact .inr (.inr ⟨us, rfl, enter_bind_eq_some h⟩)
    | _ => cases h

/-! ### Values -/

/-- Where a value may begin, what is read to the end of the text begins with the tokens of one. -/
def ReadsValue (ts : List Token) : Prop := ∀ (opened : List Open) (v : Json),
  opened.length ≤ maxOpen → run (.within opened .value) ts = some v →
    ∃ (w : Json) (rest : List Token), ts = w.tokens ++ rest ∧
      opened.length + w.nesting ≤ maxOpen ∧ Continues w.normal opened rest v

theorem exists_item (h : ReadsValue ts) (hopen : opened.length + 1 ≤ maxOpen)
    (hrun : run (.within (.items before :: opened) .value) ts = some v) :
    ∃ (w : Json) (rest : List Token), ts = w.tokens ++ rest ∧
      opened.length + 1 + w.nesting ≤ maxOpen ∧
      run (.within (.items (w.normal :: before) :: opened) .more) rest = some v :=
  h (.items before :: opened) v hopen hrun

theorem exists_member {key : String} (h : ReadsValue ts) (hopen : opened.length + 1 ≤ maxOpen)
    (hrun : run (.within (.member members key :: opened) .value) ts = some v) :
    ∃ (w : Json) (rest : List Token), ts = w.tokens ++ rest ∧
      opened.length + 1 + w.nesting ≤ maxOpen ∧
      run (.within (.members (insertMember key w.normal members) :: opened) .more) rest = some v :=
  h (.member members key :: opened) v hopen hrun

theorem exists_moreItemTokens {ts : List Token}
    (h : ∀ us : List Token, us.length < ts.length → ReadsValue us) (before : List Json)
    (hopen : opened.length + 1 ≤ maxOpen)
    (hrun : run (.within (.items before :: opened) .more) ts = some v) :
    ∃ ws rest, ts = moreItemTokens ws ++ rest ∧
      opened.length + 1 + nestingOfItems ws ≤ maxOpen ∧
      Continues (.array (before.reverse ++ normalItems ws)) opened rest v := by
  rcases moreItems_cases hrun with ⟨us, rfl, hclosed⟩ | ⟨us, rfl, hvalue⟩
  · refine ⟨[], us, rfl, hopen, ?_⟩
    rw [normalItems, List.append_nil]
    exact hclosed
  · obtain ⟨w, rest, rfl, hnest, hmore⟩ := exists_item (h us (Nat.lt_succ_self _)) hopen hvalue
    have hlen : rest.length < (Token.comma :: (w.tokens ++ rest)).length := by
      rw [List.length_cons, List.length_append]
      omega
    obtain ⟨ws, rest, rfl, hnests, hend⟩ := exists_moreItemTokens
      (fun us hus => h us (Nat.lt_trans hus hlen)) (w.normal :: before) hopen hmore
    refine ⟨w :: ws, rest, ?_, ?_, ?_⟩
    · rw [moreItemTokens, List.cons_append, List.append_assoc]
    · rw [nestingOfItems]
      omega
    · rw [List.reverse_cons, List.append_assoc] at hend
      exact hend
  termination_by ts.length

theorem exists_moreMemberTokens {ts : List Token}
    (h : ∀ us : List Token, us.length < ts.length → ReadsValue us)
    (members : List (String × Json)) (hopen : opened.length + 1 ≤ maxOpen)
    (hrun : run (.within (.members members :: opened) .more) ts = some v) :
    ∃ ms rest, ts = moreMemberTokens ms ++ rest ∧
      opened.length + 1 + nestingOfMembers ms ≤ maxOpen ∧
      Continues (.object (normalMembers members ms)) opened rest v := by
  rcases moreMembers_cases hrun with ⟨us, rfl, hclosed⟩ | ⟨us, rfl, hmember⟩
  · refine ⟨[], us, rfl, hopen, ?_⟩
    rw [normalMembers]
    exact hclosed
  · obtain ⟨key, us, rfl, hvalue⟩ := exists_key hmember
    obtain ⟨w, rest, rfl, hnest, hmore⟩ :=
      exists_member (h us (by simp only [List.length_cons]; omega)) hopen hvalue
    have hlen : rest.length <
        (Token.comma :: .text key :: .colon :: (w.tokens ++ rest)).length := by
      simp only [List.length_cons, List.length_append]
      omega
    obtain ⟨ms, rest, rfl, hnests, hend⟩ := exists_moreMemberTokens
      (fun us hus => h us (Nat.lt_trans hus hlen)) (insertMember key w.normal members) hopen hmore
    refine ⟨(key, w) :: ms, rest, ?_, ?_, ?_⟩
    · rw [moreMemberTokens]
      simp only [List.cons_append, List.append_assoc]
    · rw [nestingOfMembers]
      omega
    · rw [normalMembers]
      exact hend
  termination_by ts.length

theorem exists_items {us : List Token}
    (h : ∀ rest : List Token, rest.length ≤ us.length → ReadsValue rest)
    (hopen : opened.length < maxOpen) (hrun : run (.within (.items [] :: opened) .item) us = some v) :
    ∃ ws rest, us = itemTokens ws ++ rest ∧ opened.length + 1 + nestingOfItems ws ≤ maxOpen ∧
      Continues (.array (normalItems ws)) opened rest v := by
  rcases item_cases hrun with ⟨rest, rfl, hclosed⟩ | hvalue
  · exact ⟨[], rest, rfl, hopen, hclosed⟩
  · obtain ⟨w, rest, rfl, hnest, hmore⟩ := exists_item (h us (Nat.le_refl _)) hopen hvalue
    have hlen : rest.length ≤ (w.tokens ++ rest).length := by
      rw [List.length_append]
      omega
    obtain ⟨ws, rest, rfl, hnests, hend⟩ := exists_moreItemTokens
      (fun us hus => h us (Nat.le_trans (Nat.le_of_lt hus) hlen)) [w.normal] hopen hmore
    refine ⟨w :: ws, rest, ?_, ?_, hend⟩
    · rw [itemTokens, List.append_assoc]
    · rw [nestingOfItems]
      omega

theorem exists_members {us : List Token}
    (h : ∀ rest : List Token, rest.length ≤ us.length → ReadsValue rest)
    (hopen : opened.length < maxOpen) (hrun : run (.within (.members [] :: opened) .firstKey) us = some v) :
    ∃ ms rest, us = memberTokens ms ++ rest ∧ opened.length + 1 + nestingOfMembers ms ≤ maxOpen ∧
      Continues (.object (normalMembers [] ms)) opened rest v := by
  rcases firstKey_cases hrun with ⟨rest, rfl, hclosed⟩ | hmember
  · exact ⟨[], rest, rfl, hopen, hclosed⟩
  · obtain ⟨key, us, rfl, hvalue⟩ := exists_key hmember
    obtain ⟨w, rest, rfl, hnest, hmore⟩ :=
      exists_member (h us (by simp only [List.length_cons]; omega)) hopen hvalue
    have hlen : rest.length ≤ (Token.text key :: .colon :: (w.tokens ++ rest)).length := by
      simp only [List.length_cons, List.length_append]
      omega
    obtain ⟨ms, rest, rfl, hnests, hend⟩ := exists_moreMemberTokens
      (fun us hus => h us (Nat.le_trans (Nat.le_of_lt hus) hlen)) (insertMember key w.normal [])
      hopen hmore
    refine ⟨(key, w) :: ms, rest, ?_, ?_, hend⟩
    · rw [memberTokens]
      simp only [List.cons_append, List.append_assoc]
    · rw [nestingOfMembers]
      omega

theorem readsValue (ts : List Token) : ReadsValue ts := by
  induction hlength : ts.length using Nat.strong_induction_on generalizing ts with
  | _ n ih =>
    subst hlength
    replace ih (us : List Token) (hus : us.length < ts.length) : ReadsValue us := ih _ hus us rfl
    intro opened v hopen hrun
    rcases value_cases hrun with ⟨w, rest, rfl, hnest, hend⟩ | ⟨us, rfl, hlt, hitems⟩ |
      ⟨us, rfl, hlt, hmembers⟩
    · exact ⟨w, rest, rfl, by omega, hend⟩
    · obtain ⟨ws, rest, rfl, hnest, hend⟩ :=
        exists_items (fun rest hrest => ih rest (Nat.lt_succ_of_le hrest)) hlt hitems
      refine ⟨.array ws, rest, rfl, ?_, hend⟩
      rw [nesting]
      omega
    · obtain ⟨ms, rest, rfl, hnest, hend⟩ :=
        exists_members (fun rest hrest => ih rest (Nat.lt_succ_of_le hrest)) hlt hmembers
      refine ⟨.object ms, rest, rfl, ?_, hend⟩
      rw [nesting]
      omega

/-! ### Members -/

theorem member?_cons (key k : String) (w : Json) (ms : List (String × Json)) :
    member? key ((k, w) :: ms) = if key = k then some w else member? key ms := by
  rw [member?, List.lookup_cons]
  by_cases h : key = k
  · rw [if_pos h, beq_iff_eq.mpr h]
  · rw [if_neg h, beq_eq_false_iff_ne.mpr h, member?]

theorem member?_insertMember (key k : String) (w : Json) (ms : List (String × Json)) :
    member? key (insertMember k w ms) = if key = k then some w else member? key ms := by
  induction ms with
  | nil => rw [insertMember, member?_cons]
  | cons m ms ih =>
    obtain ⟨k', w'⟩ := m
    rw [insertMember]
    split
    · rw [member?_cons]
    · split
      · next heq =>
        subst heq
        rw [member?_cons, member?_cons]
        split <;> rfl
      · next hne =>
        rw [member?_cons, member?_cons, ih]
        by_cases h : key = k'
        · rw [if_pos h, if_pos h, if_neg]
          rintro rfl
          exact hne h
        · rw [if_neg h, if_neg h]

/-- The value of a key that is read is the last one that is written for it. -/
theorem member?_normalMembers (key : String) (before ms : List (String × Json)) :
    member? key (normalMembers before ms) =
      ((member? key ms.reverse).map normal).or (member? key before) := by
  induction ms generalizing before with
  | nil => rfl
  | cons m ms ih =>
    obtain ⟨k, w⟩ := m
    have hsplit : member? key (ms.reverse ++ [(k, w)]) =
        (member? key ms.reverse).or (member? key [(k, w)]) := List.lookup_append
    rw [normalMembers, ih, member?_insertMember, List.reverse_cons, hsplit, member?_cons,
      Option.map_or, Option.or_assoc]
    congr 1
    split <;> rfl

/-! ### Texts -/

theorem continues_nil {rest : List Token} : Continues w [] rest v ↔ rest = [] ∧ w = v := by
  rw [Continues, complete, Option.bind_some]
  cases rest with
  | nil => simp [run]
  | cons t rest => simp [run_cons, advance]

/-- Tokens are read as a value exactly if they are those of a value with that normal form, which does
not open too much. -/
theorem ofTokens?_eq_some_iff : ofTokens? ts = some v ↔
    ∃ w : Json, w.tokens = ts ∧ w.nesting ≤ maxOpen ∧ w.normal = v := by
  constructor
  · intro h
    obtain ⟨w, rest, rfl, hnest, hend⟩ := readsValue ts [] v (Nat.zero_le _) h
    obtain ⟨rfl, rfl⟩ := continues_nil.mp hend
    refine ⟨w, by rw [List.append_nil], ?_, rfl⟩
    rwa [List.length_nil, Nat.zero_add] at hnest
  · rintro ⟨w, rfl, hnest, rfl⟩
    exact ofTokens?_tokens hnest

/-- The text spells the value, with its members as they stand in the text, and does not open too much
to be read. -/
structure SpelledBy (w : Json) (s : String) : Prop where
  tokens : Token.Spelled s.toList w.tokens
  nesting : w.nesting ≤ 127

theorem ofText?_eq_some_iff {s : String} :
    ofText? s = some v ↔ ∃ w : Json, w.SpelledBy s ∧ w.normal = v := by
  rw [ofText?, Option.bind_eq_some_iff]
  constructor
  · rintro ⟨ts, hts, hv⟩
    obtain ⟨w, rfl, hnest, hw⟩ := ofTokens?_eq_some_iff.mp hv
    exact ⟨w, ⟨Token.ofChars?_eq_some_iff.mp hts, hnest⟩, hw⟩
  · rintro ⟨w, ⟨hts, hnest⟩, rfl⟩
    exact ⟨w.tokens, Token.ofChars?_eq_some_iff.mpr hts, ofTokens?_tokens hnest⟩

theorem ofText?_eq_none_iff {s : String} : ofText? s = none ↔ ∀ w : Json, ¬w.SpelledBy s := by
  rw [Option.eq_none_iff_forall_ne_some]
  constructor
  · exact fun h w hw => h w.normal (ofText?_eq_some_iff.mpr ⟨w, hw, rfl⟩)
  · intro h v hv
    obtain ⟨w, hw, -⟩ := ofText?_eq_some_iff.mp hv
    exact h w hw

theorem tokens_ne_nil (v : Json) : v.tokens ≠ [] := by
  cases v <;> exact List.cons_ne_nil _ _

theorem SpelledBy.not_blank {s : String} (h : w.SpelledBy s) :
    ¬∀ c ∈ s.toList, Text.isBlank c = true :=
  fun hblank => w.tokens_ne_nil (h.tokens.eq_nil_of_blank hblank)

theorem spelledBy_render (hkept : v.Kept) (hnest : v.nesting ≤ maxOpen) : v.SpelledBy v.render := by
  refine ⟨?_, hnest⟩
  rw [render, String.toList_ofList]
  exact Token.spelled_chars hkept (isChain_tokens v)

/-! ### Texts and objects in normal form -/

theorem normal_eq_text_iff {s : String} : w.normal = .text s ↔ w = .text s := by
  cases w <;> simp [normal]

theorem normal_eq_object_iff {ms : List (String × Json)} :
    w.normal = .object ms ↔ ∃ written, w = .object written ∧ ms = normalMembers [] written := by
  cases w <;> simp [normal, eq_comm]

end DiscountPolicy.Json
