import DiscountPolicy.Json.Text
import DiscountPolicy.Proofs.Json.Token

/-! The text of a value is read back as the value in normal form, if its numbers are kept and not
too many arrays and objects are open at a time. -/

namespace DiscountPolicy.Json

/-- Induction on values, with what is shown of all items of an array and all values of an object. -/
theorem induction {motive : Json → Prop} (null : motive .null) (bool : ∀ b, motive (.bool b))
    (number : ∀ n, motive (.number n)) (text : ∀ s, motive (.text s))
    (array : ∀ items, (∀ v ∈ items, motive v) → motive (.array items))
    (object : ∀ members, (∀ m ∈ members, motive m.2) → motive (.object members)) :
    ∀ v, motive v :=
  @Json.rec motive (fun items => ∀ v ∈ items, motive v) (fun members => ∀ m ∈ members, motive m.2)
    (fun m => motive m.2) null bool number text (fun items => array items)
    (fun members => object members) (fun _ h => nomatch h)
    (fun _ _ hv hvs => List.forall_mem_cons.mpr ⟨hv, hvs⟩) (fun _ h => nomatch h)
    (fun _ _ hm hms => List.forall_mem_cons.mpr ⟨hm, hms⟩) (fun _ _ h => h)

mutual

/-- The greatest number of arrays and objects that are open at a time in the text of a value. -/
def nesting : Json → Nat
  | .array items => 1 + nestingOfItems items
  | .object members => 1 + nestingOfMembers members
  | _ => 0

def nestingOfItems : List Json → Nat
  | [] => 0
  | v :: vs => max v.nesting (nestingOfItems vs)

def nestingOfMembers : List (String × Json) → Nat
  | [] => 0
  | (_, v) :: ms => max v.nesting (nestingOfMembers ms)

end

mutual

/-- The value with its keys in increasing order. A key that is repeated keeps its last value. -/
def normal : Json → Json
  | .array items => .array (normalItems items)
  | .object members => .object (normalMembers [] members)
  | v => v

def normalItems : List Json → List Json
  | [] => []
  | v :: vs => v.normal :: normalItems vs

/-- The members in normal form, after some that are there already. -/
def normalMembers (before : List (String × Json)) : List (String × Json) → List (String × Json)
  | [] => before
  | (k, v) :: ms => normalMembers (insertMember k v.normal before) ms

end

/-! ### The tokens of a value -/

theorem isChain_moreItemTokens {vs : List Json} (h : ∀ v ∈ vs, v.tokens.IsChain Token.Apart) :
    (moreItemTokens vs).IsChain Token.Apart ∧
      ∀ t ∈ (moreItemTokens vs).head?, t.isNumber = false := by
  induction vs with
  | nil => simp [moreItemTokens, Token.isNumber]
  | cons v vs ih =>
    rw [List.forall_mem_cons] at h
    obtain ⟨hchain, hhead⟩ := ih h.2
    rw [moreItemTokens]
    have hvalue := Token.isChain_append h.1 hchain hhead
    exact ⟨Token.isChain_cons rfl hvalue, by simp [Token.isNumber]⟩

theorem isChain_moreMemberTokens {ms : List (String × Json)}
    (h : ∀ m ∈ ms, m.2.tokens.IsChain Token.Apart) :
    (moreMemberTokens ms).IsChain Token.Apart ∧
      ∀ t ∈ (moreMemberTokens ms).head?, t.isNumber = false := by
  induction ms with
  | nil => simp [moreMemberTokens, Token.isNumber]
  | cons m ms ih =>
    rw [List.forall_mem_cons] at h
    obtain ⟨hchain, hhead⟩ := ih h.2
    rw [moreMemberTokens]
    have hvalue := Token.isChain_append h.1 hchain hhead
    have hkey := Token.isChain_cons (t := .colon) rfl hvalue
    exact ⟨Token.isChain_cons rfl (Token.isChain_cons rfl hkey), by simp [Token.isNumber]⟩

/-- No number stands next to another one in the text of a value. -/
theorem isChain_tokens (v : Json) : v.tokens.IsChain Token.Apart := by
  induction v using induction with
  | null | bool | number | text => exact .singleton _
  | array items ih =>
    rw [tokens]
    cases items with
    | nil => exact Token.isChain_cons rfl (.singleton _)
    | cons v vs =>
      rw [List.forall_mem_cons] at ih
      obtain ⟨hchain, hhead⟩ := isChain_moreItemTokens ih.2
      exact Token.isChain_cons rfl (Token.isChain_append ih.1 hchain hhead)
  | object members ih =>
    rw [tokens]
    cases members with
    | nil => exact Token.isChain_cons rfl (.singleton _)
    | cons m ms =>
      rw [List.forall_mem_cons] at ih
      obtain ⟨hchain, hhead⟩ := isChain_moreMemberTokens ih.2
      have hvalue := Token.isChain_append ih.1 hchain hhead
      exact Token.isChain_cons rfl (Token.isChain_cons rfl (Token.isChain_cons rfl hvalue))

/-- The numbers in the value are read back from their texts. -/
def Kept (v : Json) : Prop := ∀ t ∈ v.tokens, t.Kept

instance (v : Json) : Decidable v.Kept := List.decidableBAll _ v.tokens

theorem kept_of_tokens_eq {v : Json} {t : Token} (hv : v.tokens = [t]) (ht : t.Kept) : v.Kept := by
  rw [Kept, hv, List.forall_mem_singleton]
  exact ht

theorem kept_text (s : String) : (text s).Kept :=
  kept_of_tokens_eq rfl (Token.kept_of_notNumber rfl)

theorem kept_ofInt64 (n : Int64) : (ofInt64 n).Kept :=
  kept_of_tokens_eq rfl (Token.kept_number (Number.kept_whole _ _))

theorem kept_ofDouble {x : Double} (h : ∀ y, x = .finite y → Number.Kept (.real y)) :
    (ofDouble x).Kept := by
  cases x with
  | finite y => exact kept_of_tokens_eq rfl (Token.kept_number (h y rfl))
  | infinite | nan => exact kept_of_tokens_eq rfl (Token.kept_of_notNumber rfl)

theorem kept_moreItemTokens {vs : List Json} (h : ∀ v ∈ vs, v.Kept) :
    ∀ t ∈ moreItemTokens vs, t.Kept := by
  induction vs with
  | nil => simpa [moreItemTokens] using Token.kept_of_notNumber rfl
  | cons v vs ih =>
    rw [List.forall_mem_cons] at h
    rw [moreItemTokens, List.forall_mem_cons, List.forall_mem_append]
    exact ⟨Token.kept_of_notNumber rfl, h.1, ih h.2⟩

theorem kept_moreMemberTokens {ms : List (String × Json)} (h : ∀ m ∈ ms, m.2.Kept) :
    ∀ t ∈ moreMemberTokens ms, t.Kept := by
  induction ms with
  | nil => simpa [moreMemberTokens] using Token.kept_of_notNumber rfl
  | cons m ms ih =>
    rw [List.forall_mem_cons] at h
    simp only [moreMemberTokens, List.forall_mem_cons, List.forall_mem_append]
    exact ⟨Token.kept_of_notNumber rfl, Token.kept_of_notNumber rfl, Token.kept_of_notNumber rfl,
      h.1, ih h.2⟩

theorem kept_array {items : List Json} (h : ∀ v ∈ items, v.Kept) : (array items).Kept := by
  rw [Kept, tokens, List.forall_mem_cons]
  refine ⟨Token.kept_of_notNumber rfl, ?_⟩
  cases items with
  | nil => simpa [itemTokens] using Token.kept_of_notNumber rfl
  | cons v vs =>
    rw [List.forall_mem_cons] at h
    rw [itemTokens, List.forall_mem_append]
    exact ⟨h.1, kept_moreItemTokens h.2⟩

theorem kept_object {members : List (String × Json)} (h : ∀ m ∈ members, m.2.Kept) :
    (object members).Kept := by
  rw [Kept, tokens, List.forall_mem_cons]
  refine ⟨Token.kept_of_notNumber rfl, ?_⟩
  cases members with
  | nil => simpa [memberTokens] using Token.kept_of_notNumber rfl
  | cons m ms =>
    rw [List.forall_mem_cons] at h
    simp only [memberTokens, List.forall_mem_cons, List.forall_mem_append]
    exact ⟨Token.kept_of_notNumber rfl, Token.kept_of_notNumber rfl, h.1, kept_moreMemberTokens h.2⟩

/-! ### Reading the tokens of a value -/

theorem run_cons (p : Progress) (t : Token) (ts : List Token) :
    run p (t :: ts) = (advance p t).bind (run · ts) := by
  cases p <;> rfl

/-- Wherever a value may begin, its tokens are read as the value in normal form, unless too much is
open. -/
def ReadBack (v : Json) : Prop := ∀ (opened : List Open) (rest : List Token),
  opened.length + v.nesting ≤ maxOpen →
    run (.within opened .value) (v.tokens ++ rest) = (complete v.normal opened).bind (run · rest)

-- Where an array may end at once, a value begins as anywhere: none begins with the bracket.
theorem run_item (v : Json) (opened : List Open) (rest : List Token) :
    run (.within opened .item) (v.tokens ++ rest) =
      run (.within opened .value) (v.tokens ++ rest) := by
  cases v <;> rfl

theorem ReadBack.item {v : Json} (h : v.ReadBack) (before : List Json) (opened : List Open)
    (rest : List Token) (hnest : opened.length + 1 + v.nesting ≤ maxOpen) :
    run (.within (.items before :: opened) .value) (v.tokens ++ rest) =
      run (.within (.items (v.normal :: before) :: opened) .more) rest :=
  h (.items before :: opened) rest hnest

theorem ReadBack.member {v : Json} (h : v.ReadBack) (before : List (String × Json)) (key : String)
    (opened : List Open) (rest : List Token) (hnest : opened.length + 1 + v.nesting ≤ maxOpen) :
    run (.within (.member before key :: opened) .value) (v.tokens ++ rest) =
      run (.within (.members (insertMember key v.normal before) :: opened) .more) rest :=
  h (.member before key :: opened) rest hnest

theorem run_moreItemTokens {vs : List Json} (h : ∀ v ∈ vs, v.ReadBack) (before : List Json)
    (opened : List Open) (rest : List Token)
    (hnest : opened.length + 1 + nestingOfItems vs ≤ maxOpen) :
    run (.within (.items before :: opened) .more) (moreItemTokens vs ++ rest) =
      (complete (.array (before.reverse ++ normalItems vs)) opened).bind (run · rest) := by
  -- The items that are read join those before, the last one first.
  induction vs generalizing before with
  | nil =>
    rw [moreItemTokens, normalItems, List.append_nil]
    rfl
  | cons v vs ih =>
    rw [List.forall_mem_cons] at h
    rw [nestingOfItems] at hnest
    have hvalue := h.1.item before opened (moreItemTokens vs ++ rest) (by omega)
    have hmore := ih h.2 (v.normal :: before) (by omega)
    rw [List.reverse_cons, List.append_assoc] at hmore
    rw [moreItemTokens, List.cons_append, List.append_assoc, run_cons, normalItems]
    exact hvalue.trans hmore

theorem run_moreMemberTokens {ms : List (String × Json)} (h : ∀ m ∈ ms, m.2.ReadBack)
    (before : List (String × Json)) (opened : List Open) (rest : List Token)
    (hnest : opened.length + 1 + nestingOfMembers ms ≤ maxOpen) :
    run (.within (.members before :: opened) .more) (moreMemberTokens ms ++ rest) =
      (complete (.object (normalMembers before ms)) opened).bind (run · rest) := by
  induction ms generalizing before with
  | nil =>
    rw [moreMemberTokens, normalMembers]
    rfl
  | cons m ms ih =>
    obtain ⟨key, v⟩ := m
    have hv : v.ReadBack := h (key, v) List.mem_cons_self
    have hms := (List.forall_mem_cons.mp h).2
    rw [nestingOfMembers] at hnest
    have hvalue := hv.member before key opened (moreMemberTokens ms ++ rest) (by omega)
    have hmore := ih hms (insertMember key v.normal before) (by omega)
    simp only [moreMemberTokens, List.cons_append, List.append_assoc, run_cons, normalMembers]
    exact hvalue.trans hmore

theorem enter_of_lt {o : Open} {next : Expected} {opened : List Open}
    (h : opened.length < maxOpen) : enter o next opened = some (.within (o :: opened) next) :=
  if_pos h

theorem readBack_array {items : List Json} (h : ∀ v ∈ items, v.ReadBack) :
    (array items).ReadBack := by
  intro opened rest hnest
  rw [nesting] at hnest
  have henter : advance (.within opened .value) .openArray =
      some (.within (.items [] :: opened) .item) := enter_of_lt (by omega)
  rw [tokens, List.cons_append, run_cons, henter, normal]
  cases items with
  | nil =>
    rw [itemTokens, normalItems]
    rfl
  | cons v vs =>
    rw [List.forall_mem_cons] at h
    rw [nestingOfItems] at hnest
    have hvalue := h.1.item [] opened (moreItemTokens vs ++ rest) (by omega)
    have hmore := run_moreItemTokens h.2 [v.normal] opened rest (by omega)
    rw [Option.bind_some, itemTokens, List.append_assoc, run_item, normalItems]
    exact hvalue.trans hmore

theorem readBack_object {members : List (String × Json)} (h : ∀ m ∈ members, m.2.ReadBack) :
    (object members).ReadBack := by
  intro opened rest hnest
  rw [nesting] at hnest
  have henter : advance (.within opened .value) .openObject =
      some (.within (.members [] :: opened) .firstKey) := enter_of_lt (by omega)
  rw [tokens, List.cons_append, run_cons, henter, normal]
  cases members with
  | nil =>
    rw [memberTokens, normalMembers]
    rfl
  | cons m ms =>
    obtain ⟨key, v⟩ := m
    have hv : v.ReadBack := h (key, v) List.mem_cons_self
    have hms := (List.forall_mem_cons.mp h).2
    rw [nestingOfMembers] at hnest
    have hvalue := hv.member [] key opened (moreMemberTokens ms ++ rest) (by omega)
    have hmore := run_moreMemberTokens hms [(key, v.normal)] opened rest (by omega)
    simp only [Option.bind_some, memberTokens, List.cons_append, List.append_assoc, run_cons,
      normalMembers]
    exact hvalue.trans hmore

theorem readBack (v : Json) : v.ReadBack := by
  induction v using induction with
  | null | bool | number | text =>
    intro opened rest _
    rfl
  | array items ih => exact readBack_array ih
  | object members ih => exact readBack_object ih

theorem ofTokens?_tokens {v : Json} (hnest : v.nesting ≤ maxOpen) :
    ofTokens? v.tokens = some v.normal := by
  have h := readBack v [] [] (by simpa using hnest)
  rw [List.append_nil] at h
  exact h

theorem ofText?_render {v : Json} (hkept : v.Kept) (hnest : v.nesting ≤ maxOpen) :
    ofText? v.render = some v.normal := by
  have hspelled := Token.spelled_chars hkept (isChain_tokens v)
  rw [ofText?, render, String.toList_ofList, Token.ofChars?_eq_some_iff.mpr hspelled]
  exact ofTokens?_tokens hnest

end DiscountPolicy.Json
