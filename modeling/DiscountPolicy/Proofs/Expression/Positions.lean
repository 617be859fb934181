import DiscountPolicy.Proofs.Expression.Grammar

/-! Reading by positions. Words with their positions, read from one on, are the end of the sequence
of all words; so a reader that goes by positions in all words, and that may find no word at a
position, reads what `build` reads. It never asks for a word behind the last one, since an operator
looks for a further word before it reads a part. -/

namespace DiscountPolicy.Expression

variable {words : List String} {levels : Nat} {first : Placed} {rest unread : List Placed}

/-! ### Ends of the sequence of words -/

theorem drop_of_suffix (h : first :: rest <:+ words.zipIdx) :
    words.drop first.2 = first.1 :: rest.map Prod.fst := by
  obtain ⟨front, heq⟩ := h
  have hplace : words.zipIdx[front.length]? = some first := by
    rw [← heq]
    simp
  obtain ⟨w, -, hfirst⟩ : ∃ w, words[front.length]? = some w ∧ (w, front.length) = first := by
    simpa [List.getElem?_zipIdx] using hplace
  have hposition : front.length = first.2 := congrArg Prod.snd hfirst
  have hdrop : words.zipIdx.drop front.length = first :: rest := by rw [← heq, List.drop_left]
  rw [← hposition, ← List.map_cons, ← hdrop, List.map_drop, List.zipIdx_map_fst]

theorem getElem?_of_suffix (h : first :: rest <:+ words.zipIdx) :
    words[first.2]? = some first.1 := by
  rw [← List.head?_drop, drop_of_suffix h]
  rfl

theorem drop_succ_of_suffix (h : first :: rest <:+ words.zipIdx) :
    words.drop (first.2 + 1) = rest.map Prod.fst := by
  rw [← List.drop_drop, drop_of_suffix h]
  rfl

theorem length_of_suffix (h : first :: rest <:+ words.zipIdx) :
    words.length = first.2 + 1 + rest.length := by
  have hlength := congrArg List.length (drop_of_suffix h)
  simp only [List.length_drop, List.length_cons, List.length_map] at hlength
  omega

theorem position_second {second : Placed} (h : first :: second :: rest <:+ words.zipIdx) :
    second.2 = first.2 + 1 := by
  have hfirst := length_of_suffix h
  have hsecond := length_of_suffix ((List.suffix_cons first _).trans h)
  rw [List.length_cons] at hfirst
  omega

/-- What the reader leaves unread is an end of the words too. -/
theorem suffix_of_readTree {t : Predicate} (h : readTree levels first rest = .ok (t, unread))
    (hsuffix : first :: rest <:+ words.zipIdx) : unread <:+ words.zipIdx := by
  obtain ⟨taken, heq, -⟩ := spells_of_readTree h
  rw [heq] at hsuffix
  exact (List.suffix_append taken unread).trans hsuffix

/-! ### The reader that goes by positions -/

/-- Why reading by positions stops: for a defect, or because no word stands at the position. -/
inductive Stop where
  | defect (d : Defect)
  | endOfWords (position : Nat)

/-- The predicate that starts at a position, and the position behind it. -/
def readAt (words : List String) (levels position : Nat) : Except Stop (Predicate × Nat) :=
  match levels with
  | 0 => .error (.defect .tooDeep)
  | levels + 1 =>
    match words[position]? with
    | none => .error (.endOfWords position)
    | some word =>
      match Operator.ofName? word with
      | some op =>
        if words.length ≤ position + 1 then .error (.defect (.noOperands op position))
        else do
          let (left, next) ← readAt words levels (position + 1)
          if words.length ≤ next then .error (.defect (.noSecondOperand op position))
          else do
            let (right, next) ← readAt words levels next
            return (.composite op left right, next)
      | none =>
        match Tag.ofName? word with
        | some tag =>
          let operands := (words.drop (position + 1)).takeWhile (!isKeyword ·)
          .ok (.leaf tag (operands.map fun w => .scalar (.ofWord w)),
            position + 1 + operands.length)
        | none => .error (.defect (.notName word position))

/-- The predicate that words spell from the first one on, read by positions. -/
def buildAt (words : List String) : Except Stop (Option Reading) :=
  if words = [] then .ok none
  else do
    let (predicate, next) ← readAt words (maxNesting + 1) 0
    return some ⟨predicate, next, words.length⟩

section Equations

variable {position : Nat}

theorem readAt_notName {w : String} (h : words[position]? = some w) (hplain : isKeyword w = false) :
    readAt words (levels + 1) position = .error (.defect (.notName w position)) := by
  obtain ⟨hoperator, htag⟩ := isKeyword_eq_false_iff.mp hplain
  simp only [readAt, h, hoperator, htag]

theorem readAt_lastOperator {op : Operator} (h : words[position]? = some op.name)
    (hlast : words.length ≤ position + 1) :
    readAt words (levels + 1) position = .error (.defect (.noOperands op position)) := by
  simp only [readAt, h, Operator.ofName?_name]
  rw [if_pos hlast]

theorem readAt_operator {op : Operator} (h : words[position]? = some op.name)
    (hmore : position + 1 < words.length) :
    readAt words (levels + 1) position =
      (readAt words levels (position + 1) >>= fun (left, next) =>
        if words.length ≤ next then .error (.defect (.noSecondOperand op position))
        else readAt words levels next >>= fun (right, next) =>
          .ok (.composite op left right, next)) := by
  rw [readAt, h]
  simp only [Operator.ofName?_name]
  rw [if_neg (by omega)]
  rfl

theorem readAt_tag {tag : Tag} (h : words[position]? = some tag.name) :
    let operands := (words.drop (position + 1)).takeWhile (!isKeyword ·)
    readAt words (levels + 1) position =
      .ok (.leaf tag (operands.map fun w => .scalar (.ofWord w)),
        position + 1 + operands.length) := by
  simp only [readAt, h, Operator.ofName?_tagName, Tag.ofName?_name]

end Equations

/-! ### Agreement of the two readers -/

/-- What the reader of placed words gives, as the reader by positions gives it. -/
def atPositions (words : List String) :
    Except Defect (Predicate × List Placed) → Except Stop (Predicate × Nat)
  | .ok (t, unread) => .ok (t, words.length - unread.length)
  | .error d => .error (.defect d)

/-- The two readers agree wherever they start. -/
def Agree (words : List String) (levels : Nat) : Prop :=
  ∀ first rest, first :: rest <:+ words.zipIdx →
    readAt words levels first.2 = atPositions words (readTree levels first rest)

/-- Behind the operands of a leaf, the number of the words left unread settles the position. -/
theorem readAt_eq_tag {tag : Tag} (hsuffix : first :: rest <:+ words.zipIdx)
    (htag : first.1 = tag.name) :
    readAt words (levels + 1) first.2 = atPositions words (readTree (levels + 1) first rest) := by
  have hword := getElem?_of_suffix hsuffix
  have hlength := length_of_suffix hsuffix
  rw [htag] at hword
  have hoperands : (words.drop (first.2 + 1)).takeWhile (!isKeyword ·) =
      (rest.takeWhile (!isKeyword ·.1)).map Prod.fst := by
    rw [drop_succ_of_suffix hsuffix, List.takeWhile_map]
    rfl
  have hsplit : (rest.takeWhile (!isKeyword ·.1)).length +
      (rest.dropWhile (!isKeyword ·.1)).length = rest.length := by
    rw [← List.length_append, List.takeWhile_append_dropWhile]
  have hnext : words.length - (rest.dropWhile (!isKeyword ·.1)).length =
      first.2 + 1 + (rest.takeWhile (!isKeyword ·.1)).length := by
    omega
  rw [readAt_tag hword, readTree_tag htag, atPositions, hoperands, List.length_map, hnext,
    List.map_map]
  rfl

/-- Behind the first part of an operator, the first word left unread is the one at the position. -/
theorem Agree.readAt_eq_operator (h : Agree words levels) {op : Operator} {second : Placed}
    {others : List Placed} (hsuffix : first :: second :: others <:+ words.zipIdx)
    (hop : first.1 = op.name) :
    readAt words (levels + 1) first.2 =
      atPositions words (readTree (levels + 1) first (second :: others)) := by
  have hword := getElem?_of_suffix hsuffix
  have hlength := length_of_suffix hsuffix
  have hsecond := (List.suffix_cons first _).trans hsuffix
  rw [hop] at hword
  rw [List.length_cons] at hlength
  rw [readAt_operator hword (by omega), readTree_operator hop, ← position_second hsuffix,
    h second others hsecond]
  cases hleft : readTree levels second others with
  | error d => rfl
  | ok result =>
    obtain ⟨left, unread⟩ := result
    have hunread := suffix_of_readTree hleft hsecond
    cases unread with
    | nil => exact if_pos (Nat.le_refl words.length)
    | cons third others' =>
      have hthird := length_of_suffix hunread
      have hnext : words.length - (third :: others').length = third.2 := by
        rw [List.length_cons]
        omega
      show (if words.length ≤ words.length - (third :: others').length then _
        else readAt words levels (words.length - (third :: others').length) >>= _) =
          atPositions words (readTree levels third others' >>= _)
      rw [hnext, if_neg (by omega), h third others' hunread]
      cases readTree levels third others' with
      | error d => rfl
      | ok result => rfl

theorem agree (words : List String) (levels : Nat) : Agree words levels := by
  induction levels with
  | zero => exact fun _ _ _ => rfl
  | succ levels ih =>
    intro first rest hsuffix
    have hword := getElem?_of_suffix hsuffix
    cases hkey : isKeyword first.1 with
    | false =>
      rw [readTree_notName hkey, readAt_notName hword hkey]
      rfl
    | true =>
      rcases isKeyword_iff.mp hkey with ⟨op, hop⟩ | ⟨tag, htag⟩
      · cases rest with
        | nil =>
          rw [hop] at hword
          rw [readTree_lastOperator hop, readAt_lastOperator hword (length_of_suffix hsuffix).le]
          rfl
        | cons second others => exact ih.readAt_eq_operator hsuffix hop
      · exact readAt_eq_tag hsuffix htag

/-- Reading by positions gives what `build` gives, and stops for no other reasons. -/
theorem buildAt_eq (words : List String) :
    buildAt words = (build words).mapError .defect := by
  cases words with
  | nil => rfl
  | cons w ws =>
    have hsuffix : (w, 0) :: ws.zipIdx 1 <:+ (w :: ws).zipIdx := List.suffix_refl _
    rw [buildAt, if_neg (List.cons_ne_nil w ws), build_cons]
    rw [agree (w :: ws) (maxNesting + 1) (w, 0) (ws.zipIdx 1) hsuffix]
    cases readTree (maxNesting + 1) (w, 0) (ws.zipIdx 1) with
    | error d => rfl
    | ok result => rfl

end DiscountPolicy.Expression
