/-! Stores of bearer tokens. A store that is shared and the one that it was shared from hold one
token between them, so a token that is set or cleared in one of them is set or cleared in both. -/

namespace DiscountPolicy

/-- The stores that were created, counted from 0: the tokens that are held, and for each store the
place of its token among them. -/
structure TokenStores where
  tokens : List (Option String) := []
  places : List Nat := []
  deriving DecidableEq, Repr

namespace TokenStores

def empty : TokenStores := {}

def size (s : TokenStores) : Nat := s.places.length

/-- The token of a store; none for a store that is empty or does not exist. -/
def get (s : TokenStores) (store : Nat) : Option String :=
  ((s.places[store]?).bind (s.tokens[·]?)).join

/-- One more store, with a token of its own. -/
def create (s : TokenStores) (token : Option String) : TokenStores :=
  ⟨s.tokens ++ [token], s.places ++ [s.tokens.length]⟩

/-- One more store, which holds its token together with a given one. -/
def share (s : TokenStores) (store : Nat) : TokenStores :=
  match s.places[store]? with
  | some place => { s with places := s.places ++ [place] }
  | none => s

/-- Sets the token of a store, or clears it. -/
def put (s : TokenStores) (store : Nat) (token : Option String) : TokenStores :=
  match s.places[store]? with
  | some place => { s with tokens := s.tokens.set place token }
  | none => s

def all (s : TokenStores) : List (Option String) := (List.range s.size).map s.get

end TokenStores

end DiscountPolicy
