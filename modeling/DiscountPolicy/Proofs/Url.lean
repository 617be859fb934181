import Mathlib.Data.List.DropRight
import DiscountPolicy.Proofs.Prefix
import DiscountPolicy.Url

/-! Where a request to an address goes. The text that names the server begins after the scheme and
its slashes and ends before the next slash, and where the request goes depends on that text and the
scheme alone. -/

namespace DiscountPolicy.Url

/-- The way to a server, and who asks. -/
structure Destination where
  scheme : Scheme
  credentials : Option Credentials
  host : Host
  port : Option UInt16
  deriving DecidableEq, Repr

def destination (u : Url) : Destination := ⟨u.scheme, u.credentials, u.host, u.port⟩

/-! ### The parts of a text -/

def afterColon (cs : List Char) : List Char := (cs.dropWhile (· != ':')).drop 1

/-- The text after the scheme and the slashes that follow it. -/
def afterScheme (cs : List Char) : List Char := (afterColon cs).dropWhile Path.isSlash

/-- The destination for the text of a scheme and the text that names the server. -/
def destinationOf? (name server : List Char) : Option Destination := do
  let scheme ← Scheme.ofName? (String.ofList name)
  let (before, server) := splitCredentials server
  let (host, port) := splitPort false server
  return {
    scheme
    credentials := before.bind Credentials.ofChars?
    host := ← Host.ofChars? host
    port := ← readPort? scheme port }

theorem map_destination_ofText? (s : String) :
    let cs := significant s.toList
    (ofText? s).map destination =
      destinationOf? (cs.takeWhile (· != ':')) ((afterScheme cs).takeWhile (!endsServer ·)) := by
  intro cs
  unfold ofText? destinationOf?
  change Option.map destination (_ >>= fun scheme => _) = _
  cases Scheme.ofName? (String.ofList (cs.takeWhile (· != ':'))) with
  | none => rfl
  | some scheme =>
    simp only [afterScheme, afterColon, Option.bind_eq_bind, Option.bind_some]
    cases Host.ofChars? _ with
    | none => rfl
    | some host => cases readPort? scheme _ <;> rfl

theorem ofText?_congr {s t : String}
    (hscheme : (significant s.toList).takeWhile (· != ':') =
      (significant t.toList).takeWhile (· != ':'))
    (hrest : afterScheme (significant s.toList) = afterScheme (significant t.toList)) :
    ofText? s = ofText? t := by
  unfold afterScheme afterColon at hrest
  unfold ofText?
  simp only [hscheme, hrest]

/-! ### Characters that do not count -/

def isOuter (c : Char) : Bool := c.toNat ≤ 0x20

/-- The text without tabs and line breaks. -/
def clean (cs : List Char) : List Char := cs.filter fun c => c != '\t' && c != '\n' && c != '\r'

theorem significant_eq (cs : List Char) :
    significant cs = clean ((cs.dropWhile isOuter).rdropWhile isOuter) := rfl

theorem clean_append (cs ds : List Char) : clean (cs ++ ds) = clean cs ++ clean ds :=
  List.filter_append cs ds

theorem clean_slash_cons (cs : List Char) : clean ('/' :: cs) = '/' :: clean cs := rfl

theorem significant_append_slash {c : Char} (hc : isOuter c = false) (cs p : List Char) :
    significant (c :: cs ++ '/' :: p) = clean (c :: cs) ++ '/' :: clean (p.rdropWhile isOuter) := by
  rw [significant_eq, List.cons_append, List.dropWhile_cons_of_neg (by simp [hc]),
    ← List.cons_append, rdropWhile_append_cons _ _ (by decide), clean_append, clean_slash_cons]

/-! ### A scheme, what follows it up to some slash, and the rest -/

variable {s t : String} {scheme : Scheme} {before before' rest rest' : List Char}

theorem significant_scheme
    (hs : s.toList = scheme.name.toList ++ ':' :: (before ++ '/' :: rest)) :
    significant s.toList =
      scheme.name.toList ++ ':' :: (clean before ++ '/' :: clean (rest.rdropWhile isOuter)) := by
  rw [hs]
  cases scheme with
  | http => exact significant_append_slash (c := 'h') (by decide) ("ttp:".toList ++ before) rest
  | https => exact significant_append_slash (c := 'h') (by decide) ("ttps:".toList ++ before) rest

theorem takeWhile_scheme (cs : List Char) :
    (scheme.name.toList ++ ':' :: cs).takeWhile (· != ':') = scheme.name.toList := by
  apply takeWhile_append_stops
  · cases scheme <;> simp [Scheme.name]
  · exact Stops.cons _ (by decide)

theorem afterColon_scheme (cs : List Char) :
    afterColon (scheme.name.toList ++ ':' :: cs) = cs := by
  rw [afterColon, dropWhile_append_stops _ (Stops.cons cs (by decide)), List.drop_one, List.tail_cons]
  cases scheme <;> simp [Scheme.name]

theorem afterScheme_scheme (cs : List Char) :
    afterScheme (scheme.name.toList ++ ':' :: cs) = cs.dropWhile Path.isSlash := by
  rw [afterScheme, afterColon_scheme]

/-- The text names a server: it holds a character that counts and is no slash. -/
def Names (cs : List Char) : Prop := ∃ c ∈ clean cs, Path.isSlash c = false

theorem dropWhile_eq_nil_iff_not_names :
    (clean before).dropWhile Path.isSlash = [] ↔ ¬Names before := by
  rw [List.dropWhile_eq_nil_iff, Names]
  push Not
  simp only [ne_eq, Bool.not_eq_false]

/-- If the text before some slash names a server, what follows that slash does not matter. -/
theorem map_destination_congr
    (hs : s.toList = scheme.name.toList ++ ':' :: (before ++ '/' :: rest))
    (ht : t.toList = scheme.name.toList ++ ':' :: (before ++ '/' :: rest')) (h : Names before) :
    (ofText? s).map destination = (ofText? t).map destination := by
  have hserver : ∀ cs, ((clean before ++ '/' :: cs).dropWhile Path.isSlash).takeWhile (!endsServer ·) =
      ((clean before).dropWhile Path.isSlash).takeWhile (!endsServer ·) := by
    intro cs
    have hne : ((clean before).dropWhile Path.isSlash).isEmpty = false := by
      rw [List.isEmpty_eq_false_iff, Ne, dropWhile_eq_nil_iff_not_names]
      exact not_not.mpr h
    rw [List.dropWhile_append, hne, if_neg Bool.false_ne_true]
    exact takeWhile_append_cons _ cs (by decide)
  rw [map_destination_ofText?, map_destination_ofText?, significant_scheme hs, significant_scheme ht]
  simp only [takeWhile_scheme, afterScheme_scheme, hserver]

/-- If it names none, the server is read off what follows the slash. -/
theorem ofText?_eq_of_not_names
    (hs : s.toList = scheme.name.toList ++ ':' :: (before ++ '/' :: rest))
    (ht : t.toList = scheme.name.toList ++ ':' :: (before' ++ '/' :: rest)) (h : ¬Names before)
    (h' : ¬Names before') : ofText? s = ofText? t := by
  have hskip : ∀ {cs}, ¬Names cs → ∀ ds, (clean cs ++ ds).dropWhile Path.isSlash =
      ds.dropWhile Path.isSlash := by
    intro cs hcs ds
    rw [List.dropWhile_append, dropWhile_eq_nil_iff_not_names.mpr hcs]
    rfl
  apply ofText?_congr
  · rw [significant_scheme hs, significant_scheme ht, takeWhile_scheme, takeWhile_scheme]
  · rw [significant_scheme hs, significant_scheme ht, afterScheme_scheme, afterScheme_scheme,
      hskip h, hskip h']

end DiscountPolicy.Url
