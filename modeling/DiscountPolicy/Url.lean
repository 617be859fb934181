import DiscountPolicy.Url.Host
import DiscountPolicy.Url.Path

/-! Addresses of what is asked of a server. Reading an address is lenient: blanks around it and line
breaks in it do not count, backslashes are slashes, and characters that may not stand in a part are
escaped there. What is read is written in one way only. -/

namespace DiscountPolicy

inductive Scheme where
  | http
  | https
  deriving DecidableEq, Repr

namespace Scheme

def name : Scheme → String
  | .http => "http"
  | .https => "https"

/-- The scheme of a name, in letters of either case. -/
def ofName? (name : String) : Option Scheme :=
  [Scheme.http, .https].find? (·.name == name.toLower)

/-- The port that is meant when an address names none. -/
def port : Scheme → UInt16
  | .http => 80
  | .https => 443

end Scheme

/-- Who asks: a name and a password, which may be empty. -/
structure Credentials where
  name : List Char
  password : List Char
  deriving DecidableEq, Repr

/-- The credentials of a text with a colon before the password. None if the name is no text, or if
both are empty; a password that is no text counts as empty. -/
def Credentials.ofChars? (cs : List Char) : Option Credentials := do
  let name ← Percent.unescape? (cs.takeWhile (· != ':'))
  let password := (Percent.unescape? ((cs.dropWhile (· != ':')).drop 1)).getD []
  if name = [] ∧ password = [] then none else some ⟨name, password⟩

/-- An address: the way to a server, who asks, the server, a port other than the usual one, the path
with its slashes, and what follows the question mark and the number sign. -/
structure Url where
  scheme : Scheme
  credentials : Option Credentials
  host : Host
  port : Option UInt16
  path : List Char
  query : Option (List Char)
  fragment : Option (List Char)
  deriving DecidableEq, Repr

namespace Url

/-- The characters that count in an address: all but spaces and control characters at its ends, and
tabs and line breaks anywhere. -/
def significant (cs : List Char) : List Char :=
  let isOuter (c : Char) : Bool := c.toNat ≤ 0x20
  let inner := ((cs.dropWhile isOuter).reverse.dropWhile isOuter).reverse
  inner.filter fun c => c != '\t' && c != '\n' && c != '\r'

/-- The character ends the part of an address that names the server. -/
def endsServer (c : Char) : Bool := Path.isSlash c || c == '?' || c == '#'

/-- What stands before the last at sign, if there is one, and what follows it. -/
def splitCredentials : List Char → Option (List Char) × List Char
  | [] => (none, [])
  | c :: cs =>
    match splitCredentials cs with
    | (some before, after) => (some (c :: before), after)
    | (none, after) => if c = '@' then (some [], after) else (none, c :: after)

/-- What stands before and after the first colon; colons between brackets do not count. -/
def splitPort (bracketed : Bool) : List Char → List Char × List Char
  | [] => ([], [])
  | c :: cs =>
    if c = ':' ∧ !bracketed then ([], cs)
    else
      let (host, port) := splitPort (c = '[' || (bracketed && c != ']')) cs
      (c :: host, port)

/-- The port that digits spell, at most 65535. No digits, and the scheme's usual port, are none. -/
def readPort? (scheme : Scheme) (cs : List Char) : Option (Option UInt16) :=
  let n := Nat.ofDigitChars 10 cs 0
  if cs.all Char.isDigit ∧ n < 0x10000 then
    some (if cs = [] ∨ n = scheme.port.toNat then none else some n.toUInt16)
  else none

/-- The ASCII characters that are escaped in a query. -/
def escapedInQuery : List Char := " \"#<>'".toList

/-- The ASCII characters that are escaped in a fragment. -/
def escapedInFragment : List Char := " \"<>`".toList

/-- The text after a mark that starts it, escaped. -/
def readAfter (mark : Char) (escaped : List Char) : List Char → Option (List Char)
  | [] => none
  | c :: cs => if c = mark then some (Percent.escape escaped cs) else none

/-- The address that a text spells, absolute and of a known scheme. Any number of slashes may follow
the scheme. -/
def ofText? (s : String) : Option Url := do
  let cs := significant s.toList
  let scheme ← Scheme.ofName? (String.ofList (cs.takeWhile (· != ':')))
  let cs := ((cs.dropWhile (· != ':')).drop 1).dropWhile Path.isSlash
  let (before, server) := splitCredentials (cs.takeWhile (!endsServer ·))
  let (host, port) := splitPort false server
  let rest := cs.dropWhile (!endsServer ·)
  let isMark (c : Char) : Bool := c == '?' || c == '#'
  let marked := rest.dropWhile (!isMark ·)
  return {
    scheme
    credentials := before.bind Credentials.ofChars?
    host := ← Host.ofChars? host
    port := ← readPort? scheme port
    path := Path.ofChars (rest.takeWhile (!isMark ·))
    query := readAfter '?' escapedInQuery (marked.takeWhile (· != '#'))
    fragment := readAfter '#' escapedInFragment (marked.dropWhile (· != '#')) }

/-- The server with its port. -/
def authority (u : Url) : List Char :=
  u.host.chars ++ (u.port.elim [] fun p => ':' :: Nat.toDigits 10 p.toNat)

/-- What is asked of the server: the path and the query. -/
def target (u : Url) : List Char := u.path ++ u.query.elim [] ('?' :: ·)

/-- An address as it is written, without who asks. -/
def chars (u : Url) : List Char :=
  u.scheme.name.toList ++ "://".toList ++ u.authority ++ u.target ++ u.fragment.elim [] ('#' :: ·)

end Url

end DiscountPolicy
