import DiscountPolicy.Url.Domain
import DiscountPolicy.Url.Ipv4
import DiscountPolicy.Url.Ipv6
import DiscountPolicy.Url.Percent

/-! Servers, by name or by address. -/

namespace DiscountPolicy

/-- A server: its name, as labels in ASCII, or its address. -/
inductive Host where
  | domain (labels : List (List Char))
  | ipv4 (address : Ipv4)
  | ipv6 (address : Ipv6)
  deriving DecidableEq, Repr

namespace Host

/-- The server that a text names. An address of 128 bits stands in brackets; a name whose last label
is a number has to be an address of 32 bits. A name may have percent escapes, and is not empty. -/
def ofChars? : List Char → Option Host
  | '[' :: rest =>
    if rest.getLast? = some ']' then (Ipv6.ofChars? rest.dropLast).map .ipv6 else none
  | cs => do
    let labels := (← Domain.labels? (← Percent.unescape? cs)).map Label.ascii
    if Domain.name labels = [] then none
    else if Ipv4.isMeant labels then (Ipv4.ofParts? labels).map .ipv4
    else some (.domain labels)

def chars : Host → List Char
  | .domain labels => Domain.name labels
  | .ipv4 a => a.chars
  | .ipv6 a => '[' :: (a.chars ++ [']'])

end Host

end DiscountPolicy
