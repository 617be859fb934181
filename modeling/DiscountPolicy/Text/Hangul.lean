/-! Syllables of the Korean script, which are composed of letters by a rule: a leading consonant, a
vowel, and a trailing consonant that may be missing. -/

namespace DiscountPolicy.Text.Hangul

/-- The code of the first syllable. -/
def syllables : Nat := 0xAC00

/-- The code of the first leading consonant. -/
def leads : Nat := 0x1100

/-- The code of the first vowel. -/
def vowels : Nat := 0x1161

/-- The code that stands for no trailing consonant; the first one has the next code. -/
def tails : Nat := 0x11A7

/-- The number of vowels. -/
def vowelCount : Nat := 21

/-- The number of trailing consonants, with none as one of them. -/
def tailCount : Nat := 28

/-- The number of syllables: there are 19 leading consonants. -/
def syllableCount : Nat := 19 * vowelCount * tailCount

/-- The letters of a syllable. -/
def decompose? (c : Char) : Option (List Char) :=
  let n := c.toNat - syllables
  if syllables ≤ c.toNat ∧ n < syllableCount then
    let tail := n % tailCount
    let pair := n / tailCount
    some (Char.ofNat (leads + pair / vowelCount) :: Char.ofNat (vowels + pair % vowelCount) ::
      if tail = 0 then [] else [Char.ofNat (tails + tail)])
  else none

/-- The syllable of a leading consonant and a vowel, or of a syllable without a trailing consonant
and such a consonant. -/
def compose? (a b : Char) : Option Char :=
  let lead := a.toNat - leads
  let vowel := b.toNat - vowels
  let n := a.toNat - syllables
  let tail := b.toNat - tails
  if leads ≤ a.toNat ∧ lead < 19 ∧ vowels ≤ b.toNat ∧ vowel < vowelCount then
    some (Char.ofNat (syllables + (lead * vowelCount + vowel) * tailCount))
  else if syllables ≤ a.toNat ∧ n < syllableCount ∧ n % tailCount = 0 ∧
      tails < b.toNat ∧ tail < tailCount then
    some (Char.ofNat (a.toNat + tail))
  else none

end DiscountPolicy.Text.Hangul
