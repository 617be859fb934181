import DiscountPolicy.Text.CombiningClass
import DiscountPolicy.Text.Hangul

/-! The composed form of a text. Many letters with marks are characters of their own, and may also
be written as the letter and its marks, in any order of marks that do not touch each other. The
composed form takes all characters apart, puts the marks in order, and composes what it can. -/

namespace DiscountPolicy.Text

/-- Characters and what they are composed of: a character without marks and then marks in their
order. Capital letters are left out. -/
def compositions : List Run :=
  [.ofText 0xE0 1 "a\u0300 a\u0301 a\u0302 a\u0303 a\u0308 a\u030a",
   .ofText 0xE7 1 "c\u0327 e\u0300 e\u0301 e\u0302 e\u0308 i\u0300 i\u0301 i\u0302 i\u0308",
   .ofText 0xF1 1 "n\u0303 o\u0300 o\u0301 o\u0302 o\u0303 o\u0308",
   .ofText 0xF9 1 "u\u0300 u\u0301 u\u0302 u\u0308 y\u0301",
   .ofText 0xFF 2 "y\u0308 a\u0304 a\u0306 a\u0328 c\u0301 c\u0302 c\u0307 c\u030c d\u030c",
   .ofText 0x113 2 "e\u0304 e\u0306 e\u0307 e\u0328 e\u030c g\u0302 g\u0306 g\u0307 g\u0327",
   .ofText 0x125 2 "h\u0302", .ofText 0x129 2 "i\u0303 i\u0304 i\u0306 i\u0328",
   .ofText 0x135 2 "j\u0302 k\u0327", .ofText 0x13A 2 "l\u0301 l\u0327 l\u030c",
   .ofText 0x144 2 "n\u0301 n\u0327 n\u030c", .ofText 0x14D 2 "o\u0304 o\u0306 o\u030b",
   .ofText 0x155 2 "r\u0301 r\u0327 r\u030c s\u0301 s\u0302 s\u0327 s\u030c t\u0327 t\u030c",
   .ofText 0x169 2 "u\u0303 u\u0304 u\u0306 u\u030a u\u030b u\u0328 w\u0302 y\u0302",
   .ofText 0x17A 2 "z\u0301 z\u0307 z\u030c", .ofText 0x1A1 1 "o\u031b", .ofText 0x1B0 1 "u\u031b",
   .ofText 0x1CE 2 "a\u030c i\u030c o\u030c u\u030c u\u0308\u0304 u\u0308\u0301 u\u0308\u030c",
   .ofText 0x1DC 2 "u\u0308\u0300", .ofText 0x1DF 2 "a\u0308\u0304 a\u0307\u0304 æ\u0304",
   .ofText 0x1E7 2 "g\u030c k\u030c o\u0328 o\u0328\u0304 ʒ\u030c", .ofText 0x1F0 1 "j\u030c",
   .ofText 0x1F5 1 "g\u0301",
   .ofText 0x1F9 2 "n\u0300 a\u030a\u0301 æ\u0301 ø\u0301 a\u030f a\u0311 e\u030f e\u0311 i\u030f",
   .ofText 0x20B 2 "i\u0311 o\u030f o\u0311 r\u030f r\u0311 u\u030f u\u0311 s\u0326 t\u0326",
   .ofText 0x21F 1 "h\u030c",
   .ofText 0x227 2 "a\u0307 e\u0327 o\u0308\u0304 o\u0303\u0304 o\u0307 o\u0307\u0304 y\u0304",
   .ofText 0x390 1 "ι\u0308\u0301", .ofText 0x3AC 1 "α\u0301 ε\u0301 η\u0301 ι\u0301 υ\u0308\u0301",
   .ofText 0x3CA 1 "ι\u0308 υ\u0308 ο\u0301 υ\u0301 ω\u0301", .ofText 0x439 1 "и\u0306",
   .ofText 0x450 1 "е\u0300 е\u0308", .ofText 0x453 1 "г\u0301", .ofText 0x457 1 "і\u0308",
   .ofText 0x45C 1 "к\u0301 и\u0300 у\u0306", .ofText 0x477 1 "ѵ\u030f", .ofText 0x4C2 1 "ж\u0306",
   .ofText 0x4D1 2 "а\u0306 а\u0308", .ofText 0x4D7 1 "е\u0306",
   .ofText 0x4DB 2 "ә\u0308 ж\u0308 з\u0308", .ofText 0x4E3 2 "и\u0304 и\u0308 о\u0308",
   .ofText 0x4EB 2 "ө\u0308 э\u0308 у\u0304 у\u0308 у\u030b ч\u0308", .ofText 0x4F9 1 "ы\u0308",
   .ofText 0x622 1 "\u0627\u0653 \u0627\u0654 \u0648\u0654 \u0627\u0655 \u064a\u0654",
   .ofText 0x6C0 2 "\u06d5\u0654 \u06c1\u0654", .ofText 0x6D3 1 "\u06d2\u0654",
   .ofText 0x929 1 "न\u093c", .ofText 0x931 1 "र\u093c", .ofText 0x934 1 "ळ\u093c",
   .ofText 0x9CB 1 "\u09c7\u09be \u09c7\u09d7", .ofText 0xB48 1 "\u0b47\u0b56",
   .ofText 0xB4B 1 "\u0b47\u0b3e \u0b47\u0b57", .ofText 0xB94 1 "ஒ\u0bd7",
   .ofText 0xBCA 1 "\u0bc6\u0bbe \u0bc7\u0bbe \u0bc6\u0bd7", .ofText 0xC48 1 "\u0c46\u0c56",
   .ofText 0xCC0 1 "\u0cbf\u0cd5", .ofText 0xCC7 1 "\u0cc6\u0cd5 \u0cc6\u0cd6",
   .ofText 0xCCA 1 "\u0cc6\u0cc2 \u0cc6\u0cc2\u0cd5",
   .ofText 0xD4A 1 "\u0d46\u0d3e \u0d47\u0d3e \u0d46\u0d57",
   .ofText 0xDDA 2 "\u0dd9\u0dca \u0dd9\u0dcf", .ofText 0xDDD 1 "\u0dd9\u0dcf\u0dca \u0dd9\u0ddf",
   .ofText 0x1026 1 "ဥ\u102e", .ofText 0x1B06 2 "ᬅ\u1b35 ᬇ\u1b35 ᬉ\u1b35 ᬋ\u1b35 ᬍ\u1b35",
   .ofText 0x1B12 1 "ᬑ\u1b35", .ofText 0x1B3B 2 "\u1b3a\u1b35 \u1b3c\u1b35",
   .ofText 0x1B40 1 "\u1b3e\u1b35 \u1b3f\u1b35", .ofText 0x1B43 1 "\u1b42\u1b35",
   .ofText 0x1E01 2 "a\u0325 b\u0307 b\u0323 b\u0331 c\u0327\u0301 d\u0307 d\u0323 d\u0331 d\u0327",
   .ofText 0x1E13 2 "d\u032d e\u0304\u0300 e\u0304\u0301 e\u032d e\u0330 e\u0327\u0306 f\u0307",
   .ofText 0x1E21 2 "g\u0304 h\u0307 h\u0323 h\u0308 h\u0327 h\u032e i\u0330 i\u0308\u0301 k\u0301",
   .ofText 0x1E33 2 "k\u0323 k\u0331 l\u0323 l\u0323\u0304 l\u0331 l\u032d m\u0301 m\u0307 m\u0323",
   .ofText 0x1E45 2 "n\u0307 n\u0323 n\u0331 n\u032d o\u0303\u0301 o\u0303\u0308 o\u0304\u0300",
   .ofText 0x1E53 2 "o\u0304\u0301 p\u0301 p\u0307 r\u0307 r\u0323 r\u0323\u0304 r\u0331 s\u0307",
   .ofText 0x1E63 2 "s\u0323 s\u0301\u0307 s\u030c\u0307 s\u0323\u0307 t\u0307 t\u0323 t\u0331",
   .ofText 0x1E71 2 "t\u032d u\u0324 u\u0330 u\u032d u\u0303\u0301 u\u0304\u0308 v\u0303 v\u0323",
   .ofText 0x1E81 2 "w\u0300 w\u0301 w\u0308 w\u0307 w\u0323 x\u0307 x\u0308 y\u0307 z\u0302",
   .ofText 0x1E93 2 "z\u0323 z\u0331", .ofText 0x1E96 1 "h\u0331 t\u0308 w\u030a y\u030a",
   .ofText 0x1EA1 2 "a\u0323 a\u0309 a\u0302\u0301 a\u0302\u0300 a\u0302\u0309 a\u0302\u0303",
   .ofText 0x1EAD 2 "a\u0323\u0302 a\u0306\u0301 a\u0306\u0300 a\u0306\u0309 a\u0306\u0303",
   .ofText 0x1EB7 2 "a\u0323\u0306 e\u0323 e\u0309 e\u0303 e\u0302\u0301 e\u0302\u0300",
   .ofText 0x1EC3 2 "e\u0302\u0309 e\u0302\u0303 e\u0323\u0302 i\u0309 i\u0323 o\u0323 o\u0309",
   .ofText 0x1ED1 2 "o\u0302\u0301 o\u0302\u0300 o\u0302\u0309 o\u0302\u0303 o\u0323\u0302",
   .ofText 0x1EDB 2 "o\u031b\u0301 o\u031b\u0300 o\u031b\u0309 o\u031b\u0303 o\u031b\u0323 u\u0323",
   .ofText 0x1EE7 2 "u\u0309 u\u031b\u0301 u\u031b\u0300 u\u031b\u0309 u\u031b\u0303 u\u031b\u0323",
   .ofText 0x1EF3 2 "y\u0300 y\u0323 y\u0309 y\u0303",
   .ofText 0x1F00 1 "α\u0313 α\u0314 α\u0313\u0300 α\u0314\u0300 α\u0313\u0301 α\u0314\u0301",
   .ofText 0x1F06 1 "α\u0313\u0342 α\u0314\u0342",
   .ofText 0x1F10 1 "ε\u0313 ε\u0314 ε\u0313\u0300 ε\u0314\u0300 ε\u0313\u0301 ε\u0314\u0301",
   .ofText 0x1F20 1 "η\u0313 η\u0314 η\u0313\u0300 η\u0314\u0300 η\u0313\u0301 η\u0314\u0301",
   .ofText 0x1F26 1 "η\u0313\u0342 η\u0314\u0342",
   .ofText 0x1F30 1 "ι\u0313 ι\u0314 ι\u0313\u0300 ι\u0314\u0300 ι\u0313\u0301 ι\u0314\u0301",
   .ofText 0x1F36 1 "ι\u0313\u0342 ι\u0314\u0342",
   .ofText 0x1F40 1 "ο\u0313 ο\u0314 ο\u0313\u0300 ο\u0314\u0300 ο\u0313\u0301 ο\u0314\u0301",
   .ofText 0x1F50 1 "υ\u0313 υ\u0314 υ\u0313\u0300 υ\u0314\u0300 υ\u0313\u0301 υ\u0314\u0301",
   .ofText 0x1F56 1 "υ\u0313\u0342 υ\u0314\u0342",
   .ofText 0x1F60 1 "ω\u0313 ω\u0314 ω\u0313\u0300 ω\u0314\u0300 ω\u0313\u0301 ω\u0314\u0301",
   .ofText 0x1F66 1 "ω\u0313\u0342 ω\u0314\u0342",
   .ofText 0x1F70 2 "α\u0300 ε\u0300 η\u0300 ι\u0300 ο\u0300 υ\u0300 ω\u0300",
   .ofText 0x1FB0 1 "α\u0306 α\u0304", .ofText 0x1FB6 1 "α\u0342", .ofText 0x1FC6 1 "η\u0342",
   .ofText 0x1FD0 1 "ι\u0306 ι\u0304 ι\u0308\u0300", .ofText 0x1FD6 1 "ι\u0342 ι\u0308\u0342",
   .ofText 0x1FE0 1 "υ\u0306 υ\u0304 υ\u0308\u0300",
   .ofText 0x1FE4 1 "ρ\u0313 ρ\u0314 υ\u0342 υ\u0308\u0342", .ofText 0x1FF6 1 "ω\u0342",
   .ofText 0x219A 1 "←\u0338 →\u0338", .ofText 0x21AE 1 "↔\u0338",
   .ofText 0x21CD 1 "⇐\u0338 ⇔\u0338 ⇒\u0338", .ofText 0x2204 1 "∃\u0338",
   .ofText 0x2209 1 "∈\u0338", .ofText 0x220C 1 "∋\u0338", .ofText 0x2224 2 "∣\u0338 ∥\u0338",
   .ofText 0x2241 1 "∼\u0338", .ofText 0x2244 1 "≃\u0338", .ofText 0x2247 2 "≅\u0338 ≈\u0338",
   .ofText 0x2260 2 "=\u0338 ≡\u0338", .ofText 0x226D 1 "≍\u0338 <\u0338 >\u0338 ≤\u0338 ≥\u0338",
   .ofText 0x2274 1 "≲\u0338 ≳\u0338", .ofText 0x2278 1 "≶\u0338 ≷\u0338",
   .ofText 0x2280 1 "≺\u0338 ≻\u0338", .ofText 0x2284 1 "⊂\u0338 ⊃\u0338",
   .ofText 0x2288 1 "⊆\u0338 ⊇\u0338", .ofText 0x22AC 1 "⊢\u0338 ⊨\u0338 ⊩\u0338 ⊫\u0338",
   .ofText 0x22E0 1 "≼\u0338 ≽\u0338 ⊑\u0338 ⊒\u0338",
   .ofText 0x22EA 1 "⊲\u0338 ⊳\u0338 ⊴\u0338 ⊵\u0338",
   .ofText 0x304C 2 "か\u3099 き\u3099 く\u3099 け\u3099 こ\u3099 さ\u3099 し\u3099 す\u3099 せ\u3099",
   .ofText 0x305E 2 "そ\u3099 た\u3099 ち\u3099", .ofText 0x3065 2 "つ\u3099 て\u3099 と\u3099",
   .ofText 0x3070 1 "は\u3099 は\u309a", .ofText 0x3073 1 "ひ\u3099 ひ\u309a",
   .ofText 0x3076 1 "ふ\u3099 ふ\u309a", .ofText 0x3079 1 "へ\u3099 へ\u309a",
   .ofText 0x307C 1 "ほ\u3099 ほ\u309a", .ofText 0x3094 1 "う\u3099", .ofText 0x309E 1 "ゝ\u3099",
   .ofText 0x30AC 2 "カ\u3099 キ\u3099 ク\u3099 ケ\u3099 コ\u3099 サ\u3099 シ\u3099 ス\u3099 セ\u3099",
   .ofText 0x30BE 2 "ソ\u3099 タ\u3099 チ\u3099", .ofText 0x30C5 2 "ツ\u3099 テ\u3099 ト\u3099",
   .ofText 0x30D0 1 "ハ\u3099 ハ\u309a", .ofText 0x30D3 1 "ヒ\u3099 ヒ\u309a",
   .ofText 0x30D6 1 "フ\u3099 フ\u309a", .ofText 0x30D9 1 "ヘ\u3099 ヘ\u309a",
   .ofText 0x30DC 1 "ホ\u3099 ホ\u309a", .ofText 0x30F4 1 "ウ\u3099",
   .ofText 0x30F7 1 "ワ\u3099 ヰ\u3099 ヱ\u3099 ヲ\u3099", .ofText 0x30FE 1 "ヽ\u3099",
   .ofText 0x105C9 1 "𐗒\u0307", .ofText 0x105E4 1 "𐗚\u0307", .ofText 0x1109A 2 "𑂚 𑂜",
   .ofText 0x110AB 1 "𑂫", .ofText 0x1112E 1 "𑄮 𑄯", .ofText 0x1134B 1 "𑍋 𑍌",
   .ofText 0x11383 2 "𑎃 𑎅", .ofText 0x1138E 1 "𑎎", .ofText 0x11391 1 "𑎑",
   .ofText 0x113C5 2 "𑏅 𑏇", .ofText 0x113C8 1 "𑏈", .ofText 0x114BB 1 "𑒻 𑒼",
   .ofText 0x114BE 1 "𑒾", .ofText 0x115BA 1 "𑖺 𑖻", .ofText 0x11938 1 "𑤸",
   .ofText 0x16121 1 "𖄡 𖄢 𖄣 𖄤 𖄥 𖄦 𖄧 𖄨", .ofText 0x16D68 1 "𖵨 𖵩 𖵪"]

/-- What a character is composed of; itself if it is not composed. -/
def decomposeChar (c : Char) : List Char :=
  if c.toNat < 0xC0 then [c]
  else ((Hangul.decompose? c).orElse fun _ => textIn? compositions c).getD [c]

/-- Puts a character before others. It goes behind the marks there that belong before it, which are
those of smaller classes. -/
def place (c : Char) : List Char → List Char
  | [] => [c]
  | d :: ds =>
    if combiningClass d ≠ 0 ∧ combiningClass d < combiningClass c then d :: place c ds
    else c :: d :: ds

/-- The text with all characters taken apart and the marks in order. -/
def decompose (cs : List Char) : List Char := (cs.flatMap decomposeChar).foldr place []

/-- The character that is composed of a character and a mark. -/
def composePair? (c mark : Char) : Option Char :=
  if mark.toNat < 0x300 then none
  else (Hangul.compose? c mark).orElse fun _ => charIn? compositions (decomposeChar c ++ [mark])

/-- The character does not reach its base over the marks between them, of which the last one comes
first: that one is of the same class or of a greater one. -/
def isBlocked (between : List Char) (c : Char) : Bool :=
  between.head?.any (combiningClass c ≤ combiningClass ·)

/-- The composed form of a base, marks that stay, of which the last one comes first, and a text that
is taken apart. -/
def composeFrom (base : Char) (marks : List Char) : List Char → List Char
  | [] => base :: marks.reverse
  | c :: cs =>
    match if isBlocked marks c then none else composePair? base c with
    | some whole => composeFrom whole marks cs
    | none =>
      if combiningClass c = 0 then base :: (marks.reverse ++ composeFrom c [] cs)
      else composeFrom base (c :: marks) cs

/-- The composed form of a text that is taken apart. Marks at its start have no base. -/
def composeMarks : List Char → List Char
  | [] => []
  | c :: cs => if combiningClass c = 0 then composeFrom c [] cs else c :: composeMarks cs

/-- The composed form of a text. -/
def compose (cs : List Char) : List Char := composeMarks (decompose cs)

end DiscountPolicy.Text
