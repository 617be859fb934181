import DiscountPolicy.Text.Table

/-! The forms in which characters count in names of servers: small letters for capital ones, plain
characters for wide, raised, circled and otherwise varied ones, and the parts of ligatures and
abbreviations. Some characters do not count, and some are refused. -/

namespace DiscountPolicy.Domain

open Text

/-- The forms of characters beyond ASCII that have another form than their own. -/
def forms : List Run :=
  [.ofText 0xAA 1 "a", .ofText 0xB2 1 "2 3", .ofText 0xB5 1 "μ", .ofText 0xB9 1 "1 o",
   .ofText 0xBC 1 "1⁄4 1⁄2 3⁄4", .ofText 0xC0 1 "à á â ã ä å æ ç è é ê ë ì í î ï ð ñ ò ó ô õ ö",
   .ofText 0xD8 1 "ø ù ú û ü ý þ",
   .ofText 0x100 2 "ā ă ą ć ĉ ċ č ď đ ē ĕ ė ę ě ĝ ğ ġ ģ ĥ ħ ĩ ī ĭ į i\u0307 ij",
   .ofText 0x133 1 "ij ĵ", .ofText 0x136 1 "ķ", .ofText 0x139 2 "ĺ ļ ľ l·", .ofText 0x140 1 "l· ł",
   .ofText 0x143 2 "ń ņ ň ʼn", .ofText 0x14A 2 "ŋ ō ŏ ő œ ŕ ŗ ř ś ŝ ş š ţ ť ŧ ũ ū ŭ ů ű ų ŵ ŷ ÿ",
   .ofText 0x179 2 "ź ż ž s ɓ", .ofText 0x182 2 "ƃ ƅ ɔ", .ofText 0x187 2 "ƈ ɖ",
   .ofText 0x18A 1 "ɗ ƌ", .ofText 0x18E 1 "ǝ ə ɛ ƒ", .ofText 0x193 1 "ɠ ɣ", .ofText 0x196 1 "ɩ ɨ ƙ",
   .ofText 0x19C 1 "ɯ ɲ", .ofText 0x19F 1 "ɵ ơ", .ofText 0x1A2 2 "ƣ ƥ ʀ", .ofText 0x1A7 2 "ƨ ʃ",
   .ofText 0x1AC 2 "ƭ ʈ", .ofText 0x1AF 2 "ư ʊ", .ofText 0x1B2 1 "ʋ ƴ", .ofText 0x1B5 2 "ƶ ʒ",
   .ofText 0x1B8 1 "ƹ", .ofText 0x1BC 1 "ƽ", .ofText 0x1C4 1 "dž dž dž lj lj lj nj nj nj ǎ",
   .ofText 0x1CF 2 "ǐ ǒ ǔ ǖ ǘ ǚ ǜ", .ofText 0x1DE 2 "ǟ ǡ ǣ ǥ ǧ ǩ ǫ ǭ ǯ",
   .ofText 0x1F1 1 "dz dz dz ǵ", .ofText 0x1F6 1 "ƕ ƿ ǹ",
   .ofText 0x1FA 2 "ǻ ǽ ǿ ȁ ȃ ȅ ȇ ȉ ȋ ȍ ȏ ȑ ȓ ȕ ȗ ș ț ȝ ȟ ƞ ȣ ȥ ȧ ȩ ȫ ȭ ȯ ȱ ȳ",
   .ofText 0x23A 1 "ⱥ ȼ", .ofText 0x23D 1 "ƚ ⱦ", .ofText 0x241 2 "ɂ ƀ", .ofText 0x244 1 "ʉ ʌ ɇ",
   .ofText 0x248 2 "ɉ ɋ ɍ ɏ", .ofText 0x2B0 1 "h ɦ j r ɹ ɻ ʁ w y", .ofText 0x2E0 1 "ɣ l s x ʕ",
   .ofText 0x340 1 "\u0300 \u0301", .ofText 0x343 1 "\u0313 \u0308\u0301 ι",
   .ofText 0x370 2 "ͱ ͳ ʹ ͷ", .ofText 0x37E 1 "; ϳ", .ofText 0x386 1 "ά · έ ή ί",
   .ofText 0x38C 2 "ό ύ", .ofText 0x38F 2 "ώ α", .ofText 0x392 1 "β γ δ ε ζ η θ ι κ λ μ ν ξ ο π ρ",
   .ofText 0x3A3 1 "σ τ υ φ χ ψ ω ϊ ϋ", .ofText 0x3CF 1 "ϗ β θ υ ύ ϋ φ π",
   .ofText 0x3D8 2 "ϙ ϛ ϝ ϟ ϡ ϣ ϥ ϧ ϩ ϫ ϭ ϯ κ", .ofText 0x3F1 1 "ρ σ", .ofText 0x3F4 1 "θ ε",
   .ofText 0x3F7 2 "ϸ σ", .ofText 0x3FA 1 "ϻ",
   .ofText 0x3FD 1 "ͻ ͼ ͽ ѐ ё ђ ѓ є ѕ і ї ј љ њ ћ ќ ѝ ў џ а б в г д е ж з и й к л м н о п р с т у",
   .ofText 0x424 1 "ф х ц ч ш щ ъ ы ь э ю я", .ofText 0x460 2 "ѡ ѣ ѥ ѧ ѩ ѫ ѭ ѯ ѱ ѳ ѵ ѷ ѹ ѻ ѽ ѿ ҁ",
   .ofText 0x48A 2 "ҋ ҍ ҏ ґ ғ ҕ җ ҙ қ ҝ ҟ ҡ ң ҥ ҧ ҩ ҫ ҭ ү ұ ҳ ҵ ҷ ҹ һ ҽ ҿ ӏ",
   .ofText 0x4C1 2 "ӂ ӄ ӆ ӈ ӊ ӌ ӎ",
   .ofText 0x4D0 2 "ӑ ӓ ӕ ӗ ә ӛ ӝ ӟ ӡ ӣ ӥ ӧ ө ӫ ӭ ӯ ӱ ӳ ӵ ӷ ӹ ӻ ӽ ӿ ԁ ԃ ԅ ԇ ԉ ԋ ԍ ԏ ԑ ԓ ԕ ԗ ԙ ԛ ԝ",
   .ofText 0x51E 2 "ԟ ԡ ԣ ԥ ԧ ԩ ԫ ԭ ԯ",
   .ofText 0x531 1 "ա բ գ դ ե զ է ը թ ժ ի լ խ ծ կ հ ձ ղ ճ մ յ ն շ ո չ պ ջ ռ ս վ տ ր ց ւ փ ք օ ֆ",
   .ofText 0x558 1 "է", .ofText 0x587 1 "եւ", .ofText 0x58B 1 "ի յ",
   .ofText 0x675 1 "\u0627\u0674 \u0648\u0674 \u06c7\u0674 \u064a\u0674",
   .ofText 0x958 1 "क\u093c ख\u093c ग\u093c ज\u093c ड\u093c ढ\u093c फ\u093c य\u093c",
   .ofText 0x9DC 1 "ড\u09bc ঢ\u09bc", .ofText 0x9DF 1 "য\u09bc", .ofText 0xA33 1 "ਲ\u0a3c",
   .ofText 0xA36 1 "ਸ\u0a3c", .ofText 0xA59 1 "ਖ\u0a3c ਗ\u0a3c ਜ\u0a3c", .ofText 0xA5E 1 "ਫ\u0a3c",
   .ofText 0xB5C 1 "ଡ\u0b3c ଢ\u0b3c", .ofText 0xE33 1 "\u0e4dา", .ofText 0xEB3 1 "\u0ecdາ",
   .ofText 0xEDC 1 "ຫນ ຫມ", .ofText 0xF0C 1 "་", .ofText 0xF43 1 "ག\u0fb7",
   .ofText 0xF4D 1 "ཌ\u0fb7", .ofText 0xF52 1 "ད\u0fb7", .ofText 0xF57 1 "བ\u0fb7",
   .ofText 0xF5C 1 "ཛ\u0fb7", .ofText 0xF69 1 "ཀ\u0fb5",
   .ofText 0xF73 2 "\u0f71\u0f72 \u0f71\u0f74",
   .ofText 0xF76 1 "\u0fb2\u0f80 \u0fb2\u0f71\u0f80 \u0fb3\u0f80 \u0fb3\u0f71\u0f80",
   .ofText 0xF81 1 "\u0f71\u0f80", .ofText 0xF93 1 "\u0f92\u0fb7", .ofText 0xF9D 1 "\u0f9c\u0fb7",
   .ofText 0xFA2 1 "\u0fa1\u0fb7", .ofText 0xFA7 1 "\u0fa6\u0fb7", .ofText 0xFAC 1 "\u0fab\u0fb7",
   .ofText 0xFB9 1 "\u0f90\u0fb5",
   .ofText 0x10A0 1 "ⴀ ⴁ ⴂ ⴃ ⴄ ⴅ ⴆ ⴇ ⴈ ⴉ ⴊ ⴋ ⴌ ⴍ ⴎ ⴏ ⴐ ⴑ ⴒ ⴓ ⴔ ⴕ ⴖ ⴗ ⴘ ⴙ ⴚ ⴛ ⴜ ⴝ ⴞ ⴟ ⴠ ⴡ ⴢ ⴣ ⴤ ⴥ",
   .ofText 0x10C7 1 "ⴧ", .ofText 0x10CD 1 "ⴭ", .ofText 0x10FC 1 "ნ", .ofText 0x13F8 1 "Ᏸ Ᏹ Ᏺ Ᏻ Ᏼ Ᏽ",
   .ofText 0x1C80 1 "в д о с т т ъ ѣ ꙋ ᲊ",
   .ofText 0x1C90 1 "ა ბ გ დ ე ვ ზ თ ი კ ლ მ ნ ო პ ჟ რ ს ტ უ ფ ქ ღ ყ შ ჩ ც ძ წ ჭ ხ ჯ ჰ ჱ ჲ ჳ ჴ ჵ ჶ",
   .ofText 0x1CB7 1 "ჷ ჸ ჹ ჺ", .ofText 0x1CBD 1 "ჽ ჾ ჿ", .ofText 0x1D2C 1 "a æ b",
   .ofText 0x1D30 1 "d e ǝ g h i j k l m n", .ofText 0x1D3C 1 "o ȣ p r t u w a ɐ ɑ ᴂ b d e ə ɛ ɜ g",
   .ofText 0x1D4F 1 "k m ŋ o ɔ ᴖ ᴗ p t u ᴝ ɯ v ᴥ β γ δ φ χ i r u v β γ ρ φ χ", .ofText 0x1D78 1 "н",
   .ofText 0x1D9B 1 "ɒ c ɕ ð ɜ f ɟ ɡ ɥ ɨ ɩ ɪ ᵻ ʝ ɭ ᶅ ʟ ɱ ɰ ɲ ɳ ɴ ɵ ɸ ʂ ʃ ƫ ʉ ʊ ᴜ ʋ ʌ z ʐ ʑ ʒ θ",
   .ofText 0x1E00 2 "ḁ ḃ ḅ ḇ ḉ ḋ ḍ ḏ ḑ ḓ ḕ ḗ ḙ ḛ ḝ ḟ ḡ ḣ ḥ ḧ ḩ ḫ ḭ ḯ ḱ ḳ ḵ ḷ ḹ ḻ ḽ ḿ ṁ ṃ ṅ ṇ ṉ ṋ ṍ",
   .ofText 0x1E4E 2 "ṏ ṑ ṓ ṕ ṗ ṙ ṛ ṝ ṟ ṡ ṣ ṥ ṧ ṩ ṫ ṭ ṯ ṱ ṳ ṵ ṷ ṹ ṻ ṽ ṿ ẁ ẃ ẅ ẇ ẉ ẋ ẍ ẏ ẑ ẓ ẕ",
   .ofText 0x1E9A 1 "aʾ ṡ",
   .ofText 0x1E9E 2 "ß ạ ả ấ ầ ẩ ẫ ậ ắ ằ ẳ ẵ ặ ẹ ẻ ẽ ế ề ể ễ ệ ỉ ị ọ ỏ ố ồ ổ ỗ ộ ớ ờ ở ỡ ợ ụ ủ ứ ừ",
   .ofText 0x1EEC 2 "ử ữ ự ỳ ỵ ỷ ỹ ỻ ỽ ỿ", .ofText 0x1F08 1 "ἀ ἁ ἂ ἃ ἄ ἅ ἆ ἇ",
   .ofText 0x1F18 1 "ἐ ἑ ἒ ἓ ἔ ἕ", .ofText 0x1F28 1 "ἠ ἡ ἢ ἣ ἤ ἥ ἦ ἧ",
   .ofText 0x1F38 1 "ἰ ἱ ἲ ἳ ἴ ἵ ἶ ἷ", .ofText 0x1F48 1 "ὀ ὁ ὂ ὃ ὄ ὅ", .ofText 0x1F59 2 "ὑ ὓ ὕ ὗ",
   .ofText 0x1F68 1 "ὠ ὡ ὢ ὣ ὤ ὥ ὦ ὧ", .ofText 0x1F71 2 "ά έ ή ί ό ύ ώ",
   .ofText 0x1F80 1 "ἀι ἁι ἂι ἃι ἄι ἅι ἆι ἇι ἀι ἁι ἂι ἃι ἄι ἅι ἆι ἇι ἠι ἡι ἢι ἣι ἤι ἥι ἦι ἧι ἠι ἡι",
   .ofText 0x1F9A 1 "ἢι ἣι ἤι ἥι ἦι ἧι ὠι ὡι ὢι ὣι ὤι ὥι ὦι ὧι ὠι ὡι ὢι ὣι ὤι ὥι ὦι ὧι",
   .ofText 0x1FB2 1 "ὰι αι άι", .ofText 0x1FB7 1 "ᾶι ᾰ ᾱ ὰ ά αι", .ofText 0x1FBE 1 "ι",
   .ofText 0x1FC2 1 "ὴι ηι ήι", .ofText 0x1FC7 1 "ῆι ὲ έ ὴ ή ηι", .ofText 0x1FD3 1 "ΐ",
   .ofText 0x1FD8 1 "ῐ ῑ ὶ ί", .ofText 0x1FE3 1 "ΰ", .ofText 0x1FE8 1 "ῠ ῡ ὺ ύ ῥ",
   .ofText 0x1FF2 1 "ὼι ωι ώι", .ofText 0x1FF7 1 "ῶι ὸ ό ὼ ώ ωι", .ofText 0x2011 1 "‐",
   .ofText 0x2033 1 "′′ ′′′", .ofText 0x2036 1 "‵‵ ‵‵‵", .ofText 0x203C 1 "!!",
   .ofText 0x2057 1 "′′′′", .ofText 0x2070 1 "0 i",
   .ofText 0x2074 1 "4 5 6 7 8 9 + − = ( ) n 0 1 2 3 4 5 6 7 8 9 + − = ( )",
   .ofText 0x2090 1 "a e o x ə h k l m n p s t", .ofText 0x20A8 1 "rs", .ofText 0x2102 1 "c °c",
   .ofText 0x2107 2 "ɛ °f", .ofText 0x210A 1 "g h h h h ħ i i l l", .ofText 0x2115 1 "n no",
   .ofText 0x2119 1 "p q r r r", .ofText 0x2120 1 "sm tel tm", .ofText 0x2124 2 "z ω z k",
   .ofText 0x212B 1 "å b c", .ofText 0x212F 1 "e e f ⅎ m o \u05d0 \u05d1 \u05d2 \u05d3 i",
   .ofText 0x213B 1 "fax π γ γ π ∑", .ofText 0x2145 1 "d d e i j",
   .ofText 0x2150 1 "1⁄7 1⁄9 1⁄10 1⁄3 2⁄3 1⁄5 2⁄5 3⁄5 4⁄5 1⁄6 5⁄6 1⁄8 3⁄8 5⁄8 7⁄8 1⁄ i ii iii iv v",
   .ofText 0x2165 1 "vi vii viii ix x xi xii l c d m i ii iii iv v vi vii viii ix x xi xii l c d m",
   .ofText 0x2183 1 "ↄ", .ofText 0x2189 1 "0⁄3", .ofText 0x222C 1 "∫∫ ∫∫∫",
   .ofText 0x222F 1 "∮∮ ∮∮∮", .ofText 0x2329 1 "〈 〉",
   .ofText 0x2460 1 "1 2 3 4 5 6 7 8 9 10 11 12 13 14 15 16 17 18 19 20 (1) (2) (3) (4) (5) (6)",
   .ofText 0x247A 1 "(7) (8) (9) (10) (11) (12) (13) (14) (15) (16) (17) (18) (19) (20)",
   .ofText 0x249C 1 "(a) (b) (c) (d) (e) (f) (g) (h) (i) (j) (k) (l) (m) (n) (o) (p) (q) (r) (s)",
   .ofText 0x24AF 1 "(t) (u) (v) (w) (x) (y) (z) a b c d e f g h i j k l m n o p q r s t u v w x y",
   .ofText 0x24CF 1 "z a b c d e f g h i j k l m n o p q r s t u v w x y z 0",
   .ofText 0x2A0C 1 "∫∫∫∫", .ofText 0x2A75 1 "== ===", .ofText 0x2ADC 1 "⫝\u0338",
   .ofText 0x2C00 1 "ⰰ ⰱ ⰲ ⰳ ⰴ ⰵ ⰶ ⰷ ⰸ ⰹ ⰺ ⰻ ⰼ ⰽ ⰾ ⰿ ⱀ ⱁ ⱂ ⱃ ⱄ ⱅ ⱆ ⱇ ⱈ ⱉ ⱊ ⱋ ⱌ ⱍ ⱎ ⱏ ⱐ ⱑ ⱒ ⱓ ⱔ ⱕ ⱖ",
   .ofText 0x2C27 1 "ⱗ ⱘ ⱙ ⱚ ⱛ ⱜ ⱝ ⱞ ⱟ", .ofText 0x2C60 2 "ⱡ ɫ", .ofText 0x2C63 1 "ᵽ ɽ",
   .ofText 0x2C67 2 "ⱨ ⱪ ⱬ ɑ", .ofText 0x2C6E 1 "ɱ ɐ ɒ", .ofText 0x2C72 1 "ⱳ", .ofText 0x2C75 1 "ⱶ",
   .ofText 0x2C7C 1 "j v ȿ ɀ ⲁ",
   .ofText 0x2C82 2 "ⲃ ⲅ ⲇ ⲉ ⲋ ⲍ ⲏ ⲑ ⲓ ⲕ ⲗ ⲙ ⲛ ⲝ ⲟ ⲡ ⲣ ⲥ ⲧ ⲩ ⲫ ⲭ ⲯ ⲱ ⲳ ⲵ ⲷ ⲹ ⲻ ⲽ ⲿ ⳁ ⳃ ⳅ ⳇ ⳉ ⳋ ⳍ ⳏ",
   .ofText 0x2CD0 2 "ⳑ ⳓ ⳕ ⳗ ⳙ ⳛ ⳝ ⳟ ⳡ ⳣ", .ofText 0x2CEB 2 "ⳬ ⳮ", .ofText 0x2CF2 1 "ⳳ",
   .ofText 0x2D6F 1 "ⵡ", .ofText 0x2E9F 1 "母", .ofText 0x2EF3 1 "龟",
   .ofText 0x2F00 1 "一 丨 丶 丿 乙 亅 二 亠 人 儿 入 八 冂 冖 冫 几 凵 刀 力 勹 匕 匚 匸 十 卜 卩 厂 厶 又 口 囗 土 士 夂 夊 夕 大 女 子",
   .ofText 0x2F27 1 "宀 寸 小 尢 尸 屮 山 巛 工 己 巾 干 幺 广 廴 廾 弋 弓 彐 彡 彳 心 戈 戶 手 支 攴 文 斗 斤 方 无 日 曰 月 木 欠 止 歹",
   .ofText 0x2F4E 1 "殳 毋 比 毛 氏 气 水 火 爪 父 爻 爿 片 牙 牛 犬 玄 玉 瓜 瓦 甘 生 用 田 疋 疒 癶 白 皮 皿 目 矛 矢 石 示 禸 禾 穴 立",
   .ofText 0x2F75 1 "竹 米 糸 缶 网 羊 羽 老 而 耒 耳 聿 肉 臣 自 至 臼 舌 舛 舟 艮 色 艸 虍 虫 血 行 衣 襾 見 角 言 谷 豆 豕 豸 貝 赤 走",
   .ofText 0x2F9C 1 "足 身 車 辛 辰 辵 邑 酉 釆 里 金 長 門 阜 隶 隹 雨 靑 非 面 革 韋 韭 音 頁 風 飛 食 首 香 馬 骨 高 髟 鬥 鬯 鬲 鬼 魚",
   .ofText 0x2FC3 1 "鳥 鹵 鹿 麥 麻 黃 黍 黑 黹 黽 鼎 鼓 鼠 鼻 齊 齒 龍 龜 龠", .ofText 0x3002 1 ".",
   .ofText 0x3036 2 "〒 十", .ofText 0x3039 1 "卄 卅", .ofText 0x309F 1 "より", .ofText 0x30FF 1 "コト",
   .ofText 0x3131 1 "ᄀ ᄁ ᆪ ᄂ ᆬ ᆭ ᄃ ᄄ ᄅ ᆰ ᆱ ᆲ ᆳ ᆴ ᆵ ᄚ ᄆ ᄇ ᄈ ᄡ ᄉ ᄊ ᄋ ᄌ ᄍ ᄎ ᄏ ᄐ ᄑ ᄒ ᅡ ᅢ ᅣ ᅤ ᅥ ᅦ ᅧ ᅨ ᅩ",
   .ofText 0x3158 1 "ᅪ ᅫ ᅬ ᅭ ᅮ ᅯ ᅰ ᅱ ᅲ ᅳ ᅴ ᅵ",
   .ofText 0x3165 1 "ᄔ ᄕ ᇇ ᇈ ᇌ ᇎ ᇓ ᇗ ᇙ ᄜ ᇝ ᇟ ᄝ ᄞ ᄠ ᄢ ᄣ ᄧ ᄩ ᄫ ᄬ ᄭ ᄮ ᄯ ᄲ ᄶ ᅀ ᅇ ᅌ ᇱ ᇲ ᅗ ᅘ ᅙ ᆄ ᆅ ᆈ ᆑ ᆒ",
   .ofText 0x318C 1 "ᆔ ᆞ ᆡ", .ofText 0x3192 1 "一 二 三 四 上 中 下 甲 乙 丙 丁 天 地 人",
   .ofText 0x3200 1 "(ᄀ) (ᄂ) (ᄃ) (ᄅ) (ᄆ) (ᄇ) (ᄉ) (ᄋ) (ᄌ) (ᄎ) (ᄏ) (ᄐ) (ᄑ) (ᄒ) (가) (나) (다) (라) (마)",
   .ofText 0x3213 1 "(바) (사) (아) (자) (차) (카) (타) (파) (하) (주) (오전) (오후)",
   .ofText 0x3220 1 "(一) (二) (三) (四) (五) (六) (七) (八) (九) (十) (月) (火) (水) (木) (金) (土) (日) (株) (有)",
   .ofText 0x3233 1 "(社) (名) (特) (財) (祝) (労) (代) (呼) (学) (監) (企) (資) (協) (祭) (休) (自) (至) 問 幼 文 箏",
   .ofText 0x3250 1 "pte 21 22 23 24 25 26 27 28 29 30 31 32 33 34 35 ᄀ ᄂ ᄃ ᄅ ᄆ ᄇ ᄉ ᄋ ᄌ ᄎ ᄏ ᄐ ᄑ ᄒ",
   .ofText 0x326E 1 "가 나 다 라 마 바 사 아 자 차 카 타 파 하 참고 주의 우",
   .ofText 0x3280 1 "一 二 三 四 五 六 七 八 九 十 月 火 水 木 金 土 日 株 有 社 名 特 財 祝 労 秘 男 女 適 優 印 注 項 休 写 正 上 中 下",
   .ofText 0x32A7 1 "左 右 医 宗 学 監 企 資 協 夜 36 37 38 39 40 41 42 43 44 45 46 47 48 49 50 1月 2月 3月 4月",
   .ofText 0x32C4 1 "5月 6月 7月 8月 9月 10月 11月 12月 hg erg ev ltd ア イ ウ エ オ カ キ ク ケ コ サ シ ス セ ソ タ チ ツ",
   .ofText 0x32E2 1 "テ ト ナ ニ ヌ ネ ノ ハ ヒ フ ヘ ホ マ ミ ム メ モ ヤ ユ ヨ ラ リ ル レ ロ ワ ヰ ヱ ヲ 令和 アパート アルファ アンペア",
   .ofText 0x3303 1 "アール イニング インチ ウォン エスクード エーカー オンス オーム カイリ カラット カロリー ガロン ガンマ ギガ ギニー キュリー ギルダー キロ",
   .ofText 0x3315 1 "キログラム キロメートル キロワット グラム グラムトン クルゼイロ クローネ ケース コルナ コーポ サイクル サンチーム シリング センチ セント",
   .ofText 0x3324 1 "ダース デシ ドル トン ナノ ノット ハイツ パーセント パーツ バーレル ピアストル ピクル ピコ ビル ファラッド フィート ブッシェル フラン",
   .ofText 0x3336 1 "ヘクタール ペソ ペニヒ ヘルツ ペンス ページ ベータ ポイント ボルト ホン ポンド ホール ホーン マイクロ マイル マッハ マルク マンション",
   .ofText 0x3348 1 "ミクロン ミリ ミリバール メガ メガトン メートル ヤード ヤール ユアン リットル リラ ルピー ルーブル レム レントゲン ワット 0点 1点 2点",
   .ofText 0x335B 1 "3点 4点 5点 6点 7点 8点 9点 10点 11点 12点 13点 14点 15点 16点 17点 18点 19点 20点 21点 22点 23点",
   .ofText 0x3370 1 "24点 hpa da au bar ov pc dm dm2 dm3 iu 平成 昭和 大正 明治 株式会社 pa na μa ma ka kb mb",
   .ofText 0x3387 1 "gb cal kcal pf nf μf μg mg kg hz khz mhz ghz thz μl ml dl kl fm nm μm mm cm",
   .ofText 0x339E 1 "km mm2 cm2 m2 km2 mm3 cm3 m3 km3 m∕s m∕s2 pa kpa mpa gpa rad rad∕s rad∕s2 ps",
   .ofText 0x33B1 1 "ns μs ms pv nv μv mv kv mv pw nw μw mw kw mw kω mω",
   .ofText 0x33C3 1 "bq cc cd c∕kg",
   .ofText 0x33C8 1 "db gy ha hp in kk km kt lm ln log lx mb mil mol ph",
   .ofText 0x33D9 1 "ppm pr sr sv wb v∕m a∕m 1日 2日 3日 4日 5日 6日 7日 8日 9日 10日 11日 12日 13日 14日 15日",
   .ofText 0x33EF 1 "16日 17日 18日 19日 20日 21日 22日 23日 24日 25日 26日 27日 28日 29日 30日 31日 gal",
   .ofText 0xA640 2 "ꙁ ꙃ ꙅ ꙇ ꙉ ꙋ ꙍ ꙏ ꙑ ꙓ ꙕ ꙗ ꙙ ꙛ ꙝ ꙟ ꙡ ꙣ ꙥ ꙧ ꙩ ꙫ ꙭ",
   .ofText 0xA680 2 "ꚁ ꚃ ꚅ ꚇ ꚉ ꚋ ꚍ ꚏ ꚑ ꚓ ꚕ ꚗ ꚙ ꚛ ъ", .ofText 0xA69D 1 "ь",
   .ofText 0xA722 2 "ꜣ ꜥ ꜧ ꜩ ꜫ ꜭ ꜯ",
   .ofText 0xA732 2 "ꜳ ꜵ ꜷ ꜹ ꜻ ꜽ ꜿ ꝁ ꝃ ꝅ ꝇ ꝉ ꝋ ꝍ ꝏ ꝑ ꝓ ꝕ ꝗ ꝙ ꝛ ꝝ ꝟ ꝡ ꝣ ꝥ ꝧ ꝩ ꝫ ꝭ ꝯ ꝯ",
   .ofText 0xA779 2 "ꝺ ꝼ ᵹ", .ofText 0xA77E 2 "ꝿ ꞁ ꞃ ꞅ ꞇ", .ofText 0xA78B 2 "ꞌ ɥ",
   .ofText 0xA790 2 "ꞑ ꞓ", .ofText 0xA796 2 "ꞗ ꞙ ꞛ ꞝ ꞟ ꞡ ꞣ ꞥ ꞧ ꞩ ɦ", .ofText 0xA7AB 1 "ɜ ɡ ɬ ɪ",
   .ofText 0xA7B0 1 "ʞ ʇ ʝ ꭓ ꞵ", .ofText 0xA7B6 2 "ꞷ ꞹ ꞻ ꞽ ꞿ ꟁ ꟃ ꞔ", .ofText 0xA7C5 1 "ʂ ᶎ ꟈ",
   .ofText 0xA7C9 2 "ꟊ ɤ", .ofText 0xA7CC 2 "ꟍ ꟏ ꟑ ꟓ ꟕ ꟗ ꟙ ꟛ ƛ", .ofText 0xA7DD 1 "ɷ",
   .ofText 0xA7F1 1 "s c f q ꟶ", .ofText 0xA7F8 1 "ħ œ", .ofText 0xAB5C 1 "ꜧ ꬷ ɫ ꭒ",
   .ofText 0xAB69 1 "ʍ", .ofText 0xAB6C 1 "ꭋ ꭌ",
   .ofText 0xAB70 1 "Ꭰ Ꭱ Ꭲ Ꭳ Ꭴ Ꭵ Ꭶ Ꭷ Ꭸ Ꭹ Ꭺ Ꭻ Ꭼ Ꭽ Ꭾ Ꭿ Ꮀ Ꮁ Ꮂ Ꮃ Ꮄ Ꮅ Ꮆ Ꮇ Ꮈ Ꮉ Ꮊ Ꮋ Ꮌ Ꮍ Ꮎ Ꮏ Ꮐ Ꮑ Ꮒ Ꮓ Ꮔ Ꮕ Ꮖ",
   .ofText 0xAB97 1 "Ꮗ Ꮘ Ꮙ Ꮚ Ꮛ Ꮜ Ꮝ Ꮞ Ꮟ Ꮠ Ꮡ Ꮢ Ꮣ Ꮤ Ꮥ Ꮦ Ꮧ Ꮨ Ꮩ Ꮪ Ꮫ Ꮬ Ꮭ Ꮮ Ꮯ Ꮰ Ꮱ Ꮲ Ꮳ Ꮴ Ꮵ Ꮶ Ꮷ Ꮸ Ꮹ Ꮺ Ꮻ Ꮼ Ꮽ",
   .ofText 0xABBE 1 "Ꮾ Ꮿ",
   .ofText 0xF900 1 "豈 更 車 賈 滑 串 句 龜 龜 契 金 喇 奈 懶 癩 羅 蘿 螺 裸 邏 樂 洛 烙 珞 落 酪 駱 亂 卵 欄 爛 蘭 鸞 嵐 濫 藍 襤 拉 臘",
   .ofText 0xF927 1 "蠟 廊 朗 浪 狼 郎 來 冷 勞 擄 櫓 爐 盧 老 蘆 虜 路 露 魯 鷺 碌 祿 綠 菉 錄 鹿 論 壟 弄 籠 聾 牢 磊 賂 雷 壘 屢 樓 淚",
   .ofText 0xF94E 1 "漏 累 縷 陋 勒 肋 凜 凌 稜 綾 菱 陵 讀 拏 樂 諾 丹 寧 怒 率 異 北 磻 便 復 不 泌 數 索 參 塞 省 葉 說 殺 辰 沈 拾 若",
   .ofText 0xF975 1 "掠 略 亮 兩 凉 梁 糧 良 諒 量 勵 呂 女 廬 旅 濾 礪 閭 驪 麗 黎 力 曆 歷 轢 年 憐 戀 撚 漣 煉 璉 秊 練 聯 輦 蓮 連 鍊",
   .ofText 0xF99C 1 "列 劣 咽 烈 裂 說 廉 念 捻 殮 簾 獵 令 囹 寧 嶺 怜 玲 瑩 羚 聆 鈴 零 靈 領 例 禮 醴 隸 惡 了 僚 寮 尿 料 樂 燎 療 蓼",
   .ofText 0xF9C3 1 "遼 龍 暈 阮 劉 杻 柳 流 溜 琉 留 硫 紐 類 六 戮 陸 倫 崙 淪 輪 律 慄 栗 率 隆 利 吏 履 易 李 梨 泥 理 痢 罹 裏 裡 里",
   .ofText 0xF9EA 1 "離 匿 溺 吝 燐 璘 藺 隣 鱗 麟 林 淋 臨 立 笠 粒 狀 炙 識 什 茶 刺 切 度 拓 糖 宅 洞 暴 輻 行 降 見 廓 兀 嗀",
   .ofText 0xFA10 2 "塚 晴", .ofText 0xFA15 1 "凞 猪 益 礼 神 祥 福 靖 精 羽", .ofText 0xFA20 2 "蘒 諸",
   .ofText 0xFA25 1 "逸 都",
   .ofText 0xFA2A 1 "飯 飼 館 鶴 郞 隷 侮 僧 免 勉 勤 卑 喝 嘆 器 塀 墨 層 屮 悔 慨 憎 懲 敏 既 暑 梅 海 渚 漢 煮 爫 琢 碑 社 祉 祈 祐 祖",
   .ofText 0xFA51 1 "祝 禍 禎 穀 突 節 練 縉 繁 署 者 臭 艹 艹 著 褐 視 謁 謹 賓 贈 辶 逸 難 響 頻 恵 𤋮 舘",
   .ofText 0xFA70 1 "並 况 全 侀 充 冀 勇 勺 喝 啕 喙 嗢 塚 墳 奄 奔 婢 嬨 廒 廙 彩 徭 惘 慎 愈 憎 慠 懲 戴 揄 搜 摒 敖 晴 朗 望 杖 歹 殺",
   .ofText 0xFA97 1 "流 滛 滋 漢 瀞 煮 瞧 爵 犯 猪 瑱 甆 画 瘝 瘟 益 盛 直 睊 着 磌 窱 節 类 絛 練 缾 者 荒 華 蝹 襁 覆 視 調 諸 請 謁 諾",
   .ofText 0xFABE 1 "諭 謹 變 贈 輸 遲 醙 鉶 陼 難 靖 韛 響 頋 頻 鬒 龜 𢡊 𢡄 𣏕 㮝 䀘 䀹 𥉉 𥳐 𧻓 齃 龎",
   .ofText 0xFB00 1 "ff fi fl ffi ffl st st", .ofText 0xFB13 1 "մն մե մի վն մխ",
   .ofText 0xFB1D 2 "\u05d9\u05b4 \u05f2\u05b7",
   .ofText 0xFB20 1 "\u05e2 \u05d0 \u05d3 \u05d4 \u05db \u05dc \u05dd \u05e8 \u05ea + \u05e9\u05c1",
   .ofText 0xFB2B 1 "\u05e9\u05c2 \u05e9\u05bc\u05c1 \u05e9\u05bc\u05c2 \u05d0\u05b7 \u05d0\u05b8",
   .ofText 0xFB30 1 "\u05d0\u05bc \u05d1\u05bc \u05d2\u05bc \u05d3\u05bc \u05d4\u05bc \u05d5\u05bc",
   .ofText 0xFB36 1 "\u05d6\u05bc",
   .ofText 0xFB38 1 "\u05d8\u05bc \u05d9\u05bc \u05da\u05bc \u05db\u05bc \u05dc\u05bc",
   .ofText 0xFB3E 2 "\u05de\u05bc \u05e0\u05bc", .ofText 0xFB41 2 "\u05e1\u05bc \u05e3\u05bc",
   .ofText 0xFB44 2 "\u05e4\u05bc \u05e6\u05bc",
   .ofText 0xFB47 1 "\u05e7\u05bc \u05e8\u05bc \u05e9\u05bc \u05ea\u05bc \u05d5\u05b9 \u05d1\u05bf",
   .ofText 0xFB4D 1 "\u05db\u05bf \u05e4\u05bf \u05d0\u05dc \u0671 \u0671 \u067b \u067b \u067b",
   .ofText 0xFB55 1 "\u067b \u067e \u067e \u067e \u067e \u0680 \u0680 \u0680 \u0680 \u067a \u067a",
   .ofText 0xFB60 1 "\u067a \u067a \u067f \u067f \u067f \u067f \u0679 \u0679 \u0679 \u0679 \u06a4",
   .ofText 0xFB6B 1 "\u06a4 \u06a4 \u06a4 \u06a6 \u06a6 \u06a6 \u06a6 \u0684 \u0684 \u0684 \u0684",
   .ofText 0xFB76 1 "\u0683 \u0683 \u0683 \u0683 \u0686 \u0686 \u0686 \u0686 \u0687 \u0687 \u0687",
   .ofText 0xFB81 1 "\u0687 \u068d \u068d \u068c \u068c \u068e \u068e \u0688 \u0688 \u0698 \u0698",
   .ofText 0xFB8C 1 "\u0691 \u0691 \u06a9 \u06a9 \u06a9 \u06a9 \u06af \u06af \u06af \u06af \u06b3",
   .ofText 0xFB97 1 "\u06b3 \u06b3 \u06b3 \u06b1 \u06b1 \u06b1 \u06b1 \u06ba \u06ba \u06bb \u06bb",
   .ofText 0xFBA2 1 "\u06bb \u06bb \u06c0 \u06c0 \u06c1 \u06c1 \u06c1 \u06c1 \u06be \u06be \u06be",
   .ofText 0xFBAD 1 "\u06be \u06d2 \u06d2 \u06d3 \u06d3",
   .ofText 0xFBD3 1 "\u06ad \u06ad \u06ad \u06ad \u06c7 \u06c7 \u06c6 \u06c6 \u06c8 \u06c8",
   .ofText 0xFBDD 1 "\u06c7\u0674 \u06cb \u06cb \u06c5 \u06c5 \u06c9 \u06c9 \u06d0 \u06d0 \u06d0",
   .ofText 0xFBE7 1 "\u06d0 \u0649 \u0649 \u0626\u0627 \u0626\u0627 \u0626\u06d5 \u0626\u06d5",
   .ofText 0xFBEE 1 "\u0626\u0648 \u0626\u0648 \u0626\u06c7 \u0626\u06c7 \u0626\u06c6 \u0626\u06c6",
   .ofText 0xFBF4 1 "\u0626\u06c8 \u0626\u06c8 \u0626\u06d0 \u0626\u06d0 \u0626\u06d0 \u0626\u0649",
   .ofText 0xFBFA 1 "\u0626\u0649 \u0626\u0649 \u06cc \u06cc \u06cc \u06cc \u0626\u062c",
   .ofText 0xFC01 1 "\u0626\u062d \u0626\u0645 \u0626\u0649 \u0626\u064a \u0628\u062c \u0628\u062d",
   .ofText 0xFC07 1 "\u0628\u062e \u0628\u0645 \u0628\u0649 \u0628\u064a \u062a\u062c \u062a\u062d",
   .ofText 0xFC0D 1 "\u062a\u062e \u062a\u0645 \u062a\u0649 \u062a\u064a \u062b\u062c \u062b\u0645",
   .ofText 0xFC13 1 "\u062b\u0649 \u062b\u064a \u062c\u062d \u062c\u0645 \u062d\u062c \u062d\u0645",
   .ofText 0xFC19 1 "\u062e\u062c \u062e\u062d \u062e\u0645 \u0633\u062c \u0633\u062d \u0633\u062e",
   .ofText 0xFC1F 1 "\u0633\u0645 \u0635\u062d \u0635\u0645 \u0636\u062c \u0636\u062d \u0636\u062e",
   .ofText 0xFC25 1 "\u0636\u0645 \u0637\u062d \u0637\u0645 \u0638\u0645 \u0639\u062c \u0639\u0645",
   .ofText 0xFC2B 1 "\u063a\u062c \u063a\u0645 \u0641\u062c \u0641\u062d \u0641\u062e \u0641\u0645",
   .ofText 0xFC31 1 "\u0641\u0649 \u0641\u064a \u0642\u062d \u0642\u0645 \u0642\u0649 \u0642\u064a",
   .ofText 0xFC37 1 "\u0643\u0627 \u0643\u062c \u0643\u062d \u0643\u062e \u0643\u0644 \u0643\u0645",
   .ofText 0xFC3D 1 "\u0643\u0649 \u0643\u064a \u0644\u062c \u0644\u062d \u0644\u062e \u0644\u0645",
   .ofText 0xFC43 1 "\u0644\u0649 \u0644\u064a \u0645\u062c \u0645\u062d \u0645\u062e \u0645\u0645",
   .ofText 0xFC49 1 "\u0645\u0649 \u0645\u064a \u0646\u062c \u0646\u062d \u0646\u062e \u0646\u0645",
   .ofText 0xFC4F 1 "\u0646\u0649 \u0646\u064a \u0647\u062c \u0647\u0645 \u0647\u0649 \u0647\u064a",
   .ofText 0xFC55 1 "\u064a\u062c \u064a\u062d \u064a\u062e \u064a\u0645 \u064a\u0649 \u064a\u064a",
   .ofText 0xFC5B 1 "\u0630\u0670 \u0631\u0670 \u0649\u0670",
   .ofText 0xFC64 1 "\u0626\u0631 \u0626\u0632 \u0626\u0645 \u0626\u0646 \u0626\u0649 \u0626\u064a",
   .ofText 0xFC6A 1 "\u0628\u0631 \u0628\u0632 \u0628\u0645 \u0628\u0646 \u0628\u0649 \u0628\u064a",
   .ofText 0xFC70 1 "\u062a\u0631 \u062a\u0632 \u062a\u0645 \u062a\u0646 \u062a\u0649 \u062a\u064a",
   .ofText 0xFC76 1 "\u062b\u0631 \u062b\u0632 \u062b\u0645 \u062b\u0646 \u062b\u0649 \u062b\u064a",
   .ofText 0xFC7C 1 "\u0641\u0649 \u0641\u064a \u0642\u0649 \u0642\u064a \u0643\u0627 \u0643\u0644",
   .ofText 0xFC82 1 "\u0643\u0645 \u0643\u0649 \u0643\u064a \u0644\u0645 \u0644\u0649 \u0644\u064a",
   .ofText 0xFC88 1 "\u0645\u0627 \u0645\u0645 \u0646\u0631 \u0646\u0632 \u0646\u0645 \u0646\u0646",
   .ofText 0xFC8E 1 "\u0646\u0649 \u0646\u064a \u0649\u0670 \u064a\u0631 \u064a\u0632 \u064a\u0645",
   .ofText 0xFC94 1 "\u064a\u0646 \u064a\u0649 \u064a\u064a \u0626\u062c \u0626\u062d \u0626\u062e",
   .ofText 0xFC9A 1 "\u0626\u0645 \u0626\u0647 \u0628\u062c \u0628\u062d \u0628\u062e \u0628\u0645",
   .ofText 0xFCA0 1 "\u0628\u0647 \u062a\u062c \u062a\u062d \u062a\u062e \u062a\u0645 \u062a\u0647",
   .ofText 0xFCA6 1 "\u062b\u0645 \u062c\u062d \u062c\u0645 \u062d\u062c \u062d\u0645 \u062e\u062c",
   .ofText 0xFCAC 1 "\u062e\u0645 \u0633\u062c \u0633\u062d \u0633\u062e \u0633\u0645 \u0635\u062d",
   .ofText 0xFCB2 1 "\u0635\u062e \u0635\u0645 \u0636\u062c \u0636\u062d \u0636\u062e \u0636\u0645",
   .ofText 0xFCB8 1 "\u0637\u062d \u0638\u0645 \u0639\u062c \u0639\u0645 \u063a\u062c \u063a\u0645",
   .ofText 0xFCBE 1 "\u0641\u062c \u0641\u062d \u0641\u062e \u0641\u0645 \u0642\u062d \u0642\u0645",
   .ofText 0xFCC4 1 "\u0643\u062c \u0643\u062d \u0643\u062e \u0643\u0644 \u0643\u0645 \u0644\u062c",
   .ofText 0xFCCA 1 "\u0644\u062d \u0644\u062e \u0644\u0645 \u0644\u0647 \u0645\u062c \u0645\u062d",
   .ofText 0xFCD0 1 "\u0645\u062e \u0645\u0645 \u0646\u062c \u0646\u062d \u0646\u062e \u0646\u0645",
   .ofText 0xFCD6 1 "\u0646\u0647 \u0647\u062c \u0647\u0645 \u0647\u0670 \u064a\u062c \u064a\u062d",
   .ofText 0xFCDC 1 "\u064a\u062e \u064a\u0645 \u064a\u0647 \u0626\u0645 \u0626\u0647 \u0628\u0645",
   .ofText 0xFCE2 1 "\u0628\u0647 \u062a\u0645 \u062a\u0647 \u062b\u0645 \u062b\u0647 \u0633\u0645",
   .ofText 0xFCE8 1 "\u0633\u0647 \u0634\u0645 \u0634\u0647 \u0643\u0644 \u0643\u0645 \u0644\u0645",
   .ofText 0xFCEE 1 "\u0646\u0645 \u0646\u0647 \u064a\u0645 \u064a\u0647 \u0640\u064e\u0651",
   .ofText 0xFCF3 1 "\u0640\u064f\u0651 \u0640\u0650\u0651 \u0637\u0649 \u0637\u064a \u0639\u0649",
   .ofText 0xFCF8 1 "\u0639\u064a \u063a\u0649 \u063a\u064a \u0633\u0649 \u0633\u064a \u0634\u0649",
   .ofText 0xFCFE 1 "\u0634\u064a \u062d\u0649 \u062d\u064a \u062c\u0649 \u062c\u064a \u062e\u0649",
   .ofText 0xFD04 1 "\u062e\u064a \u0635\u0649 \u0635\u064a \u0636\u0649 \u0636\u064a \u0634\u062c",
   .ofText 0xFD0A 1 "\u0634\u062d \u0634\u062e \u0634\u0645 \u0634\u0631 \u0633\u0631 \u0635\u0631",
   .ofText 0xFD10 1 "\u0636\u0631 \u0637\u0649 \u0637\u064a \u0639\u0649 \u0639\u064a \u063a\u0649",
   .ofText 0xFD16 1 "\u063a\u064a \u0633\u0649 \u0633\u064a \u0634\u0649 \u0634\u064a \u062d\u0649",
   .ofText 0xFD1C 1 "\u062d\u064a \u062c\u0649 \u062c\u064a \u062e\u0649 \u062e\u064a \u0635\u0649",
   .ofText 0xFD22 1 "\u0635\u064a \u0636\u0649 \u0636\u064a \u0634\u062c \u0634\u062d \u0634\u062e",
   .ofText 0xFD28 1 "\u0634\u0645 \u0634\u0631 \u0633\u0631 \u0635\u0631 \u0636\u0631 \u0634\u062c",
   .ofText 0xFD2E 1 "\u0634\u062d \u0634\u062e \u0634\u0645 \u0633\u0647 \u0634\u0647 \u0637\u0645",
   .ofText 0xFD34 1 "\u0633\u062c \u0633\u062d \u0633\u062e \u0634\u062c \u0634\u062d \u0634\u062e",
   .ofText 0xFD3A 1 "\u0637\u0645 \u0638\u0645 \u0627\u064b \u0627\u064b",
   .ofText 0xFD50 1 "\u062a\u062c\u0645 \u062a\u062d\u062c \u062a\u062d\u062c \u062a\u062d\u0645",
   .ofText 0xFD54 1 "\u062a\u062e\u0645 \u062a\u0645\u062c \u062a\u0645\u062d \u062a\u0645\u062e",
   .ofText 0xFD58 1 "\u062c\u0645\u062d \u062c\u0645\u062d \u062d\u0645\u064a \u062d\u0645\u0649",
   .ofText 0xFD5C 1 "\u0633\u062d\u062c \u0633\u062c\u062d \u0633\u062c\u0649 \u0633\u0645\u062d",
   .ofText 0xFD60 1 "\u0633\u0645\u062d \u0633\u0645\u062c \u0633\u0645\u0645 \u0633\u0645\u0645",
   .ofText 0xFD64 1 "\u0635\u062d\u062d \u0635\u062d\u062d \u0635\u0645\u0645 \u0634\u062d\u0645",
   .ofText 0xFD68 1 "\u0634\u062d\u0645 \u0634\u062c\u064a \u0634\u0645\u062e \u0634\u0645\u062e",
   .ofText 0xFD6C 1 "\u0634\u0645\u0645 \u0634\u0645\u0645 \u0636\u062d\u0649 \u0636\u062e\u0645",
   .ofText 0xFD70 1 "\u0636\u062e\u0645 \u0637\u0645\u062d \u0637\u0645\u062d \u0637\u0645\u0645",
   .ofText 0xFD74 1 "\u0637\u0645\u064a \u0639\u062c\u0645 \u0639\u0645\u0645 \u0639\u0645\u0645",
   .ofText 0xFD78 1 "\u0639\u0645\u0649 \u063a\u0645\u0645 \u063a\u0645\u064a \u063a\u0645\u0649",
   .ofText 0xFD7C 1 "\u0641\u062e\u0645 \u0641\u062e\u0645 \u0642\u0645\u062d \u0642\u0645\u0645",
   .ofText 0xFD80 1 "\u0644\u062d\u0645 \u0644\u062d\u064a \u0644\u062d\u0649 \u0644\u062c\u062c",
   .ofText 0xFD84 1 "\u0644\u062c\u062c \u0644\u062e\u0645 \u0644\u062e\u0645 \u0644\u0645\u062d",
   .ofText 0xFD88 1 "\u0644\u0645\u062d \u0645\u062d\u062c \u0645\u062d\u0645 \u0645\u062d\u064a",
   .ofText 0xFD8C 1 "\u0645\u062c\u062d \u0645\u062c\u0645 \u0645\u062e\u062c \u0645\u062e\u0645",
   .ofText 0xFD92 1 "\u0645\u062c\u062e \u0647\u0645\u062c \u0647\u0645\u0645 \u0646\u062d\u0645",
   .ofText 0xFD96 1 "\u0646\u062d\u0649 \u0646\u062c\u0645 \u0646\u062c\u0645 \u0646\u062c\u0649",
   .ofText 0xFD9A 1 "\u0646\u0645\u064a \u0646\u0645\u0649 \u064a\u0645\u0645 \u064a\u0645\u0645",
   .ofText 0xFD9E 1 "\u0628\u062e\u064a \u062a\u062c\u064a \u062a\u062c\u0649 \u062a\u062e\u064a",
   .ofText 0xFDA2 1 "\u062a\u062e\u0649 \u062a\u0645\u064a \u062a\u0645\u0649 \u062c\u0645\u064a",
   .ofText 0xFDA6 1 "\u062c\u062d\u0649 \u062c\u0645\u0649 \u0633\u062e\u0649 \u0635\u062d\u064a",
   .ofText 0xFDAA 1 "\u0634\u062d\u064a \u0636\u062d\u064a \u0644\u062c\u064a \u0644\u0645\u064a",
   .ofText 0xFDAE 1 "\u064a\u062d\u064a \u064a\u062c\u064a \u064a\u0645\u064a \u0645\u0645\u064a",
   .ofText 0xFDB2 1 "\u0642\u0645\u064a \u0646\u062d\u064a \u0642\u0645\u062d \u0644\u062d\u0645",
   .ofText 0xFDB6 1 "\u0639\u0645\u064a \u0643\u0645\u064a \u0646\u062c\u062d \u0645\u062e\u064a",
   .ofText 0xFDBA 1 "\u0644\u062c\u0645 \u0643\u0645\u0645 \u0644\u062c\u0645 \u0646\u062c\u062d",
   .ofText 0xFDBE 1 "\u062c\u062d\u064a \u062d\u062c\u064a \u0645\u062c\u064a \u0641\u0645\u064a",
   .ofText 0xFDC2 1 "\u0628\u062d\u064a \u0643\u0645\u0645 \u0639\u062c\u0645 \u0635\u0645\u0645",
   .ofText 0xFDC6 1 "\u0633\u062e\u064a \u0646\u062c\u064a",
   .ofText 0xFDF0 1 "\u0635\u0644\u06d2 \u0642\u0644\u06d2 \u0627\u0644\u0644\u0647",
   .ofText 0xFDF3 1 "\u0627\u0643\u0628\u0631 \u0645\u062d\u0645\u062f \u0635\u0644\u0639\u0645",
   .ofText 0xFDF6 1 "\u0631\u0633\u0648\u0644 \u0639\u0644\u064a\u0647 \u0648\u0633\u0644\u0645",
   .ofText 0xFDF9 1 "\u0635\u0644\u0649", .ofText 0xFDFC 1 "\u0631\u06cc\u0627\u0644",
   .ofText 0xFE10 1 ", 、", .ofText 0xFE14 1 "; !", .ofText 0xFE17 1 "〖 〗",
   .ofText 0xFE31 1 "— – _ _ ( )", .ofText 0xFE39 1 "〔 〕 【 】 《 》 〈 〉 「 」 『 』",
   .ofText 0xFE4D 1 "_ _ _ , 、", .ofText 0xFE54 1 ";", .ofText 0xFE57 1 "! — ( )",
   .ofText 0xFE5D 1 "〔 〕", .ofText 0xFE60 1 "& * + - < > =", .ofText 0xFE69 1 "$",
   .ofText 0xFE71 1 "\u0640\u064b",
   .ofText 0xFE77 2 "\u0640\u064e \u0640\u064f \u0640\u0650 \u0640\u0651 \u0640\u0652",
   .ofText 0xFE80 1 "\u0621 \u0622 \u0622 \u0623 \u0623 \u0624 \u0624 \u0625 \u0625 \u0626 \u0626",
   .ofText 0xFE8B 1 "\u0626 \u0626 \u0627 \u0627 \u0628 \u0628 \u0628 \u0628 \u0629 \u0629 \u062a",
   .ofText 0xFE96 1 "\u062a \u062a \u062a \u062b \u062b \u062b \u062b \u062c \u062c \u062c \u062c",
   .ofText 0xFEA1 1 "\u062d \u062d \u062d \u062d \u062e \u062e \u062e \u062e \u062f \u062f \u0630",
   .ofText 0xFEAC 1 "\u0630 \u0631 \u0631 \u0632 \u0632 \u0633 \u0633 \u0633 \u0633 \u0634 \u0634",
   .ofText 0xFEB7 1 "\u0634 \u0634 \u0635 \u0635 \u0635 \u0635 \u0636 \u0636 \u0636 \u0636 \u0637",
   .ofText 0xFEC2 1 "\u0637 \u0637 \u0637 \u0638 \u0638 \u0638 \u0638 \u0639 \u0639 \u0639 \u0639",
   .ofText 0xFECD 1 "\u063a \u063a \u063a \u063a \u0641 \u0641 \u0641 \u0641 \u0642 \u0642 \u0642",
   .ofText 0xFED8 1 "\u0642 \u0643 \u0643 \u0643 \u0643 \u0644 \u0644 \u0644 \u0644 \u0645 \u0645",
   .ofText 0xFEE3 1 "\u0645 \u0645 \u0646 \u0646 \u0646 \u0646 \u0647 \u0647 \u0647 \u0647 \u0648",
   .ofText 0xFEEE 1 "\u0648 \u0649 \u0649 \u064a \u064a \u064a \u064a \u0644\u0622 \u0644\u0622",
   .ofText 0xFEF7 1 "\u0644\u0623 \u0644\u0623 \u0644\u0625 \u0644\u0625 \u0644\u0627 \u0644\u0627",
   .ofText 0xFF01 1 "!", .ofText 0xFF04 2 "$ &", .ofText 0xFF07 1 "' ( ) * + , - .",
   .ofText 0xFF10 1 "0 1 2 3 4 5 6 7 8 9", .ofText 0xFF1B 1 "; < = >",
   .ofText 0xFF21 1 "a b c d e f g h i j k l m n o p q r s t u v w x y z", .ofText 0xFF3F 2 "_ a",
   .ofText 0xFF42 1 "b c d e f g h i j k l m n o p q r s t u v w x y z",
   .ofText 0xFF5E 1 "~ ⦅ ⦆ . 「 」 、 ・ ヲ ァ ィ ゥ ェ ォ ャ ュ ョ ッ ー ア イ ウ エ オ カ キ ク ケ コ サ シ ス セ ソ タ チ ツ テ ト",
   .ofText 0xFF85 1 "ナ ニ ヌ ネ ノ ハ ヒ フ ヘ ホ マ ミ ム メ モ ヤ ユ ヨ ラ リ ル レ ロ ワ ン \u3099 \u309a",
   .ofText 0xFFA1 1 "ᄀ ᄁ ᆪ ᄂ ᆬ ᆭ ᄃ ᄄ ᄅ ᆰ ᆱ ᆲ ᆳ ᆴ ᆵ ᄚ ᄆ ᄇ ᄈ ᄡ ᄉ ᄊ ᄋ ᄌ ᄍ ᄎ ᄏ ᄐ ᄑ ᄒ",
   .ofText 0xFFC2 1 "ᅡ ᅢ ᅣ ᅤ ᅥ ᅦ", .ofText 0xFFCA 1 "ᅧ ᅨ ᅩ ᅪ ᅫ ᅬ", .ofText 0xFFD2 1 "ᅭ ᅮ ᅯ ᅰ ᅱ ᅲ",
   .ofText 0xFFDA 1 "ᅳ ᅴ ᅵ", .ofText 0xFFE0 1 "¢ £ ¬", .ofText 0xFFE4 1 "¦ ¥ ₩",
   .ofText 0xFFE8 1 "│ ← ↑ → ↓ ■ ○",
   .ofText 0x10400 1 "𐐨 𐐩 𐐪 𐐫 𐐬 𐐭 𐐮 𐐯 𐐰 𐐱 𐐲 𐐳 𐐴 𐐵 𐐶 𐐷 𐐸 𐐹 𐐺 𐐻 𐐼 𐐽 𐐾 𐐿 𐑀 𐑁 𐑂 𐑃 𐑄 𐑅 𐑆 𐑇 𐑈 𐑉 𐑊 𐑋 𐑌 𐑍",
   .ofText 0x10426 1 "𐑎 𐑏",
   .ofText 0x104B0 1 "𐓘 𐓙 𐓚 𐓛 𐓜 𐓝 𐓞 𐓟 𐓠 𐓡 𐓢 𐓣 𐓤 𐓥 𐓦 𐓧 𐓨 𐓩 𐓪 𐓫 𐓬 𐓭 𐓮 𐓯 𐓰 𐓱 𐓲 𐓳 𐓴 𐓵 𐓶 𐓷 𐓸 𐓹 𐓺 𐓻",
   .ofText 0x10570 1 "𐖗 𐖘 𐖙 𐖚 𐖛 𐖜 𐖝 𐖞 𐖟 𐖠 𐖡", .ofText 0x1057C 1 "𐖣 𐖤 𐖥 𐖦 𐖧 𐖨 𐖩 𐖪 𐖫 𐖬 𐖭 𐖮 𐖯 𐖰 𐖱",
   .ofText 0x1058C 1 "𐖳 𐖴 𐖵 𐖶 𐖷 𐖸 𐖹", .ofText 0x10594 1 "𐖻 𐖼", .ofText 0x10781 1 "ː ˑ æ ʙ ɓ",
   .ofText 0x10787 1 "ʣ ꭦ ʥ ʤ ɖ ɗ ᶑ ɘ ɞ ʩ ɤ ɢ ɠ ʛ ħ ʜ ɧ ʄ ʪ ʫ ɬ 𝼄 ꞎ ɮ 𝼅 ʎ 𝼆 ø ɶ ɷ q ɺ 𝼈 ɽ ɾ ʀ ʨ ʦ",
   .ofText 0x107AD 1 "ꭧ ʧ ʈ ⱱ", .ofText 0x107B2 1 "ʏ ʡ ʢ ʘ ǀ ǁ ǂ 𝼊 𝼞 ʇ ʖ ʗ ʞ 𝼋",
   .ofText 0x10C80 1 "𐳀 𐳁 𐳂 𐳃 𐳄 𐳅 𐳆 𐳇 𐳈 𐳉 𐳊 𐳋 𐳌 𐳍 𐳎 𐳏 𐳐 𐳑 𐳒 𐳓 𐳔 𐳕 𐳖 𐳗 𐳘 𐳙 𐳚 𐳛 𐳜 𐳝 𐳞 𐳟 𐳠 𐳡 𐳢 𐳣 𐳤 𐳥",
   .ofText 0x10CA6 1 "𐳦 𐳧 𐳨 𐳩 𐳪 𐳫 𐳬 𐳭 𐳮 𐳯 𐳰 𐳱 𐳲",
   .ofText 0x10D50 1 "𐵰 𐵱 𐵲 𐵳 𐵴 𐵵 𐵶 𐵷 𐵸 𐵹 𐵺 𐵻 𐵼 𐵽 𐵾 𐵿 𐶀 𐶁 𐶂 𐶃 𐶄 𐶅",
   .ofText 0x118A0 1 "𑣀 𑣁 𑣂 𑣃 𑣄 𑣅 𑣆 𑣇 𑣈 𑣉 𑣊 𑣋 𑣌 𑣍 𑣎 𑣏 𑣐 𑣑 𑣒 𑣓 𑣔 𑣕 𑣖 𑣗 𑣘 𑣙 𑣚 𑣛 𑣜 𑣝 𑣞 𑣟",
   .ofText 0x16E40 1 "𖹠 𖹡 𖹢 𖹣 𖹤 𖹥 𖹦 𖹧 𖹨 𖹩 𖹪 𖹫 𖹬 𖹭 𖹮 𖹯 𖹰 𖹱 𖹲 𖹳 𖹴 𖹵 𖹶 𖹷 𖹸 𖹹 𖹺 𖹻 𖹼 𖹽 𖹾 𖹿",
   .ofText 0x16EA0 1 "𖺻 𖺼 𖺽 𖺾 𖺿 𖻀 𖻁 𖻂 𖻃 𖻄 𖻅 𖻆 𖻇 𖻈 𖻉 𖻊 𖻋 𖻌 𖻍 𖻎 𖻏 𖻐 𖻑 𖻒 𖻓",
   .ofText 0x1B123 1 "こと トキ トモ ヨリ",
   .ofText 0x1CCD6 1 "a b c d e f g h i j k l m n o p q r s t u v w x y z 0 1 2 3 4 5 6 7 8 9",
   .ofText 0x1D15E 1 "𝅗𝅥 𝅘𝅥 𝅘𝅥𝅮 𝅘𝅥𝅯 𝅘𝅥𝅰 𝅘𝅥𝅱 𝅘𝅥𝅲", .ofText 0x1D1BB 1 "𝆹𝅥 𝆺𝅥 𝆹𝅥𝅮 𝆺𝅥𝅮 𝆹𝅥𝅯 𝆺𝅥𝅯",
   .ofText 0x1D400 1 "a b c d e f g h i j k l m n o p q r s t u v w x y z a b c d e f g h i j k l",
   .ofText 0x1D426 1 "m n o p q r s t u v w x y z a b c d e f g h i j k l m n o p q r s t u v w x",
   .ofText 0x1D44C 1 "y z a b c d e f g",
   .ofText 0x1D456 1 "i j k l m n o p q r s t u v w x y z a b c d e f g h i j k l m n o p q r s t",
   .ofText 0x1D47C 1 "u v w x y z a b c d e f g h i j k l m n o p q r s t u v w x y z a",
   .ofText 0x1D49E 1 "c d", .ofText 0x1D4A2 1 "g", .ofText 0x1D4A5 1 "j k",
   .ofText 0x1D4A9 1 "n o p q", .ofText 0x1D4AE 1 "s t u v w x y z a b c d",
   .ofText 0x1D4BB 2 "f h", .ofText 0x1D4BE 1 "i j k l m n",
   .ofText 0x1D4C5 1 "p q r s t u v w x y z a b c d e f g h i j k l m n o p q r s t u v w x y z a",
   .ofText 0x1D4EB 1 "b c d e f g h i j k l m n o p q r s t u v w x y z a b",
   .ofText 0x1D507 1 "d e f g", .ofText 0x1D50D 1 "j k l m n o p q",
   .ofText 0x1D516 1 "s t u v w x y",
   .ofText 0x1D51E 1 "a b c d e f g h i j k l m n o p q r s t u v w x y z a b",
   .ofText 0x1D53B 1 "d e f g", .ofText 0x1D540 1 "i j k l m", .ofText 0x1D546 1 "o",
   .ofText 0x1D54A 1 "s t u v w x y",
   .ofText 0x1D552 1 "a b c d e f g h i j k l m n o p q r s t u v w x y z a b c d e f g h i j k l",
   .ofText 0x1D578 1 "m n o p q r s t u v w x y z a b c d e f g h i j k l m n o p q r s t u v w x",
   .ofText 0x1D59E 1 "y z a b c d e f g h i j k l m n o p q r s t u v w x y z a b c d e f g h i j",
   .ofText 0x1D5C4 1 "k l m n o p q r s t u v w x y z a b c d e f g h i j k l m n o p q r s t u v",
   .ofText 0x1D5EA 1 "w x y z a b c d e f g h i j k l m n o p q r s t u v w x y z a b c d e f g h",
   .ofText 0x1D610 1 "i j k l m n o p q r s t u v w x y z a b c d e f g h i j k l m n o p q r s t",
   .ofText 0x1D636 1 "u v w x y z a b c d e f g h i j k l m n o p q r s t u v w x y z a b c d e f",
   .ofText 0x1D65C 1 "g h i j k l m n o p q r s t u v w x y z a b c d e f g h i j k l m n o p q r",
   .ofText 0x1D682 1 "s t u v w x y z a b c d e f g h i j k l m n o p q r s t u v w x y z ı ȷ ss",
   .ofText 0x1D6A8 1 "α β γ δ ε ζ η θ ι κ λ μ ν ξ ο π ρ θ σ τ υ φ χ ψ ω ∇ α β γ δ ε ζ η θ ι κ λ μ",
   .ofText 0x1D6CE 1 "ν ξ ο π ρ σ σ τ υ φ χ ψ ω ∂ ε θ κ φ ρ π α β γ δ ε ζ η θ ι κ λ μ ν ξ ο π ρ θ",
   .ofText 0x1D6F4 1 "σ τ υ φ χ ψ ω ∇ α β γ δ ε ζ η θ ι κ λ μ ν ξ ο π ρ σ σ τ υ φ χ ψ ω ∂ ε θ κ φ",
   .ofText 0x1D71A 1 "ρ π α β γ δ ε ζ η θ ι κ λ μ ν ξ ο π ρ θ σ τ υ φ χ ψ ω ∇ α β γ δ ε ζ η θ ι κ",
   .ofText 0x1D740 1 "λ μ ν ξ ο π ρ σ σ τ υ φ χ ψ ω ∂ ε θ κ φ ρ π α β γ δ ε ζ η θ ι κ λ μ ν ξ ο π",
   .ofText 0x1D766 1 "ρ θ σ τ υ φ χ ψ ω ∇ α β γ δ ε ζ η θ ι κ λ μ ν ξ ο π ρ σ σ τ υ φ χ ψ ω ∂ ε θ",
   .ofText 0x1D78C 1 "κ φ ρ π α β γ δ ε ζ η θ ι κ λ μ ν ξ ο π ρ θ σ τ υ φ χ ψ ω ∇ α β γ δ ε ζ η θ",
   .ofText 0x1D7B2 1 "ι κ λ μ ν ξ ο π ρ σ σ τ υ φ χ ψ ω ∂ ε θ κ φ ρ π ϝ ϝ",
   .ofText 0x1D7CE 1 "0 1 2 3 4 5 6 7 8 9 0 1 2 3 4 5 6 7 8 9 0 1 2 3 4 5 6 7 8 9 0 1 2 3 4 5 6 7",
   .ofText 0x1D7F4 1 "8 9 0 1 2 3 4 5 6 7 8 9", .ofText 0x1DF40 1 "𝽁", .ofText 0x1DF48 2 "𝽉 𝽋",
   .ofText 0x1DF4D 1 "𝽎", .ofText 0x1DF51 1 "𝽒", .ofText 0x1DF6C 2 "𝽭 𝽯",
   .ofText 0x1DF72 2 "𝽳 𝽵 𝽷 𝽹 𝽻 𝽽 𝽿", .ofText 0x1DFCD 1 "𝽗", .ofText 0x1DFD5 1 "ł",
   .ofText 0x1DFE0 1 "𝼫 𝼙", .ofText 0x1DFEF 1 "ȡ ȴ ȵ ȶ", .ofText 0x1DFFA 1 "ƈ ƙ ƥ ʠ ƭ 𝼉",
   .ofText 0x1E030 1 "а б в г д е ж з и к л м о п р с т у ф х ц ч ш ы э ю ꚉ ә і ј ө ү ӏ а б в г д",
   .ofText 0x1E056 1 "е ж з и к л о п с у ф х ц ч ш ъ ы ґ і ѕ џ ҫ ꙑ ұ",
   .ofText 0x1E900 1 "𞤢 𞤣 𞤤 𞤥 𞤦 𞤧 𞤨 𞤩 𞤪 𞤫 𞤬 𞤭 𞤮 𞤯 𞤰 𞤱 𞤲 𞤳 𞤴 𞤵 𞤶 𞤷 𞤸 𞤹 𞤺 𞤻 𞤼 𞤽 𞤾 𞤿 𞥀 𞥁 𞥂 𞥃",
   .ofText 0x1EE00 1 "\u0627 \u0628 \u062c \u062f",
   .ofText 0x1EE05 1 "\u0648 \u0632 \u062d \u0637 \u064a \u0643 \u0644 \u0645 \u0646 \u0633 \u0639",
   .ofText 0x1EE10 1 "\u0641 \u0635 \u0642 \u0631 \u0634 \u062a \u062b \u062e \u0630 \u0636 \u0638",
   .ofText 0x1EE1B 1 "\u063a \u066e \u06ba \u06a1 \u066f", .ofText 0x1EE21 1 "\u0628 \u062c",
   .ofText 0x1EE24 1 "\u0647", .ofText 0x1EE27 2 "\u062d \u064a",
   .ofText 0x1EE2A 1 "\u0643 \u0644 \u0645 \u0646 \u0633 \u0639 \u0641 \u0635 \u0642",
   .ofText 0x1EE34 1 "\u0634 \u062a \u062b \u062e", .ofText 0x1EE39 2 "\u0636 \u063a",
   .ofText 0x1EE42 1 "\u062c", .ofText 0x1EE47 2 "\u062d \u064a \u0644 \u0646",
   .ofText 0x1EE4E 1 "\u0633 \u0639", .ofText 0x1EE51 1 "\u0635 \u0642", .ofText 0x1EE54 1 "\u0634",
   .ofText 0x1EE57 2 "\u062e \u0636 \u063a \u06ba \u066f \u0628", .ofText 0x1EE62 2 "\u062c \u0647",
   .ofText 0x1EE67 1 "\u062d \u0637 \u064a \u0643",
   .ofText 0x1EE6C 1 "\u0645 \u0646 \u0633 \u0639 \u0641 \u0635 \u0642",
   .ofText 0x1EE74 1 "\u0634 \u062a \u062b \u062e", .ofText 0x1EE79 1 "\u0636 \u0638 \u063a \u066e",
   .ofText 0x1EE7E 2 "\u06a1 \u0627",
   .ofText 0x1EE81 1 "\u0628 \u062c \u062f \u0647 \u0648 \u0632 \u062d \u0637 \u064a",
   .ofText 0x1EE8B 1 "\u0644 \u0645 \u0646 \u0633 \u0639 \u0641 \u0635 \u0642 \u0631 \u0634 \u062a",
   .ofText 0x1EE96 1 "\u062b \u062e \u0630 \u0636 \u0638 \u063a",
   .ofText 0x1EEA1 1 "\u0628 \u062c \u062f", .ofText 0x1EEA5 1 "\u0648 \u0632 \u062d \u0637 \u064a",
   .ofText 0x1EEAB 1 "\u0644 \u0645 \u0646 \u0633 \u0639 \u0641 \u0635 \u0642 \u0631 \u0634 \u062a",
   .ofText 0x1EEB6 1 "\u062b \u062e \u0630 \u0636 \u0638 \u063a",
   .ofText 0x1F101 1 "0, 1, 2, 3, 4, 5, 6, 7, 8, 9,",
   .ofText 0x1F110 1 "(a) (b) (c) (d) (e) (f) (g) (h) (i) (j) (k) (l) (m) (n) (o) (p) (q) (r) (s)",
   .ofText 0x1F123 1 "(t) (u) (v) (w) (x) (y) (z) 〔s〕 c r cd wz",
   .ofText 0x1F130 1 "a b c d e f g h i j k l m n o p q r s t u v w x y z hv mv sd ss ppv wc",
   .ofText 0x1F16A 1 "mc md mr", .ofText 0x1F190 1 "dj", .ofText 0x1F200 1 "ほか ココ サ",
   .ofText 0x1F210 1 "手 字 双 デ 二 多 解 天 交 映 無 料 前 後 再 新 初 終 生 販 声 吹 演 投 捕 一 三 遊 左 中 右 指 走 打 禁 空 合 満",
   .ofText 0x1F236 1 "有 月 申 割 営 配", .ofText 0x1F240 1 "〔本〕 〔三〕 〔二〕 〔安〕 〔点〕 〔打〕 〔盗〕 〔勝〕 〔敗〕",
   .ofText 0x1F250 1 "得 可", .ofText 0x1FBF0 1 "0 1 2 3 4 5 6 7 8 9",
   .ofText 0x2F800 1 "丽 丸 乁 𠄢 你 侮 侻 倂 偺 備 僧 像 㒞 𠘺 免 兔 兤 具 𠔜 㒹 內 再 𠕋 冗 冤 仌 冬 况 𩇟 凵 刃 㓟 刻 剆 割 剷 㔕 勇",
   .ofText 0x2F826 1 "勉 勤 勺 包 匆 北 卉 卑 博 即 卽 卿 卿 卿 𠨬 灰 及 叟 𠭣 叫 叱 吆 咞 吸 呈 周 咢 哶 唐 啓 啣 善 善 喙 喫 喳 嗂 圖",
   .ofText 0x2F84C 1 "嘆 圗 噑 噴 切 壮 城 埴 堍 型 堲 報 墬 𡓤 売 壷 夆 多 夢 奢 𡚨 𡛪 姬 娛 娧 姘 婦 㛮 㛼 嬈 嬾 嬾 𡧈 寃 寘 寧 寳 𡬘",
   .ofText 0x2F872 1 "寿 将 当 尢 㞁 屠 屮 峀 岍 𡷤 嵃 𡷦 嵮 嵫 嵼 巡 巢 㠯 巽 帨 帽 幩 㡢 𢆃 㡼 庰 庳 庶 廊 𪎒 廾 𢌱 𢌱 舁 弢 弢 㣇 𣊸",
   .ofText 0x2F898 1 "𦇚 形 彫 㣣 徚 忍 志 忹 悁 㤺 㤜 悔 𢛔 惇 慈 慌 慎 慌 慺 憎 憲 憤 憯 懞 懲 懶 成 戛 扝 抱 拔 捐 𢬌 挽 拼 捨 掃 揤",
   .ofText 0x2F8BE 1 "𢯱 搢 揅 掩 㨮 摩 摾 撝 摷 㩬 敏 敬 𣀊 旣 書 晉 㬙 暑 㬈 㫤 冒 冕 最 暜 肭 䏙 朗 望 朡 杞 杓 𣏃 㭉 柺 枅 桒 梅 𣑭",
   .ofText 0x2F8E4 1 "梎 栟 椔 㮝 楂 榣 槪 檨 𣚣 櫛 㰘 次 𣢧 歔 㱎 歲 殟 殺 殻 𣪍 𡴋 𣫺 汎 𣲼 沿 泍 汧 洖 派 海 流 浩 浸 涅 𣴞 洴 港 湮",
   .ofText 0x2F90A 1 "㴳 滋 滇 𣻑 淹 潮 𣽞 𣾎 濆 瀹 瀞 瀛 㶖 灊 災 灷 炭 𠔥 煅 𤉣 熜 𤎫 爨 爵 牐 𤘈 犀 犕 𤜵 𤠔 獺 王 㺬 玥 㺸 㺸 瑇 瑜",
   .ofText 0x2F930 1 "瑱 璅 瓊 㼛 甤 𤰶 甾 𤲒 異 𢆟 瘐 𤾡 𤾸 𥁄 㿼 䀈 直 𥃳 𥃲 𥄙 𥄳 眞 真 真 睊 䀹 瞋 䁆 䂖 𥐝 硎 碌 磌 䃣 𥘦 祖 𥚚 𥛅",
   .ofText 0x2F956 1 "福 秫 䄯 穀 穊 穏 𥥼 𥪧 𥪧 竮 䈂 𥮫 篆 築 䈧 𥲀 糒 䊠 糨 糣 紀 𥾆 絣 䌁 緇 縂 繅 䌴 𦈨 𦉇 䍙 𦋙 罺 𦌾 羕 翺 者 𦓚",
   .ofText 0x2F97C 1 "𦔣 聠 𦖨 聰 𣍟 䏕 育 脃 䐋 脾 媵 𦞧 𦞵 𣎓 𣎜 舁 舄 辞 䑫 芑 芋 芝 劳 花 芳 芽 苦 𦬼 若 茝 荣 莭 茣 莽 菧 著 荓 菊",
   .ofText 0x2F9A2 1 "菌 菜 𦰶 𦵫 𦳕 䔫 蓱 蓳 蔖 𧏊 蕤 𦼬 䕝 䕡 𦾱 𧃒 䕫 虐 虜 虧 虩 蚩 蚈 蜎 蛢 蝹 蜨 蝫 螆 䗗 蟡 蠁 䗹 衠 衣 𧙧 裗 裞",
   .ofText 0x2F9C8 1 "䘵 裺 㒻 𧢮 𧥦 䚾 䛇 誠 諭 變 豕 𧲨 貫 賁 贛 起 𧼯 𠠄 跋 趼 跰 𠣞 軔 輸 𨗒 𨗭 邔 郱 鄑 𨜮 鄛 鈸 鋗 鋘 鉼 鏹 鐕 𨯺",
   .ofText 0x2F9EE 1 "開 䦕 閷 𨵷 䧦 雃 嶲 霣 𩅅 𩈚 䩮 䩶 韠 𩐊 䪲 𩒖 頋 頋 頩 𩖶 飢 䬳 餩 馧 駂 駾 䯎 𩬰 鬒 鱀 鳽 䳎 䳭 鵧 𪃎 䳸 𪄅 𪈎",
   .ofText 0x2FA14 1 "𪊑 麻 䵖 黹 黾 鼅 鼏 鼖 鼻 𪘀"]

/-- Characters that do not count: they have no width, or choose a variant of the character before
them. -/
def ignored : List (Nat × Nat) :=
  [(0xAD, 0xAD), (0x34F, 0x34F), (0x115F, 0x1160), (0x17B4, 0x17B5), (0x180B, 0x180F),
   (0x200B, 0x200B), (0x2060, 0x2064), (0x206A, 0x206F), (0x3164, 0x3164), (0xFE00, 0xFE0F),
   (0xFEFF, 0xFEFF), (0xFFA0, 0xFFA0), (0x1BCA0, 0x1BCA3), (0x1D173, 0x1D17A), (0xE0100, 0xE01EF)]

/-- Characters beyond ASCII that no name has: control and format characters, spaces, characters
whose form has a sign that no name has, even as a part of a composed character, and codes for
private use or without a character. -/
def refused : List (Nat × Nat) :=
  [(0x80, 0xA0), (0xA8, 0xA8), (0xAF, 0xAF), (0xB4, 0xB4), (0xB8, 0xB8), (0x2D8, 0x2DD),
   (0x378, 0x37A), (0x380, 0x385), (0x38B, 0x38B), (0x38D, 0x38D), (0x3A2, 0x3A2), (0x530, 0x530),
   (0x557, 0x557), (0x590, 0x590), (0x5CA, 0x5CF), (0x5EB, 0x5EE), (0x5F5, 0x605), (0x61C, 0x61C),
   (0x6DD, 0x6DD), (0x70E, 0x70F), (0x74B, 0x74C), (0x7B2, 0x7BF), (0x7FB, 0x7FC), (0x82E, 0x82F),
   (0x83F, 0x83F), (0x85C, 0x85D), (0x85F, 0x85F), (0x86B, 0x86F), (0x890, 0x896), (0x8E2, 0x8E2),
   (0x984, 0x984), (0x98D, 0x98E), (0x991, 0x992), (0x9A9, 0x9A9), (0x9B1, 0x9B1), (0x9B3, 0x9B5),
   (0x9BA, 0x9BB), (0x9C5, 0x9C6), (0x9C9, 0x9CA), (0x9CF, 0x9D6), (0x9D8, 0x9DB), (0x9DE, 0x9DE),
   (0x9E4, 0x9E5), (0x9FF, 0xA00), (0xA04, 0xA04), (0xA0B, 0xA0E), (0xA11, 0xA12), (0xA29, 0xA29),
   (0xA31, 0xA31), (0xA34, 0xA34), (0xA37, 0xA37), (0xA3A, 0xA3B), (0xA3D, 0xA3D), (0xA43, 0xA46),
   (0xA49, 0xA4A), (0xA4E, 0xA50), (0xA52, 0xA58), (0xA5D, 0xA5D), (0xA5F, 0xA65), (0xA77, 0xA80),
   (0xA84, 0xA84), (0xA8E, 0xA8E), (0xA92, 0xA92), (0xAA9, 0xAA9), (0xAB1, 0xAB1), (0xAB4, 0xAB4),
   (0xABA, 0xABB), (0xAC6, 0xAC6), (0xACA, 0xACA), (0xACE, 0xACF), (0xAD1, 0xADF), (0xAE4, 0xAE5),
   (0xAF2, 0xAF8), (0xB00, 0xB00), (0xB04, 0xB04), (0xB0D, 0xB0E), (0xB11, 0xB12), (0xB29, 0xB29),
   (0xB31, 0xB31), (0xB34, 0xB34), (0xB3A, 0xB3B), (0xB45, 0xB46), (0xB49, 0xB4A), (0xB4E, 0xB52),
   (0xB58, 0xB5B), (0xB5E, 0xB5E), (0xB64, 0xB65), (0xB78, 0xB81), (0xB84, 0xB84), (0xB8B, 0xB8D),
   (0xB91, 0xB91), (0xB96, 0xB98), (0xB9B, 0xB9B), (0xB9D, 0xB9D), (0xBA0, 0xBA2), (0xBA5, 0xBA7),
   (0xBAB, 0xBAD), (0xBBA, 0xBBD), (0xBC3, 0xBC5), (0xBC9, 0xBC9), (0xBCE, 0xBCF), (0xBD1, 0xBD6),
   (0xBD8, 0xBE5), (0xBFB, 0xBFF), (0xC0D, 0xC0D), (0xC11, 0xC11), (0xC29, 0xC29), (0xC3A, 0xC3B),
   (0xC45, 0xC45), (0xC49, 0xC49), (0xC4E, 0xC54), (0xC57, 0xC57), (0xC5B, 0xC5B), (0xC5E, 0xC5F),
   (0xC64, 0xC65), (0xC70, 0xC76), (0xC8D, 0xC8D), (0xC91, 0xC91), (0xCA9, 0xCA9), (0xCB4, 0xCB4),
   (0xCBA, 0xCBB), (0xCC5, 0xCC5), (0xCC9, 0xCC9), (0xCCE, 0xCD4), (0xCD7, 0xCDB), (0xCDF, 0xCDF),
   (0xCE4, 0xCE5), (0xCF0, 0xCF0), (0xCF4, 0xCFF), (0xD0D, 0xD0D), (0xD11, 0xD11), (0xD45, 0xD45),
   (0xD49, 0xD49), (0xD50, 0xD53), (0xD64, 0xD65), (0xD80, 0xD80), (0xD84, 0xD84), (0xD97, 0xD99),
   (0xDB2, 0xDB2), (0xDBC, 0xDBC), (0xDBE, 0xDBF), (0xDC7, 0xDC9), (0xDCB, 0xDCE), (0xDD5, 0xDD5),
   (0xDD7, 0xDD7), (0xDE0, 0xDE5), (0xDF0, 0xDF1), (0xDF5, 0xE00), (0xE3B, 0xE3E), (0xE5C, 0xE80),
   (0xE83, 0xE83), (0xE85, 0xE85), (0xE8B, 0xE8B), (0xEA4, 0xEA4), (0xEA6, 0xEA6), (0xEBE, 0xEBF),
   (0xEC5, 0xEC5), (0xEC7, 0xEC7), (0xECF, 0xECF), (0xEDA, 0xEDB), (0xEE0, 0xEFF), (0xF48, 0xF48),
   (0xF6D, 0xF70), (0xF98, 0xF98), (0xFBD, 0xFBD), (0xFCD, 0xFCD), (0xFDB, 0xFFF), (0x10C6, 0x10C6),
   (0x10C8, 0x10CC), (0x10CE, 0x10CF), (0x1249, 0x1249), (0x124E, 0x124F), (0x1257, 0x1257),
   (0x1259, 0x1259), (0x125E, 0x125F), (0x1289, 0x1289), (0x128E, 0x128F), (0x12B1, 0x12B1),
   (0x12B6, 0x12B7), (0x12BF, 0x12BF), (0x12C1, 0x12C1), (0x12C6, 0x12C7), (0x12D7, 0x12D7),
   (0x1311, 0x1311), (0x1316, 0x1317), (0x135B, 0x135C), (0x137D, 0x137F), (0x139A, 0x139F),
   (0x13F6, 0x13F7), (0x13FE, 0x13FF), (0x1680, 0x1680), (0x169D, 0x169F), (0x16F9, 0x16FF),
   (0x1716, 0x171E), (0x1737, 0x173F), (0x1754, 0x175F), (0x176D, 0x176D), (0x1771, 0x1771),
   (0x1774, 0x177F), (0x17DE, 0x17DF), (0x17EA, 0x17EF), (0x17FA, 0x17FF), (0x181A, 0x181F),
   (0x1879, 0x187F), (0x18AB, 0x18AF), (0x18F6, 0x18FF), (0x191F, 0x191F), (0x192C, 0x192F),
   (0x193C, 0x193F), (0x1941, 0x1943), (0x196E, 0x196F), (0x1975, 0x197F), (0x19AC, 0x19AF),
   (0x19CA, 0x19CF), (0x19DB, 0x19DD), (0x1A1C, 0x1A1D), (0x1A5F, 0x1A5F), (0x1A7D, 0x1A7E),
   (0x1A8A, 0x1A8F), (0x1A9A, 0x1A9F), (0x1AAE, 0x1AAF), (0x1ADE, 0x1ADF), (0x1AF1, 0x1AFF),
   (0x1B4D, 0x1B4D), (0x1BF4, 0x1BFB), (0x1C38, 0x1C3A), (0x1C4A, 0x1C4C), (0x1C8B, 0x1C8F),
   (0x1CBB, 0x1CBC), (0x1CC8, 0x1CCF), (0x1CFB, 0x1CFF), (0x1F16, 0x1F17), (0x1F1E, 0x1F1F),
   (0x1F46, 0x1F47), (0x1F4E, 0x1F4F), (0x1F58, 0x1F58), (0x1F5A, 0x1F5A), (0x1F5C, 0x1F5C),
   (0x1F5E, 0x1F5E), (0x1F7E, 0x1F7F), (0x1FB5, 0x1FB5), (0x1FBD, 0x1FBD), (0x1FBF, 0x1FC1),
   (0x1FC5, 0x1FC5), (0x1FCD, 0x1FCF), (0x1FD4, 0x1FD5), (0x1FDC, 0x1FDF), (0x1FED, 0x1FF1),
   (0x1FF5, 0x1FF5), (0x1FFD, 0x200A), (0x200E, 0x200F), (0x2017, 0x2017), (0x2024, 0x2026),
   (0x2028, 0x202F), (0x203E, 0x203E), (0x2047, 0x2049), (0x205F, 0x205F), (0x2065, 0x2069),
   (0x2072, 0x2073), (0x208F, 0x208F), (0x209D, 0x209F), (0x20C5, 0x20CF), (0x20F1, 0x2101),
   (0x2105, 0x2106), (0x218C, 0x218F), (0x242A, 0x243F), (0x244B, 0x245F), (0x2488, 0x249B),
   (0x2A74, 0x2A74), (0x2B74, 0x2B75), (0x2CF4, 0x2CF8), (0x2D26, 0x2D26), (0x2D28, 0x2D2C),
   (0x2D2E, 0x2D2F), (0x2D68, 0x2D6E), (0x2D71, 0x2D7E), (0x2D97, 0x2D9F), (0x2DA7, 0x2DA7),
   (0x2DAF, 0x2DAF), (0x2DB7, 0x2DB7), (0x2DBF, 0x2DBF), (0x2DC7, 0x2DC7), (0x2DCF, 0x2DCF),
   (0x2DD7, 0x2DD7), (0x2DDF, 0x2DDF), (0x2E5E, 0x2E7F), (0x2E9A, 0x2E9A), (0x2EF4, 0x2EFF),
   (0x2FD6, 0x3000), (0x3040, 0x3040), (0x3097, 0x3098), (0x309B, 0x309C), (0x3100, 0x3104),
   (0x3130, 0x3130), (0x318F, 0x318F), (0x31E6, 0x31EF), (0x321F, 0x321F), (0x33C2, 0x33C2),
   (0x33C7, 0x33C7), (0x33D8, 0x33D8), (0xA48D, 0xA48F), (0xA4C7, 0xA4CF), (0xA62C, 0xA63F),
   (0xA6F8, 0xA6FF), (0xA7DE, 0xA7F0), (0xA82D, 0xA82F), (0xA83A, 0xA83F), (0xA878, 0xA87F),
   (0xA8C6, 0xA8CD), (0xA8DA, 0xA8DF), (0xA954, 0xA95E), (0xA97D, 0xA97F), (0xA9CE, 0xA9CE),
   (0xA9DA, 0xA9DD), (0xA9FF, 0xA9FF), (0xAA37, 0xAA3F), (0xAA4E, 0xAA4F), (0xAA5A, 0xAA5B),
   (0xAAC3, 0xAADA), (0xAAF7, 0xAB00), (0xAB07, 0xAB08), (0xAB0F, 0xAB10), (0xAB17, 0xAB1F),
   (0xAB27, 0xAB27), (0xAB2F, 0xAB2F), (0xAB6E, 0xAB6F), (0xABEE, 0xABEF), (0xABFA, 0xABFF),
   (0xD7A4, 0xD7AF), (0xD7C7, 0xD7CA), (0xD7FC, 0xF8FF), (0xFA6E, 0xFA6F), (0xFADA, 0xFAFF),
   (0xFB07, 0xFB12), (0xFB18, 0xFB1C), (0xFB37, 0xFB37), (0xFB3D, 0xFB3D), (0xFB3F, 0xFB3F),
   (0xFB42, 0xFB42), (0xFB45, 0xFB45), (0xFC5E, 0xFC63), (0xFDD0, 0xFDEF), (0xFDFA, 0xFDFB),
   (0xFE12, 0xFE13), (0xFE16, 0xFE16), (0xFE19, 0xFE1F), (0xFE30, 0xFE30), (0xFE37, 0xFE38),
   (0xFE47, 0xFE4C), (0xFE52, 0xFE53), (0xFE55, 0xFE56), (0xFE5B, 0xFE5C), (0xFE5F, 0xFE5F),
   (0xFE67, 0xFE68), (0xFE6A, 0xFE70), (0xFE72, 0xFE72), (0xFE74, 0xFE76), (0xFE78, 0xFE78),
   (0xFE7A, 0xFE7A), (0xFE7C, 0xFE7C), (0xFE7E, 0xFE7E), (0xFEFD, 0xFEFE), (0xFF00, 0xFF00),
   (0xFF02, 0xFF03), (0xFF05, 0xFF05), (0xFF0F, 0xFF0F), (0xFF1A, 0xFF1A), (0xFF1F, 0xFF20),
   (0xFF3B, 0xFF3E), (0xFF40, 0xFF40), (0xFF5B, 0xFF5D), (0xFFBF, 0xFFC1), (0xFFC8, 0xFFC9),
   (0xFFD0, 0xFFD1), (0xFFD8, 0xFFD9), (0xFFDD, 0xFFDF), (0xFFE3, 0xFFE3), (0xFFE7, 0xFFE7),
   (0xFFEF, 0xFFFF), (0x1000C, 0x1000C), (0x10027, 0x10027), (0x1003B, 0x1003B), (0x1003E, 0x1003E),
   (0x1004E, 0x1004F), (0x1005E, 0x1007F), (0x100FB, 0x100FF), (0x10103, 0x10106),
   (0x10134, 0x10136), (0x1018F, 0x1018F), (0x1019D, 0x1019F), (0x101A1, 0x101CF),
   (0x101FE, 0x1027F), (0x1029D, 0x1029F), (0x102D1, 0x102DF), (0x102FC, 0x102FF),
   (0x10324, 0x1032C), (0x1034B, 0x1034F), (0x1037B, 0x1037F), (0x1039E, 0x1039E),
   (0x103C4, 0x103C7), (0x103D6, 0x103FF), (0x1049E, 0x1049F), (0x104AA, 0x104AF),
   (0x104D4, 0x104D7), (0x104FC, 0x104FF), (0x10528, 0x1052F), (0x10564, 0x1056E),
   (0x1057B, 0x1057B), (0x1058B, 0x1058B), (0x10593, 0x10593), (0x10596, 0x10596),
   (0x105A2, 0x105A2), (0x105B2, 0x105B2), (0x105BA, 0x105BA), (0x105BD, 0x105BF),
   (0x105F4, 0x105FF), (0x10737, 0x1073F), (0x10756, 0x1075F), (0x10768, 0x1077F),
   (0x10786, 0x10786), (0x107B1, 0x107B1), (0x107C0, 0x107FF), (0x10806, 0x10807),
   (0x10809, 0x10809), (0x10836, 0x10836), (0x10839, 0x1083B), (0x1083D, 0x1083E),
   (0x10856, 0x10856), (0x1089F, 0x108A6), (0x108B0, 0x108DF), (0x108F3, 0x108F3),
   (0x108F6, 0x108FA), (0x1091C, 0x1091E), (0x1093A, 0x1093E), (0x1095A, 0x1097F),
   (0x109B8, 0x109BB), (0x109D0, 0x109D1), (0x10A04, 0x10A04), (0x10A07, 0x10A0B),
   (0x10A14, 0x10A14), (0x10A18, 0x10A18), (0x10A36, 0x10A37), (0x10A3B, 0x10A3E),
   (0x10A49, 0x10A4F), (0x10A59, 0x10A5F), (0x10AA0, 0x10ABF), (0x10AE7, 0x10AEA),
   (0x10AF7, 0x10AFF), (0x10B36, 0x10B38), (0x10B56, 0x10B57), (0x10B73, 0x10B77),
   (0x10B92, 0x10B98), (0x10B9D, 0x10BA8), (0x10BB0, 0x10BFF), (0x10C49, 0x10C7F),
   (0x10CB3, 0x10CBF), (0x10CF3, 0x10CF9), (0x10D28, 0x10D2F), (0x10D3A, 0x10D3F),
   (0x10D66, 0x10D68), (0x10D86, 0x10D8D), (0x10D90, 0x10E5F), (0x10E7F, 0x10E7F),
   (0x10EAA, 0x10EAA), (0x10EAE, 0x10EAF), (0x10EB2, 0x10EC1), (0x10EC8, 0x10ECA),
   (0x10EEF, 0x10EEF), (0x10F28, 0x10F2F), (0x10F5A, 0x10F6F), (0x10F8A, 0x10FAF),
   (0x10FCC, 0x10FDF), (0x10FF7, 0x10FFF), (0x1104E, 0x11051), (0x11076, 0x1107E),
   (0x110BD, 0x110BD), (0x110C3, 0x110CF), (0x110E9, 0x110EF), (0x110FA, 0x110FF),
   (0x11135, 0x11135), (0x11148, 0x1114F), (0x11177, 0x1117F), (0x111E0, 0x111E0),
   (0x111F5, 0x111FF), (0x11212, 0x11212), (0x11242, 0x1127F), (0x11287, 0x11287),
   (0x11289, 0x11289), (0x1128E, 0x1128E), (0x1129E, 0x1129E), (0x112AA, 0x112AF),
   (0x112EB, 0x112EF), (0x112FA, 0x112FF), (0x11304, 0x11304), (0x1130D, 0x1130E),
   (0x11311, 0x11312), (0x11329, 0x11329), (0x11331, 0x11331), (0x11334, 0x11334),
   (0x1133A, 0x1133A), (0x11345, 0x11346), (0x11349, 0x1134A), (0x1134E, 0x1134F),
   (0x11351, 0x11356), (0x11358, 0x1135C), (0x11364, 0x11365), (0x1136D, 0x1136F),
   (0x11375, 0x1137F), (0x1138A, 0x1138A), (0x1138C, 0x1138D), (0x1138F, 0x1138F),
   (0x113B6, 0x113B6), (0x113C1, 0x113C1), (0x113C3, 0x113C4), (0x113C6, 0x113C6),
   (0x113CB, 0x113CB), (0x113D6, 0x113D6), (0x113D9, 0x113E0), (0x113E3, 0x113FF),
   (0x1145C, 0x1145C), (0x11462, 0x1147F), (0x114C8, 0x114CF), (0x114DA, 0x1157F),
   (0x115B6, 0x115B7), (0x115DE, 0x115FF), (0x11645, 0x1164F), (0x1165A, 0x1165F),
   (0x1166D, 0x1167F), (0x116BA, 0x116BF), (0x116CA, 0x116CF), (0x116E4, 0x116FF),
   (0x1171B, 0x1171C), (0x1172C, 0x1172F), (0x11747, 0x117FF), (0x1183C, 0x1189F),
   (0x118F3, 0x118FE), (0x11907, 0x11908), (0x1190A, 0x1190B), (0x11914, 0x11914),
   (0x11917, 0x11917), (0x11936, 0x11936), (0x11939, 0x1193A), (0x11947, 0x1194F),
   (0x1195A, 0x1199F), (0x119A8, 0x119A9), (0x119D8, 0x119D9), (0x119E5, 0x119FF),
   (0x11A48, 0x11A4F), (0x11AA3, 0x11AAF), (0x11AF9, 0x11AFF), (0x11B0A, 0x11B5F),
   (0x11B68, 0x11BBF), (0x11BE2, 0x11BEF), (0x11BFA, 0x11BFF), (0x11C09, 0x11C09),
   (0x11C37, 0x11C37), (0x11C46, 0x11C4F), (0x11C6D, 0x11C6F), (0x11C90, 0x11C91),
   (0x11CA8, 0x11CA8), (0x11CB7, 0x11CFF), (0x11D07, 0x11D07), (0x11D0A, 0x11D0A),
   (0x11D37, 0x11D39), (0x11D3B, 0x11D3B), (0x11D3E, 0x11D3E), (0x11D48, 0x11D4F),
   (0x11D5A, 0x11D5F), (0x11D66, 0x11D66), (0x11D69, 0x11D69), (0x11D8F, 0x11D8F),
   (0x11D92, 0x11D92), (0x11D99, 0x11D9F), (0x11DAA, 0x11DAF), (0x11DDC, 0x11DDF),
   (0x11DEA, 0x11DEF), (0x11DF2, 0x11EDF), (0x11EF9, 0x11EFF), (0x11F11, 0x11F11),
   (0x11F3B, 0x11F3D), (0x11F5B, 0x11FAF), (0x11FB1, 0x11FBF), (0x11FF2, 0x11FFE),
   (0x1239A, 0x123FF), (0x12544, 0x1254F), (0x12687, 0x12F8F), (0x12FF3, 0x12FFF),
   (0x13430, 0x1343F), (0x13456, 0x1345F), (0x143FB, 0x143FF), (0x14647, 0x160FF),
   (0x1613A, 0x167FF), (0x16A39, 0x16A3F), (0x16A5F, 0x16A5F), (0x16A6A, 0x16A6D),
   (0x16ABF, 0x16ABF), (0x16ACA, 0x16ACF), (0x16AEE, 0x16AEF), (0x16AF6, 0x16AFF),
   (0x16B46, 0x16B4F), (0x16B5A, 0x16B5A), (0x16B62, 0x16B62), (0x16B78, 0x16B7C),
   (0x16B90, 0x16D3F), (0x16D7A, 0x16D7F), (0x16DAA, 0x16E3F), (0x16E9B, 0x16E9F),
   (0x16EB9, 0x16EBA), (0x16ED4, 0x16EFF), (0x16F4B, 0x16F4E), (0x16F88, 0x16F8E),
   (0x16FA0, 0x16FDF), (0x16FE5, 0x16FEF), (0x16FF7, 0x16FFF), (0x18CD6, 0x18CFE),
   (0x18D1F, 0x18D7F), (0x18DF3, 0x18DFF), (0x19192, 0x1919F), (0x191D3, 0x1AFEF),
   (0x1AFF4, 0x1AFF4), (0x1AFFC, 0x1AFFC), (0x1AFFF, 0x1AFFF), (0x1B129, 0x1B131),
   (0x1B133, 0x1B14F), (0x1B153, 0x1B154), (0x1B156, 0x1B163), (0x1B169, 0x1B16F),
   (0x1B2FC, 0x1BBFF), (0x1BC6B, 0x1BC6F), (0x1BC7D, 0x1BC7F), (0x1BC89, 0x1BC8F),
   (0x1BC9A, 0x1BC9B), (0x1BCA4, 0x1CBFF), (0x1CCFD, 0x1CCFF), (0x1CEB4, 0x1CEB9),
   (0x1CED1, 0x1CED1), (0x1CED5, 0x1CEDF), (0x1CEFE, 0x1CEFF), (0x1CF2E, 0x1CF2F),
   (0x1CF47, 0x1CF4F), (0x1CFC4, 0x1CFFF), (0x1D0F6, 0x1D0FF), (0x1D246, 0x1D24F),
   (0x1D282, 0x1D2BF), (0x1D2D4, 0x1D2DF), (0x1D2F4, 0x1D2FF), (0x1D357, 0x1D35F),
   (0x1D379, 0x1D3FF), (0x1D455, 0x1D455), (0x1D49D, 0x1D49D), (0x1D4A0, 0x1D4A1),
   (0x1D4A3, 0x1D4A4), (0x1D4A7, 0x1D4A8), (0x1D4AD, 0x1D4AD), (0x1D4BA, 0x1D4BA),
   (0x1D4BC, 0x1D4BC), (0x1D4C4, 0x1D4C4), (0x1D506, 0x1D506), (0x1D50B, 0x1D50C),
   (0x1D515, 0x1D515), (0x1D51D, 0x1D51D), (0x1D53A, 0x1D53A), (0x1D53F, 0x1D53F),
   (0x1D545, 0x1D545), (0x1D547, 0x1D549), (0x1D551, 0x1D551), (0x1D6A7, 0x1D6A7),
   (0x1D7CC, 0x1D7CD), (0x1DA8C, 0x1DA9A), (0x1DAA0, 0x1DAA0), (0x1DAB0, 0x1DEFF),
   (0x1DF1F, 0x1DF24), (0x1DF82, 0x1DF8F), (0x1DF97, 0x1DFCC), (0x1DFCE, 0x1DFD4),
   (0x1DFD6, 0x1DFDF), (0x1DFE2, 0x1DFEE), (0x1DFF3, 0x1DFF9), (0x1E007, 0x1E007),
   (0x1E019, 0x1E01A), (0x1E022, 0x1E022), (0x1E025, 0x1E025), (0x1E02B, 0x1E02F),
   (0x1E06E, 0x1E08E), (0x1E090, 0x1E0FF), (0x1E12D, 0x1E12F), (0x1E13E, 0x1E13F),
   (0x1E14A, 0x1E14D), (0x1E150, 0x1E28F), (0x1E2AF, 0x1E2BF), (0x1E2FA, 0x1E2FE),
   (0x1E300, 0x1E4CF), (0x1E4FA, 0x1E5CF), (0x1E5FB, 0x1E5FE), (0x1E600, 0x1E6BF),
   (0x1E6DF, 0x1E6DF), (0x1E6F6, 0x1E6FD), (0x1E700, 0x1E7DF), (0x1E7E7, 0x1E7E7),
   (0x1E7EC, 0x1E7EC), (0x1E7EF, 0x1E7EF), (0x1E7FF, 0x1E7FF), (0x1E8C5, 0x1E8C6),
   (0x1E8D7, 0x1E8FF), (0x1E94C, 0x1E94F), (0x1E95A, 0x1E95D), (0x1E960, 0x1EC70),
   (0x1ECB5, 0x1ED00), (0x1ED3E, 0x1EDFF), (0x1EE04, 0x1EE04), (0x1EE20, 0x1EE20),
   (0x1EE23, 0x1EE23), (0x1EE25, 0x1EE26), (0x1EE28, 0x1EE28), (0x1EE33, 0x1EE33),
   (0x1EE38, 0x1EE38), (0x1EE3A, 0x1EE3A), (0x1EE3C, 0x1EE41), (0x1EE43, 0x1EE46),
   (0x1EE48, 0x1EE48), (0x1EE4A, 0x1EE4A), (0x1EE4C, 0x1EE4C), (0x1EE50, 0x1EE50),
   (0x1EE53, 0x1EE53), (0x1EE55, 0x1EE56), (0x1EE58, 0x1EE58), (0x1EE5A, 0x1EE5A),
   (0x1EE5C, 0x1EE5C), (0x1EE5E, 0x1EE5E), (0x1EE60, 0x1EE60), (0x1EE63, 0x1EE63),
   (0x1EE65, 0x1EE66), (0x1EE6B, 0x1EE6B), (0x1EE73, 0x1EE73), (0x1EE78, 0x1EE78),
   (0x1EE7D, 0x1EE7D), (0x1EE7F, 0x1EE7F), (0x1EE8A, 0x1EE8A), (0x1EE9C, 0x1EEA0),
   (0x1EEA4, 0x1EEA4), (0x1EEAA, 0x1EEAA), (0x1EEBC, 0x1EEEF), (0x1EEF2, 0x1EFFF),
   (0x1F02C, 0x1F02F), (0x1F094, 0x1F09F), (0x1F0AF, 0x1F0B0), (0x1F0C0, 0x1F0C0),
   (0x1F0D0, 0x1F0D0), (0x1F0F6, 0x1F100), (0x1F1AF, 0x1F1E5), (0x1F203, 0x1F20F),
   (0x1F23C, 0x1F23F), (0x1F249, 0x1F24F), (0x1F252, 0x1F25F), (0x1F266, 0x1F2FF),
   (0x1F6DA, 0x1F6DB), (0x1F6ED, 0x1F6EF), (0x1F6FD, 0x1F6FF), (0x1F7DC, 0x1F7DF),
   (0x1F7EC, 0x1F7EF), (0x1F80C, 0x1F80F), (0x1F848, 0x1F84F), (0x1F85A, 0x1F85F),
   (0x1F888, 0x1F88F), (0x1F8AE, 0x1F8AF), (0x1F8BC, 0x1F8BF), (0x1F8C2, 0x1F8CF),
   (0x1F8D9, 0x1F8FF), (0x1FA58, 0x1FA5F), (0x1FA6E, 0x1FA6F), (0x1FA7D, 0x1FA7F),
   (0x1FAC7, 0x1FAC7), (0x1FAC9, 0x1FACB), (0x1FADE, 0x1FADE), (0x1FAEC, 0x1FAEE),
   (0x1FAFB, 0x1FAFF), (0x1FB93, 0x1FB93), (0x1FBFB, 0x1FFFF), (0x2A6E0, 0x2A6FF),
   (0x2B81F, 0x2B81F), (0x2CEAE, 0x2CEAF), (0x2EBE1, 0x2EBEF), (0x2EE5E, 0x2F7FF),
   (0x2FA1E, 0x2FFFF), (0x3134B, 0x3134F), (0x3347A, 0x3CFFF), (0x3FC40, 0xE00FF),
   (0xE01F0, 0x10FFFF)]

/-- The form in which a character counts; none if it is refused. -/
def form? (c : Char) : Option (List Char) :=
  if c.toNat < 0x80 then some [c.toLower]
  else if inRanges refused c then none
  else if inRanges ignored c then some []
  else some ((textIn? forms c).getD [c])

end DiscountPolicy.Domain
