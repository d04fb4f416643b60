/-!
# The letters of hosts

A host may be written in variants of the characters of ASCII: wide, raised, circled or styled
letters and digits, ligatures, other full stops. Each of them stands for a text of ASCII, and some
characters stand for nothing.

* `Host.ignored`, `Host.runs`, `Host.singles`, `Host.ligatures` -- the tables;
* `Host.fold?` -- the text of ASCII that a character stands for;
* `Host.foldName?` -- a name with its characters folded.

Characters that stand for something that no host may hold are left out of the tables, where that
does not break a run.
-/

namespace TemplateClient.Host

/-! ## 1. Tables -/

/-- Stretches of code points that stand for nothing: the first and the last of each. -/
def ignored : List (Nat × Nat) :=
  [(0xAD, 0xAD), (0x34F, 0x34F), (0x115F, 0x1160), (0x17B4, 0x17B5), (0x180B, 0x180F),
    (0x200B, 0x200B), (0x2060, 0x2064), (0x206A, 0x206F), (0x3164, 0x3164), (0xFE00, 0xFE0F),
    (0xFEFF, 0xFEFF), (0xFFA0, 0xFFA0), (0x1BCA0, 0x1BCA3), (0x1D173, 0x1D17A), (0xE0100, 0xE01EF)]

/-- Runs of code points that stand for consecutive characters: the first code point, the number of
them, and what the first one stands for. -/
def runs : List (Nat × Nat × Char) :=
  [(0x1D33, 8, 'g'), (0x2074, 6, '4'), (0x2080, 10, '0'), (0x2096, 4, 'k'), (0x2119, 3, 'p'),
    (0x2460, 9, '1'), (0x24B6, 26, 'a'), (0x24D0, 26, 'a'), (0xFF01, 32, '!'), (0xFF21, 26, 'a'),
    (0xFF3B, 36, '['), (0x1CCD6, 26, 'a'), (0x1CCF0, 10, '0'), (0x1D400, 26, 'a'),
    (0x1D41A, 26, 'a'), (0x1D434, 26, 'a'), (0x1D44E, 7, 'a'), (0x1D456, 18, 'i'),
    (0x1D468, 26, 'a'), (0x1D482, 26, 'a'), (0x1D4A9, 4, 'n'), (0x1D4AE, 8, 's'),
    (0x1D4B6, 4, 'a'), (0x1D4BD, 7, 'h'), (0x1D4C5, 11, 'p'), (0x1D4D0, 26, 'a'),
    (0x1D4EA, 26, 'a'), (0x1D507, 4, 'd'), (0x1D50D, 8, 'j'), (0x1D516, 7, 's'),
    (0x1D51E, 26, 'a'), (0x1D53B, 4, 'd'), (0x1D540, 5, 'i'), (0x1D54A, 7, 's'),
    (0x1D552, 26, 'a'), (0x1D56C, 26, 'a'), (0x1D586, 26, 'a'), (0x1D5A0, 26, 'a'),
    (0x1D5BA, 26, 'a'), (0x1D5D4, 26, 'a'), (0x1D5EE, 26, 'a'), (0x1D608, 26, 'a'),
    (0x1D622, 26, 'a'), (0x1D63C, 26, 'a'), (0x1D656, 26, 'a'), (0x1D670, 26, 'a'),
    (0x1D68A, 26, 'a'), (0x1D7CE, 10, '0'), (0x1D7D8, 10, '0'), (0x1D7E2, 10, '0'),
    (0x1D7EC, 10, '0'), (0x1D7F6, 10, '0'), (0x1F130, 26, 'a'), (0x1FBF0, 10, '0')]

/-- Characters that stand for one character, and what they stand for, place by place. -/
def singles : List (String × String) :=
  [("ª²³¹ºſʰʲʳʷʸˡˢˣ\u037eᴬᴮᴰᴱᴼᴾᴿᵀᵁᵂᵃᵇᵈᵉᵍᵏᵐᵒᵖ", "a231oshjrwylsx;abdeoprtuwabdegkmop"),
    ("ᵗᵘᵛᵢᵣᵤᵥᶜᶠᶻ\u1fef⁰ⁱ⁺⁼⁽⁾ⁿ₊₌₍₎ₐₑₒₓₕₚₛₜℂℊℋℌ", "tuviruvcfz`0i+=()n+=()aeoxhpstcghh"),
    ("ℍℎℐℑℒℓℕℜℝℤℨ\u212aℬℭℯℰℱℳℴℹⅅⅆⅇⅈⅉⅠⅤⅩⅬⅭⅮⅯⅰⅴ", "hhiillnrrzzkbceefmoiddeijivxlcdmiv"),
    ("ⅹⅼⅽⅾⅿ⓪ⱼⱽ。\ua7f1ꟲꟳꟴ﬩︐︔︕︳︴︵︶︷︸﹍﹎﹏﹐﹔﹗﹙﹚﹛﹜﹠", "xlcdm0jv.scfq+,;!__()\x7b\x7d___,;!()\x7b\x7d&"),
    ("﹡﹢﹣﹦﹩｡𐞥𝒜𝒞𝒟𝒢𝒥𝒦𝒻𝔄𝔅𝔸𝔹𝕆🄫🄬", "*+-=$.qacdgjkfababocr")]

/-- Characters that stand for several characters. -/
def ligatures : List (Char × String) :=
  [('Ĳ', "ij"), ('ĳ', "ij"), ('Ǉ', "lj"), ('ǈ', "lj"), ('ǉ', "lj"), ('Ǌ', "nj"), ('ǋ', "nj"),
    ('ǌ', "nj"), ('Ǳ', "dz"), ('ǲ', "dz"), ('ǳ', "dz"), ('‼', "!!"), ('₨', "rs"), ('№', "no"),
    ('℠', "sm"), ('℡', "tel"), ('™', "tm"), ('℻', "fax"), ('Ⅱ', "ii"), ('Ⅲ', "iii"), ('Ⅳ', "iv"),
    ('Ⅵ', "vi"), ('Ⅶ', "vii"), ('Ⅷ', "viii"), ('Ⅸ', "ix"), ('Ⅺ', "xi"), ('Ⅻ', "xii"), ('ⅱ', "ii"),
    ('ⅲ', "iii"), ('ⅳ', "iv"), ('ⅵ', "vi"), ('ⅶ', "vii"), ('ⅷ', "viii"), ('ⅸ', "ix"), ('ⅺ', "xi"),
    ('ⅻ', "xii"), ('⑩', "10"), ('⑪', "11"), ('⑫', "12"), ('⑬', "13"), ('⑭', "14"), ('⑮', "15"),
    ('⑯', "16"), ('⑰', "17"), ('⑱', "18"), ('⑲', "19"), ('⑳', "20"), ('⑴', "(1)"), ('⑵', "(2)"),
    ('⑶', "(3)"), ('⑷', "(4)"), ('⑸', "(5)"), ('⑹', "(6)"), ('⑺', "(7)"), ('⑻', "(8)"),
    ('⑼', "(9)"), ('⑽', "(10)"), ('⑾', "(11)"), ('⑿', "(12)"), ('⒀', "(13)"), ('⒁', "(14)"),
    ('⒂', "(15)"), ('⒃', "(16)"), ('⒄', "(17)"), ('⒅', "(18)"), ('⒆', "(19)"), ('⒇', "(20)"),
    ('⒜', "(a)"), ('⒝', "(b)"), ('⒞', "(c)"), ('⒟', "(d)"), ('⒠', "(e)"), ('⒡', "(f)"),
    ('⒢', "(g)"), ('⒣', "(h)"), ('⒤', "(i)"), ('⒥', "(j)"), ('⒦', "(k)"), ('⒧', "(l)"),
    ('⒨', "(m)"), ('⒩', "(n)"), ('⒪', "(o)"), ('⒫', "(p)"), ('⒬', "(q)"), ('⒭', "(r)"),
    ('⒮', "(s)"), ('⒯', "(t)"), ('⒰', "(u)"), ('⒱', "(v)"), ('⒲', "(w)"), ('⒳', "(x)"),
    ('⒴', "(y)"), ('⒵', "(z)"), ('⩵', "=="), ('⩶', "==="), ('㉐', "pte"), ('㉑', "21"), ('㉒', "22"),
    ('㉓', "23"), ('㉔', "24"), ('㉕', "25"), ('㉖', "26"), ('㉗', "27"), ('㉘', "28"), ('㉙', "29"),
    ('㉚', "30"), ('㉛', "31"), ('㉜', "32"), ('㉝', "33"), ('㉞', "34"), ('㉟', "35"), ('㊱', "36"),
    ('㊲', "37"), ('㊳', "38"), ('㊴', "39"), ('㊵', "40"), ('㊶', "41"), ('㊷', "42"), ('㊸', "43"),
    ('㊹', "44"), ('㊺', "45"), ('㊻', "46"), ('㊼', "47"), ('㊽', "48"), ('㊾', "49"), ('㊿', "50"),
    ('㋌', "hg"), ('㋍', "erg"), ('㋎', "ev"), ('㋏', "ltd"), ('㍱', "hpa"), ('㍲', "da"), ('㍳', "au"),
    ('㍴', "bar"), ('㍵', "ov"), ('㍶', "pc"), ('㍷', "dm"), ('㍸', "dm2"), ('㍹', "dm3"), ('㍺', "iu"),
    ('㎀', "pa"), ('㎁', "na"), ('㎃', "ma"), ('㎄', "ka"), ('㎅', "kb"), ('㎆', "mb"), ('㎇', "gb"),
    ('㎈', "cal"), ('㎉', "kcal"), ('㎊', "pf"), ('㎋', "nf"), ('㎎', "mg"), ('㎏', "kg"), ('㎐', "hz"),
    ('㎑', "khz"), ('㎒', "mhz"), ('㎓', "ghz"), ('㎔', "thz"), ('㎖', "ml"), ('㎗', "dl"), ('㎘', "kl"),
    ('㎙', "fm"), ('㎚', "nm"), ('㎜', "mm"), ('㎝', "cm"), ('㎞', "km"), ('㎟', "mm2"), ('㎠', "cm2"),
    ('㎡', "m2"), ('㎢', "km2"), ('㎣', "mm3"), ('㎤', "cm3"), ('㎥', "m3"), ('㎦', "km3"), ('㎩', "pa"),
    ('㎪', "kpa"), ('㎫', "mpa"), ('㎬', "gpa"), ('㎭', "rad"), ('㎰', "ps"), ('㎱', "ns"), ('㎳', "ms"),
    ('㎴', "pv"), ('㎵', "nv"), ('㎷', "mv"), ('㎸', "kv"), ('㎹', "mv"), ('㎺', "pw"), ('㎻', "nw"),
    ('㎽', "mw"), ('㎾', "kw"), ('㎿', "mw"), ('㏃', "bq"), ('㏄', "cc"), ('㏅', "cd"), ('㏈', "db"),
    ('㏉', "gy"), ('㏊', "ha"), ('㏋', "hp"), ('㏌', "in"), ('㏍', "kk"), ('㏎', "km"), ('㏏', "kt"),
    ('㏐', "lm"), ('㏑', "ln"), ('㏒', "log"), ('㏓', "lx"), ('㏔', "mb"), ('㏕', "mil"), ('㏖', "mol"),
    ('㏗', "ph"), ('㏙', "ppm"), ('㏚', "pr"), ('㏛', "sr"), ('㏜', "sv"), ('㏝', "wb"), ('㏿', "gal"),
    ('ﬀ', "ff"), ('ﬁ', "fi"), ('ﬂ', "fl"), ('ﬃ', "ffi"), ('ﬄ', "ffl"), ('ﬅ', "st"), ('ﬆ', "st"),
    ('🄁', "0,"), ('🄂', "1,"), ('🄃', "2,"), ('🄄', "3,"), ('🄅', "4,"), ('🄆', "5,"), ('🄇', "6,"),
    ('🄈', "7,"), ('🄉', "8,"), ('🄊', "9,"), ('🄐', "(a)"), ('🄑', "(b)"), ('🄒', "(c)"), ('🄓', "(d)"),
    ('🄔', "(e)"), ('🄕', "(f)"), ('🄖', "(g)"), ('🄗', "(h)"), ('🄘', "(i)"), ('🄙', "(j)"),
    ('🄚', "(k)"), ('🄛', "(l)"), ('🄜', "(m)"), ('🄝', "(n)"), ('🄞', "(o)"), ('🄟', "(p)"),
    ('🄠', "(q)"), ('🄡', "(r)"), ('🄢', "(s)"), ('🄣', "(t)"), ('🄤', "(u)"), ('🄥', "(v)"),
    ('🄦', "(w)"), ('🄧', "(x)"), ('🄨', "(y)"), ('🄩', "(z)"), ('🄭', "cd"), ('🄮', "wz"), ('🅊', "hv"),
    ('🅋', "mv"), ('🅌', "sd"), ('🅍', "ss"), ('🅎', "ppv"), ('🅏', "wc"), ('🅪', "mc"), ('🅫', "md"),
    ('🅬', "mr"), ('🆐', "dj")]

/-! ## 2. Folding -/

/-- What a code point stands for by the runs. -/
def inRun? (code : Nat) : Option Char :=
  runs.findSome? fun (first, count, c) =>
    if first ≤ code ∧ code < first + count then some (Char.ofNat (c.toNat + (code - first)))
    else none

/-- What a character stands for by the places of the singles. -/
def asSingle? (c : Char) : Option Char :=
  singles.findSome? fun (sources, targets) => (sources.toList.zip targets.toList).lookup c

/-- The text of ASCII that a character stands for, in lower case; there may be none. -/
def fold? (c : Char) : Option (List Char) :=
  if c.toNat < 0x80 then some [c.toLower]
  else if ignored.any fun (first, last) => first ≤ c.toNat && c.toNat ≤ last then some []
  else match (inRun? c.toNat).orElse fun _ => asSingle? c with
    | some d => some [d.toLower]
    | none => (ligatures.lookup c).map String.toList

/-- The name in ASCII, if each of its characters stands for a text of ASCII. -/
def foldName? (name : String) : Option String :=
  (name.toList.mapM fold?).map fun texts => String.ofList texts.flatten

end TemplateClient.Host
