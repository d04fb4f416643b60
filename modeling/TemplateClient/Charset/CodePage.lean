import TemplateClient.Charset.Decoder

/-!
# Code pages

Encodings that give every byte a character of its own. The lower half of each is ASCII; a table
gives the upper half, in stretches that together are 128 bytes long.

* `CodePage`, `CodePage.upper` -- the code pages and their tables;
* `CodePage.decode` -- the text that bytes stand for.
-/

namespace TemplateClient

/-! ## 1. The code pages -/

/-- An encoding with one byte for each character. -/
inductive CodePage where
  | ibm866
  | latin2
  | latin3
  | latin4
  | isoCyrillic
  | isoArabic
  | isoGreek
  | isoHebrew
  | latin6
  | latin7
  | latin8
  | latin9
  | latin10
  | koi8R
  | koi8U
  | macRoman
  | macCyrillic
  | windows874
  | windows1250
  | windows1251
  | windows1252
  | windows1253
  | windows1254
  | windows1255
  | windows1256
  | windows1257
  | windows1258
deriving DecidableEq, Repr

/-- The characters of consecutive bytes. -/
inductive Stretch where
  /-- Consecutive characters from a code point on. -/
  | run (first : Nat) (count : Nat)
  | text (chars : String)
  /-- Bytes without a character. -/
  | gap (count : Nat)

/-- The characters of a stretch. -/
def Stretch.chars : Stretch → List Char
  | .run first count => (List.range count).map fun i => Char.ofNat (first + i)
  | .text chars => chars.toList
  | .gap count => List.replicate count replacementChar

namespace CodePage

/-! ## 2. Tables -/

/-- The characters of the bytes from 0x80 on. -/
def upper : CodePage → List Stretch
  | .ibm866 =>
    [.run 0x410 48, .text "░▒▓│┤╡╢╖╕╣║╗╝╜╛┐└┴┬├─┼╞╟╚╔╩╦╠═╬╧╨╤╥╙╘╒╓╫╪┘┌█▄▌▐▀", .run 0x440 16,
      .text "ЁёЄєЇїЎў°∙·√№¤■\u00a0"]
  | .latin2 =>
    [.run 0x80 33, .text "Ą˘Ł¤ĽŚ§¨ŠŞŤŹ\u00adŽŻ°ą˛ł´ľśˇ¸šşťź˝žżŔÁÂĂÄĹĆÇČÉĘËĚÍÎĎĐ",
      .text "ŃŇÓÔŐÖ×ŘŮÚŰÜÝŢßŕáâăäĺćçčéęëěíîďđńňóôőö÷řůúűüýţ˙"]
  | .latin3 =>
    [.run 0x80 33, .text "Ħ˘£¤", .gap 1, .text "Ĥ§¨İŞĞĴ\u00ad", .gap 1, .text "Ż°ħ²³´µĥ·¸ışğĵ½",
      .gap 1, .text "żÀÁÂ", .gap 1, .text "ÄĊĈ", .run 0xC7 9, .gap 1, .text "ÑÒÓÔĠÖ×ĜÙÚÛÜŬŜßàáâ",
      .gap 1, .text "äċĉ", .run 0xE7 9, .gap 1, .text "ñòóôġö÷ĝùúûüŭŝ˙"]
  | .latin4 =>
    [.run 0x80 33, .text "ĄĸŖ¤ĨĻ§¨ŠĒĢŦ\u00adŽ¯°ą˛ŗ´ĩļˇ¸šēģŧŊžŋĀ", .run 0xC1 6,
      .text "ĮČÉĘËĖÍÎĪĐŅŌĶÔÕÖ×ØŲÚÛÜŨŪßā", .run 0xE1 6, .text "įčéęëėíîīđņōķôõö÷øųúûüũū˙"]
  | .isoCyrillic =>
    [.run 0x80 33, .run 0x401 12, .text "\u00ad", .run 0x40E 66, .text "№", .run 0x451 12,
      .text "§ўџ"]
  | .isoArabic =>
    [.run 0x80 33, .gap 3, .text "¤", .gap 7, .text "\u060c\u00ad", .gap 13, .text "\u061b",
      .gap 3, .text "\u061f", .gap 1, .run 0x621 26, .gap 5, .run 0x640 19, .gap 13]
  | .isoGreek =>
    [.run 0x80 33, .text "‘’£€₯¦§¨©ͺ", .run 0xAB 3, .gap 1, .text "―°±²³΄΅Ά·ΈΉΊ»Ό½",
      .run 0x38E 20, .gap 1, .run 0x3A3 44, .gap 1]
  | .isoHebrew =>
    [.run 0x80 33, .gap 1, .run 0xA2 8, .text "×", .run 0xAB 15, .text "÷»¼½¾", .gap 32,
      .text "‗", .run 0x5D0 27, .gap 2, .run 0x200E 2, .gap 1]
  | .latin6 =>
    [.run 0x80 33, .text "ĄĒĢĪĨĶ§ĻĐŠŦŽ\u00adŪŊ°ąēģīĩķ·ļđšŧž―ūŋĀ", .run 0xC1 6,
      .text "ĮČÉĘËĖÍÎÏÐŅŌÓÔÕÖŨØŲ", .run 0xDA 6, .text "ā", .run 0xE1 6,
      .text "įčéęëėíîïðņōóôõöũøųúûüýþĸ"]
  | .latin7 =>
    [.run 0x80 33, .text "”¢£¤„¦§Ø©Ŗ", .run 0xAB 4,
      .text "Æ°±²³“µ¶·ø¹ŗ»¼½¾æĄĮĀĆÄÅĘĒČÉŹĖĢĶĪĻŠŃŅÓŌÕÖ×ŲŁŚŪÜŻŽ",
      .text "ßąįāćäåęēčéźėģķīļšńņóōõö÷ųłśūüżž’"]
  | .latin8 =>
    [.run 0x80 33, .text "Ḃḃ£ĊċḊ§Ẁ©ẂḋỲ", .run 0xAD 2, .text "ŸḞḟĠġṀṁ¶ṖẁṗẃṠỳẄẅṡ", .run 0xC0 16,
      .text "Ŵ", .run 0xD1 6, .text "Ṫ", .run 0xD8 6, .text "Ŷ", .run 0xDF 17, .text "ŵ",
      .run 0xF1 6, .text "ṫ", .run 0xF8 6, .text "ŷÿ"]
  | .latin9 =>
    [.run 0x80 36, .text "€¥Š§š", .run 0xA9 11, .text "Žµ¶·ž¹º»ŒœŸ", .run 0xBF 65]
  | .latin10 =>
    [.run 0x80 33, .text "ĄąŁ€„Š§š©Ș«Ź\u00adźŻ°±ČłŽ”¶·žčș»ŒœŸżÀÁÂĂÄĆ", .run 0xC6 10,
      .text "ĐŃÒÓÔŐÖŚŰÙÚÛÜĘȚßàáâăäć", .run 0xE6 10, .text "đńòóôőöśűùúûüęțÿ"]
  | .koi8R =>
    [.text "─│┌┐└┘├┤┬┴┼▀▄█▌▐░▒▓⌠■∙√≈≤≥\u00a0⌡°²·÷═║╒ё", .run 0x2553 15, .text "Ё",
      .run 0x2562 11, .text "©юабцдефгх", .run 0x438 8, .text "ярстужвьызшэщчъЮАБЦДЕФГХ",
      .run 0x418 8, .text "ЯРСТУЖВЬЫЗШЭЩЧЪ"]
  | .koi8U =>
    [.text "─│┌┐└┘├┤┬┴┼▀▄█▌▐░▒▓⌠■∙√≈≤≥\u00a0⌡°²·÷═║╒ёє╔ії╗╘╙╚╛ґў╞",
      .text "╟╠╡ЁЄ╣ІЇ╦╧╨╩╪ҐЎ©юабцдефгх", .run 0x438 8, .text "ярстужвьызшэщчъЮАБЦДЕФГХ",
      .run 0x418 8, .text "ЯРСТУЖВЬЫЗШЭЩЧЪ"]
  | .macRoman =>
    [.text "ÄÅÇÉÑÖÜáàâäãåçéèêëíìîïñóòôöõúùûü†°¢£§•¶ß®©™´¨≠ÆØ",
      .text "∞±≤≥¥µ∂∑∏π∫ªºΩæø¿¡¬√ƒ≈∆«»…\u00a0ÀÃÕŒœ–—“”‘’÷◊ÿŸ⁄€‹›ﬁﬂ",
      .text "‡·‚„‰ÂÊÁËÈÍÎÏÌÓÔ\uf8ffÒÚÛÙıˆ˜¯˘˙˚¸˝˛ˇ"]
  | .macCyrillic =>
    [.run 0x410 32, .text "†°Ґ£§•¶І®©™Ђђ≠Ѓѓ∞±≤≥іµґЈЄєЇїЉљЊњјЅ¬√ƒ≈∆«»…\u00a0ЋћЌќѕ",
      .text "–—“”‘’÷„ЎўЏџ№Ёёя", .run 0x430 31, .text "€"]
  | .windows874 =>
    [.text "€", .run 0x81 4, .text "…", .run 0x86 11, .text "‘’“”•–—", .run 0x98 9,
      .run 0xE01 58, .gap 4, .run 0xE3F 29, .gap 4]
  | .windows1250 =>
    [.text "€\u0081‚\u0083„…†‡\u0088‰Š‹ŚŤŽŹ\u0090‘’“”•–—\u0098™š›śťžź\u00a0ˇ˘Ł¤Ą¦§¨©Ş",
      .run 0xAB 4, .text "Ż°±˛ł´µ¶·¸ąş»Ľ˝ľżŔÁÂĂÄĹĆÇČÉĘËĚÍÎĎĐŃŇÓÔŐÖ×ŘŮÚŰÜÝŢ",
      .text "ßŕáâăäĺćçčéęëěíîďđńňóôőö÷řůúűüýţ˙"]
  | .windows1251 =>
    [.text "ЂЃ‚ѓ„…†‡€‰Љ‹ЊЌЋЏђ‘’“”•–—\u0098™љ›њќћџ\u00a0ЎўЈ¤Ґ¦§Ё©Є", .run 0xAB 4,
      .text "Ї°±Ііґµ¶·ё№є»јЅѕї", .run 0x410 64]
  | .windows1252 =>
    [.text "€\u0081‚ƒ„…†‡ˆ‰Š‹Œ\u008dŽ", .run 0x8F 2, .text "‘’“”•–—˜™š›œ\u009džŸ", .run 0xA0 96]
  | .windows1253 =>
    [.text "€\u0081‚ƒ„…†‡\u0088‰\u008a‹", .run 0x8C 5, .text "‘’“”•–—\u0098™\u009a›",
      .run 0x9C 5, .text "΅Ά", .run 0xA3 7, .gap 1, .run 0xAB 4, .text "―°±²³΄µ¶·ΈΉΊ»Ό½",
      .run 0x38E 20, .gap 1, .run 0x3A3 44, .gap 1]
  | .windows1254 =>
    [.text "€\u0081‚ƒ„…†‡ˆ‰Š‹Œ", .run 0x8D 4, .text "‘’“”•–—˜™š›œ", .run 0x9D 2, .text "Ÿ",
      .run 0xA0 48, .text "Ğ", .run 0xD1 12, .text "İŞ", .run 0xDF 17, .text "ğ", .run 0xF1 12,
      .text "ışÿ"]
  | .windows1255 =>
    [.text "€\u0081‚ƒ„…†‡ˆ‰\u008a‹", .run 0x8C 5, .text "‘’“”•–—˜™\u009a›", .run 0x9C 8,
      .text "₪¥¦§¨©×", .run 0xAB 15, .text "÷»¼½¾¿", .run 0x5B0 20, .run 0x5F0 5, .gap 7,
      .run 0x5D0 27, .gap 2, .run 0x200E 2, .gap 1]
  | .windows1256 =>
    [.text "€\u067e‚ƒ„…†‡ˆ‰\u0679‹Œ\u0686\u0698\u0688\u06af‘’“”•–—\u06a9™\u0691›œ",
      .run 0x200C 2, .text "\u06ba\u00a0\u060c", .run 0xA2 8, .text "\u06be", .run 0xAB 15,
      .text "\u061b»¼½¾\u061f\u06c1", .run 0x621 22, .text "×", .run 0x637 4, .run 0x640 4,
      .text "à\u0644â", .run 0x645 4, .text "çèéêë", .run 0x649 2, .text "îï", .run 0x64B 4,
      .text "ô", .run 0x64F 2, .text "÷\u0651ù\u0652ûü", .run 0x200E 2, .text "\u06d2"]
  | .windows1257 =>
    [.text "€\u0081‚\u0083„…†‡\u0088‰\u008a‹\u008c¨ˇ¸\u0090‘’“”•–—\u0098™\u009a›\u009c¯˛",
      .run 0x9F 2, .gap 1, .text "¢£¤", .gap 1, .text "¦§Ø©Ŗ", .run 0xAB 4, .text "Æ",
      .run 0xB0 8, .text "ø¹ŗ»¼½¾æĄĮĀĆÄÅĘĒČÉŹĖĢĶĪĻŠŃŅÓŌÕÖ×ŲŁŚŪÜŻŽßąįāćäåęē",
      .text "čéźėģķīļšńņóōõö÷ųłśūüżž˙"]
  | .windows1258 =>
    [.text "€\u0081‚ƒ„…†‡ˆ‰\u008a‹Œ", .run 0x8D 4, .text "‘’“”•–—˜™\u009a›œ", .run 0x9D 2,
      .text "Ÿ", .run 0xA0 35, .text "Ă", .run 0xC4 8, .text "\u0300ÍÎÏĐÑ\u0309ÓÔƠ", .run 0xD6 7,
      .text "Ư\u0303ßàáâă", .run 0xE4 8, .text "\u0301íîïđñ\u0323óôơ", .run 0xF6 7, .text "ư₫ÿ"]

/-! ## 3. Decoding -/

/-- The text that bytes stand for. -/
def decode (page : CodePage) (bytes : List UInt8) : List Char :=
  let upper := (page.upper.flatMap Stretch.chars).toArray
  bytes.map fun b =>
    if b < 0x80 then Char.ofNat b.toNat else (upper[b.toNat - 0x80]?).getD replacementChar

end CodePage

end TemplateClient
