import TemplateClient.Charset.CodePage
import TemplateClient.Charset.Unicode
import TemplateClient.Charset.Japanese
import TemplateClient.Charset.Korean
import TemplateClient.Charset.Chinese
import TemplateClient.Text.Blank

/-!
# Charsets

The encodings that a body can be written in, and the labels that name them on the web.

* `Charset`, `Charset.ofLabel?` -- the encodings and their labels;
* `Charset.ofMark?` -- the encoding that a byte order mark in front tells;
* `Charset.decode` -- the text that bytes stand for.
-/

namespace TemplateClient

/-! ## 1. Encodings and labels -/

/-- An encoding of text. -/
inductive Charset where
  | utf8
  | utf16 (bigEndian : Bool)
  | codePage (page : CodePage)
  | gb18030
  | big5
  | eucJp
  | iso2022Jp
  | shiftJis
  | eucKr
  /-- ASCII, and 128 characters for private use. -/
  | userDefined
  /-- No text in it is trusted. -/
  | undecodable
deriving DecidableEq, Repr

namespace Charset

/-- The labels of the encodings, in lower case. -/
def labels : List (Charset × List String) :=
  [(.utf8, ["unicode-1-1-utf-8", "unicode11utf8", "unicode20utf8", "utf8", "utf-8",
      "x-unicode20utf8"]),
    (.utf16 true, ["unicodefffe", "utf-16be"]),
    (.utf16 false, ["csunicode", "iso-10646-ucs-2", "ucs-2", "unicode", "unicodefeff",
      "utf-16le", "utf-16"]),
    (.codePage .ibm866, ["866", "cp866", "csibm866", "ibm866"]),
    (.codePage .latin2, ["csisolatin2", "iso-8859-2", "iso-ir-101", "iso8859-2", "iso88592",
      "iso_8859-2", "iso_8859-2:1987", "l2", "latin2"]),
    (.codePage .latin3, ["csisolatin3", "iso-8859-3", "iso-ir-109", "iso8859-3", "iso88593",
      "iso_8859-3", "iso_8859-3:1988", "l3", "latin3"]),
    (.codePage .latin4, ["csisolatin4", "iso-8859-4", "iso-ir-110", "iso8859-4", "iso88594",
      "iso_8859-4", "iso_8859-4:1988", "l4", "latin4"]),
    (.codePage .isoCyrillic, ["csisolatincyrillic", "cyrillic", "iso-8859-5", "iso-ir-144",
      "iso8859-5", "iso88595", "iso_8859-5", "iso_8859-5:1988"]),
    (.codePage .isoArabic, ["arabic", "asmo-708", "csiso88596e", "csiso88596i",
      "csisolatinarabic", "ecma-114", "iso-8859-6", "iso-8859-6-e", "iso-8859-6-i", "iso-ir-127",
      "iso8859-6", "iso88596", "iso_8859-6", "iso_8859-6:1987"]),
    (.codePage .isoGreek, ["csisolatingreek", "ecma-118", "elot_928", "greek", "greek8",
      "iso-8859-7", "iso-ir-126", "iso8859-7", "iso88597", "iso_8859-7", "iso_8859-7:1987",
      "sun_eu_greek"]),
    (.codePage .isoHebrew, ["csiso88598e", "csisolatinhebrew", "hebrew", "iso-8859-8",
      "iso-8859-8-e", "iso-ir-138", "iso8859-8", "iso88598", "iso_8859-8", "iso_8859-8:1988",
      "visual", "csiso88598i", "iso-8859-8-i", "logical"]),
    (.codePage .latin6, ["csisolatin6", "iso-8859-10", "iso-ir-157", "iso8859-10", "iso885910",
      "l6", "latin6"]),
    (.codePage .latin7, ["iso-8859-13", "iso8859-13", "iso885913"]),
    (.codePage .latin8, ["iso-8859-14", "iso8859-14", "iso885914"]),
    (.codePage .latin9, ["csisolatin9", "iso-8859-15", "iso8859-15", "iso885915", "iso_8859-15",
      "l9"]),
    (.codePage .latin10, ["iso-8859-16"]),
    (.codePage .koi8R, ["cskoi8r", "koi", "koi8", "koi8-r", "koi8_r"]),
    (.codePage .koi8U, ["koi8-ru", "koi8-u"]),
    (.codePage .macRoman, ["csmacintosh", "mac", "macintosh", "x-mac-roman"]),
    (.codePage .macCyrillic, ["x-mac-cyrillic", "x-mac-ukrainian"]),
    (.codePage .windows874, ["dos-874", "iso-8859-11", "iso8859-11", "iso885911", "tis-620",
      "windows-874"]),
    (.codePage .windows1250, ["cp1250", "windows-1250", "x-cp1250"]),
    (.codePage .windows1251, ["cp1251", "windows-1251", "x-cp1251"]),
    (.codePage .windows1252, ["ansi_x3.4-1968", "ascii", "cp1252", "cp819", "csisolatin1",
      "ibm819", "iso-8859-1", "iso-ir-100", "iso8859-1", "iso88591", "iso_8859-1",
      "iso_8859-1:1987", "l1", "latin1", "us-ascii", "windows-1252", "x-cp1252"]),
    (.codePage .windows1253, ["cp1253", "windows-1253", "x-cp1253"]),
    (.codePage .windows1254, ["cp1254", "csisolatin5", "iso-8859-9", "iso-ir-148", "iso8859-9",
      "iso88599", "iso_8859-9", "iso_8859-9:1989", "l5", "latin5", "windows-1254", "x-cp1254"]),
    (.codePage .windows1255, ["cp1255", "windows-1255", "x-cp1255"]),
    (.codePage .windows1256, ["cp1256", "windows-1256", "x-cp1256"]),
    (.codePage .windows1257, ["cp1257", "windows-1257", "x-cp1257"]),
    (.codePage .windows1258, ["cp1258", "windows-1258", "x-cp1258"]),
    (.gb18030, ["gb18030", "chinese", "csgb2312", "csiso58gb231280", "gb2312", "gb_2312",
      "gb_2312-80", "gbk", "iso-ir-58", "x-gbk"]),
    (.big5, ["big5", "big5-hkscs", "cn-big5", "csbig5", "x-x-big5"]),
    (.eucJp, ["cseucpkdfmtjapanese", "euc-jp", "x-euc-jp"]),
    (.iso2022Jp, ["csiso2022jp", "iso-2022-jp"]),
    (.shiftJis, ["csshiftjis", "ms932", "ms_kanji", "shift-jis", "shift_jis", "sjis",
      "windows-31j", "x-sjis"]),
    (.eucKr, ["cseuckr", "csksc56011987", "euc-kr", "iso-ir-149", "korean", "ks_c_5601-1987",
      "ks_c_5601-1989", "ksc5601", "ksc_5601", "windows-949"]),
    (.userDefined, ["x-user-defined"]),
    (.undecodable, ["csiso2022kr", "hz-gb-2312", "iso-2022-cn", "iso-2022-cn-ext", "iso-2022-kr",
      "replacement"])]

/-- The white space that may surround a label. -/
def isLabelSpace (c : Char) : Bool :=
  c == ' ' || c == '\t' || c == '\n' || c == '\x0c' || c == '\r'

/-- The encoding that a label names, in either case. -/
def ofLabel? (label : String) : Option Charset :=
  let cs := Text.dropEndWhile isLabelSpace (label.toList.dropWhile isLabelSpace)
  let name := String.ofList (cs.map Char.toLower)
  (labels.find? fun (_, names) => names.contains name).map Prod.fst

/-! ## 2. Decoding -/

/-- The encoding that a byte order mark in front tells, and the bytes behind the mark. -/
def ofMark? : List UInt8 → Option (Charset × List UInt8)
  | 0xEF :: 0xBB :: 0xBF :: bytes => some (.utf8, bytes)
  | 0xFE :: 0xFF :: bytes => some (.utf16 true, bytes)
  | 0xFF :: 0xFE :: bytes => some (.utf16 false, bytes)
  | _ => none

/-- The text that bytes without a mark stand for. -/
def decodePlain (bytes : List UInt8) : Charset → String
  | .utf8 => Utf8.decode bytes
  | .utf16 bigEndian => Utf16.decode bigEndian bytes
  | .codePage page => String.ofList (page.decode bytes)
  | .gb18030 => String.ofList (Gb18030.decoder.decode bytes)
  | .big5 => String.ofList (Big5.decoder.decode bytes)
  | .eucJp => String.ofList (EucJp.decoder.decode bytes)
  | .iso2022Jp => String.ofList (Iso2022Jp.decoder.decode bytes)
  | .shiftJis => String.ofList (ShiftJis.decoder.decode bytes)
  | .eucKr => String.ofList (EucKr.decoder.decode bytes)
  | .userDefined =>
    String.ofList <| bytes.map fun b =>
      Char.ofNat (if b < 0x80 then b.toNat else 0xF700 + b.toNat)
  | .undecodable => if bytes.isEmpty then "" else String.ofList [replacementChar]

/-- The text that bytes stand for. A byte order mark in front wins over the encoding that was
announced, and is no part of the text. -/
def decode (announced : Charset) (bytes : List UInt8) : String :=
  match ofMark? bytes with
  | some (charset, bytes) => decodePlain bytes charset
  | none => decodePlain bytes announced

end Charset

end TemplateClient
