import TemplateClient.Charset.Basic

/-!
# Texts as UTF-8

A text that is written as UTF-8 is read back as it was, with a byte order mark in front or without,
as long as no other mark can be seen in its first bytes.

* `fromUTF8?_eq_some_iff` -- the bytes of a text are those that it is read from;
* `Charset.decode_utf8`, `Charset.decode_marked` -- a text read from its bytes.
-/

namespace TemplateClient

theorem fromUTF8?_eq_some_iff {content : ByteArray} {text : String} :
    String.fromUTF8? content = some text ↔ content = text.toUTF8 := by
  unfold String.fromUTF8?
  by_cases h : content.IsValidUTF8
  · rw [dif_pos h]
    constructor
    · rintro ⟨⟩
      rfl
    · rintro rfl
      rfl
  · rw [dif_neg h]
    refine iff_of_false nofun ?_
    rintro rfl
    exact h text.isValidUTF8

theorem Utf8.decode_toUTF8 (text : String) : Utf8.decode text.toUTF8.data.toList = text := by
  have hread : String.fromUTF8? ⟨text.toUTF8.data.toList.toArray⟩ = some text :=
    fromUTF8?_eq_some_iff.mpr rfl
  rw [Utf8.decode, hread]

/-- A text that begins with a character of ASCII begins with its byte. -/
theorem toUTF8_of_ascii {text : String} {c : Char} {cs : List Char} (h : text.toList = c :: cs)
    (ascii : c.toNat < 0x80) :
    text.toUTF8.data.toList = UInt8.ofNat c.toNat :: cs.utf8Encode.data.toList := by
  have hchar : String.utf8EncodeChar c = [UInt8.ofNat c.toNat] := if_pos (Nat.le_of_lt_succ ascii)
  rw [String.toUTF8_eq_toByteArray, ← String.utf8Encode_toList, h, List.utf8Encode_cons,
    List.utf8Encode_singleton, hchar, ByteArray.toList_data_append, List.toList_data_toByteArray]
  rfl

namespace Charset

/-- No mark begins with a byte of ASCII. -/
theorem ofMark?_of_ascii {b : UInt8} (ascii : b.toNat < 0x80) (bytes : List UInt8) :
    ofMark? (b :: bytes) = none := by
  unfold ofMark?
  split <;> simp_all

/-- The bytes of a text are read as the text. -/
theorem decode_utf8 {text : String} {c : Char} {cs : List Char} (h : text.toList = c :: cs)
    (ascii : c.toNat < 0x80) : decode .utf8 text.toUTF8.data.toList = text := by
  have unmarked : ofMark? text.toUTF8.data.toList = none := by
    rw [toUTF8_of_ascii h ascii]
    refine ofMark?_of_ascii ?_ _
    rw [UInt8.toNat_ofNat']
    omega
  rw [decode, unmarked]
  exact Utf8.decode_toUTF8 text

/-- Behind a mark they are so, whatever was announced. -/
theorem decode_marked (announced : Charset) (text : String) :
    decode announced (0xEF :: 0xBB :: 0xBF :: text.toUTF8.data.toList) = text :=
  Utf8.decode_toUTF8 text

end Charset

end TemplateClient
