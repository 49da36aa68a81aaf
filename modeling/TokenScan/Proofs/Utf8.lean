import TokenScan.Proofs.Position
import Mathlib.Data.Nat.Bitwise

/-!
# Texts as bytes

Offsets count the bytes of the UTF-8 form of a text, but no byte has appeared so far: `byteLength`
and `slice?` are functions of characters. This module ties them to the bytes. A reader of bytes may
decode one character at an offset, or all characters between two offsets, and this says what comes
out.

The tie holds on both sides. An offset at which a character starts decodes to that character, and a
range of bytes that decodes at all begins and ends between two characters. So whoever cuts bytes and
whoever cuts characters are refused the same offsets.

## Main definitions

* `Text.charAt?` — one character, decoded at a byte offset
* `Text.decodeRange?` — the characters between two byte offsets, decoded

## Main results

* `Text.charAt?_append_cons` — the short way for ASCII and the long way find the same character
* `Text.decodeRange?_append` — the bytes between two places decode to what stands there
* `Text.decodeRange?_eq_slice?` — nothing else decodes
-/

namespace TokenScan.Text

/-! ### Decoding -/

/-- The character that starts at a byte offset, or NUL if the offset is past the last byte. A byte
below 0x80 is a character by itself; the others are only read together with those behind them.
Inside a character none starts. -/
def charAt? (bytes : ByteArray) (offset : Nat) : Option Char :=
  match bytes[offset]? with
  | none => some '\x00'
  | some byte =>
    if byte < 0x80 then some (Char.ofUInt8 byte) else bytes.utf8DecodeChar? offset

/-- The text that the bytes from `start` up to `stop` encode, if they encode one. -/
def decodeRange? (bytes : ByteArray) (start stop : Nat) : Option (List Char) :=
  if start ≤ stop ∧ stop ≤ bytes.size then
    (bytes.extract start stop).utf8Decode?.map Array.toList
  else none

theorem size_utf8Encode (text : List Char) : text.utf8Encode.size = byteLength text := by
  induction text with
  | nil => rfl
  | cons c text ih =>
    rw [List.utf8Encode_cons, ByteArray.size_append, ih, List.utf8Encode_singleton,
      List.size_toByteArray, String.length_utf8EncodeChar, byteLength_cons]

/-! ### One character -/

theorem and_eq_zero_of_lt {byte : UInt8} (h : byte < 0x80) : byte &&& 0x80 = 0 := by
  have hbit : byte.toNat.testBit 7 = false := Nat.testBit_lt_two_pow (UInt8.lt_iff_toNat_lt.mp h)
  rw [← UInt8.toNat_inj, UInt8.toNat_and, show (0x80 : UInt8).toNat = 2 ^ 7 from rfl,
    Nat.and_two_pow, hbit]
  rfl

/-- **The short way.** A byte below 0x80 decodes to the character with its number. -/
theorem utf8DecodeChar?_of_lt {bytes : ByteArray} {offset : Nat} {byte : UInt8}
    (h : bytes[offset]? = some byte) (hbyte : byte < 0x80) :
    bytes.utf8DecodeChar? offset = some (Char.ofUInt8 byte) := by
  obtain ⟨hlt, rfl⟩ := getElem?_eq_some_iff.mp h
  have hdone : ByteArray.utf8DecodeChar?.parseFirstByte bytes[offset] = .done := by
    rw [ByteArray.utf8DecodeChar?.parseFirstByte, and_eq_zero_of_lt hbyte]
    rfl
  rw [ByteArray.utf8DecodeChar?, dif_pos hlt]
  split
  · next hfirst => rw [hdone] at hfirst; cases hfirst
  · rfl
  · next hfirst => rw [hdone] at hfirst; cases hfirst
  · next hfirst => rw [hdone] at hfirst; cases hfirst
  · next hfirst => rw [hdone] at hfirst; cases hfirst

/-- In front of a character, the bytes of a text decode to it. -/
theorem utf8DecodeChar?_append_cons (front : List Char) (c : Char) (behind : List Char) :
    (front ++ c :: behind).utf8Encode.utf8DecodeChar? (byteLength front) = some c := by
  rw [ByteArray.utf8DecodeChar?_eq_utf8DecodeChar?_extract, ← size_utf8Encode front,
    List.utf8Encode_append, ByteArray.size_append, ByteArray.extract_append_eq_right rfl rfl,
    List.utf8DecodeChar?_utf8Encode_cons]

/-- **The character at an offset.** It is found in either way, the short one and the long one. -/
theorem charAt?_append_cons (front : List Char) (c : Char) (behind : List Char) :
    charAt? (front ++ c :: behind).utf8Encode (byteLength front) = some c := by
  have hdecode := utf8DecodeChar?_append_cons front c behind
  rw [charAt?]
  split
  · next hnone =>
    have hend := (getElem?_eq_none_iff _ _).mp hnone
    have hpos := byteLength_pos (List.cons_ne_nil c behind)
    rw [size_utf8Encode, byteLength_append] at hend
    omega
  · next byte hbyte =>
    split
    · next hlt => rw [← utf8DecodeChar?_of_lt hbyte hlt, hdecode]
    · exact hdecode

/-- Behind the last byte stands a NUL. -/
theorem charAt?_byteLength (text : List Char) :
    charAt? text.utf8Encode (byteLength text) = some '\x00' := by
  have hnone : text.utf8Encode[byteLength text]? = none := by
    rw [getElem?_eq_none_iff, size_utf8Encode]
    omega
  rw [charAt?, hnone]

/-! ### A range of bytes -/

theorem extract_utf8Encode_append (front text behind : List Char) :
    (front ++ text ++ behind).utf8Encode.extract (byteLength front) (byteLength (front ++ text)) =
      text.utf8Encode := by
  have hstart : byteLength front = front.utf8Encode.size + 0 := (size_utf8Encode front).symm
  have hstop : byteLength (front ++ text) = front.utf8Encode.size + text.utf8Encode.size := by
    rw [byteLength_append, size_utf8Encode, size_utf8Encode]
  rw [List.append_assoc, List.utf8Encode_append, hstart, hstop,
    ByteArray.extract_append_size_add, List.utf8Encode_append,
    ByteArray.extract_append_eq_left rfl]

/-- **The bytes between two places.** They decode to what stands there. -/
theorem decodeRange?_append (front text behind : List Char) :
    decodeRange? (front ++ text ++ behind).utf8Encode (byteLength front)
      (byteLength (front ++ text)) = some text := by
  have hbounds : byteLength front ≤ byteLength (front ++ text) ∧
      byteLength (front ++ text) ≤ (front ++ text ++ behind).utf8Encode.size := by
    rw [size_utf8Encode]
    simp only [byteLength_append]
    omega
  rw [decodeRange?, if_pos hbounds, extract_utf8Encode_append, List.utf8Decode?_utf8Encode]
  rfl

/-- Bytes at the end of a text that decode begin at a character. -/
theorem exists_append_of_isValidUTF8_extract {text : List Char} {start : Nat}
    (hstart : start ≤ byteLength text)
    (h : (text.utf8Encode.extract start (byteLength text)).IsValidUTF8) :
    ∃ front behind, text = front ++ behind ∧ byteLength front = start := by
  have hsize : (String.ofList text).utf8ByteSize = byteLength text := by
    rw [← size_utf8Encode, ← String.toByteArray_ofList]
    rfl
  have hvalid : String.Pos.Raw.IsValid (String.ofList text) ⟨start⟩ := by
    rw [String.Pos.Raw.isValid_iff_isValidUTF8_extract_utf8ByteSize, hsize,
      String.toByteArray_ofList, String.Pos.Raw.le_iff, String.byteIdx_rawEndPos, hsize]
    exact ⟨hstart, h⟩
  obtain ⟨front, behind, htext, hpos⟩ := String.Pos.Raw.isValid_iff_exists_append.mp hvalid
  refine ⟨front.toList, behind.toList, ?_, ?_⟩
  · rw [← String.toList_append, ← htext, String.toList_ofList]
  · rw [← size_utf8Encode, String.utf8Encode_toList]
    exact (congrArg String.Pos.Raw.byteIdx hpos).symm

theorem byteLength_take_of_boundaryFrom {passed n : Nat} {text : List Char} {offset : Nat}
    (h : boundaryFrom passed text offset = some n) :
    passed ≤ n ∧ byteLength (text.take (n - passed)) = offset := by
  induction text generalizing passed offset with
  | nil =>
    cases offset with
    | zero =>
      obtain rfl : passed = n := by simpa [boundaryFrom] using h
      simp
    | succ offset => simp [boundaryFrom] at h
  | cons c text ih =>
    cases offset with
    | zero =>
      obtain rfl : passed = n := by simpa [boundaryFrom] using h
      simp
    | succ offset =>
      rw [boundaryFrom] at h
      split at h
      · next hfits =>
        obtain ⟨hle, hlength⟩ := ih h
        have hsucc : n - passed = n - (passed + 1) + 1 := by omega
        refine ⟨by omega, ?_⟩
        rw [hsucc, List.take_succ_cons, byteLength_cons, hlength]
        omega
      · simp at h

/-- An offset that lies between two characters is the length of what stands in front. -/
theorem byteLength_take_of_boundary? {text : List Char} {offset n : Nat}
    (h : boundary? text offset = some n) : byteLength (text.take n) = offset := by
  have htake := (byteLength_take_of_boundaryFrom h).2
  rwa [Nat.sub_zero] at htake

/-- **Nothing else decodes.** Of the bytes in front of a place, those from an offset on decode if
and only if the characters can be cut there, and then to the same text. -/
theorem decodeRange?_eq_slice? (before rest : List Char) (start : Nat) :
    decodeRange? (before ++ rest).utf8Encode start (byteLength before) =
      slice? before start (byteLength before) := by
  by_cases h : ∃ front behind, before = front ++ behind ∧ byteLength front = start
  · obtain ⟨front, behind, rfl, rfl⟩ := h
    have hslice := slice?_append front behind []
    rw [List.append_nil] at hslice
    rw [decodeRange?_append, hslice]
  · have hslice : slice? before start (byteLength before) = none := by
      cases hstart : boundary? before start with
      | none => rw [slice?, hstart]; rfl
      | some n =>
        refine absurd ⟨before.take n, before.drop n, ?_, ?_⟩ h
        · exact (List.take_append_drop n before).symm
        · exact byteLength_take_of_boundary? hstart
    have hempty : rest.utf8Encode.extract (start - before.utf8Encode.size)
        (byteLength before - before.utf8Encode.size) = ByteArray.empty := by
      rw [ByteArray.extract_eq_empty_iff, size_utf8Encode]
      omega
    rw [hslice, decodeRange?]
    split
    · next hbounds =>
      rw [List.utf8Encode_append, ByteArray.extract_append, hempty, ByteArray.append_empty,
        Option.map_eq_none_iff, ← Option.not_isSome_iff_eq_none, ByteArray.isSome_utf8Decode?_iff]
      exact fun hvalid => h (exists_append_of_isValidUTF8_extract hbounds.1 hvalid)
    · rfl

/-- The second character takes two bytes, and neither way finds one between them. -/
example : charAt? "aé".toByteArray 0 = some 'a' ∧ charAt? "aé".toByteArray 1 = some 'é' ∧
    charAt? "aé".toByteArray 2 = none ∧ charAt? "aé".toByteArray 3 = some '\x00' := by
  decide +kernel

end TokenScan.Text
