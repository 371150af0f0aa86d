import Svarla.Lib.Utf16

/-!
# UCS-2 user data

`modem-gateway/internal/sms/encoding.go`: UTF-16 code units as big-endian octets. A string's units
are its runes' (`utf16Units`), so `decodeUCS2` gives a text back from its own octets
(`decodeUCS2_ucs2Bytes`).
-/

namespace Svarla.Sms

open Svarla.Lib

/-- `utf16Units`: the code units of a string. -/
def utf16Units (text : String) : List UInt16 :=
  Utf16.encode text.toList

/-- The loop of `ucs2Bytes`: `binary.BigEndian.PutUint16` of each unit. -/
def ucs2Bytes : List UInt16 → List UInt8
  | [] => []
  | u :: rest => UInt8.ofNat (u.toNat / 256) :: UInt8.ofNat (u.toNat % 256) :: ucs2Bytes rest

/-- The units `DecodeUCS2` reads, a trailing odd byte ignored. -/
def ucs2Units : List UInt8 → List UInt16
  | a :: b :: rest => UInt16.ofNat (a.toNat * 256 + b.toNat) :: ucs2Units rest
  | _ => []

/-- `DecodeUCS2`: UCS-2 big-endian bytes as a string. -/
def decodeUCS2 (data : List UInt8) : String :=
  if data.length < 2 then "" else String.ofList (Utf16.decode (ucs2Units data))

@[simp] theorem length_ucs2Bytes (units : List UInt16) :
    (ucs2Bytes units).length = 2 * units.length := by
  induction units with
  | nil => rfl
  | cons u rest ih => simp only [ucs2Bytes, List.length_cons, ih]; omega

/-- Reading the octets back gives the units. -/
theorem ucs2Units_ucs2Bytes (units : List UInt16) : ucs2Units (ucs2Bytes units) = units := by
  induction units with
  | nil => rfl
  | cons u rest ih =>
    have hu : u.toNat < 65536 := UInt16.toNat_lt u
    have hunit : UInt16.ofNat ((UInt8.ofNat (u.toNat / 256)).toNat * 256 +
        (UInt8.ofNat (u.toNat % 256)).toNat) = u := by
      apply UInt16.toNat_inj.mp
      rw [UInt16.toNat_ofNat', UInt8.toNat_ofNat', UInt8.toNat_ofNat']
      omega
    rw [ucs2Bytes, ucs2Units, hunit, ih]

/-- **Round trip of a text's octets.** -/
theorem decodeUCS2_ucs2Bytes (runes : List Char) :
    decodeUCS2 (ucs2Bytes (Utf16.encode runes)) = String.ofList runes := by
  unfold decodeUCS2
  split
  · next hshort =>
    -- fewer than two octets are none, and no rune encodes to no unit
    rw [length_ucs2Bytes] at hshort
    have hnil : Utf16.encode runes = [] := List.eq_nil_of_length_eq_zero (by omega)
    have hrunes : runes = [] := by rw [← Utf16.decode_encode runes, hnil]; rfl
    rw [hrunes]
  · rw [ucs2Units_ucs2Bytes, Utf16.decode_encode]

end Svarla.Sms
