import Messaging.Text.Utf16

/-!
# Modified UTF-8

The encoding of texts with a length prefix: every UTF-16 code unit is written on its own, in one
to three bytes, and the unit zero takes two, so that no encoded text holds a zero byte.  Reading
accepts over-long forms of a unit too, but no byte that starts a four-byte form.
-/

namespace Messaging.Text.ModifiedUtf8

def encodeUnit (u : UInt16) : List UInt8 :=
  let n := u.toNat
  if 1 ≤ n ∧ n < 0x80 then [UInt8.ofNat n]
  else if n < 0x800 then [UInt8.ofNat (0xC0 + n / 64), UInt8.ofNat (0x80 + n % 64)]
  else
    [UInt8.ofNat (0xE0 + n / 4096), UInt8.ofNat (0x80 + n / 64 % 64),
      UInt8.ofNat (0x80 + n % 64)]

def encode (s : String) : List UInt8 := (Utf16.encode s).flatMap encodeUnit

def isContinuation (b : UInt8) : Bool := 0x80 ≤ b && b < 0xC0

def decodeUnits? : List UInt8 → Option (List UInt16)
  | [] => some []
  | a :: rest =>
    if 0x01 ≤ a && a < 0x80 then
      (decodeUnits? rest).map (UInt16.ofNat a.toNat :: ·)
    else if 0xC0 ≤ a && a < 0xE0 then
      match rest with
      | b :: rest =>
        if isContinuation b then
          (decodeUnits? rest).map (UInt16.ofNat (a.toNat % 32 * 64 + b.toNat % 64) :: ·)
        else none
      | [] => none
    else if 0xE0 ≤ a && a < 0xF0 then
      match rest with
      | b :: c :: rest =>
        if isContinuation b && isContinuation c then
          (decodeUnits? rest).map
            (UInt16.ofNat (a.toNat % 16 * 4096 + b.toNat % 64 * 64 + c.toNat % 64) :: ·)
        else none
      | _ => none
    else none

def decode? (bytes : List UInt8) : Option String := (decodeUnits? bytes).bind Utf16.decode?

end Messaging.Text.ModifiedUtf8
