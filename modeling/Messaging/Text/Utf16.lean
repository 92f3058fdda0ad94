/-!
# UTF-16

Texts as sequences of 16-bit code units.  A character past the basic plane takes a pair of
surrogates; `decode?` refuses a surrogate that stands alone.
-/

namespace Messaging.Text.Utf16

def isHigh (u : UInt16) : Bool := 0xD800 ≤ u && u < 0xDC00

def isLow (u : UInt16) : Bool := 0xDC00 ≤ u && u < 0xE000

def encodeChar (c : Char) : List UInt16 :=
  if c.toNat < 0x10000 then [UInt16.ofNat c.toNat]
  else
    [UInt16.ofNat (0xD800 + (c.toNat - 0x10000) / 0x400),
      UInt16.ofNat (0xDC00 + (c.toNat - 0x10000) % 0x400)]

def encode (s : String) : List UInt16 := s.toList.flatMap encodeChar

def joinPair (high low : UInt16) : Char :=
  Char.ofNat (0x10000 + (high.toNat - 0xD800) * 0x400 + (low.toNat - 0xDC00))

def decodeChars? : List UInt16 → Option (List Char)
  | [] => some []
  | [u] => if isHigh u || isLow u then none else some [Char.ofNat u.toNat]
  | u :: v :: rest =>
    if isHigh u then
      if isLow v then (decodeChars? rest).map (joinPair u v :: ·) else none
    else if isLow u then none
    else (decodeChars? (v :: rest)).map (Char.ofNat u.toNat :: ·)

def decode? (units : List UInt16) : Option String := (decodeChars? units).map String.ofList

def unitChar (u : UInt16) : Char :=
  if isHigh u || isLow u then '\uFFFD' else Char.ofNat u.toNat

end Messaging.Text.Utf16
