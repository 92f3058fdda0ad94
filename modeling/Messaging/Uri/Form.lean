import Messaging.Number.Integer
import Messaging.Text.Utf8

/-!
# Form encoding

Lists of pairs of texts as `application/x-www-form-urlencoded`: pairs are joined by ampersands,
the two texts of a pair by an equals sign, spaces become plus signs and every byte that is not a
letter, a digit or one of four marks is written in hexadecimal after a percent sign.  Reading
takes any bytes: what is no escape stands for itself.
-/

namespace Messaging.Uri.Form

open Text

def plus : UInt8 := 0x2B

def percent : UInt8 := 0x25

def ampersand : UInt8 := 0x26

def equals : UInt8 := 0x3D

def space : UInt8 := 0x20

/-! ## Writing -/

def isPlain (b : UInt8) : Bool :=
  (0x30 ≤ b && b ≤ 0x39) || (0x41 ≤ b && b ≤ 0x5A) || (0x61 ≤ b && b ≤ 0x7A) ||
    b == 0x2A || b == 0x2D || b == 0x2E || b == 0x5F

def hexDigit (n : Nat) : UInt8 := UInt8.ofNat (if n < 10 then 0x30 + n else 0x37 + n)

def escape (b : UInt8) : List UInt8 :=
  [percent, hexDigit (b.toNat / 16), hexDigit (b.toNat % 16)]

def encodeByte (b : UInt8) : List UInt8 :=
  if isPlain b then [b] else if b = space then [plus] else escape b

def encodeText (s : String) : List UInt8 := (Utf8.encode s).flatMap encodeByte

def encodePair (pair : String × String) : List UInt8 :=
  encodeText pair.1 ++ equals :: encodeText pair.2

def encode (pairs : List (String × String)) : List UInt8 :=
  [ampersand].intercalate (pairs.map encodePair)

/-! ## Reading -/

def hexValue? (b : UInt8) : Option Nat := Number.hexDigit? (Char.ofNat b.toNat)

/-- Undo escapes; a percent sign without two digits after it stands for itself. -/
def unescape : List UInt8 → List UInt8
  | [] => []
  | a :: rest =>
    if a = percent then
      match rest with
      | b :: c :: rest' =>
        match hexValue? b, hexValue? c with
        | some high, some low => UInt8.ofNat (high * 16 + low) :: unescape rest'
        | _, _ => a :: unescape (b :: c :: rest')
      | rest => a :: unescape rest
    else a :: unescape rest

def decodeText (bytes : List UInt8) : String :=
  Utf8.decodeLossy (unescape (bytes.map fun b => if b = plus then space else b))

def cut (separator : UInt8) (bytes : List UInt8) : List UInt8 × List UInt8 :=
  (bytes.takeWhile (· != separator), (bytes.dropWhile (· != separator)).drop 1)

def decodePair (bytes : List UInt8) : String × String :=
  let (key, value) := cut equals bytes
  (decodeText key, decodeText value)

def split (separator : UInt8) : List UInt8 → List (List UInt8)
  | [] => [[]]
  | b :: rest =>
    match split separator rest with
    | part :: parts => if b = separator then [] :: part :: parts else (b :: part) :: parts
    | [] => [[b]]

def decode (bytes : List UInt8) : List (String × String) :=
  ((split ampersand bytes).filter (!·.isEmpty)).map decodePair

end Messaging.Uri.Form
