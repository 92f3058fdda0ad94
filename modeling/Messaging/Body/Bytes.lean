import Messaging.Body.Word
import Messaging.Text.ModifiedUtf8
import Messaging.Value

/-!
# Bytes bodies

A sequence of bytes that is first written, then read from the front.  Numbers are big-endian.
While the body is read the content is split in two: the bytes behind the cursor and the bytes
ahead of it.  An operation that fails returns no body, so the caller still has the old one.
-/

namespace Messaging

open Number Text

inductive BytesBody where
  | writing (data : List UInt8)
  | reading (past ahead : List UInt8)
  deriving DecidableEq, Repr

namespace BytesBody

def ofBytes (data : List UInt8) : BytesBody := writing data

def data : BytesBody → List UInt8
  | writing data => data
  | reading past ahead => past ++ ahead

def position : BytesBody → Nat
  | writing _ => 0
  | reading past _ => past.length

def isReadable : BytesBody → Bool
  | writing _ => false
  | reading .. => true

def reset (b : BytesBody) : BytesBody := reading [] b.data

def clear (_ : BytesBody) : BytesBody := writing []

def length : BytesBody → Except Error Nat
  | writing _ => .error .notReadable
  | reading past ahead => .ok (past ++ ahead).length

/-! ## Reading -/

def take (n : Nat) : BytesBody → Except Error (List UInt8 × BytesBody)
  | writing _ => .error .notReadable
  | reading past ahead =>
    if n ≤ ahead.length then .ok (ahead.take n, reading (past ++ ahead.take n) (ahead.drop n))
    else .error .endOfBody

def takeWord (n : Nat) (b : BytesBody) : Except Error (Nat × BytesBody) := do
  let (bytes, b) ← b.take n
  return (Word.decode bytes, b)

def readBoolean (b : BytesBody) : Except Error (Bool × BytesBody) := do
  let (n, b) ← b.takeWord 1
  return (n != 0, b)

def readByte (b : BytesBody) : Except Error (Int8 × BytesBody) := do
  let (n, b) ← b.takeWord 1
  return (Int8.ofNat n, b)

def readChar (b : BytesBody) : Except Error (UInt16 × BytesBody) := do
  let (n, b) ← b.takeWord 2
  return (UInt16.ofNat n, b)

def readShort (b : BytesBody) : Except Error (Int16 × BytesBody) := do
  let (n, b) ← b.takeWord 2
  return (Int16.ofNat n, b)

def readInt (b : BytesBody) : Except Error (Int32 × BytesBody) := do
  let (n, b) ← b.takeWord 4
  return (Int32.ofNat n, b)

def readLong (b : BytesBody) : Except Error (Int64 × BytesBody) := do
  let (n, b) ← b.takeWord 8
  return (Int64.ofNat n, b)

def readFloat (b : BytesBody) : Except Error (Single × BytesBody) := do
  let (n, b) ← b.takeWord 4
  return (⟨UInt32.ofNat n⟩, b)

def readDouble (b : BytesBody) : Except Error (Double × BytesBody) := do
  let (n, b) ← b.takeWord 8
  return (⟨UInt64.ofNat n⟩, b)

def readBytes (size : Nat) : BytesBody → Except Error (Option (List UInt8) × BytesBody)
  | writing _ => .error .notReadable
  | reading past ahead =>
    if ahead.isEmpty then .ok (none, reading past ahead)
    else
      .ok (some (ahead.take size), reading (past ++ ahead.take size) (ahead.drop size))

def readString : BytesBody → Except Error (String × BytesBody)
  | writing _ => .error .notReadable
  | reading past ahead =>
    let encoded := ahead.takeWhile (· != 0)
    match ahead.dropWhile (· != 0) with
    | [] => .error .endOfBody
    | zero :: rest =>
      match Utf8.decode encoded with
      | .ok s => .ok (s, reading (past ++ encoded ++ [zero]) rest)
      | .error e => .error (.invalidUtf8 e)

def decodeUtf (encoded : List UInt8) : Except Error String :=
  match ModifiedUtf8.decode? encoded with
  | some s => .ok s
  | none => .error .malformedText

def readUtf (b : BytesBody) : Except Error (String × BytesBody) := do
  let (n, b) ← b.takeWord 2
  let (encoded, b) ← b.take n
  return (← decodeUtf encoded, b)

def readScalar (t : Scalar) (b : BytesBody) : Except Error (Value × BytesBody) :=
  match t with
  | .boolean => b.readBoolean.map (Prod.map .boolean id)
  | .byte => b.readByte.map (Prod.map .byte id)
  | .char => b.readChar.map (Prod.map .char id)
  | .short => b.readShort.map (Prod.map .short id)
  | .int => b.readInt.map (Prod.map .int id)
  | .long => b.readLong.map (Prod.map .long id)
  | .float => b.readFloat.map (Prod.map .float id)
  | .double => b.readDouble.map (Prod.map .double id)

/-! ## Writing -/

def put (bytes : List UInt8) : BytesBody → Except Error BytesBody
  | writing data => .ok (writing (data ++ bytes))
  | reading .. => .error .notWriteable

def writeBoolean (v : Bool) : BytesBody → Except Error BytesBody := put [if v then 1 else 0]

def writeByte (v : Int8) : BytesBody → Except Error BytesBody :=
  put (Word.encode 1 v.toUInt8.toNat)

def writeChar (v : UInt16) : BytesBody → Except Error BytesBody := put (Word.encode 2 v.toNat)

def writeShort (v : Int16) : BytesBody → Except Error BytesBody :=
  put (Word.encode 2 v.toUInt16.toNat)

def writeInt (v : Int32) : BytesBody → Except Error BytesBody :=
  put (Word.encode 4 v.toUInt32.toNat)

def writeLong (v : Int64) : BytesBody → Except Error BytesBody :=
  put (Word.encode 8 v.toUInt64.toNat)

def writeFloat (v : Single) : BytesBody → Except Error BytesBody :=
  put (Word.encode 4 v.bits.toNat)

def writeDouble (v : Double) : BytesBody → Except Error BytesBody :=
  put (Word.encode 8 v.bits.toNat)

def writeString (s : String) (b : BytesBody) : Except Error BytesBody :=
  if b.isReadable then .error .notWriteable
  else if s.toList.contains (Char.ofNat 0) then .error .zeroInText
  else b.put (Utf8.encode s ++ [0])

def writeUtf (s : String) (b : BytesBody) : Except Error BytesBody :=
  let encoded := ModifiedUtf8.encode s
  if b.isReadable then .error .notWriteable
  else if 65535 < encoded.length then .error .textTooLong
  else b.put (Word.encode 2 encoded.length ++ encoded)

def write (v : Value) : BytesBody → Except Error BytesBody :=
  match v with
  | .boolean v => writeBoolean v
  | .byte v => writeByte v
  | .char v => writeChar v
  | .short v => writeShort v
  | .int v => writeInt v
  | .long v => writeLong v
  | .float v => writeFloat v
  | .double v => writeDouble v
  | .string s => writeString s
  | .bytes bytes => put bytes

end BytesBody

end Messaging
