import Messaging.Value

/-!
# Stream bodies

A sequence of typed values that is first written, then read in order.  A byte array may be read
in chunks: while it is, its bytes are split at the place reached, and no other read is answered
until a read of bytes has said that nothing is left of it.
-/

namespace Messaging

open Number

inductive StreamBody where
  | writing (values : List Value)
  | reading (past ahead : List Value)
  /-- Inside a byte array between the values of `past` and those of `ahead`. -/
  | chunked (past : List Value) (taken rest : List UInt8) (ahead : List Value)
  deriving DecidableEq, Repr

namespace StreamBody

def empty : StreamBody := writing []

def values : StreamBody → List Value
  | writing values => values
  | reading past ahead => past ++ ahead
  | chunked past taken rest ahead => past ++ .bytes (taken ++ rest) :: ahead

def size (b : StreamBody) : Nat := b.values.length

def isEmpty (b : StreamBody) : Bool := b.values.isEmpty

def reset (b : StreamBody) : StreamBody := reading [] b.values

def clear (_ : StreamBody) : StreamBody := writing []

def write (v : Value) : StreamBody → Except Error StreamBody
  | writing values => .ok (writing (values ++ [v]))
  | reading .. | chunked .. => .error .notWriteable

/-! ## Reading -/

def read (as : Value → Except Error α) : StreamBody → Except Error (α × StreamBody)
  | writing _ => .error .notReadable
  | chunked .. => .error .partlyRead
  | reading _ [] => .error .endOfBody
  | reading past (v :: ahead) => do
    let a ← as v
    return (a, reading (past ++ [v]) ahead)

def readBoolean : StreamBody → Except Error (Bool × StreamBody) := read Value.asBoolean

def readByte : StreamBody → Except Error (Int8 × StreamBody) := read Value.asByte

def readChar : StreamBody → Except Error (UInt16 × StreamBody) := read Value.asChar

def readShort : StreamBody → Except Error (Int16 × StreamBody) := read Value.asShort

def readInt : StreamBody → Except Error (Int32 × StreamBody) := read Value.asInt

def readLong : StreamBody → Except Error (Int64 × StreamBody) := read Value.asLong

def readFloat : StreamBody → Except Error (Single × StreamBody) := read Value.asFloat

def readDouble : StreamBody → Except Error (Double × StreamBody) := read Value.asDouble

def readString : StreamBody → Except Error (String × StreamBody) := read Value.asString

def readScalar (t : Scalar) : StreamBody → Except Error (Value × StreamBody) :=
  read (Value.asScalar t)

/--
Read at most `size` bytes of the array under the cursor.  The read that finds nothing left, which
is the first one for an empty array, answers so and steps over the array.
-/
def readBytes (size : Nat) : StreamBody → Except Error (Option (List UInt8) × StreamBody)
  | writing _ => .error .notReadable
  | reading _ [] => .error .endOfBody
  | reading past (v :: ahead) => do
    match ← v.asBytes with
    | [] => return (none, reading (past ++ [v]) ahead)
    | bytes =>
      return (some (bytes.take size),
        chunked past (bytes.take size) (bytes.drop size) ahead)
  | chunked past taken [] ahead => .ok (none, reading (past ++ [.bytes taken]) ahead)
  | chunked past taken rest ahead =>
    .ok (some (rest.take size), chunked past (taken ++ rest.take size) (rest.drop size) ahead)

end StreamBody

end Messaging
