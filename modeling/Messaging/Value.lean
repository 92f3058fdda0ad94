import Messaging.Error
import Messaging.Number.Decimal
import Messaging.Text.Class
import Messaging.Text.Utf16

/-!
# Typed values

The values of properties, map entries and stream fields, and the conversions of a read: an
integer widens to a wider one, a float to a double, every type but a byte array reads as text,
and text is parsed as the type asked for.  No other pair of types converts.
-/

namespace Messaging

open Number

inductive Value where
  | boolean (b : Bool)
  | byte (n : Int8)
  /-- One UTF-16 code unit. -/
  | char (u : UInt16)
  | short (n : Int16)
  | int (n : Int32)
  | long (n : Int64)
  | float (x : Single)
  | double (x : Double)
  | string (s : String)
  | bytes (bs : List UInt8)
  deriving DecidableEq, Repr

namespace Value

def type : Value → ValueType
  | boolean _ => .boolean
  | byte _ => .byte
  | char _ => .char
  | short _ => .short
  | int _ => .int
  | long _ => .long
  | float _ => .float
  | double _ => .double
  | string _ => .string
  | bytes _ => .bytes

/-- The text of a value; a byte array shows its length only. -/
def text : Value → String
  | boolean b => if b then "true" else "false"
  | byte n => String.ofList (intText n.toInt)
  | char u => String.singleton (Text.Utf16.unitChar u)
  | short n => String.ofList (intText n.toInt)
  | int n => String.ofList (intText n.toInt)
  | long n => String.ofList (intText n.toInt)
  | float x => x.text
  | double x => x.text
  | string s => s
  | bytes bs => s!"<{bs.length} bytes>"

/-! ## Conversions -/

def parse (read? : List Char → Option α) (wanted : ValueType) (s : String) : Except Error α :=
  match read? (Text.trimBoth Text.isBlank s.toList) with
  | some a => .ok a
  | none => .error (.unreadable s wanted)

def asBoolean : Value → Except Error Bool
  | boolean b => .ok b
  | string s => .ok (Text.sameIgnoringCase (Text.trim s) "true")
  | v => .error (.mismatch v.type .boolean)

def asByte : Value → Except Error Int8
  | byte n => .ok n
  | string s => parse readInt8? .byte s
  | v => .error (.mismatch v.type .byte)

def asChar : Value → Except Error UInt16
  | char u => .ok u
  | v => .error (.mismatch v.type .char)

def asShort : Value → Except Error Int16
  | byte n => .ok n.toInt16
  | short n => .ok n
  | string s => parse readInt16? .short s
  | v => .error (.mismatch v.type .short)

def asInt : Value → Except Error Int32
  | byte n => .ok n.toInt32
  | short n => .ok n.toInt32
  | int n => .ok n
  | string s => parse readInt32? .int s
  | v => .error (.mismatch v.type .int)

def asLong : Value → Except Error Int64
  | byte n => .ok n.toInt64
  | short n => .ok n.toInt64
  | int n => .ok n.toInt64
  | long n => .ok n
  | string s => parse readInt64? .long s
  | v => .error (.mismatch v.type .long)

def asFloat : Value → Except Error Single
  | float x => .ok x
  | string s => parse readSingle? .float s
  | v => .error (.mismatch v.type .float)

def asDouble : Value → Except Error Double
  | float x => .ok (Double.ofSingle x)
  | double x => .ok x
  | string s => parse readDouble? .double s
  | v => .error (.mismatch v.type .double)

def asString : Value → Except Error String
  | bytes _ => .error (.mismatch .bytes .string)
  | v => .ok v.text

def asBytes : Value → Except Error (List UInt8)
  | bytes bs => .ok bs
  | v => .error (.mismatch v.type .bytes)

def asScalar (t : Scalar) (v : Value) : Except Error Value :=
  match t with
  | .boolean => v.asBoolean.map boolean
  | .byte => v.asByte.map byte
  | .char => v.asChar.map char
  | .short => v.asShort.map short
  | .int => v.asInt.map int
  | .long => v.asLong.map long
  | .float => v.asFloat.map float
  | .double => v.asDouble.map double

end Value

end Messaging
