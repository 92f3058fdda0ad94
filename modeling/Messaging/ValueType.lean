/-!
# Types of values
-/

namespace Messaging

inductive ValueType where
  | boolean
  | byte
  | char
  | short
  | int
  | long
  | float
  | double
  | string
  | bytes
  deriving DecidableEq, Repr

def ValueType.name : ValueType → String
  | boolean => "boolean"
  | byte => "byte"
  | char => "char"
  | short => "short"
  | int => "int"
  | long => "long"
  | float => "float"
  | double => "double"
  | string => "string"
  | bytes => "bytes"

inductive Scalar where
  | boolean
  | byte
  | char
  | short
  | int
  | long
  | float
  | double
  deriving DecidableEq, Repr

def Scalar.all : List Scalar := [.boolean, .byte, .char, .short, .int, .long, .float, .double]

def Scalar.type : Scalar → ValueType
  | boolean => .boolean
  | byte => .byte
  | char => .char
  | short => .short
  | int => .int
  | long => .long
  | float => .float
  | double => .double

def Scalar.ofName? (name : String) : Option Scalar := Scalar.all.find? (·.type.name == name)

end Messaging
