import Messaging.Abi.Failure

/-!
# Memory of the caller

The pointers that a call takes: C strings, variables for results and buffers.  A null pointer is
`none`, or `null` where nothing but its being null matters.
-/

namespace Messaging.Abi

def given : Option α → Except Failure α
  | some a => .ok a
  | none => .error .nullPointer

def truth (n : Int32) : Bool := n != 0

abbrev Bytes := Option (List UInt8)

def Bytes.take (bytes : Bytes) (length : Nat) : Except Failure (List UInt8) :=
  if length = 0 then .ok [] else (given bytes).map (·.take length)

/-- Bytes that end before the first zero byte. -/
abbrev CString := Option (List UInt8)

namespace CString

def decode (bytes : List UInt8) : Except Failure String :=
  match Text.Utf8.decode (bytes.takeWhile (· != 0)) with
  | .ok s => .ok s
  | .error e => .error (.invalidUtf8 e)

def text (c : CString) : Except Failure String := do decode (← given c)

def text? : CString → Except Failure (Option String)
  | none => .ok none
  | some bytes => (decode bytes).map some

def textOrEmpty (c : CString) : Except Failure String := do return (← c.text?).getD ""

def key (c : CString) : Except Failure String := do
  let s ← c.text
  if s.isEmpty then throw .emptyKey else return s

end CString

inductive Out where
  | null
  | given
  deriving DecidableEq, Repr

def Out.check : Out → Except Failure Unit
  | null => .error .nullPointer
  | given => .ok ()

structure Buffer where
  isNull : Bool
  size : Nat
  deriving DecidableEq, Repr

namespace Buffer

/-- What is written for a text: as much of it as fits before a zero byte. -/
def copy (s : String) (b : Buffer) : Except Failure (List UInt8) :=
  if b.isNull then .error .nullPointer
  else if b.size = 0 then .error .emptyBuffer
  else .ok ((Text.Utf8.encode s).take (b.size - 1) ++ [0])

def copyWhole (s : String) (b : Buffer) : Except Failure (List UInt8) :=
  let length := (Text.Utf8.encode s).length
  if b.size ≤ length then .error (.shortBuffer b.size length) else b.copy s

/-- A buffer for bytes may be null if it has no size. -/
def check (b : Buffer) : Except Failure Unit :=
  if b.isNull ∧ 0 < b.size then .error .nullPointer else .ok ()

end Buffer

end Messaging.Abi
