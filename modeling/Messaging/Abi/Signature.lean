import Messaging.Abi.Interface

/-!
# Signatures

What a C function takes, in the order of its parameters, and what it makes of that.  A buffer and
its size are one parameter, and so are the variables for a list of names and for its length.
-/

namespace Messaging.Abi

inductive Param where
  | factory
  | connection
  | session
  | destination
  | message
  | producer
  | consumer
  | browser
  | int
  | long
  | size
  | text
  | bytes
  | scalar (type : Scalar)
  | buffer
  | scalarOut (type : Scalar)
  | sizeOut
  | namesOut
  | handleOut
  deriving DecidableEq, Repr

def Param.Argument : Param → Type
  | factory => Option ConnectionFactory
  | connection => Option ConnectionId
  | session => Option SessionId
  | destination => Option Destination
  | message => Option MessageId
  | producer => Option ProducerId
  | consumer => Option ConsumerId
  | browser => Option BrowserId
  | int => Int32
  | long => Int64
  | size => Nat
  | text => CString
  | bytes => Bytes
  | scalar _ => Value
  | buffer => Buffer
  | namesOut => Out × Out
  | scalarOut _ | sizeOut | handleOut => Out

/-- A value that depends on arguments, which are taken from left to right. -/
inductive Signature (α : Type) where
  | done (a : α)
  | take (p : Param) (k : p.Argument → Signature α)

namespace Signature

def bind (s : Signature α) (f : α → Signature β) : Signature β :=
  match s with
  | done a => f a
  | take p k => take p fun x => (k x).bind f

instance : Monad Signature where
  pure := done
  bind := bind

def one (p : Param) : Signature p.Argument := take p done

def factory : Signature (Option ConnectionFactory) := one .factory

def connection : Signature (Option ConnectionId) := one .connection

def session : Signature (Option SessionId) := one .session

def destination : Signature (Option Destination) := one .destination

def message : Signature (Option MessageId) := one .message

def producer : Signature (Option ProducerId) := one .producer

def consumer : Signature (Option ConsumerId) := one .consumer

def browser : Signature (Option BrowserId) := one .browser

def int : Signature Int32 := one .int

def long : Signature Int64 := one .long

def size : Signature Nat := one .size

def text : Signature CString := one .text

def bytes : Signature Bytes := one .bytes

def buffer : Signature Buffer := one .buffer

def scalar : Scalar → Signature Value
  | .boolean => return .boolean (truth (← int))
  | t => one (.scalar t)

def scalarOut : Scalar → Signature Out
  | .boolean => one (.scalarOut .int)
  | t => one (.scalarOut t)

def intOut : Signature Out := one (.scalarOut .int)

def longOut : Signature Out := one (.scalarOut .long)

def sizeOut : Signature Out := one .sizeOut

def namesOut : Signature (Out × Out) := one .namesOut

def handleOut : Signature Out := one .handleOut

end Signature

end Messaging.Abi
