import Messaging.Abi.Code
import Messaging.Abi.Memory
import Messaging.Provider.Browser
import Messaging.Provider.Connection
import Messaging.Provider.Producer

/-!
# The state behind the C interface

The provider, the messages behind message handles and, for each connection, its last failure.  A
call checks its arguments one after the other and then has its effect: a failed check changes
nothing and writes nothing.
-/

namespace Messaging.Abi

abbrev MessageId := Nat

/-- A message handle has a tag that tells which accessors apply. -/
structure Handle where
  message : Message
  kind : MessageKind
  deriving DecidableEq, Repr

def Handle.ofMessage (m : Message) : Handle := ⟨m, m.kind⟩

structure Interface where
  provider : Provider := {}
  messages : List Handle := []
  failures : List (ConnectionId × Failure) := []
  deriving DecidableEq, Repr

inductive Object where
  | factory (f : ConnectionFactory)
  | connection (c : ConnectionId)
  | session (s : SessionId)
  | destination (d : Destination)
  | message (m : MessageId)
  | producer (p : ProducerId)
  | consumer (c : ConsumerId)
  | browser (b : BrowserId)
  deriving DecidableEq, Repr

inductive Output where
  | scalar (v : Value)
  | size (n : Nat)
  | handle (o : Object)
  | null
  | bytes (bs : List UInt8)
  | names (ns : List String)
  deriving DecidableEq, Repr

structure Reply where
  failure : Option Failure := none
  outputs : List Output := []
  deriving DecidableEq, Repr

def Reply.status (r : Reply) : Status :=
  match r.failure with
  | some f => f.status
  | none => .success

/-- What a call does once its arguments are checked. -/
abbrev Effect := Interface → Reply × Interface

namespace Effect

def answer (outputs : List Output) : Effect := fun w => ({ outputs }, w)

def fail (f : Failure) (outputs : List Output) : Effect := fun w =>
  ({ failure := some f, outputs }, w)

/-- Write to a variable, which is looked at last. -/
def write (out : Out) (o : Output) : Effect :=
  match out with
  | .given => answer [o]
  | .null => fail .nullPointer []

/-- Write a text, cut to fit; in place of one that could not be read, an empty text. -/
def copy (b : Buffer) : Except Error String → Effect
  | .ok s =>
    match b.copy s with
    | .ok bytes => answer [.bytes bytes]
    | .error f => fail f []
  | .error e => fail (.runtime e) (if b.isNull || b.size == 0 then [] else [.bytes [0]])

def change (f : Provider → Provider) : Effect := fun w =>
  ({}, { w with provider := f w.provider })

def perform (f : Provider → Outcome α) (k : α → Effect) : Effect := fun w =>
  let (result, provider) := f w.provider
  match result with
  | .ok a => k a { w with provider }
  | .error e => fail (.runtime e) [] { w with provider }

def act (f : Provider → Outcome Unit) : Effect := perform f fun _ => answer []

def hand (h : Handle) : Effect := fun w =>
  ({ outputs := [.handle (.message w.messages.length)] },
    { w with messages := w.messages ++ [h] })

def receive (missing : Option Failure) : Option Message → Effect
  | some m => hand (.ofMessage m)
  | none => fun w => ({ failure := missing, outputs := [.null] }, w)

def store (m : MessageId) (message : Message) (k : Effect) : Effect := fun w =>
  k { w with messages := w.messages.modify m ({ · with message }) }

def settle : Except Failure Effect → Effect
  | .ok e => e
  | .error f => fail f []

def recording (c : ConnectionId) (checked : Except Failure Effect) : Effect := fun w =>
  let (r, w) := settle checked w
  match r.failure with
  | none => (r, w)
  | some f => (r, { w with failures := (c, f) :: w.failures.filter (·.1 != c) })

end Effect

def runtime : Except Error α → Except Failure α
  | .ok a => .ok a
  | .error e => .error (.runtime e)

namespace Interface

def handle (m : Option MessageId) (w : Interface) : Except Failure (MessageId × Handle) := do
  let m ← given m
  let h ← given w.messages[m]?
  return (m, h)

def message (m : Option MessageId) (w : Interface) : Except Failure (MessageId × Message) := do
  let (m, h) ← w.handle m
  return (m, h.message)

def typed (kind : MessageKind) (m : Option MessageId) (w : Interface) :
    Except Failure (MessageId × Message) := do
  let (m, h) ← w.handle m
  if h.kind = kind then return (m, h.message) else throw (.wrongKind kind h.kind)

def lastFailure (c : Option ConnectionId) (b : Buffer) (w : Interface) : Option (List UInt8) := do
  let f ← w.failures.lookup (← c)
  (b.copy f.message).toOption

end Interface

def ofTruth (b : Bool) : Output := .scalar (.int (if b then 1 else 0))

def ofValue : Value → Output
  | .boolean b => ofTruth b
  | v => .scalar v

def ackMode (code : Int32) : Except Failure AckMode :=
  match AckMode.ofCode? code with
  | some m => .ok m
  | none => .error (.unknownAckMode code)

def deliveryMode (code : Int32) : Except Failure DeliveryMode :=
  match DeliveryMode.ofCode? code with
  | some m => .ok m
  | none => .error (.unknownDeliveryMode code)

def destinationKind (code : Int32) : Except Failure DestinationKind :=
  match DestinationKind.ofCode? code with
  | some k => .ok k
  | none => .error (.unknownDestinationKind code)

end Messaging.Abi
