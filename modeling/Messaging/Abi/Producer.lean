import Messaging.Abi.Interface

/-!
# Calls on producers

A send stamps the headers of the message behind the handle of the caller.
-/

namespace Messaging.Abi

open Effect

inductive Setting where
  | deliveryMode
  | disableMessageId
  | disableTimestamp
  | priority

def Setting.get (c : ProducerConfig) : Setting → Int32
  | deliveryMode => c.deliveryMode.code
  | disableMessageId => if c.disableMessageId then 1 else 0
  | disableTimestamp => if c.disableTimestamp then 1 else 0
  | priority => c.priority

inductive ProducerCall where
  | create (s : Option SessionId) (d : Option Destination) (out : Out)
  | close (p : Option ProducerId)
  | send (p : Option ProducerId) (m : Option MessageId) (mode priority : Int32)
      (timeToLive : Int64)
  | sendTo (p : Option ProducerId) (m : Option MessageId) (d : Option Destination)
      (mode priority : Int32) (timeToLive : Int64)
  | sendDefault (p : Option ProducerId) (m : Option MessageId)
  | sendFor (p : Option ProducerId) (m : Option MessageId) (timeToLive : Int64)
  | get (x : Setting) (p : Option ProducerId) (out : Out)
  | set (x : Setting) (p : Option ProducerId) (n : Int32)
  | getTimeToLive (p : Option ProducerId) (out : Out)
  | setTimeToLive (p : Option ProducerId) (millis : Int64)

namespace ProducerCall

/-- Send the message behind a handle, which then has the headers of the send. -/
def sendMessage (p : ProducerId) (m : MessageId) (message : Message) (d : Option Destination)
    (q : Quality) : Effect := fun w =>
  let (sent, provider) := w.provider.send p d q message
  store m sent.message (settle ((runtime sent.result).map fun _ => answer [])) { w with provider }

def configure (p : ProducerId) (f : ProducerConfig → ProducerConfig) : Effect :=
  change (·.configure p f)

def check (w : Interface) : ProducerCall → Except Failure Effect
  | create s d out => do
    let s ← given s
    out.check
    return perform (·.createProducer s d) fun p => answer [.handle (.producer p)]
  | close p => do
    let p ← given p
    return change (·.closeProducer p)
  | send p m mode priority timeToLive => do
    let p ← given p
    let (m, message) ← w.message m
    let mode ← deliveryMode mode
    return sendMessage p m message none ⟨mode, priority, timeToLive⟩
  | sendTo p m d mode priority timeToLive => do
    let p ← given p
    let (m, message) ← w.message m
    let d ← given d
    let mode ← deliveryMode mode
    return sendMessage p m message (some d) ⟨mode, priority, timeToLive⟩
  | sendDefault p m => do
    let p ← given p
    let (m, message) ← w.message m
    return sendMessage p m message none (w.provider.qualityOf p none)
  | sendFor p m timeToLive => do
    let p ← given p
    let (m, message) ← w.message m
    return sendMessage p m message none { w.provider.qualityOf p none with timeToLive }
  | get x p out => do
    let p ← given p
    return write out (.scalar (.int (x.get (w.provider.configOf p))))
  | set x p n => do
    let p ← given p
    match x with
    | .deliveryMode =>
      let mode ← deliveryMode n
      return configure p ({ · with deliveryMode := mode })
    | .disableMessageId => return configure p ({ · with disableMessageId := truth n })
    | .disableTimestamp => return configure p ({ · with disableTimestamp := truth n })
    | .priority => return act (·.setPriority p n)
  | getTimeToLive p out => do
    let p ← given p
    return write out (.scalar (.long (w.provider.configOf p).timeToLive))
  | setTimeToLive p millis => do
    let p ← given p
    return act (·.setTimeToLive p millis)

end ProducerCall

end Messaging.Abi
