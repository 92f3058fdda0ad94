import Messaging.Abi.Interface

/-!
# Calls on sessions and destinations
-/

namespace Messaging.Abi

open Effect

inductive SessionCall where
  | create (c : Option ConnectionId) (mode : Int32) (out : Out)
  | createDefault (c : Option ConnectionId) (out : Out)
  | close (s : Option SessionId)
  | commit (s : Option SessionId)
  | rollback (s : Option SessionId)
  | recover (s : Option SessionId)
  | unsubscribe (s : Option SessionId) (name : CString)
  | getMode (s : Option SessionId) (out : Out)
  | isTransacted (s : Option SessionId) (out : Out)

namespace SessionCall

def createWith (c : Option ConnectionId) (mode : Int32) (out : Out) : Except Failure Effect := do
  let c ← given c
  let mode ← ackMode mode
  out.check
  return perform (·.createSession c mode) fun s => answer [.handle (.session s)]

def modeOf (s : Option SessionId) (w : Interface) : Except Failure AckMode := do
  let s ← given s
  let session ← given w.provider.sessions[s]?
  return session.mode

def check (w : Interface) : SessionCall → Except Failure Effect
  | create c mode out => createWith c mode out
  | createDefault c out => createWith c AckMode.auto.code out
  | close s => do
    let s ← given s
    return change (·.closeSession s)
  | commit s => do
    let s ← given s
    return act (·.commit s)
  | rollback s => do
    let s ← given s
    return act (·.rollback s)
  | recover s => do
    let s ← given s
    return act (·.recover s)
  | unsubscribe s name => do
    let s ← given s
    let name ← name.text
    return act (·.unsubscribe s name)
  | getMode s out => do
    let mode ← modeOf s w
    return write out (.scalar (.int mode.code))
  | isTransacted s out => do
    let mode ← modeOf s w
    return write out (ofTruth (mode == .transacted))

end SessionCall

inductive DestinationCall where
  | create (s : Option SessionId) (kind : Int32) (name : CString) (out : Out)
  | createTemporary (s : Option SessionId) (kind : Int32) (out : Out)
  | compare (a b : Option Destination) (out : Out)
  | isTopic (d : Option Destination) (out : Out)
  | isQueue (d : Option Destination) (out : Out)
  | isTemporary (d : Option Destination) (out : Out)
  | getName (d : Option Destination) (b : Buffer)

namespace DestinationCall

def made (d : Destination) : Effect := answer [.handle (.destination d)]

def check : DestinationCall → Except Failure Effect
  | create s kind name out => do
    let s ← given s
    let kind ← destinationKind kind
    let name ← name.text?
    out.check
    if kind.isTemporary then return perform (·.createTemporary s kind) made
    else
      let name ← given name
      return perform (·.create s ⟨kind, name⟩) made
  | createTemporary s kind out => do
    let s ← given s
    let kind ← destinationKind kind
    if !kind.isTemporary then throw (.notTemporary kind)
    out.check
    return perform (·.createTemporary s kind) made
  | compare a b out => do
    let a ← given a
    let b ← given b
    return write out (ofTruth (a == b))
  | isTopic d out => do
    let d ← given d
    return write out (ofTruth d.isTopic)
  | isQueue d out => do
    let d ← given d
    return write out (ofTruth d.isQueue)
  | isTemporary d out => do
    let d ← given d
    return write out (ofTruth d.isTemporary)
  | getName d b => do
    let d ← given d
    return copy b (.ok d.name)

end DestinationCall

end Messaging.Abi
