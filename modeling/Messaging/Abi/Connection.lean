import Messaging.Abi.Interface

/-!
# Calls on the library, factories and connections

Calls on a connection, other than those that make or free one, leave their failure behind with
the connection.
-/

namespace Messaging.Abi

open Effect

inductive ConnectionCall where
  | setUp
  | setUpLog (filter : CString)
  | tearDown
  | createFactory (uri username password : CString) (out : Out)
  | create (f : Option ConnectionFactory) (username password clientId : CString) (out : Out)
  | createDefault (f : Option ConnectionFactory) (out : Out)
  | start (c : Option ConnectionId)
  | stop (c : Option ConnectionId)
  | close (c : Option ConnectionId)
  | setClientId (c : Option ConnectionId) (id : CString)
  | getClientId (c : Option ConnectionId) (b : Buffer)

def ConnectionCall.check [Labels] (w : Interface) : ConnectionCall → Except Failure Effect
  | setUp => return answer []
  | setUpLog filter => do
    _ ← filter.text?
    return answer []
  | tearDown => return change (·.shutdown)
  | createFactory uri username password out => do
    let uri ← uri.text
    let username ← username.textOrEmpty
    let password ← password.textOrEmpty
    let f ← runtime (ConnectionFactory.create uri username password)
    return write out (.handle (.factory f))
  | create f username password clientId out => do
    let f ← given f
    let username ← username.textOrEmpty
    let password ← password.textOrEmpty
    let clientId ← clientId.text?
    out.check
    return perform (·.connectWith f username password clientId) fun c =>
      answer [.handle (.connection c)]
  | createDefault f out => do
    let f ← given f
    out.check
    return perform (·.connect f) fun c => answer [.handle (.connection c)]
  | start c => do
    let c ← given c
    return recording c (.ok (act (·.start c)))
  | stop c => do
    let c ← given c
    return recording c (.ok (act (·.stop c)))
  | close c => do
    let c ← given c
    return change (·.closeConnection c)
  | setClientId c id => do
    let c ← given c
    return recording c do
      let id ← id.text
      return act (·.setClientId c id)
  | getClientId c b => do
    let c ← given c
    return recording c do
      let id ← runtime (w.provider.clientId c)
      let bytes ← b.copyWhole id
      return answer [.bytes bytes]

end Messaging.Abi
