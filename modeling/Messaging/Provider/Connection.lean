import Messaging.Provider.Label
import Messaging.Provider.Session

/-!
# Connections

A connection belongs to one broker and to one client id there.  It hands out messages while it is
started; closing it closes its sessions, deletes its temporary destinations and frees its client
id.
-/

namespace Messaging

structure ConnectionFactory where
  uri : BrokerUri
  username : String
  password : String
  deriving DecidableEq, Repr

namespace ConnectionFactory

def create (uri username password : String) : Except Error ConnectionFactory := do
  return ⟨← BrokerUri.parse uri, username, password⟩

end ConnectionFactory

namespace Provider

/-! ## Brokers -/

def findBroker (u : BrokerUri) (w : Provider) : Outcome BrokerId :=
  match w.running.lookup u.broker with
  | some b => (.ok b, w)
  | none =>
    if u.create then
      let b := w.brokers.length
      (.ok b,
        { w with
          running := (u.broker, b) :: w.running
          brokers := w.brokers ++ [{ name := u.broker, credentials := u.credentials }] })
    else (.error (.noBroker u.broker), w)

/-- Forget all brokers.  Connections keep theirs, but new ones do not find it. -/
def shutdown (w : Provider) : Provider := { w with running := [] }

/-! ## Opening -/

/-- Connect under a client id of one's own or that of the address, or else under the label. -/
def connectWith [Labels] (f : ConnectionFactory) (username password : String)
    (clientId : Option String) (w : Provider) : Outcome ConnectionId :=
  match w.findBroker f.uri with
  | (.error e, w) => (.error e, w)
  | (.ok b, w) =>
    check ((w.brokerAt b).authenticate username password) w fun _ =>
      let w := { w with labels := w.labels + 1 }
      check (Labels.request w.labels) w fun label =>
        let chosen := clientId <|> f.uri.clientId
        let id := chosen.getD label
        check ((w.brokerAt b).checkClientId id) w fun _ =>
          let connection :=
            { broker := b, label := label, clientId := id, clientIdFixed := chosen.isSome }
          let w := w.updateBroker b (·.addClientId id)
          (.ok w.connections.length, { w with connections := w.connections ++ [connection] })

def connect [Labels] (f : ConnectionFactory) (w : Provider) : Outcome ConnectionId :=
  w.connectWith f f.username f.password none

/-! ## State -/

def start (c : ConnectionId) (w : Provider) : Outcome Unit :=
  check (w.openConnection c) w fun _ =>
    (.ok (), w.updateConnection c ({ · with state := .started, clientIdFixed := true }))

/-- Hold messages back; receives keep waiting. -/
def stop (c : ConnectionId) (w : Provider) : Outcome Unit :=
  check (w.openConnection c) w fun _ =>
    (.ok (), w.updateConnection c ({ · with state := .stopped }))

def clientId (c : ConnectionId) (w : Provider) : Except Error String :=
  (w.openConnection c).map (·.clientId)

def setClientId (c : ConnectionId) (id : String) (w : Provider) : Outcome Unit :=
  check (w.openConnection c) w fun connection =>
    if connection.clientIdFixed then (.error .clientIdFixed, w)
    else
      check ((w.brokerAt connection.broker).checkClientId id) w fun _ =>
        let w := w.updateBroker connection.broker fun b =>
          (b.addClientId id).removeClientId connection.clientId
        (.ok (), w.updateConnection c ({ · with clientId := id, clientIdFixed := true }))

/-! ## Closing -/

def sessionsOf (c : ConnectionId) (w : Provider) : List SessionId :=
  (List.range w.sessions.length).filter fun s => w.sessions[s]?.any (·.connection == c)

def closeConnection (c : ConnectionId) (w : Provider) : Provider :=
  match w.connections[c]? with
  | none => w
  | some connection =>
    if connection.state = .closed then w
    else
      let w := w.updateConnection c ({ · with state := .closed })
      let w := (w.sessionsOf c).foldl (fun w s => w.closeSession s) w
      w.updateBroker connection.broker fun b =>
        (b.releaseTemporaries c).removeClientId connection.clientId

end Provider

end Messaging
