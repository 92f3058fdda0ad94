import Messaging.Provider.Session

/-!
# Producers

Sending stamps the headers on the message of the caller, also when the send fails after that, and
hands a copy to the broker, or to the transaction of the session.
-/

namespace Messaging

structure Quality where
  mode : DeliveryMode
  priority : Int32
  timeToLive : Int64
  deriving DecidableEq, Repr

def ProducerConfig.quality (c : ProducerConfig) : Quality :=
  ⟨c.deliveryMode, c.priority, c.timeToLive⟩

def checkPriority (n : Int32) : Except Error Unit :=
  if 0 ≤ n ∧ n ≤ 9 then .ok () else .error (.badPriority n)

def checkTimeToLive (millis : Int64) : Except Error Unit :=
  if millis < 0 then .error (.badTimeToLive millis) else .ok ()

namespace Provider

/-! ## Opening and configuring -/

def createProducer (s : SessionId) (d : Option Destination) (w : Provider) :
    Outcome ProducerId :=
  check (w.openSession s) w fun (session, _) =>
    let w := w.updateSession s ({ · with nextProducer := session.nextProducer + 1 })
    (.ok w.producers.length,
      { w with
        producers := w.producers ++
          [{ session := s, number := session.nextProducer, destination := d }] })

def closeProducer (p : ProducerId) (w : Provider) : Provider :=
  w.updateProducer p ({ · with closed := true })

def configOf (p : ProducerId) (w : Provider) : ProducerConfig :=
  (w.producers[p]?.map (·.config)).getD {}

def configure (p : ProducerId) (f : ProducerConfig → ProducerConfig) (w : Provider) : Provider :=
  w.updateProducer p fun producer => { producer with config := f producer.config }

def setPriority (p : ProducerId) (n : Int32) (w : Provider) : Outcome Unit :=
  check (checkPriority n) w fun _ => (.ok (), w.configure p ({ · with priority := n }))

def setTimeToLive (p : ProducerId) (millis : Int64) (w : Provider) : Outcome Unit :=
  check (checkTimeToLive millis) w fun _ =>
    (.ok (), w.configure p ({ · with timeToLive := millis }))

/-! ## Sending -/

/-- What a send asks for or, if it asks for nothing, what its producer was set to. -/
def qualityOf (p : ProducerId) (q : Option Quality) (w : Provider) : Quality :=
  q.getD (w.configOf p).quality

def resolve (bound requested : Option Destination) : Except Error Destination :=
  match bound, requested with
  | some d, none => .ok d
  | some d, some r => if d = r then .ok d else .error (.boundElsewhere d r)
  | none, some r => .ok r
  | none, none => .error .noDestination

def deadline (now timeToLive : Int64) : Int64 :=
  if 0 < timeToLive then Int64.ofIntClamp (now.toInt + timeToLive.toInt) else 0

def stamp (d : Destination) (q : Quality) (config : ProducerConfig) (now : Int64) (id : String)
    (m : Message) : Message :=
  { m with
    headers :=
      { m.headers with
        destination := some d
        deliveryMode := q.mode
        priority := q.priority
        timestamp := if config.disableTimestamp then 0 else now
        expiration := deadline now q.timeToLive
        messageId := if config.disableMessageId then "" else id } }

def messageId (label : String) (session producer seq : Nat) : String :=
  s!"{label}:{session}:{producer}:{seq}"

/-- Publish a message, or keep it for the commit of a transaction. -/
def sendThrough (s : SessionId) (d : Destination) (m : Message) (w : Provider) : Outcome Unit :=
  check (w.openSession s) w fun (session, connection) =>
    if session.mode = .transacted then
      (.ok (), w.updateSession s fun session =>
        { session with buffered := session.buffered ++ [(d, m)] })
    else w.publish connection.broker d m session.connection

/-- What a send answers: how it went, and the message of the caller with its headers. -/
structure Sent where
  result : Except Error Unit
  message : Message

def checkSend (producer : Producer) (requested : Option Destination) (q : Quality) :
    Except Error Destination := do
  let d ← resolve producer.destination requested
  if producer.closed then throw (.closed .producer)
  checkPriority q.priority
  checkTimeToLive q.timeToLive
  return d

def prepare (p : ProducerId) (requested : Option Destination) (q : Quality) (m : Message)
    (w : Provider) : Except Error (Producer × Destination × Message) :=
  match w.producers[p]? with
  | none => .error (.closed .producer)
  | some producer =>
    match checkSend producer requested q, w.sessions[producer.session]?,
        w.connectionOf producer.session with
    | .error e, _, _ => .error e
    | .ok d, some session, some connection =>
      let id := messageId connection.label session.number producer.number producer.nextSeq
      .ok (producer, d, stamp d q producer.config w.now id m)
    | .ok _, _, _ => .error (.closed .session)

def countSend (p : ProducerId) (producer : Producer) (w : Provider) : Provider :=
  if producer.config.disableMessageId then w
  else w.updateProducer p ({ · with nextSeq := producer.nextSeq + 1 })

def send (p : ProducerId) (requested : Option Destination) (q : Quality) (m : Message)
    (w : Provider) : Sent × Provider :=
  match w.prepare p requested q m with
  | .error e => (⟨.error e, m⟩, w)
  | .ok (producer, d, m) =>
    let (result, w) := (w.countSend p producer).sendThrough producer.session d m
    (⟨result, m⟩, w)

end Provider

end Messaging
