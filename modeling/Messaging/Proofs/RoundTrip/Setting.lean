import Messaging.Proofs.Broker
import Messaging.Proofs.Provider.Parts
import Messaging.RoundTrip.Run

/-!
# The provider during a round trip

A round trip has one connection with a session that sends and a session that receives, and one store
between them.  All of the provider but the store, the transaction, the producer and the browser stays
the same from the start of the connection to its end, and each operation changes one of these.
-/

namespace Messaging.RoundTrip

open Provider

structure Setting where
  clock : Int64
  labels : Nat
  running : List (String × BrokerId)
  broker : Broker
  connection : Connection
  destination : Destination
  transacted : Bool
  deriving DecidableEq, Repr

structure Progress where
  store : Store := {}
  buffered : List (Destination × Message) := []
  producers : List Producer := []
  browsers : List Browser := []
  deriving DecidableEq, Repr

namespace Setting

def sender (x : Setting) (s : Progress) : Session :=
  { connection := 0, number := 1, mode := if x.transacted then .transacted else .auto,
    buffered := s.buffered, nextProducer := s.producers.length + 1 }

def receiver : Session := { connection := 0, number := 2, mode := .auto }

def consumer (x : Setting) : Consumer :=
  { session := 1, destination := x.destination,
    source := if x.destination.isQueue then .queue else .topic false, store := 0, selector := none }

def producer (x : Setting) (k : Nat) : Producer :=
  { session := 0, number := 1, destination := some x.destination, nextSeq := k }

def world (x : Setting) (s : Progress) : Provider :=
  { clock := x.clock, labels := x.labels, running := x.running, brokers := [x.broker],
    stores := [s.store], connections := [x.connection], sessions := [x.sender s, receiver],
    producers := s.producers, consumers := [x.consumer], browsers := s.browsers }

/-- The connection is started, and what is sent to the destination goes to the one store. -/
structure Sound (x : Setting) : Prop where
  started : x.connection.state = .started
  broker : x.connection.broker = 0
  lasting : x.destination.isTemporary = false
  queue : x.destination.isQueue = true → x.broker.queue? x.destination = some 0
  topic : x.destination.isQueue = false → ∀ m, x.broker.targets x.destination m 0 = [0]

variable {x : Setting} {s : Progress}

theorem openConnection_world (hx : x.Sound) (s : Progress) :
    (x.world s).openConnection 0 = .ok x.connection :=
  openConnection_eq_ok.mpr ⟨rfl, by simp [hx.started]⟩

theorem openSession_sender (hx : x.Sound) (s : Progress) :
    (x.world s).openSession 0 = .ok (x.sender s, x.connection) :=
  openSession_eq_ok.mpr ⟨rfl, rfl, openConnection_world hx s⟩

theorem openSession_receiver (hx : x.Sound) (s : Progress) :
    (x.world s).openSession 1 = .ok (receiver, x.connection) :=
  openSession_eq_ok.mpr ⟨rfl, rfl, openConnection_world hx s⟩

theorem updateStore_world (f : Store → Store) :
    (x.world s).updateStore 0 f = x.world { s with store := f s.store } := rfl

theorem publish_world (hx : x.Sound) (m : Message) :
    (x.world s).publish 0 x.destination m 0 =
      (.ok (), x.world { s with store := s.store.push (sealed m) 0 }) := by
  have hlive : x.broker.isLive x.destination = true := by simp [Broker.isLive, hx.lasting]
  have hbroker : (x.world s).brokerAt 0 = x.broker := rfl
  cases hqueue : x.destination.isQueue with
  | true =>
      simp [publish, queueStore, hbroker, hlive, hqueue, hx.queue hqueue, pushAll,
        updateStore_world]
  | false =>
      simp [publish, hbroker, hlive, hqueue, hx.topic hqueue, pushAll, updateStore_world]

/-! ## Sending -/

theorem createProducer_world (hx : x.Sound) (hs : s.producers = []) :
    (x.world s).createProducer 0 (some x.destination) =
      (.ok 0, x.world { s with producers := [x.producer 1] }) := by
  unfold createProducer
  rw [openSession_sender hx, check]
  simp [world, sender, producer, hs, updateSession]

def stamped (x : Setting) (k : Nat) (m : Message) : Message :=
  stamp x.destination ({} : ProducerConfig).quality {} (x.world {}).now
    (messageId x.connection.label 1 1 k) m

theorem prepare_world (k : Nat) (hs : s.producers = [x.producer k]) (m : Message) :
    (x.world s).prepare 0 none ({} : ProducerConfig).quality m =
      .ok (x.producer k, x.destination, x.stamped k m) := by
  have hcheck : checkSend (x.producer k) none ({} : ProducerConfig).quality = .ok x.destination :=
    rfl
  have hproducer : (x.world s).producers[0]? = some (x.producer k) := by simp [world, hs]
  rw [prepare, hproducer]
  simp only [hcheck]
  rfl

theorem countSend_world (k : Nat) (hs : s.producers = [x.producer k]) :
    (x.world s).countSend 0 (x.producer k) =
      x.world { s with producers := [x.producer (k + 1)] } := by
  simp [countSend, updateProducer, producer, world, sender, hs]

theorem sendThrough_world (hx : x.Sound) (m : Message) :
    (x.world s).sendThrough 0 x.destination m =
      (.ok (), x.world { s with
        store := if x.transacted then s.store else s.store.push (sealed m) 0
        buffered := if x.transacted then s.buffered ++ [(x.destination, m)] else s.buffered }) := by
  rw [sendThrough, openSession_sender hx, check]
  cases htransacted : x.transacted with
  | true => simp [sender, htransacted, updateSession, world]
  | false =>
      have hpublish := publish_world (s := s) hx m
      simpa [sender, htransacted, hx.broker] using hpublish

theorem send_world (hx : x.Sound) (k : Nat) (hs : s.producers = [x.producer k]) (m : Message) :
    (x.world s).send 0 none ((x.world s).qualityOf 0 none) m =
      (⟨.ok (), x.stamped k m⟩, x.world { s with
        store := if x.transacted then s.store else s.store.push (sealed (x.stamped k m)) 0
        buffered :=
          if x.transacted then s.buffered ++ [(x.destination, x.stamped k m)] else s.buffered
        producers := [x.producer (k + 1)] }) := by
  have hconfig : (x.world s).configOf 0 = {} := by simp [configOf, world, hs, producer]
  have hsession : (x.producer k).session = 0 := rfl
  rw [send, qualityOf, Option.getD_none, hconfig, prepare_world k hs]
  simp only [hsession, countSend_world k hs, sendThrough_world hx]

theorem publishAll_world (hx : x.Sound) (ms : List Message) :
    (x.world s).publishAll 0 0 (ms.map (x.destination, ·)) =
      (.ok (), x.world { s with
        store := ms.foldl (fun store m => store.push (sealed m) 0) s.store }) := by
  induction ms generalizing s with
  | nil => rfl
  | cons m ms ih => simp only [List.map_cons, publishAll, publish_world hx, ih, List.foldl_cons]

theorem commit_world (hx : x.Sound) (htransacted : x.transacted = true) (ms : List Message)
    (hs : s.buffered = ms.map (x.destination, ·)) :
    (x.world s).commit 0 =
      (.ok (), x.world { s with
        buffered := []
        store := ms.foldl (fun store m => store.push (sealed m) 0) s.store }) := by
  have htransaction : (x.world s).openTransaction 0 = .ok (x.sender s, x.connection) :=
    openTransaction_eq_ok.mpr ⟨openSession_sender hx s, by simp [sender, htransacted]⟩
  have hforget : (x.world s).updateSession 0 ({ · with buffered := [], delivered := [] }) =
      x.world { s with buffered := [] } := rfl
  rw [commit, htransaction, check]
  simp only [sender, hs, hforget, hx.broker]
  exact publishAll_world hx ms

/-! ## Taking -/

theorem isExpired_of_expiration {m : Message} (h : m.headers.expiration = 0) (now : Int64) :
    m.isExpired now = false := by
  simp [Message.isExpired, h]

section Taking

variable (hlasting : ∀ e ∈ s.store.pending, e.message.headers.expiration = 0)
include hlasting

theorem purge_world : ((x.world s).storeAt 0).purge (x.world s).now = s.store :=
  Store.purge_eq_self fun e he => isExpired_of_expiration (hlasting e he) _

theorem takeFrom_world {e : Envelope} {rest : List Envelope} (hs : s.store.pending = e :: rest) :
    (x.world s).takeFrom 0 none =
      (some e, x.world { s with store := { s.store with pending := rest } }) := by
  have htake : s.store.take none = some (e, { s.store with pending := rest }) := by
    simp [Store.take, hs, Selector.admits]
  simp only [takeFrom, purge_world hlasting, htake, updateStore_world]

theorem takeNext_world {e : Envelope} {rest : List Envelope} (hs : s.store.pending = e :: rest) :
    (x.world s).takeNext x.consumer =
      (some e.message, x.world { s with store := { s.store with pending := rest } }) := by
  have hsession : (x.world s).sessions[x.consumer.session]? = some receiver := rfl
  have hfilter : x.consumer.filter = none := by
    unfold Consumer.filter consumer
    cases x.destination.isQueue <;> rfl
  have htake : (x.world s).takeFrom x.consumer.store none =
      (some e, x.world { s with store := { s.store with pending := rest } }) :=
    takeFrom_world hlasting hs
  rw [takeNext, hsession, hfilter, htake]
  rfl

theorem receive_world (hx : x.Sound) {e : Envelope} {rest : List Envelope}
    (hs : s.store.pending = e :: rest) :
    (x.world s).receiveBriefly 0 =
      (.ok (some e.message), x.world { s with store := { s.store with pending := rest } }) := by
  have hconsumer : (x.world s).consumers[0]? = some x.consumer := rfl
  have hclosed : x.consumer.closed = false := rfl
  have hopen : (x.world s).isOpen x.consumer.session = true := by
    have hsession : (x.world s).openSession x.consumer.session = .ok (receiver, x.connection) :=
      openSession_receiver hx s
    rw [isOpen, hsession]
    rfl
  have hstarted : (x.world s).isStarted x.consumer.session = true :=
    isStarted_iff.mpr ⟨_, rfl, hx.started⟩
  simp [receiveBriefly, receive, poll, hconsumer, hclosed, hopen, hstarted,
    takeNext_world hlasting hs]

def browser (x : Setting) (seen : List Nat) : Browser := ⟨1, x.destination, 0, none, seen, false⟩

omit hlasting in
theorem openBrowser_world (hx : x.Sound) {seen : List Nat} (hs : s.browsers = [x.browser seen]) :
    (x.world s).openBrowser 0 = .ok (x.browser seen) := by
  have hget : (x.world s).browsers[0]? = some (x.browser seen) := by simp [world, hs]
  have hclosed : (x.browser seen).closed = false := rfl
  have hsession : (x.world s).openSession (x.browser seen).session =
      .ok (receiver, x.connection) := openSession_receiver hx s
  rw [openBrowser, hget]
  simp [hclosed, hsession, Except.map]

theorem peek_world (seen : List Nat) :
    (x.world s).peek (x.browser seen) = (s.store.findUnseen none seen, x.world s) := by
  have hpurge : ((x.world s).storeAt (x.browser seen).store).purge (x.world s).now = s.store :=
    purge_world hlasting
  simp only [peek, hpurge]
  rfl

theorem browseNext_world (hx : x.Sound) {seen : List Nat} (hs : s.browsers = [x.browser seen])
    {e : Envelope} (he : s.store.findUnseen none seen = some e) :
    (x.world s).browseNext 0 =
      (.ok (some e.message), x.world { s with browsers := [x.browser (e.seq :: seen)] }) := by
  rw [browseNext, openBrowser_world hx hs, check, peek_world hlasting, he]
  simp [world, hs, updateBrowser, browser, sender]

theorem browseNext_world_of_none (hx : x.Sound) {seen : List Nat}
    (hs : s.browsers = [x.browser seen]) (he : s.store.findUnseen none seen = none) :
    (x.world s).browseNext 0 = (.ok none, x.world s) := by
  rw [browseNext, openBrowser_world hx hs, check, peek_world hlasting, he]

end Taking

theorem createBrowser_world (hx : x.Sound) (hqueue : x.destination.isQueue = true)
    (hs : s.browsers = []) :
    (x.world s).createBrowser 1 x.destination none =
      (.ok 0, x.world { s with browsers := [x.browser []] }) := by
  have hconsumable : x.broker.checkConsumable x.destination 0 = .ok () := by
    simp [Broker.checkConsumable, hx.lasting]
  have hbroker : (x.world s).brokerAt 0 = x.broker := rfl
  rw [createBrowser, openSession_receiver hx]
  simp only [check, Selector.parseOptional, hqueue, receiver, hx.broker, hbroker, hconsumable,
    queueStore, hx.queue hqueue]
  simp [world, sender, browser, hs]

end Setting

end Messaging.RoundTrip
