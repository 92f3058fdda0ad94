import Messaging.Proofs.Provider.Parts
import Messaging.Proofs.Run.Operation

/-!
# What happens to messages

The log of a run says, in order, what became of messages: which were posted to a store, handed
out, put back and settled, which sends a transaction keeps, and when a transaction ends.  It also
says when a durable subscription gets a consumer and when it is removed.
-/

namespace Messaging

/-- Why a message of a store needs no further attention. -/
inductive Cause where
  | received (s : SessionId)
  | acknowledged (s : SessionId)
  | committed (s : SessionId)
  | expired
  deriving DecidableEq, Repr

inductive Event where
  | posted (s : StoreId) (m : Message) (origin : ConnectionId)
  | handedOut (x : Consumer) (e : Envelope)
  | putBack (s : SessionId) (d : Delivery)
  | settled (s : StoreId) (seq : Nat) (cause : Cause)
  /-- A transaction keeps a send for its commit. -/
  | kept (s : SessionId) (d : Destination) (m : Message)
  /-- From now on a session keeps none of its earlier sends. -/
  | ended (s : SessionId)
  | attached (b : BrokerId) (key : DurableKey)
  | removed (b : BrokerId) (key : DurableKey)
  deriving DecidableEq, Repr

def Event.ofDelivery : Event → Bool
  | .handedOut .. | .putBack .. | .settled .. => true
  | _ => false

structure Publication where
  broker : BrokerId
  destination : Destination
  message : Message
  origin : ConnectionId
  deriving DecidableEq, Repr

/-- The stores that a publication goes to: that of its queue, or those of the subscriptions. -/
def Broker.routes (p : Publication) (b : Broker) : List StoreId :=
  if !b.isLive p.destination then []
  else if p.destination.isQueue then (b.queue? p.destination).toList
  else b.targets p.destination p.message p.origin

structure Submission where
  session : SessionId
  destination : Destination
  message : Message
  deriving DecidableEq, Repr

namespace Provider

/-! ## Publishing -/

def submission (op : Operation) (w : Provider) : Option Submission :=
  match op with
  | .send p requested q m =>
      match w.prepare p requested (w.qualityOf p q) m with
      | .ok (producer, d, m) =>
          if w.isOpen producer.session then some ⟨producer.session, d, m⟩ else none
      | .error _ => none
  | _ => none

def isTransacted (s : SessionId) (w : Provider) : Bool :=
  w.sessions[s]?.any (·.mode == .transacted)

def publications (s : SessionId) (sends : List (Destination × Message)) (w : Provider) :
    List Publication :=
  match w.openSession s with
  | .ok (session, connection) =>
      sends.map fun (d, m) => ⟨connection.broker, d, sealed m, session.connection⟩
  | .error _ => []

def published (op : Operation) (w : Provider) : List Publication :=
  match op with
  | .send .. =>
      match w.submission op with
      | some x =>
          if w.isTransacted x.session then []
          else w.publications x.session [(x.destination, x.message)]
      | none => []
  | .commit s =>
      match w.openTransaction s with
      | .ok (session, _) => w.publications s session.buffered
      | .error _ => []
  | _ => []

/-- A queue has its store once the operation is over, also if the message is its first. -/
def posts [Labels] (op : Operation) (w : Provider) : List Event :=
  (w.published op).flatMap fun p =>
    (((w.step op).brokerAt p.broker).routes p).map fun s => .posted s p.message p.origin

/-! ## Reading -/

/-- The expired messages of a store, which any reading of it drops. -/
def expirations (s : StoreId) (w : Provider) : List Event :=
  ((w.storeAt s).pending.filter (·.message.isExpired w.now)).map fun e =>
    .settled s e.seq .expired

def receipt (x : Consumer) (session : Session) (e : Envelope) : List Event :=
  .handedOut x e ::
    if session.mode.isTracked then [] else [.settled x.store e.seq (.received x.session)]

def taking (x : Consumer) (w : Provider) : List Event :=
  match w.sessions[x.session]? with
  | none => []
  | some session =>
      w.expirations x.store ++
        match ((w.storeAt x.store).purge w.now).take x.filter with
        | none => []
        | some (e, _) => receipt x session e

def receiving (c : ConsumerId) (w : Provider) : List Event :=
  match w.consumers[c]? with
  | none => []
  | some x => if !x.closed && w.isStarted x.session then w.taking x else []

def browsing (b : BrowserId) (w : Provider) : List Event :=
  match w.openBrowser b with
  | .ok browser => w.expirations browser.store
  | .error _ => []

/-! ## Settling -/

def covers (mode : AckMode) (tag : Nat) (d : Delivery) : Bool :=
  match mode with
  | .client => true
  | .individual => d.tag == tag
  | .auto | .dupsOk | .transacted => false

def acknowledging (m : Message) (w : Provider) : List Event :=
  match m.ack with
  | none => []
  | some token =>
      match w.openSession token.session with
      | .ok (session, _) =>
          (session.delivered.filter (covers session.mode token.tag)).map fun d =>
            .settled d.store d.envelope.seq (.acknowledged token.session)
      | .error _ => []

def committing (s : SessionId) (session : Session) : List Event :=
  session.delivered.map (fun d => .settled d.store d.envelope.seq (.committed s)) ++ [.ended s]

def returning (s : SessionId) (session : Session) : List Event :=
  session.delivered.reverse.map (.putBack s)

def closing (s : SessionId) (w : Provider) : List Event :=
  match w.sessions[s]? with
  | none => []
  | some session => if session.closed then [] else returning s session ++ [.ended s]

/-! ## The log -/

def events [Labels] (op : Operation) (w : Provider) : List Event :=
  match op with
  | .send .. =>
      match w.submission op with
      | some x =>
          if w.isTransacted x.session then [.kept x.session x.destination x.message]
          else w.posts op
      | none => []
  | .receiveNow c | .receive c | .poll c => w.receiving c
  | .hasMore b | .browseNext b => w.browsing b
  | .acknowledge m => w.acknowledging m
  | .commit s =>
      match w.openTransaction s with
      | .ok (session, _) => committing s session ++ w.posts op
      | .error _ => []
  | .rollback s =>
      match w.openTransaction s with
      | .ok (session, _) => .ended s :: returning s session
      | .error _ => []
  | .recover s =>
      match w.openSession s with
      | .ok (session, _) => if session.mode = .transacted then [] else returning s session
      | .error _ => []
  | .closeSession s => w.closing s
  | .closeConnection c =>
      if (w.openConnection c).isOk then (w.sessionsOf c).flatMap fun s => w.closing s else []
  | .createDurableConsumer s topic name selector noLocal =>
      match w.openSession s, (w.createDurableConsumer s topic name selector noLocal).1 with
      | .ok (_, connection), .ok _ => [.attached connection.broker ⟨connection.clientId, name⟩]
      | _, _ => []
  | .unsubscribe s name =>
      match w.openSession s, (w.unsubscribe s name).1 with
      | .ok (_, connection), .ok _ => [.removed connection.broker ⟨connection.clientId, name⟩]
      | _, _ => []
  | _ => []

theorem mem_receiving {c : ConsumerId} {w : Provider} {e : Event} (h : e ∈ w.receiving c) :
    ∃ x session, w.consumers[c]? = some x ∧ x.closed = false ∧ w.isStarted x.session = true ∧
      w.sessions[x.session]? = some session ∧
      (e ∈ w.expirations x.store ∨
        ∃ v rest, ((w.storeAt x.store).purge w.now).take x.filter = some (v, rest) ∧
          e ∈ receipt x session v) := by
  unfold receiving at h
  cases hx : w.consumers[c]? with
  | none => simp [hx] at h
  | some x =>
      simp only [hx] at h
      split at h
      next hready =>
        obtain ⟨hopen, hstarted⟩ : x.closed = false ∧ w.isStarted x.session = true := by
          simpa using hready
        unfold taking at h
        cases hs : w.sessions[x.session]? with
        | none => simp [hs] at h
        | some session =>
            simp only [hs] at h
            refine ⟨x, session, rfl, hopen, hstarted, hs, (List.mem_append.mp h).imp_right ?_⟩
            intro h
            split at h
            next => simp at h
            next v rest htake => exact ⟨v, rest, htake, h⟩
      next => simp at h

theorem ofDelivery_expirations {s : StoreId} {w : Provider} {e : Event}
    (h : e ∈ w.expirations s) : e.ofDelivery = true := by
  obtain ⟨v, -, rfl⟩ := List.mem_map.mp h
  rfl

theorem ofDelivery_receiving {c : ConsumerId} {w : Provider} {e : Event}
    (h : e ∈ w.receiving c) : e.ofDelivery = true := by
  obtain ⟨x, session, -, -, -, -, h | ⟨v, rest, -, h⟩⟩ := mem_receiving h
  · exact ofDelivery_expirations h
  · unfold receipt at h
    rcases List.mem_cons.mp h with rfl | h
    · rfl
    · split at h
      next => simp at h
      next =>
        rw [List.mem_singleton.mp h]
        rfl

theorem ofDelivery_browsing {b : BrowserId} {w : Provider} {e : Event}
    (h : e ∈ w.browsing b) : e.ofDelivery = true := by
  unfold browsing at h
  split at h
  next => exact ofDelivery_expirations h
  next => simp at h

theorem ofDelivery_acknowledging {m : Message} {w : Provider} {e : Event}
    (h : e ∈ w.acknowledging m) : e.ofDelivery = true := by
  unfold acknowledging at h
  split at h
  next => simp at h
  next =>
    split at h
    next =>
      obtain ⟨d, -, rfl⟩ := List.mem_map.mp h
      rfl
    next => simp at h

theorem ofDelivery_returning {s : SessionId} {session : Session} {e : Event}
    (h : e ∈ returning s session) : e.ofDelivery = true := by
  obtain ⟨d, -, rfl⟩ := List.mem_map.mp h
  rfl

variable [Labels]

inductive Occurs (op : Operation) (w : Provider) (e : Event) : Prop where
  | kept (x : Submission) (hx : w.submission op = some x)
      (htransacted : w.isTransacted x.session = true)
      (he : e = .kept x.session x.destination x.message)
  | posted (h : e ∈ w.posts op)
  | received (c : ConsumerId) (hop : op.consumer? = some c) (h : e ∈ w.receiving c)
      (hkind : e.ofDelivery = true)
  | browsed (b : BrowserId) (hop : op.browser? = some b) (h : e ∈ w.browsing b)
      (hkind : e.ofDelivery = true)
  | acknowledged (m : Message) (hop : op = .acknowledge m) (h : e ∈ w.acknowledging m)
      (hkind : e.ofDelivery = true)
  | committed (s : SessionId) (session : Session) (connection : Connection) (hop : op = .commit s)
      (hopen : w.openTransaction s = .ok (session, connection)) (h : e ∈ committing s session)
  | rolledBack (s : SessionId) (hop : op = .rollback s) (hopen : (w.openTransaction s).isOk = true)
      (he : e = .ended s)
  | closed (s : SessionId) (he : e = .ended s)
      (hop : op = .closeSession s ∨
        ∃ c, op = .closeConnection c ∧ w.sessions[s]?.any (·.connection == c) = true)
      (hopen : w.sessions[s]?.any (!·.closed) = true)
  | returned (s : SessionId) (session : Session) (hs : w.sessions[s]? = some session)
      (h : e ∈ returning s session) (hkind : e.ofDelivery = true)
  | attached (b : BrokerId) (key : DurableKey) (he : e = .attached b key)
      (h : ∃ s topic name text noLocal session connection,
        op = .createDurableConsumer s topic name text noLocal ∧
        w.openSession s = .ok (session, connection) ∧
        (w.createDurableConsumer s topic name text noLocal).1.isOk = true ∧
        b = connection.broker ∧ key = ⟨connection.clientId, name⟩)
  | removed (b : BrokerId) (key : DurableKey) (he : e = .removed b key)
      (h : ∃ s name session connection, op = .unsubscribe s name ∧
        w.openSession s = .ok (session, connection) ∧ (w.unsubscribe s name).1.isOk = true ∧
        b = connection.broker ∧ key = ⟨connection.clientId, name⟩)

private theorem occurs_of_closing {op : Operation} {w : Provider} {e : Event} {s : SessionId}
    (hop : op = .closeSession s ∨
      ∃ c, op = .closeConnection c ∧ w.sessions[s]?.any (·.connection == c) = true)
    (h : e ∈ w.closing s) : Occurs op w e := by
  unfold closing at h
  cases hs : w.sessions[s]? with
  | none => simp [hs] at h
  | some session =>
      simp only [hs] at h
      split at h
      next => simp at h
      next hclosed =>
        rcases List.mem_append.mp h with h | h
        · exact .returned s session hs h (ofDelivery_returning h)
        · exact .closed s (List.mem_singleton.mp h) hop (by simp [hs, hclosed])

theorem mem_events {op : Operation} {w : Provider} {e : Event} (h : e ∈ w.events op) :
    Occurs op w e := by
  cases op with
  | send p requested q m =>
      simp only [events] at h
      cases hx : w.submission (.send p requested q m) with
      | none => simp [hx] at h
      | some x =>
          simp only [hx] at h
          split at h
          next htransacted => exact .kept x hx htransacted (List.mem_singleton.mp h)
          next => exact .posted h
  | receiveNow c | receive c | poll c => exact .received c rfl h (ofDelivery_receiving h)
  | hasMore b | browseNext b => exact .browsed b rfl h (ofDelivery_browsing h)
  | acknowledge m => exact .acknowledged m rfl h (ofDelivery_acknowledging h)
  | commit s =>
      simp only [events] at h
      cases hopen : w.openTransaction s with
      | error _ => simp [hopen] at h
      | ok x =>
          obtain ⟨session, connection⟩ := x
          simp only [hopen] at h
          rcases List.mem_append.mp h with h | h
          · exact .committed s session connection rfl hopen h
          · exact .posted h
  | rollback s =>
      simp only [events] at h
      cases hopen : w.openTransaction s with
      | error _ => simp [hopen] at h
      | ok x =>
          obtain ⟨session, connection⟩ := x
          simp only [hopen] at h
          rcases List.mem_cons.mp h with h | h
          · exact .rolledBack s rfl (by rw [hopen]; rfl) h
          · have hs := (openSession_eq_ok.mp (openTransaction_eq_ok.mp hopen).1).1
            exact .returned s session hs h (ofDelivery_returning h)
  | recover s =>
      simp only [events] at h
      cases hopen : w.openSession s with
      | error _ => simp [hopen] at h
      | ok x =>
          obtain ⟨session, connection⟩ := x
          simp only [hopen] at h
          split at h
          next => simp at h
          next => exact .returned s session (openSession_eq_ok.mp hopen).1 h (ofDelivery_returning h)
  | closeSession s => exact occurs_of_closing (.inl rfl) h
  | closeConnection c =>
      simp only [events] at h
      split at h
      next =>
        obtain ⟨s, hs, h⟩ := List.mem_flatMap.mp h
        exact occurs_of_closing (.inr ⟨c, rfl, (List.mem_filter.mp hs).2⟩) h
      next => simp at h
  | createDurableConsumer s topic name selector noLocal =>
      simp only [events] at h
      split at h
      next session connection c hopen hok =>
        refine .attached _ _ (List.mem_singleton.mp h)
          ⟨s, topic, name, selector, noLocal, session, connection, rfl, hopen, ?_, rfl, rfl⟩
        rw [hok]
        rfl
      next => simp at h
  | unsubscribe s name =>
      simp only [events] at h
      split at h
      next session connection _ hopen hok =>
        refine .removed _ _ (List.mem_singleton.mp h)
          ⟨s, name, session, connection, rfl, hopen, ?_, rfl, rfl⟩
        rw [hok]
        rfl
      next => simp at h
  | _ => simp [events] at h

def log (ops : List Operation) (w : Provider) : List Event :=
  (w.trace ops).flatMap fun x => x.before.events x.operation

theorem log_append (first second : List Operation) (w : Provider) :
    w.log (first ++ second) = w.log first ++ (w.run first).log second := by
  simp [log, trace_append]

theorem log_concat (ops : List Operation) (op : Operation) (w : Provider) :
    w.log (ops ++ [op]) = w.log ops ++ (w.run ops).events op := by
  simp [log, trace_concat]

end Provider

end Messaging
