import Messaging.Proofs.Broker
import Messaging.Proofs.Provider.Parts
import Messaging.Proofs.Run.Move

/-!
# Coherent providers

Whatever a provider refers to is there, and what is closed took down all that was made from it.
Every move keeps both.
-/

namespace Messaging

structure Session.Sound (x : Session) : Prop where
  delivered : x.closed = true → x.delivered = []
  buffered : x.closed = true → x.buffered = []
  tracked : x.delivered ≠ [] → x.mode.isTracked = true
  transacted : x.buffered ≠ [] → x.mode = .transacted

namespace Provider

/-- All that is referred to is there. -/
structure Grounded (w : Provider) : Prop where
  running : ∀ x ∈ w.running, x.2 < w.brokers.length
  connections : ∀ x ∈ w.connections, x.broker < w.brokers.length
  sessions : ∀ x ∈ w.sessions, x.connection < w.connections.length
  consumers : ∀ x ∈ w.consumers, x.session < w.sessions.length
  queues : ∀ b ∈ w.brokers, ∀ q ∈ b.queues, q.2 < w.stores.length
  attached : ∀ b ∈ w.brokers, ∀ x ∈ b.attached, x.store < w.stores.length
  durables : ∀ b ∈ w.brokers, ∀ d ∈ b.durables, d.store < w.stores.length
  consumed : ∀ x ∈ w.consumers, x.store < w.stores.length
  delivered : ∀ x ∈ w.sessions, ∀ d ∈ x.delivered, d.store < w.stores.length

/-- What is open was made from what is open. -/
structure Cascading (w : Provider) : Prop where
  consumers : ∀ x ∈ w.consumers, x.closed = false →
    ∃ y, w.sessions[x.session]? = some y ∧ y.closed = false
  sessions : ∀ x ∈ w.sessions, x.closed = false →
    ∃ y, w.connections[x.connection]? = some y ∧ y.state ≠ .closed
  sound : ∀ x ∈ w.sessions, x.Sound

structure Coherent (w : Provider) : Prop where
  grounded : w.Grounded
  cascading : w.Cascading

/-! ## Consumers -/

/-- Closing a consumer touches one broker, and there at most the subscription of the consumer. -/
theorem releaseSource_eq (x : Consumer) (w : Provider) :
    ∃ b f, w.releaseSource x = w.updateBroker b f ∧
      (f = id ∨ f = (·.detach x.store) ∨ ∃ key, f = (·.deactivate key)) := by
  unfold releaseSource
  cases w.connectionOf x.session with
  | none => exact ⟨0, id, by simp [updateBroker], .inl rfl⟩
  | some y =>
      cases x.source with
      | queue => exact ⟨0, id, by simp [updateBroker], .inl rfl⟩
      | topic => exact ⟨y.broker, _, rfl, .inr (.inl rfl)⟩
      | durable key => exact ⟨y.broker, _, rfl, .inr (.inr ⟨key, rfl⟩)⟩

theorem releaseSource_frame (c : ConsumerId) (x : Consumer) (w : Provider) :
    ∃ brokers, (w.updateConsumer c ({ · with closed := true })).releaseSource x =
      { w with brokers, consumers := w.consumers.modify c ({ · with closed := true }) } := by
  obtain ⟨b, f, heq, -⟩ := releaseSource_eq x (w.updateConsumer c ({ · with closed := true }))
  exact ⟨_, heq⟩

/-! ## References -/

theorem Grounded.updateBroker {w : Provider} (hw : w.Grounded) (b : BrokerId)
    (f : Broker → Broker)
    (hqueues : ∀ x ∈ w.brokers, ∀ q ∈ (f x).queues, q.2 < w.stores.length)
    (hattached : ∀ x ∈ w.brokers, ∀ y ∈ (f x).attached, y.store < w.stores.length)
    (hdurables : ∀ x ∈ w.brokers, ∀ d ∈ (f x).durables, d.store < w.stores.length) :
    (w.updateBroker b f).Grounded := by
  obtain ⟨hrunning, hconnections, hsessions, hconsumers, hq, ha, hd, hconsumed, hdelivered⟩ := hw
  constructor <;> grind [Provider.updateBroker, mem_of_mem_modify]

theorem Grounded.updateSession {w : Provider} (hw : w.Grounded) (s : SessionId)
    (f : Session → Session)
    (hf : ∀ x ∈ w.sessions, (f x).connection = x.connection ∧
      ∀ d ∈ (f x).delivered, d.store < w.stores.length) : (w.updateSession s f).Grounded := by
  obtain ⟨hrunning, hconnections, hsessions, hconsumers, hq, ha, hd, hconsumed, hdelivered⟩ := hw
  constructor <;> grind [Provider.updateSession, mem_of_mem_modify]

theorem Grounded.updateConnection {w : Provider} (hw : w.Grounded) (c : ConnectionId)
    (f : Connection → Connection) (hf : ∀ x, w.connections[c]? = some x → (f x).broker = x.broker) :
    (w.updateConnection c f).Grounded := by
  obtain ⟨hrunning, hconnections, hsessions, hconsumers, hq, ha, hd, hconsumed, hdelivered⟩ := hw
  constructor <;> grind [Provider.updateConnection, mem_of_mem_modify]

theorem Grounded.updateStore {w : Provider} (hw : w.Grounded) (s : StoreId) (f : Store → Store) :
    (w.updateStore s f).Grounded := by
  obtain ⟨hrunning, hconnections, hsessions, hconsumers, hq, ha, hd, hconsumed, hdelivered⟩ := hw
  constructor <;> grind [Provider.updateStore]

theorem Grounded.addStore {w : Provider} (hw : w.Grounded) : w.addStore.2.Grounded := by
  obtain ⟨hrunning, hconnections, hsessions, hconsumers, hq, ha, hd, hconsumed, hdelivered⟩ := hw
  constructor <;> grind [Provider.addStore]

theorem Grounded.addConsumer {w : Provider} (hw : w.Grounded) {x : Consumer}
    (hsession : x.session < w.sessions.length) (hstore : x.store < w.stores.length) :
    (w.addConsumer x).2.Grounded := by
  obtain ⟨hrunning, hconnections, hsessions, hconsumers, hq, ha, hd, hconsumed, hdelivered⟩ := hw
  constructor <;> grind [Provider.addConsumer]

theorem Grounded.closeConsumer {w : Provider} (hw : w.Grounded) (c : ConsumerId) (x : Consumer) :
    ((w.updateConsumer c ({ · with closed := true })).releaseSource x).Grounded := by
  have hclosed : (w.updateConsumer c ({ · with closed := true })).Grounded := by
    obtain ⟨hrunning, hconnections, hsessions, hconsumers, hq, ha, hd, hconsumed, hdelivered⟩ := hw
    constructor <;> grind [Provider.updateConsumer, mem_of_mem_modify]
  obtain ⟨b, f, heq, hf⟩ := releaseSource_eq x (w.updateConsumer c ({ · with closed := true }))
  rw [heq]
  rcases hf with rfl | rfl | ⟨key, rfl⟩
  · exact hclosed.updateBroker _ _ hclosed.queues hclosed.attached hclosed.durables
  · refine hclosed.updateBroker _ _ hclosed.queues ?_ hclosed.durables
    intro y hy z hz
    exact hclosed.attached y hy z (List.mem_filter.mp hz).1
  · refine hclosed.updateBroker _ _ ?_ ?_ ?_
    · simpa using hclosed.queues
    · intro y hy z hz
      rcases Broker.mem_attached_deactivate hz with h | ⟨d, hd, rfl⟩
      · exact hclosed.attached y hy z h
      · exact hclosed.durables y hy d hd
    · intro y hy d hd
      rcases Broker.mem_durables_deactivate hd with h | ⟨d', hd', rfl⟩
      · exact hclosed.durables y hy d h
      · exact hclosed.durables y hy d' hd'

theorem Grounded.durableStore {w next : Provider} (hw : w.Grounded) {b : BrokerId}
    {key : DurableKey} {topic : Destination} {selector : Option Selector} {store : StoreId}
    (h : w.durableStore b key topic selector = (.ok store, next)) :
    next.Grounded ∧ store < next.stores.length ∧ next.sessions = w.sessions := by
  rcases durableStore_eq_ok h with ⟨rfl, rfl, -⟩ | ⟨rfl, d, hd, -, -, -, rfl⟩
  · exact ⟨hw.addStore, by simp [Provider.addStore], rfl⟩
  · refine ⟨hw, ?_, rfl⟩
    exact hw.durables _ (brokerAt_mem (lt_of_durable? hd)) d (Broker.durable?_mem hd).1

theorem Grounded.attach {w next : Provider} (hw : w.Grounded) {s : SessionId} {b : BrokerId}
    {key : DurableKey} {topic : Destination} {selector : Option Selector} {store : StoreId}
    (hs : s < w.sessions.length)
    (h : w.durableStore b key topic selector = (.ok store, next)) (noLocal : Bool)
    (localTo : Option ConnectionId) :
    ((next.updateBroker b (·.activate ⟨key, topic, selector, noLocal, store, true⟩
      localTo)).addConsumer ⟨s, topic, .durable key noLocal, store, selector, false⟩).2.Grounded := by
  obtain ⟨hnext, hstore, hsessions⟩ := hw.durableStore h
  refine Grounded.addConsumer ?_ (by simpa [Provider.updateBroker, hsessions] using hs) hstore
  refine hnext.updateBroker _ _ (by simpa using hnext.queues) ?_ ?_
  · intro y hy z hz
    rcases Broker.mem_attached_activate hz with h | rfl
    · exact hnext.attached y hy z h
    · exact hstore
  · intro y hy d hd
    rw [Broker.durables_activate] at hd
    rcases List.mem_cons.mp hd with rfl | hd
    · exact hstore
    · exact hnext.durables y hy d (List.mem_filter.mp hd).1

theorem Move.grounded [Labels] {w w' : Provider} {es : List Event} (h : Move w es w')
    (hw : w.Grounded) : w'.Grounded := by
  have hsessions : ∀ {s session connection}, w.openSession s = .ok (session, connection) →
      s < w.sessions.length := fun h =>
    (List.getElem?_eq_some_iff.mp (openSession_eq_ok.mp h).1).1
  cases h with
  | idle | shutdown | startBroker | connect =>
      obtain ⟨hrunning, hconnections, hsessions, hconsumers, hq, ha, hd, hconsumed, hdelivered⟩ := hw
      constructor <;> grind [Provider.updateBroker, mem_of_mem_modify, Broker.addClientId]
  | useConnection c x f hopen hf =>
      refine hw.updateConnection c f fun y hy => ?_
      rw [(openConnection_eq_ok.mp hopen).1] at hy
      cases hy
      exact hf.broker
  | setClientId c x id =>
      refine Grounded.updateConnection ?_ c _ fun _ _ => rfl
      exact hw.updateBroker _ _ hw.queues hw.attached hw.durables
  | openSession c x number mode hopen =>
      have hc := (List.getElem?_eq_some_iff.mp (openConnection_eq_ok.mp hopen).1).1
      obtain ⟨hrunning, hconnections, hsessions, hconsumers, hq, ha, hd, hconsumed, hdelivered⟩ := hw
      constructor <;> grind
  | addTemporary c x kind =>
      refine Grounded.updateBroker ?_ _ _ hw.queues hw.attached hw.durables
      exact hw.updateConnection c _ fun _ _ => rfl
  | numberProducer s n => exact hw.updateSession s _ fun x hx => ⟨rfl, hw.delivered x hx⟩
  | keep s => exact hw.updateSession s _ fun x hx => ⟨rfl, hw.delivered x hx⟩
  | addQueue b d =>
      refine hw.addStore.updateBroker _ _ ?_ hw.addStore.attached hw.addStore.durables
      intro y hy q hq
      rcases List.mem_cons.mp hq with rfl | hq
      · simp [Provider.addStore]
      · exact hw.addStore.queues y hy q hq
  | post s => exact hw.updateStore s _
  | consume s session connection d store selector hopen _ _ hstore =>
      refine hw.addConsumer (hsessions hopen) ?_
      exact hw.queues _ (brokerAt_mem (lt_of_queue? hstore)) _ (Broker.queue?_mem hstore)
  | subscribe s session connection d selector noLocal hopen =>
      refine Grounded.addConsumer ?_ (hsessions hopen) ?_
      · refine hw.addStore.updateBroker _ _ hw.addStore.queues ?_ hw.addStore.durables
        intro y hy z hz
        rcases List.mem_append.mp hz with hz | hz
        · exact hw.addStore.attached y hy z hz
        · rw [List.mem_singleton.mp hz]
          simp [Provider.addStore]
      · simp [Provider.subscribe, Provider.addStore, Provider.updateBroker]
  | attach s session connection topic name text selector noLocal store next hopen _ _ hstore =>
      exact hw.attach (hsessions hopen) hstore noLocal _
  | closeConsumer c x => exact hw.closeConsumer c x
  | purge s => exact hw.updateStore s _
  | handOut c x session connection e rest hx hopen hsession =>
      rw [deliver_of_open (openSession_eq_ok.mp hsession).2.1]
      split
      · refine (hw.updateStore x.store _).updateSession _ _ fun y hy => ⟨rfl, ?_⟩
        intro d hd
        rcases List.mem_append.mp hd with hd | hd
        · exact (hw.updateStore x.store _).delivered y hy d hd
        · rw [List.mem_singleton.mp hd]
          exact (hw.updateStore x.store _).consumed x (List.mem_of_getElem? hx)
      · exact hw.updateStore x.store _
  | acknowledge s session connection tag =>
      refine hw.updateSession s _ fun x hx => ⟨rfl, ?_⟩
      intro d hd
      exact hw.delivered x hx d (List.mem_filter.mp hd).1
  | commit s => exact hw.updateSession s _ fun x _ => ⟨rfl, by simp⟩
  | forget s => exact hw.updateSession s _ fun x hx => ⟨rfl, hw.delivered x hx⟩
  | giveBack s session older d hs hd =>
      unfold putBack
      refine Grounded.updateStore ?_ _ _
      refine hw.updateSession s _ fun x hx => ⟨rfl, fun d' hd' => ?_⟩
      refine hw.delivered session (List.mem_of_getElem? hs) d' ?_
      simp [hd, hd']
  | retireSession s => exact hw.updateSession s _ fun x hx => ⟨rfl, hw.delivered x hx⟩
  | retireConnection c x =>
      refine Grounded.updateBroker ?_ _ _ ?_ ?_ hw.durables
      · exact hw.updateConnection c _ fun _ _ => rfl
      · intro y hy q hq
        exact hw.queues y hy q (List.mem_filter.mp hq).1
      · intro y hy z hz
        exact hw.attached y hy z (List.mem_filter.mp hz).1
  | unsubscribe s session connection name d =>
      refine hw.updateBroker _ _ hw.queues ?_ ?_
      · intro y hy z hz
        exact hw.attached y hy z (List.mem_filter.mp hz).1
      · intro y hy z hz
        exact hw.durables y hy z (List.mem_filter.mp hz).1

/-! ## What is open -/

theorem Grounded.lt_of_openSession {w : Provider} (hw : w.Grounded) {s : SessionId}
    {session : Session} {connection : Connection}
    (hopen : w.openSession s = .ok (session, connection)) :
    connection.broker < w.brokers.length := by
  have hc := (openConnection_eq_ok.mp (openSession_eq_ok.mp hopen).2.2).1
  exact hw.connections connection (List.mem_of_getElem? hc)

theorem Cascading.updateSession {w : Provider} (hw : w.Cascading) (s : SessionId)
    (f : Session → Session)
    (hf : ∀ x, w.sessions[s]? = some x → (f x).connection = x.connection ∧
      (f x).closed = x.closed ∧ (x.Sound → (f x).Sound)) : (w.updateSession s f).Cascading := by
  obtain ⟨hconsumers, hsessions, hsound⟩ := hw
  constructor <;> grind [Provider.updateSession, mem_of_mem_modify]

theorem Cascading.of_le {w w' : Provider} (hw : w.Cascading)
    (hconsumers : ∀ x' ∈ w'.consumers, x'.closed = false →
      ∃ x ∈ w.consumers, x.session = x'.session ∧ x.closed = false)
    (hsessions : w'.sessions = w.sessions) (hconnections : w'.connections = w.connections) :
    w'.Cascading := by
  refine ⟨?_, ?_, ?_⟩
  · intro x' hx' hopen
    obtain ⟨x, hx, hsession, hclosed⟩ := hconsumers x' hx' hopen
    rw [hsessions, ← hsession]
    exact hw.consumers x hx hclosed
  · rw [hsessions, hconnections]
    exact hw.sessions
  · rw [hsessions]
    exact hw.sound

theorem Cascading.updateConnection {w : Provider} (hw : w.Cascading) (c : ConnectionId)
    (f : Connection → Connection)
    (hf : ∀ x, w.connections[c]? = some x → (f x).state ≠ .closed ∨
      ∀ y ∈ w.sessions, y.connection = c → y.closed = true) :
    (w.updateConnection c f).Cascading := by
  obtain ⟨hconsumers, hsessions, hsound⟩ := hw
  constructor <;> grind [Provider.updateConnection]

theorem Cascading.useConnection {w : Provider} (hw : w.Cascading) {c : ConnectionId}
    {x : Connection} (hopen : w.openConnection c = .ok x) (f : Connection → Connection)
    (hf : (f x).state ≠ .closed) : (w.updateConnection c f).Cascading := by
  refine hw.updateConnection c f fun y hy => .inl ?_
  rw [(openConnection_eq_ok.mp hopen).1] at hy
  cases hy
  exact hf

theorem Cascading.addConsumer {w : Provider} (hw : w.Cascading) {x : Consumer} {session : Session}
    {connection : Connection} (hopen : w.openSession x.session = .ok (session, connection)) :
    (w.addConsumer x).2.Cascading := by
  obtain ⟨hs, hclosed, -⟩ := openSession_eq_ok.mp hopen
  obtain ⟨hconsumers, hsessions, hsound⟩ := hw
  constructor <;> grind [Provider.addConsumer]

theorem Cascading.closeConsumer {w : Provider} (hw : w.Cascading) (c : ConsumerId) (x : Consumer) :
    ((w.updateConsumer c ({ · with closed := true })).releaseSource x).Cascading := by
  obtain ⟨brokers, heq⟩ := releaseSource_frame c x w
  rw [heq]
  refine hw.of_le ?_ rfl rfl
  intro x' hx' hopen
  rcases mem_of_mem_modify hx' with hx' | ⟨y, -, rfl⟩
  · exact ⟨x', hx', rfl, hopen⟩
  · simp at hopen

theorem Cascading.retireSession {w : Provider} (hw : w.Cascading) {s : SessionId}
    {session : Session} (hs : w.sessions[s]? = some session) (hdelivered : session.delivered = [])
    (hconsumers : ∀ x ∈ w.consumers, x.session = s → x.closed = true) :
    (w.updateSession s ({ · with closed := true, buffered := [] })).Cascading := by
  refine ⟨?_, ?_, ?_⟩
  · intro x hx hopen
    have hne : s ≠ x.session := fun h => by simp [hconsumers x hx h.symm] at hopen
    obtain ⟨y, hy, hclosed⟩ := hw.consumers x hx hopen
    exact ⟨y, (List.getElem?_modify_ne _ _ hne).trans hy, hclosed⟩
  · intro x hx hopen
    rcases mem_of_mem_modify hx with hx | ⟨y, -, rfl⟩
    · exact hw.sessions x hx hopen
    · simp at hopen
  · intro x hx
    rcases mem_of_mem_modify hx with hx | ⟨y, hy, rfl⟩
    · exact hw.sound x hx
    · rw [hs] at hy
      cases hy
      exact ⟨fun _ => hdelivered, fun _ => rfl, by simp [hdelivered], by simp⟩

theorem Move.cascading [Labels] {w w' : Provider} {es : List Event} (h : Move w es w')
    (hg : w.Grounded) (hw : w.Cascading) : w'.Cascading := by
  have hsame : ∀ {v : Provider}, v.consumers = w.consumers → v.sessions = w.sessions →
      v.connections = w.connections → v.Cascading := fun hc hs hn =>
    hw.of_le (fun x hx hopen => ⟨x, hc ▸ hx, rfl, hopen⟩) hs hn
  cases h with
  | idle | shutdown | startBroker | addQueue | post | purge | unsubscribe =>
      exact hsame rfl rfl rfl
  | connect b label id fixed =>
      have hlt := hg.sessions
      obtain ⟨hconsumers, hsessions, hsound⟩ := hw
      constructor <;> grind [Provider.updateBroker]
  | useConnection c x f hopen hf => exact hw.useConnection hopen f hf.state
  | setClientId c x id hopen =>
      have hbroker := hsame (v := w.updateBroker x.broker fun b =>
        (b.addClientId id).removeClientId x.clientId) rfl rfl rfl
      exact hbroker.useConnection (c := c) (x := x) hopen _ (openConnection_eq_ok.mp hopen).2
  | openSession c x number mode hopen =>
      have hc := openConnection_eq_ok.mp hopen
      obtain ⟨hconsumers, hsessions, hsound⟩ := hw
      refine ⟨?_, ?_, ?_⟩
      · intro y hy hclosed
        obtain ⟨z, hz, hzopen⟩ := hconsumers y hy hclosed
        have hlt := (List.getElem?_eq_some_iff.mp hz).1
        exact ⟨z, (List.getElem?_append_left hlt).trans hz, hzopen⟩
      · intro y hy hclosed
        rcases List.mem_append.mp hy with hy | hy
        · exact hsessions y hy hclosed
        · rw [List.mem_singleton.mp hy]
          exact ⟨x, hc⟩
      · intro y hy
        rcases List.mem_append.mp hy with hy | hy
        · exact hsound y hy
        · rw [List.mem_singleton.mp hy]
          exact ⟨fun _ => rfl, fun _ => rfl, by simp, by simp⟩
  | addTemporary c x kind hopen =>
      exact (hw.useConnection hopen _ (openConnection_eq_ok.mp hopen).2).of_le
        (fun y hy hclosed => ⟨y, hy, rfl, hclosed⟩) rfl rfl
  | numberProducer s n =>
      exact hw.updateSession s _ fun x _ => ⟨rfl, rfl, fun h =>
        ⟨h.delivered, h.buffered, h.tracked, h.transacted⟩⟩
  | keep s session connection d m hopen hmode =>
      obtain ⟨hs, hclosed, -⟩ := openSession_eq_ok.mp hopen
      refine hw.updateSession s _ fun x hx => ⟨rfl, rfl, fun h => ?_⟩
      rw [hs] at hx
      cases hx
      exact ⟨h.delivered, by simp [hclosed], h.tracked, fun _ => hmode⟩
  | consume s session connection d store selector hopen =>
      exact hw.addConsumer (x := ⟨s, d, .queue, store, selector, false⟩) hopen
  | subscribe s session connection d selector noLocal hopen =>
      refine Cascading.addConsumer ?_ (x := ⟨s, d, .topic noLocal, w.stores.length, selector, false⟩)
        hopen
      exact hsame rfl rfl rfl
  | attach s session connection topic name text selector noLocal store next hopen _ _ hstore =>
      have hnext : next.consumers = w.consumers ∧ next.sessions = w.sessions ∧
          next.connections = w.connections := by
        obtain ⟨stores, rfl⟩ := durableStore_frame hstore
        exact ⟨rfl, rfl, rfl⟩
      obtain ⟨hc, hs, hn⟩ := hnext
      refine Cascading.addConsumer ?_
        (x := ⟨s, topic, .durable ⟨connection.clientId, name⟩ noLocal, store, selector, false⟩)
        ((openSession_congr hs hn s).trans hopen)
      exact hsame hc hs hn
  | closeConsumer c x => exact hw.closeConsumer c x
  | handOut c x session connection e rest hx hopen hsession =>
      obtain ⟨hs, hclosed, -⟩ := openSession_eq_ok.mp hsession
      have hstore : (w.updateStore x.store fun _ => rest).Cascading := hsame rfl rfl rfl
      rw [deliver_of_open hclosed]
      split
      next htracked =>
        refine hstore.updateSession x.session _ fun y hy => ⟨rfl, rfl, fun h => ?_⟩
        rw [show w.sessions[x.session]? = some y from hy] at hs
        cases hs
        exact ⟨by simp [hclosed], h.buffered, fun _ => htracked, h.transacted⟩
      next => exact hstore
  | acknowledge s session connection tag =>
      refine hw.updateSession s _ fun x _ => ⟨rfl, rfl, fun h => ?_⟩
      refine ⟨fun hclosed => by simp [h.delivered hclosed], h.buffered, fun hne => ?_, h.transacted⟩
      exact h.tracked fun hnil => hne (by simp [hnil])
  | commit s =>
      exact hw.updateSession s _ fun x _ => ⟨rfl, rfl, fun _ =>
        ⟨fun _ => rfl, fun _ => rfl, by simp, by simp⟩⟩
  | forget s =>
      exact hw.updateSession s _ fun x _ => ⟨rfl, rfl, fun h =>
        ⟨h.delivered, fun _ => rfl, h.tracked, by simp⟩⟩
  | giveBack s session older d hs hd =>
      have hback : (w.updateSession s ({ · with delivered := older })).Cascading := by
        refine hw.updateSession s _ fun x hx => ⟨rfl, rfl, fun h => ?_⟩
        rw [hs] at hx
        cases hx
        have hne : session.delivered ≠ [] := by simp [hd]
        exact ⟨fun hclosed => absurd (h.delivered hclosed) hne, h.buffered,
          fun _ => h.tracked hne, h.transacted⟩
      exact hback.of_le (fun y hy hclosed => ⟨y, hy, rfl, hclosed⟩) rfl rfl
  | retireSession s session hs hopen hdelivered hconsumers =>
      exact hw.retireSession hs hdelivered hconsumers
  | retireConnection c x hopen hsessions =>
      have hclosed : (w.updateConnection c ({ · with state := .closed })).Cascading :=
        hw.updateConnection c _ fun _ _ => .inr hsessions
      exact hclosed.of_le (fun y hy hclosed => ⟨y, hy, rfl, hclosed⟩) rfl rfl

theorem Coherent.init : ({} : Provider).Coherent := by
  constructor <;> constructor <;> simp

variable [Labels]

theorem Move.coherent {w w' : Provider} {es : List Event} (h : Move w es w')
    (hw : w.Coherent) : w'.Coherent :=
  ⟨h.grounded hw.grounded, h.cascading hw.grounded hw.cascading⟩

theorem Moves.coherent {w w' : Provider} {es : List Event} (h : Moves w es w')
    (hw : w.Coherent) : w'.Coherent :=
  h.keeps Move.coherent hw

end Provider

end Messaging
