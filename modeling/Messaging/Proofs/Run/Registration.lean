import Messaging.Proofs.Directory
import Messaging.Proofs.Provider.Publishing
import Messaging.Proofs.Run.Temporary

/-!
# Registration

What a move does to what a broker routes by, and to the open consumers at it: it opens or closes
one consumer, or changes the queues, the temporary destinations or the durable subscriptions of
the broker; or it has nothing to do with them.
-/

namespace Messaging.Provider

def home (s : SessionId) (w : Provider) : Option (BrokerId × ConnectionId) :=
  w.sessions[s]?.bind fun x => w.connections[x.connection]?.map fun y => (y.broker, x.connection)

def located (b : BrokerId) (w : Provider) (x : Consumer) : Option (ConnectionId × Consumer) :=
  (w.home x.session).bind fun (b', c) => if b' = b ∧ x.closed = false then some (c, x) else none

/-- The open consumers at a broker, oldest first, with their connections. -/
def openAt (b : BrokerId) (w : Provider) : List (ConnectionId × Consumer) :=
  w.consumers.filterMap (w.located b)

structure Undisturbed (b : BrokerId) (w w' : Provider) : Prop where
  openAt : w'.openAt b = w.openAt b
  broker : (w.brokerAt b).Alike (w'.brokerAt b)

inductive Registration (b : BrokerId) (w : Provider) (es : List Event) (w' : Provider) : Prop where
  | quiet (h : Undisturbed b w w')
  | temporary (d : Destination) (c : ConnectionId) (hopen : w'.openAt b = w.openAt b)
      (hbroker : ((w.brokerAt b).addTemporary d c).Alike (w'.brokerAt b))
  | queue (d : Destination) (hlive : (w.brokerAt b).isLive d = true)
      (hopen : w'.openAt b = w.openAt b)
      (hbroker : ((w.brokerAt b).addQueue d w.stores.length).Alike (w'.brokerAt b))
  | consumed (c : ConnectionId) (x : Consumer) (hx : x.source = .queue)
      (hqueue : (w.brokerAt b).queue? x.destination = some x.store)
      (hallowed : (w.brokerAt b).checkConsumable x.destination c = .ok ())
      (hopen : w'.openAt b = w.openAt b ++ [(c, x)])
      (hbroker : (w.brokerAt b).Alike (w'.brokerAt b))
  | subscribed (c : ConnectionId) (x : Consumer) (noLocal : Bool) (hx : x.source = .topic noLocal)
      (hstore : x.store = w.stores.length)
      (hallowed : (w.brokerAt b).checkConsumable x.destination c = .ok ())
      (hopen : w'.openAt b = w.openAt b ++ [(c, x)])
      (hbroker : ((w.brokerAt b).attach
        ⟨x.destination, x.store, x.selector, localTo noLocal c⟩).Alike (w'.brokerAt b))
  | attached (c : ConnectionId) (x : Consumer) (key : DurableKey) (noLocal : Bool)
      (hx : x.source = .durable key noLocal) (htopic : x.destination.kind = .topic)
      (hselector : ∃ text, Selector.parseOptional text = .ok x.selector)
      (hfree : ∀ d, (w.brokerAt b).durable? key = some d → d.active = false)
      (hstore : x.store = w.stores.length ∧
          (∀ d, (w.brokerAt b).durable? key = some d →
            ¬ (d.topic = x.destination ∧ d.source = x.selector.map (·.source))) ∨
        ∃ d, (w.brokerAt b).durable? key = some d ∧ x.store = d.store ∧
          d.topic = x.destination ∧ d.source = x.selector.map (·.source))
      (hopen : w'.openAt b = w.openAt b ++ [(c, x)])
      (hbroker : ((w.brokerAt b).activate
        ⟨key, x.destination, x.selector, noLocal, x.store, true⟩ (localTo noLocal c)).Alike
          (w'.brokerAt b))
      (hes : .attached b key ∈ es)
  | closed (c : ConnectionId) (x : Consumer) (before after : List (ConnectionId × Consumer))
      (hopen : w.openAt b = before ++ (c, x) :: after) (hopen' : w'.openAt b = before ++ after)
      (hbroker : (x.release (w.brokerAt b)).Alike (w'.brokerAt b))
  | released (c : ConnectionId) (hothers : ∀ p ∈ w.openAt b, p.1 ≠ c)
      (hopen : w'.openAt b = w.openAt b)
      (hbroker : ((w.brokerAt b).releaseTemporaries c).Alike (w'.brokerAt b))
  | unsubscribed (key : DurableKey) (d : Durable) (hd : (w.brokerAt b).durable? key = some d)
      (hinactive : d.active = false) (hopen : w'.openAt b = w.openAt b)
      (hbroker : (((w.brokerAt b).removeDurable key).detach d.store).Alike (w'.brokerAt b))
      (hes : .removed b key ∈ es)

/-- A move concerns one broker at most. -/
def Registered (w : Provider) (es : List Event) (w' : Provider) : Prop :=
  ∃ b, Registration b w es w' ∧ ∀ b', b ≠ b' → Undisturbed b' w w'

/-! ## Open consumers -/

section Open

variable {w w' : Provider} {b : BrokerId}

theorem openAt_congr (hconsumers : w'.consumers = w.consumers)
    (hhome : ∀ x ∈ w.consumers, w'.home x.session = w.home x.session) (b : BrokerId) :
    w'.openAt b = w.openAt b := by
  unfold openAt
  rw [hconsumers]
  refine List.filterMap_congr fun x hx => ?_
  rw [located, located, hhome x hx]

theorem home_eq (s : SessionId) (w : Provider) :
    w.home s = (w.sessions.map (·.connection))[s]?.bind fun c =>
      (w.connections.map (·.broker))[c]?.map fun b => (b, c) := by
  unfold home
  rw [List.getElem?_map]
  cases w.sessions[s]? with
  | none => rfl
  | some x => simp [Function.comp_def]

theorem home_of_maps (hsessions : w'.sessions.map (·.connection) = w.sessions.map (·.connection))
    (hconnections : w'.connections.map (·.broker) = w.connections.map (·.broker))
    (s : SessionId) : w'.home s = w.home s := by
  rw [home_eq, home_eq, hsessions, hconnections]

theorem home_of_openSession {s : SessionId} {session : Session} {connection : Connection}
    (h : w.openSession s = .ok (session, connection)) :
    w.home s = some (connection.broker, session.connection) := by
  obtain ⟨hs, -, hc⟩ := openSession_eq_ok.mp h
  simp [home, hs, (openConnection_eq_ok.mp hc).1]

theorem openAt_concat {x : Consumer} {b₀ : BrokerId} {c : ConnectionId}
    (hconsumers : w'.consumers = w.consumers ++ [x]) (hhome : ∀ s, w'.home s = w.home s)
    (hx : w.home x.session = some (b₀, c)) (hopen : x.closed = false) :
    w'.openAt b = if b₀ = b then w.openAt b ++ [(c, x)] else w.openAt b := by
  have hlocated : w'.located b = w.located b := by
    funext y
    rw [located, located, hhome]
  unfold openAt
  rw [hconsumers, hlocated, List.filterMap_append]
  by_cases hb : b₀ = b <;> simp [located, hx, hopen, hb]

theorem mem_openAt {b : BrokerId} {p : ConnectionId × Consumer} :
    p ∈ w.openAt b ↔ p.2 ∈ w.consumers ∧ p.2.closed = false ∧
      w.home p.2.session = some (b, p.1) := by
  unfold openAt located
  rw [List.mem_filterMap]
  constructor
  · rintro ⟨x, hx, hlocated⟩
    obtain ⟨⟨b', c⟩, hhome, hif⟩ := Option.bind_eq_some_iff.mp hlocated
    dsimp only at hif
    split at hif
    next hopen =>
      obtain ⟨rfl, hopen⟩ := hopen
      obtain rfl := Option.some.inj hif
      exact ⟨hx, hopen, hhome⟩
    next => cases hif
  · rintro ⟨hx, hopen, hhome⟩
    exact ⟨p.2, hx, by simp [hhome, hopen]⟩

theorem exists_home (hw : w.Cascading) {x : Consumer} (hx : x ∈ w.consumers)
    (hopen : x.closed = false) : ∃ b c, w.home x.session = some (b, c) := by
  obtain ⟨session, hs, hsession⟩ := hw.consumers x hx hopen
  obtain ⟨connection, hc, -⟩ := hw.sessions session (List.mem_of_getElem? hs) hsession
  exact ⟨connection.broker, session.connection, by simp [home, hs, hc]⟩

end Open

/-! ## Brokers -/

section Brokers

variable {w w' : Provider} {b b₀ : BrokerId} {f : Broker → Broker}

theorem alike_of_brokers (h : w'.brokers = w.brokers) (b : BrokerId) :
    (w.brokerAt b).Alike (w'.brokerAt b) := by
  have hsame : w'.brokerAt b = w.brokerAt b := by
    unfold brokerAt
    rw [h]
  exact hsame ▸ .refl _

theorem alike_of_modify (h : w'.brokers = w.brokers.modify b₀ f) (hf : ∀ x : Broker, x.Alike (f x))
    (b : BrokerId) : (w.brokerAt b).Alike (w'.brokerAt b) :=
  ⟨brokerAt_modify_frame h (fun x => (hf x).queues) b,
    brokerAt_modify_frame h (fun x => (hf x).attached) b,
    brokerAt_modify_frame h (fun x => (hf x).durables) b,
    brokerAt_modify_frame h (fun x => (hf x).temporaries) b⟩

theorem alike_of_ne (h : w'.brokers = w.brokers.modify b₀ f) (hb : b₀ ≠ b) :
    (w.brokerAt b).Alike (w'.brokerAt b) := by
  rw [brokerAt_of_modify_ne h hb]
  exact .refl _

theorem releaseSource_of_connection {x : Consumer} {y : Connection}
    (hy : w.connectionOf x.session = some y) :
    w.releaseSource x = w.updateBroker y.broker x.release := by
  unfold releaseSource Consumer.release
  rw [hy]
  cases x.source with
  | queue => simp [updateBroker, modify_eq_self]
  | topic | durable => rfl

end Brokers

/-! ## Moves -/

section Moves

variable {w w' : Provider} {es : List Event} {b : BrokerId}

theorem Registered.quiet (h : ∀ b, Undisturbed b w w') : Registered w es w' :=
  ⟨0, .quiet (h 0), fun b _ => h b⟩

theorem Registered.same (hconsumers : w'.consumers = w.consumers)
    (hsessions : w'.sessions.map (·.connection) = w.sessions.map (·.connection))
    (hconnections : w'.connections.map (·.broker) = w.connections.map (·.broker))
    (hbroker : ∀ b, (w.brokerAt b).Alike (w'.brokerAt b)) : Registered w es w' :=
  .quiet fun b => ⟨openAt_congr hconsumers
    (fun x _ => home_of_maps hsessions hconnections x.session) b, hbroker b⟩

theorem Registered.connect {x : Connection} (hw : w.Grounded)
    (hconsumers : w'.consumers = w.consumers) (hsessions : w'.sessions = w.sessions)
    (hconnections : w'.connections = w.connections ++ [x])
    (hbroker : ∀ b, (w.brokerAt b).Alike (w'.brokerAt b)) : Registered w es w' := by
  refine .quiet fun b => ⟨openAt_congr hconsumers (fun y hy => ?_) b, hbroker b⟩
  have hlt := hw.consumers y hy
  have hlt' := hw.sessions _ (List.getElem_mem hlt)
  unfold home
  rw [hsessions, hconnections, List.getElem?_eq_getElem hlt]
  simp only [Option.bind_some]
  rw [List.getElem?_append_left hlt']

theorem Registered.openSession {x : Session} (hw : w.Grounded)
    (hconsumers : w'.consumers = w.consumers) (hsessions : w'.sessions = w.sessions ++ [x])
    (hconnections : w'.connections = w.connections) (hbrokers : w'.brokers = w.brokers) :
    Registered w es w' := by
  refine .quiet fun b => ⟨openAt_congr hconsumers (fun y hy => ?_) b, alike_of_brokers hbrokers b⟩
  unfold home
  rw [hsessions, hconnections, List.getElem?_append_left (hw.consumers y hy)]

theorem Registered.change {f : Broker → Broker} (hb : b < w.brokers.length)
    (hconsumers : w'.consumers = w.consumers)
    (hsessions : w'.sessions.map (·.connection) = w.sessions.map (·.connection))
    (hconnections : w'.connections.map (·.broker) = w.connections.map (·.broker))
    (hbrokers : w'.brokers = w.brokers.modify b f)
    (hself : w'.openAt b = w.openAt b → (f (w.brokerAt b)).Alike (w'.brokerAt b) →
      Registration b w es w') : Registered w es w' := by
  have hopen := openAt_congr hconsumers
    (fun x _ => home_of_maps hsessions hconnections x.session)
  refine ⟨b, hself (hopen b) ?_, fun b' hne => ⟨hopen b', alike_of_ne hbrokers hne⟩⟩
  rw [brokerAt_of_modify hbrokers hb]
  exact .refl _

theorem Registered.open {x : Consumer} {c : ConnectionId} {f : Broker → Broker}
    (hb : b < w.brokers.length) (hx : w.home x.session = some (b, c))
    (hxopen : x.closed = false) (hconsumers : w'.consumers = w.consumers ++ [x])
    (hsessions : w'.sessions = w.sessions) (hconnections : w'.connections = w.connections)
    (hbrokers : w'.brokers = w.brokers.modify b f)
    (hself : w'.openAt b = w.openAt b ++ [(c, x)] →
      (f (w.brokerAt b)).Alike (w'.brokerAt b) → Registration b w es w') : Registered w es w' := by
  have hhome : ∀ s, w'.home s = w.home s :=
    home_of_maps (congrArg _ hsessions) (congrArg _ hconnections)
  have hopen := fun b' => openAt_concat (b := b') hconsumers hhome hx hxopen
  refine ⟨b, hself ((hopen b).trans (if_pos rfl)) ?_, fun b' hne => ⟨?_, alike_of_ne hbrokers hne⟩⟩
  · rw [brokerAt_of_modify hbrokers hb]
    exact .refl _
  · exact (hopen b').trans (if_neg hne)

theorem Registered.closeConsumer {i : ConsumerId} {x : Consumer} (hw : w.Coherent)
    (hi : w.consumers[i]? = some x) (hopen : x.closed = false) :
    Registered w es ((w.updateConsumer i ({ · with closed := true })).releaseSource x) := by
  have hx := List.mem_of_getElem? hi
  obtain ⟨session, hs, hsession⟩ := hw.cascading.consumers x hx hopen
  obtain ⟨connection, hc, -⟩ := hw.cascading.sessions session (List.mem_of_getElem? hs) hsession
  have hb₀ := hw.grounded.connections connection (List.mem_of_getElem? hc)
  have hhome : w.home x.session = some (connection.broker, session.connection) := by
    simp [home, hs, hc]
  have hconnection : (w.updateConsumer i ({ · with closed := true })).connectionOf x.session =
      some connection := by
    change w.connectionOf x.session = _
    simp [connectionOf, hs, hc]
  rw [releaseSource_of_connection hconnection]
  obtain ⟨before, y, after, hsplit, hlength, hmodify⟩ :=
    List.exists_of_modify (fun x : Consumer => { x with closed := true })
      (List.getElem?_eq_some_iff.mp hi).1
  obtain rfl : x = y := by
    rw [hsplit, ← hlength] at hi
    simpa using hi.symm
  have hbefore : ∀ b, w.openAt b =
      before.filterMap (w.located b) ++ (x :: after).filterMap (w.located b) := by
    intro b
    rw [openAt, hsplit, List.filterMap_append]
  have hafter : ∀ b, ((w.updateConsumer i ({ · with closed := true })).updateBroker
      connection.broker x.release).openAt b =
        before.filterMap (w.located b) ++ after.filterMap (w.located b) := by
    intro b
    change (w.consumers.modify i _).filterMap (w.located b) = _
    rw [hmodify, List.filterMap_append, List.filterMap_cons_none]
    simp [located]
  refine ⟨connection.broker, ?_, fun b hb => ⟨?_, ?_⟩⟩
  · have hlocated : w.located connection.broker x = some (session.connection, x) := by
      simp [located, hhome, hopen]
    have hsplit := hbefore connection.broker
    rw [List.filterMap_cons_some hlocated] at hsplit
    refine .closed session.connection x _ _ hsplit (hafter connection.broker) ?_
    have hrelease : ((w.updateConsumer i ({ · with closed := true })).updateBroker
        connection.broker x.release).brokerAt connection.broker =
          x.release (w.brokerAt connection.broker) := brokerAt_of_modify rfl hb₀
    exact hrelease ▸ .refl _
  · have hlocated : w.located b x = none := by
      simp [located, hhome, hb]
    have hsplit := hbefore b
    rw [List.filterMap_cons_none hlocated] at hsplit
    exact (hafter b).trans hsplit.symm
  · exact alike_of_ne (w := w) (f := x.release) rfl hb

theorem connection_ne_of_openAt {c : ConnectionId} {p : ConnectionId × Consumer} (hw : w.Cascading)
    (hsessions : ∀ y ∈ w.sessions, y.connection = c → y.closed = true) (hp : p ∈ w.openAt b) :
    p.1 ≠ c := by
  rintro rfl
  obtain ⟨hx, hopen, hhome⟩ := mem_openAt.mp hp
  obtain ⟨session, hs, hsession⟩ := hw.consumers p.2 hx hopen
  have hconnection : session.connection = p.1 := by
    simp only [home, hs, Option.bind_some] at hhome
    obtain ⟨y, -, hy⟩ := Option.map_eq_some_iff.mp hhome
    exact (Prod.mk.inj hy).2
  rw [hsessions session (List.mem_of_getElem? hs) hconnection] at hsession
  cases hsession

end Moves

theorem Move.registered [Labels] {w w' : Provider} {es : List Event} (h : Move w es w')
    (hw : w.Coherent) : Registered w es w' := by
  cases h with
  | idle | shutdown | post | purge =>
      exact .same rfl rfl rfl fun _ => .refl _
  | numberProducer | keep | acknowledge | commit | forget | giveBack | retireSession =>
      exact .same rfl (map_modify_eq fun _ _ => rfl) rfl fun _ => .refl _
  | startBroker name credentials =>
      refine .same rfl rfl rfl fun b => ⟨?_, ?_, ?_, ?_⟩
      · exact brokerAt_concat_frame (g := (·.queues)) (x := { name, credentials }) rfl rfl b
      · exact brokerAt_concat_frame (g := (·.attached)) (x := { name, credentials }) rfl rfl b
      · exact brokerAt_concat_frame (g := (·.durables)) (x := { name, credentials }) rfl rfl b
      · exact brokerAt_concat_frame (g := (·.temporaries)) (x := { name, credentials }) rfl rfl b
  | connect b label id fixed =>
      refine .connect hw.grounded rfl rfl rfl ?_
      exact alike_of_modify (f := (·.addClientId id)) rfl (fun _ => ⟨rfl, rfl, rfl, rfl⟩)
  | useConnection c x f hopen hf =>
      refine .same rfl rfl (map_modify_eq fun y hy => ?_) fun _ => .refl _
      obtain rfl : x = y := Option.some.inj ((openConnection_eq_ok.mp hopen).1.symm.trans hy)
      exact hf.broker
  | setClientId c x id =>
      refine .same rfl rfl (map_modify_eq fun _ _ => rfl) ?_
      exact alike_of_modify (w := w) (f := fun b => (b.addClientId id).removeClientId x.clientId) rfl
        (fun _ => ⟨rfl, rfl, rfl, rfl⟩)
  | openSession => exact .openSession hw.grounded rfl rfl rfl rfl
  | addTemporary c x kind hopen =>
      have hb := hw.grounded.connections x (List.mem_of_getElem? (openConnection_eq_ok.mp hopen).1)
      refine .change hb rfl rfl (map_modify_eq fun _ _ => rfl) rfl fun hopen hbroker => ?_
      exact .temporary _ c hopen hbroker
  | addQueue b d hb _ hlive =>
      exact .change hb rfl rfl rfl rfl fun hopen hbroker => .queue d hlive hopen hbroker
  | consume s session connection d store selector hopen hd hallowed hstore =>
      have hb := hw.grounded.lt_of_openSession hopen
      refine .open (f := id) hb (home_of_openSession hopen) rfl rfl rfl rfl
        (List.modify_id _ _).symm fun hopen hbroker => ?_
      exact .consumed session.connection _ rfl hstore hallowed hopen hbroker
  | subscribe s session connection d selector noLocal hopen hd hallowed =>
      have hb := hw.grounded.lt_of_openSession hopen
      refine .open hb (home_of_openSession hopen) rfl rfl rfl rfl rfl fun hopen hbroker => ?_
      exact .subscribed session.connection _ noLocal rfl rfl hallowed hopen hbroker
  | attach s session connection topic name text selector noLocal store next hopen hselector htopic
      hstore =>
      have hb := hw.grounded.lt_of_openSession hopen
      have hhome := home_of_openSession hopen
      rcases durableStore_eq_ok hstore with ⟨hfresh, rfl, hfree⟩ |
        ⟨rfl, d, hd, hfree, htopic', hsource, hsame⟩
      · refine .open hb hhome rfl rfl rfl rfl rfl fun hopen hbroker => ?_
        exact .attached session.connection _ _ noLocal rfl htopic ⟨text, hselector⟩
          (fun d hd => (hfree d hd).1) (.inl ⟨hfresh, fun d hd => (hfree d hd).2⟩) hopen hbroker
          List.mem_cons_self
      · refine .open hb hhome rfl rfl rfl rfl rfl fun hopen hbroker => ?_
        refine .attached session.connection _ _ noLocal rfl htopic ⟨text, hselector⟩
          (fun d' hd' => ?_) (.inr ⟨d, hd, hsame, htopic', hsource⟩) hopen hbroker
          List.mem_cons_self
        rw [hd] at hd'
        cases hd'
        exact hfree
  | closeConsumer c x hx hopen => exact .closeConsumer hw hx hopen
  | handOut c x session connection e rest hx hopen hsession =>
      rw [deliver_of_open (openSession_eq_ok.mp hsession).2.1]
      split
      · exact .same rfl (map_modify_eq fun _ _ => rfl) rfl fun _ => .refl _
      · exact .same rfl rfl rfl fun _ => .refl _
  | retireConnection c x hopen hsessions =>
      have hc := (openConnection_eq_ok.mp hopen).1
      have hb := hw.grounded.connections x (List.mem_of_getElem? hc)
      refine .change hb rfl rfl (map_modify_eq fun _ _ => rfl) rfl fun hopen hbroker => ?_
      refine .released c (fun p hp => ?_) hopen ?_
      · exact connection_ne_of_openAt hw.cascading hsessions hp
      · exact ⟨hbroker.queues, hbroker.attached, hbroker.durables, hbroker.temporaries⟩
  | unsubscribe s session connection name d hopen hd hinactive =>
      have hb := hw.grounded.lt_of_openSession hopen
      refine .change hb rfl rfl rfl rfl fun hopen hbroker => ?_
      exact .unsubscribed _ d hd hinactive hopen hbroker List.mem_cons_self

end Messaging.Provider
