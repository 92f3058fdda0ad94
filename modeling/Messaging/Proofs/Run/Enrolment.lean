import Messaging.Proofs.Run.Standing

/-!
# Client ids in use

The client ids in use at a broker are those of the open connections there.  A connection that has
a session keeps its client id, and every durable subscription made through the session is known
by it.
-/

namespace Messaging

theorem Broker.checkClientId_eq_ok {id : String} {b : Broker} :
    b.checkClientId id = .ok () ↔ id ≠ "" ∧ id ∉ b.clientIds := by
  unfold checkClientId
  by_cases hid : id = ""
  · simp [hid]
  · simp [hid, String.isEmpty_iff]

namespace Provider

def clientAt (b : BrokerId) (x : Connection) : Option String :=
  if x.broker = b ∧ x.state ≠ .closed then some x.clientId else none

def clientsAt (b : BrokerId) (w : Provider) : List String := w.connections.filterMap (clientAt b)

structure Enrolled (w : Provider) : Prop where
  clients : ∀ b, (w.brokerAt b).clientIds.Perm (w.clientsAt b)
  distinct : ∀ b, (w.brokerAt b).clientIds.Nodup
  named : ∀ b, "" ∉ (w.brokerAt b).clientIds

/-- Who has sessions has a client id that stays, and it is that of the durable subscriptions. -/
structure Keyed (w : Provider) : Prop where
  sessions : ∀ x ∈ w.sessions,
    ∃ y, w.connections[x.connection]? = some y ∧ y.clientIdFixed = true
  consumers : ∀ x ∈ w.consumers, ∀ key noLocal, x.source = .durable key noLocal →
    ∃ y, w.connectionOf x.session = some y ∧ y.clientId = key.clientId

theorem Enrolled.init : ({} : Provider).Enrolled := by
  constructor <;> simp [brokerAt, clientsAt]

theorem Keyed.init : ({} : Provider).Keyed := by
  constructor <;> simp

/-! ## Brokers -/

section Brokers

variable {w w' : Provider} {b : BrokerId} {x : Connection}

theorem clientAt_of_open (hb : x.broker = b) (hopen : x.state ≠ .closed) :
    clientAt b x = some x.clientId :=
  if_pos ⟨hb, hopen⟩

theorem clientAt_of_ne (hb : x.broker ≠ b) : clientAt b x = none :=
  if_neg fun h => hb h.1

theorem clientsAt_modify {c : ConnectionId} {f : Connection → Connection}
    (hf : ∀ x, w.connections[c]? = some x → clientAt b (f x) = clientAt b x) :
    (w.connections.modify c f).filterMap (clientAt b) = w.clientsAt b := by
  have hsame := congrArg (List.filterMap id) (map_modify_eq hf)
  simpa [List.filterMap_map, clientsAt] using hsame

theorem Enrolled.of_same (hn : w.Enrolled) (hclients : ∀ b, w'.clientsAt b = w.clientsAt b)
    (hids : ∀ b, (w'.brokerAt b).clientIds = (w.brokerAt b).clientIds) : w'.Enrolled := by
  refine ⟨fun b => ?_, fun b => ?_, fun b => ?_⟩
  · rw [hids, hclients]
    exact hn.clients b
  · rw [hids]
    exact hn.distinct b
  · rw [hids]
    exact hn.named b

theorem Enrolled.connect (hn : w.Enrolled) (hb : x.broker < w.brokers.length)
    (hopen : x.state ≠ .closed)
    (hid : (w.brokerAt x.broker).checkClientId x.clientId = .ok ())
    (hconnections : w'.connections = w.connections ++ [x])
    (hbrokers : w'.brokers = w.brokers.modify x.broker (·.addClientId x.clientId)) :
    w'.Enrolled := by
  obtain ⟨hne, hfresh⟩ := Broker.checkClientId_eq_ok.mp hid
  have hself := brokerAt_of_modify hbrokers hb
  have hothers : ∀ b, x.broker ≠ b → w'.brokerAt b = w.brokerAt b := fun b hne =>
    brokerAt_of_modify_ne hbrokers hne
  have hclients : ∀ b, w'.clientsAt b = w.clientsAt b ++ (clientAt b x).toList := by
    intro b
    rw [clientsAt, hconnections, List.filterMap_append]
    cases hx : clientAt b x <;> simp [clientsAt, hx]
  refine ⟨fun b => ?_, fun b => ?_, fun b => ?_⟩ <;> by_cases hb : x.broker = b
  · subst hb
    rw [hself, hclients, clientAt_of_open rfl hopen]
    exact ((hn.clients _).cons _).trans (List.perm_append_singleton _ _).symm
  · rw [hothers b hb, hclients, clientAt_of_ne hb, Option.toList_none, List.append_nil]
    exact hn.clients b
  · subst hb
    rw [hself]
    exact List.nodup_cons.mpr ⟨hfresh, hn.distinct _⟩
  · rw [hothers b hb]
    exact hn.distinct b
  · subst hb
    rw [hself]
    intro hmem
    exact (List.mem_cons.mp hmem).elim (fun h => hne h.symm) (hn.named _)
  · rw [hothers b hb]
    exact hn.named b

theorem Enrolled.replace (hn : w.Enrolled) {c : ConnectionId} {f : Connection → Connection}
    {g : Broker → Broker} (hc : w.connections[c]? = some x) (hopen : x.state ≠ .closed)
    (hb : x.broker < w.brokers.length) (hf : (f x).broker = x.broker)
    (hconnections : w'.connections = w.connections.modify c f)
    (hbrokers : w'.brokers = w.brokers.modify x.broker g)
    (hg : ∀ rest, (w.brokerAt x.broker).clientIds.Perm (x.clientId :: rest) →
      (g (w.brokerAt x.broker)).clientIds.Perm ((clientAt x.broker (f x)).toList ++ rest))
    (hdistinct : (g (w.brokerAt x.broker)).clientIds.Nodup)
    (hnamed : "" ∉ (g (w.brokerAt x.broker)).clientIds) : w'.Enrolled := by
  have hself := brokerAt_of_modify hbrokers hb
  have hothers : ∀ b, x.broker ≠ b → w'.brokerAt b = w.brokerAt b := fun b hne =>
    brokerAt_of_modify_ne hbrokers hne
  refine ⟨fun b => ?_, fun b => ?_, fun b => ?_⟩ <;> by_cases hb : x.broker = b
  · subst hb
    have hbefore := (perm_cons_eraseIdx hc).filterMap (clientAt x.broker)
    have hafter := (modify_perm_cons_eraseIdx hc f).filterMap (clientAt x.broker)
    rw [List.filterMap_cons_some (clientAt_of_open rfl hopen)] at hbefore
    rw [hself, clientsAt, hconnections]
    refine (hg _ ((hn.clients _).trans hbefore)).trans (List.Perm.trans ?_ hafter.symm)
    cases hx : clientAt x.broker (f x) <;> simp [hx]
  · rw [hothers b hb, clientsAt, hconnections, clientsAt_modify fun y hy => ?_]
    · exact hn.clients b
    · obtain rfl : x = y := Option.some.inj (hc.symm.trans hy)
      rw [clientAt_of_ne hb, clientAt_of_ne (hf ▸ hb)]
  · subst hb
    rwa [hself]
  · rw [hothers b hb]
    exact hn.distinct b
  · subst hb
    rwa [hself]
  · rw [hothers b hb]
    exact hn.named b

theorem Enrolled.remaining (hn : w.Enrolled) {id : String} {rest : List String}
    (h : (w.brokerAt b).clientIds.Perm (id :: rest)) :
    ((w.brokerAt b).clientIds.filter (· != id)).Perm rest :=
  filter_ne_perm (f := fun id => id) h (by simpa using hn.distinct b)

theorem Enrolled.setClientId (hn : w.Enrolled) (hw : w.Grounded) {c : ConnectionId}
    (hopen : w.openConnection c = .ok x) {id : String}
    (hid : (w.brokerAt x.broker).checkClientId id = .ok ()) :
    ((w.updateBroker x.broker fun b =>
        (b.addClientId id).removeClientId x.clientId).updateConnection c
      ({ · with clientId := id, clientIdFixed := true })).Enrolled := by
  obtain ⟨hc, hstate⟩ := openConnection_eq_ok.mp hopen
  obtain ⟨hne, hfresh⟩ := Broker.checkClientId_eq_ok.mp hid
  have hb := hw.connections x (List.mem_of_getElem? hc)
  have hids : ∀ id', id' ∈ (((w.brokerAt x.broker).addClientId id).removeClientId
      x.clientId).clientIds → id' = id ∨ id' ∈ (w.brokerAt x.broker).clientIds := fun id' hmem =>
    List.mem_cons.mp (List.mem_filter.mp hmem).1
  refine hn.replace hc hstate hb rfl rfl rfl ?_ ?_ ?_
  · intro rest hrest
    have hother : id ≠ x.clientId := fun h =>
      hfresh (h ▸ hrest.mem_iff.mpr List.mem_cons_self)
    have hkept := hn.remaining hrest
    simpa [clientAt, hstate, Broker.removeClientId, Broker.addClientId, hother] using hkept
  · exact (List.nodup_cons.mpr ⟨hfresh, hn.distinct _⟩).sublist List.filter_sublist
  · exact fun hmem => (hids _ hmem).elim hne.symm (hn.named _)

theorem Enrolled.retireConnection (hn : w.Enrolled) (hw : w.Grounded) {c : ConnectionId}
    (hopen : w.openConnection c = .ok x) :
    ((w.updateConnection c ({ · with state := .closed })).updateBroker x.broker fun b =>
      (b.releaseTemporaries c).removeClientId x.clientId).Enrolled := by
  obtain ⟨hc, hstate⟩ := openConnection_eq_ok.mp hopen
  have hb := hw.connections x (List.mem_of_getElem? hc)
  refine hn.replace hc hstate hb rfl rfl rfl ?_ ?_ ?_
  · intro rest hrest
    have hkept := hn.remaining hrest
    simpa [clientAt, Broker.removeClientId, Broker.releaseTemporaries] using hkept
  · exact (hn.distinct _).sublist List.filter_sublist
  · exact fun hmem => hn.named _ (List.mem_filter.mp hmem).1

end Brokers

variable [Labels]

theorem Move.enrolled {w w' : Provider} {es : List Event} (h : Move w es w') (hw : w.Grounded)
    (hn : w.Enrolled) : w'.Enrolled := by
  have hsame : ∀ {v : Provider} {b f}, v.connections = w.connections →
      v.brokers = w.brokers.modify b f → (∀ x : Broker, (f x).clientIds = x.clientIds) →
      v.Enrolled := fun hv hbrokers hf =>
    hn.of_same (fun b => by rw [clientsAt, hv, clientsAt])
      (brokerAt_modify_frame (g := (·.clientIds)) hbrokers hf)
  cases h with
  | idle | shutdown | openSession | numberProducer | keep | post | consume | purge | acknowledge |
      commit | forget | giveBack | retireSession =>
      exact hn.of_same (fun _ => rfl) fun _ => rfl
  | startBroker name credentials =>
      refine hn.of_same (fun _ => rfl) ?_
      exact brokerAt_concat_frame (g := (·.clientIds)) (x := { name, credentials }) rfl rfl
  | connect b label id fixed hb hlabel hid =>
      exact hn.connect (x := ⟨b, label, id, fixed, .stopped, 1, 1⟩) hb (by simp) hid
        rfl rfl
  | useConnection c x f hopen hf =>
      obtain ⟨hc, hstate⟩ := openConnection_eq_ok.mp hopen
      refine hn.of_same (fun b => clientsAt_modify fun y hy => ?_) fun _ => rfl
      obtain rfl : x = y := Option.some.inj (hc.symm.trans hy)
      simp [clientAt, hf.broker, hf.clientId, hf.state, hstate]
  | setClientId c x id hopen _ hid => exact hn.setClientId hw hopen hid
  | addTemporary c x kind hopen =>
      refine hn.of_same (fun b => clientsAt_modify fun y hy => rfl) ?_
      exact brokerAt_modify_frame (w := w) (g := (·.clientIds)) rfl fun _ => rfl
  | addQueue | subscribe | unsubscribe => exact hsame rfl rfl fun _ => rfl
  | attach s session connection topic name text selector noLocal store next _ _ _ hstore =>
      obtain ⟨stores, rfl⟩ := durableStore_frame hstore
      exact hsame rfl rfl fun x => Broker.clientIds_activate _ _ x
  | closeConsumer c x =>
      obtain ⟨b, f, heq, hf⟩ := releaseSource_eq x (w.updateConsumer c ({ · with closed := true }))
      rw [heq]
      refine hsame rfl rfl fun y => ?_
      rcases hf with rfl | rfl | ⟨key, rfl⟩
      · rfl
      · rfl
      · exact Broker.clientIds_deactivate key y
  | handOut c x session connection e rest hx hopen hsession =>
      rw [deliver_of_open (openSession_eq_ok.mp hsession).2.1]
      split <;> exact hn.of_same (fun _ => rfl) fun _ => rfl
  | retireConnection c x hopen => exact hn.retireConnection hw hopen

/-! ## Durable subscriptions -/

section Keys

variable {w w' : Provider} {es : List Event}

theorem Move.sessions_from (h : Move w es w') {x : Session} (hx : x ∈ w'.sessions) :
    (∃ y ∈ w.sessions, y.connection = x.connection) ∨
      ∃ y, w.openConnection x.connection = .ok y ∧ y.clientIdFixed = true := by
  have hmodify : ∀ {i : SessionId} {f : Session → Session},
      x ∈ w.sessions.modify i f → (∀ y, (f y).connection = y.connection) →
      ∃ y ∈ w.sessions, y.connection = x.connection := by
    intro i f hx hf
    rcases mem_of_mem_modify hx with hx | ⟨y, hy, rfl⟩
    · exact ⟨x, hx, rfl⟩
    · exact ⟨y, List.mem_of_getElem? hy, (hf y).symm⟩
  cases h with
  | idle | shutdown | startBroker | connect | useConnection | setClientId | addTemporary |
      addQueue | post | consume | subscribe | purge | retireConnection | unsubscribe =>
      exact .inl ⟨x, hx, rfl⟩
  | openSession c y number mode hopen hfixed =>
      rcases List.mem_append.mp hx with hx | hx
      · exact .inl ⟨x, hx, rfl⟩
      · rw [List.mem_singleton.mp hx]
        exact .inr ⟨y, hopen, hfixed⟩
  | numberProducer | keep | acknowledge | commit | forget | giveBack | retireSession =>
      exact .inl (hmodify hx fun _ => rfl)
  | attach s session connection topic name text selector noLocal store next _ _ _ hstore =>
      obtain ⟨stores, rfl⟩ := durableStore_frame hstore
      exact .inl ⟨x, hx, rfl⟩
  | closeConsumer c y =>
      obtain ⟨brokers, heq⟩ := releaseSource_frame c y w
      rw [heq] at hx
      exact .inl ⟨x, hx, rfl⟩
  | handOut c y session connection e rest _ _ hsession =>
      rw [deliver_of_open (openSession_eq_ok.mp hsession).2.1] at hx
      split at hx
      · exact .inl (hmodify hx fun _ => rfl)
      · exact .inl ⟨x, hx, rfl⟩

theorem Move.consumers_from (h : Move w es w') {x : Consumer} (hx : x ∈ w'.consumers) :
    (∃ y ∈ w.consumers, y.session = x.session ∧ y.source = x.source) ∨
      ∃ session connection, w.openSession x.session = .ok (session, connection) ∧
        ∀ key noLocal, x.source = .durable key noLocal → connection.clientId = key.clientId := by
  cases h with
  | idle | shutdown | startBroker | connect | useConnection | setClientId | openSession |
      addTemporary | numberProducer | keep | addQueue | post | purge | acknowledge | commit |
      forget | giveBack | retireSession | retireConnection | unsubscribe =>
      exact .inl ⟨x, hx, rfl, rfl⟩
  | handOut c y session connection e rest _ _ hsession =>
      rw [deliver_of_open (openSession_eq_ok.mp hsession).2.1] at hx
      split at hx <;> exact .inl ⟨x, hx, rfl, rfl⟩
  | closeConsumer c y =>
      obtain ⟨brokers, heq⟩ := releaseSource_frame c y w
      rw [heq] at hx
      rcases mem_of_mem_modify hx with hx | ⟨z, hz, rfl⟩
      · exact .inl ⟨x, hx, rfl, rfl⟩
      · exact .inl ⟨z, List.mem_of_getElem? hz, rfl, rfl⟩
  | consume s session connection d store selector hopen
  | subscribe s session connection d selector noLocal hopen =>
      rcases List.mem_append.mp hx with hx | hx
      · exact .inl ⟨x, hx, rfl, rfl⟩
      · rw [List.mem_singleton.mp hx]
        exact .inr ⟨session, connection, hopen, by simp⟩
  | attach s session connection topic name text selector noLocal store next hopen _ _ hstore =>
      obtain ⟨stores, rfl⟩ := durableStore_frame hstore
      rcases List.mem_append.mp hx with hx | hx
      · exact .inl ⟨x, hx, rfl, rfl⟩
      · rw [List.mem_singleton.mp hx]
        refine .inr ⟨session, connection, hopen, fun key noLocal hkey => ?_⟩
        cases hkey
        rfl

theorem Keyed.step (hk : w.Keyed) (h : Move w es w') : w'.Keyed := by
  have hstands := h.stands
  have hfixed : ∀ x ∈ w'.sessions,
      ∃ y, w'.connections[x.connection]? = some y ∧ y.clientIdFixed = true := by
    intro x hx
    have hbefore : ∃ y, w.connections[x.connection]? = some y ∧ y.clientIdFixed = true := by
      rcases h.sessions_from hx with ⟨z, hz, hsame⟩ | ⟨y, hopen, hfixed⟩
      · exact hsame ▸ hk.sessions z hz
      · exact ⟨y, (openConnection_eq_ok.mp hopen).1, hfixed⟩
    obtain ⟨y, hy, hfixed⟩ := hbefore
    obtain ⟨y', hy', hcontinues⟩ := hstands.connections _ y hy
    exact ⟨y', hy', hcontinues.fixed hfixed⟩
  refine ⟨hfixed, ?_⟩
  intro x hx key noLocal hkey
  have hbefore : ∃ y, w.connectionOf x.session = some y ∧ y.clientId = key.clientId := by
    rcases h.consumers_from hx with ⟨z, hz, hsession, hsource⟩ | ⟨session, y, hopen, hid⟩
    · exact hsession ▸ hk.consumers z hz key noLocal (hsource.trans hkey)
    · obtain ⟨hs, -, hopen⟩ := openSession_eq_ok.mp hopen
      refine ⟨y, ?_, hid key noLocal hkey⟩
      simp [connectionOf, hs, (openConnection_eq_ok.mp hopen).1]
  obtain ⟨y, hy, hid⟩ := hbefore
  obtain ⟨s, hs, hc⟩ := Option.bind_eq_some_iff.mp hy
  obtain ⟨s', hs', hsession⟩ := hstands.sessions _ s hs
  obtain ⟨y', hy', hcontinues⟩ := hstands.connections _ y hc
  have hmaker : s'.connection = s.connection := hsession.maker
  refine ⟨y', by simp [connectionOf, hs', hmaker, hy'], ?_⟩
  obtain ⟨z, hz, hfixed⟩ := hk.sessions s (List.mem_of_getElem? hs)
  obtain rfl : y = z := Option.some.inj (hc.symm.trans hz)
  rw [hcontinues.clientId_of_fixed hfixed, hid]

end Keys

/-! ## Runs -/

theorem enrolled_run (ops : List Operation) : (run ops {}).Enrolled :=
  keeps_run (P := fun _ w => w.Enrolled) .init
    (fun hmove hw hn => hmove.enrolled hw.grounded hn) ops

theorem keyed_run (ops : List Operation) : (run ops {}).Keyed :=
  keeps_run (P := fun _ w => w.Keyed) .init (fun hmove _ hk => hk.step hmove) ops

end Provider

end Messaging
