import Messaging.Proofs.Place
import Messaging.Provider.Browser
import Messaging.Provider.Connection
import Messaging.Provider.Producer

/-!
# Reading the parts of a provider

When something counts as open, what a part looks like after an update, and what the operations on
stores and durable subscriptions can come to.
-/

namespace Messaging

structure Quality.Allowed (q : Quality) : Prop where
  priority : 0 ≤ q.priority ∧ q.priority ≤ 9
  timeToLive : 0 ≤ q.timeToLive

/-! ## Stores -/

theorem Store.take_eq_some {filter : Option Selector} {s rest : Store} {e : Envelope}
    (h : s.take filter = some (e, rest)) :
    ∃ before after, s.pending = before ++ e :: after ∧
      (∀ x ∈ before, Selector.admits filter x.message = false) ∧
      Selector.admits filter e.message = true ∧
      rest = { s with pending := before ++ after } := by
  obtain ⟨x, hfind, hx⟩ := Option.map_eq_some_iff.mp h
  obtain ⟨rfl, rfl⟩ := Prod.mk.injEq .. ▸ hx
  obtain ⟨hadmits, before, after, hpending, hbefore⟩ := List.find?_eq_some_iff_append.mp hfind
  have hbefore : ∀ x ∈ before, ¬ Selector.admits filter x.message = true := by
    simpa using hbefore
  have herased : s.pending.eraseP (fun e => Selector.admits filter e.message) =
      before ++ after := by
    rw [hpending, List.eraseP_append_right _ (by simpa using hbefore)]
    simp [hadmits]
  exact ⟨before, after, hpending, by simpa using hbefore, hadmits, by rw [herased]⟩

theorem Store.purge_eq_self {now : Int64} {s : Store}
    (h : ∀ e ∈ s.pending, e.message.isExpired now = false) : s.purge now = s := by
  have hall : s.pending.filter (fun e => !e.message.isExpired now) = s.pending := by
    refine List.filter_eq_self.mpr fun e he => ?_
    rw [h e he]
    rfl
  rw [Store.purge, hall]

namespace Provider

/-! ## Checks -/

section Checks

variable {α β : Type} {r : Except Error α} {w : Provider} {f : α → Outcome β}

theorem check_elim {P : Outcome β → Prop} (herror : ∀ e, P (.error e, w)) (hok : ∀ a, P (f a)) :
    P (check r w f) := by
  cases r with
  | error e => exact herror e
  | ok a => exact hok a

theorem check_of_error {e : Error} (h : r = .error e) (f : α → Outcome β) :
    check r w f = (.error e, w) := by
  rw [h]
  rfl

theorem eq_ok_of_check {w' : Provider} {b : β} (h : check r w f = (.ok b, w')) :
    ∃ a, r = .ok a ∧ f a = (.ok b, w') := by
  cases r with
  | error e => cases h
  | ok a => exact ⟨a, rfl, h⟩

end Checks

/-! ## Open connections and sessions -/

theorem openConnection_eq_ok {c : ConnectionId} {w : Provider} {x : Connection} :
    w.openConnection c = .ok x ↔ w.connections[c]? = some x ∧ x.state ≠ .closed := by
  unfold openConnection
  cases w.connections[c]? with
  | none => simp
  | some y => grind

theorem openSession_eq_ok {s : SessionId} {w : Provider} {session : Session}
    {connection : Connection} :
    w.openSession s = .ok (session, connection) ↔
      w.sessions[s]? = some session ∧ session.closed = false ∧
        w.openConnection session.connection = .ok connection := by
  unfold openSession
  cases w.sessions[s]? with
  | none => simp
  | some y => cases h : w.openConnection y.connection <;> grind [Except.map]

theorem openSession_congr {w w' : Provider} (hsessions : w'.sessions = w.sessions)
    (hconnections : w'.connections = w.connections) (s : SessionId) :
    w'.openSession s = w.openSession s := by
  unfold openSession openConnection
  rw [hsessions, hconnections]

theorem openTransaction_eq_ok {s : SessionId} {w : Provider} {session : Session}
    {connection : Connection} :
    w.openTransaction s = .ok (session, connection) ↔
      w.openSession s = .ok (session, connection) ∧ session.mode = .transacted := by
  unfold openTransaction
  cases w.openSession s with
  | error e => simp [bind, Except.bind]
  | ok x =>
    simp only [bind, Except.bind, pure, Except.pure, throw, throwThe, MonadExceptOf.throw]
    grind

theorem openTransaction_of_error {s : SessionId} {w : Provider} {e : Error}
    (h : w.openSession s = .error e) : w.openTransaction s = .error e := by
  unfold openTransaction
  rw [h]
  rfl

theorem isStarted_iff {s : SessionId} {w : Provider} :
    w.isStarted s = true ↔ ∃ x, w.connectionOf s = some x ∧ x.state = .started := by
  unfold isStarted
  cases w.connectionOf s <;> simp

/-! ## Updated parts -/

theorem storeAt_updateStore (s t : StoreId) (f : Store → Store) (w : Provider) :
    (w.updateStore s f).storeAt t =
      if s = t ∧ s < w.stores.length then f (w.storeAt s) else w.storeAt t := by
  unfold storeAt updateStore
  by_cases hst : s = t
  · subst hst
    by_cases hs : s < w.stores.length
    · simp [hs]
    · simp [hs]
  · simp [hst, List.getElem?_modify_ne f _ hst]

theorem storeAt_addStore (s : StoreId) (w : Provider) : w.addStore.2.storeAt s = w.storeAt s := by
  unfold storeAt addStore
  by_cases hs : s < w.stores.length
  · simp [List.getElem?_append_left hs]
  · have hs : w.stores.length ≤ s := Nat.le_of_not_lt hs
    rw [List.getElem?_eq_none hs, List.getElem?_append_right hs]
    cases s - w.stores.length <;> rfl

theorem brokerAt_updateBroker (b b' : BrokerId) (f : Broker → Broker) (w : Provider) :
    (w.updateBroker b f).brokerAt b' =
      if b = b' ∧ b < w.brokers.length then f (w.brokerAt b) else w.brokerAt b' := by
  unfold brokerAt updateBroker
  by_cases hbb : b = b'
  · subst hbb
    by_cases hb : b < w.brokers.length
    · simp [hb]
    · simp [hb]
  · simp [hbb, List.getElem?_modify_ne f _ hbb]

section Modified

variable {b b' : BrokerId} {f : Broker → Broker} {w w' : Provider}

theorem brokerAt_of_modify (h : w'.brokers = w.brokers.modify b f) (hb : b < w.brokers.length) :
    w'.brokerAt b = f (w.brokerAt b) := by
  unfold brokerAt
  rw [h, List.getElem?_modify_eq]
  simp [hb]

theorem brokerAt_of_modify_ne (h : w'.brokers = w.brokers.modify b f) (hb : b ≠ b') :
    w'.brokerAt b' = w.brokerAt b' := by
  unfold brokerAt
  rw [h, List.getElem?_modify_ne _ _ hb]

end Modified

theorem brokerAt_modify_frame {α : Type} {g : Broker → α} {b : BrokerId} {f : Broker → Broker}
    {w w' : Provider} (hw : w'.brokers = w.brokers.modify b f) (hf : ∀ x, g (f x) = g x)
    (b' : BrokerId) : g (w'.brokerAt b') = g (w.brokerAt b') := by
  unfold brokerAt
  rw [hw, List.getElem?_modify]
  by_cases hb : b = b'
  · subst hb
    cases w.brokers[b]? <;> simp [hf]
  · simp [hb]

theorem brokerAt_concat_frame {α : Type} {g : Broker → α} {x : Broker} {w w' : Provider}
    (hw : w'.brokers = w.brokers ++ [x]) (hx : g x = g { name := "" }) (b : BrokerId) :
    g (w'.brokerAt b) = g (w.brokerAt b) := by
  unfold brokerAt
  rw [hw]
  by_cases hb : b < w.brokers.length
  · rw [List.getElem?_append_left hb]
  · have hb : w.brokers.length ≤ b := Nat.le_of_not_lt hb
    rw [List.getElem?_append_right hb, List.getElem?_eq_none hb]
    cases b - w.brokers.length with
    | zero => exact hx
    | succ n => rfl

/-- A reading of a store that changes only its part is a reading of what is there. -/
theorem updateStore_const (s : StoreId) (f : Store → Store) (w : Provider) :
    (w.updateStore s fun _ => f (w.storeAt s)) = w.updateStore s f := by
  unfold updateStore storeAt
  congr 1
  apply List.ext_getElem?
  intro i
  by_cases hi : s = i
  · subst hi
    cases h : w.stores[s]? <;> simp [h]
  · simp [List.getElem?_modify_ne _ _ hi]

theorem brokerAt_mem {b : BrokerId} {w : Provider} (hb : b < w.brokers.length) :
    w.brokerAt b ∈ w.brokers := by
  simp [brokerAt, hb]

theorem lt_of_queue? {b : BrokerId} {w : Provider} {d : Destination} {s : StoreId}
    (h : (w.brokerAt b).queue? d = some s) : b < w.brokers.length := by
  by_contra hb
  simp [brokerAt, hb, Broker.queue?] at h

theorem lt_of_durable? {b : BrokerId} {w : Provider} {key : DurableKey} {d : Durable}
    (h : (w.brokerAt b).durable? key = some d) : b < w.brokers.length := by
  by_contra hb
  simp [brokerAt, hb, Broker.durable?] at h

/-! ## Durable subscriptions and their stores -/

theorem durableStore_eq_ok {b : BrokerId} {key : DurableKey} {topic : Destination}
    {selector : Option Selector} {w next : Provider} {store : StoreId}
    (h : w.durableStore b key topic selector = (.ok store, next)) :
    (store = w.stores.length ∧ next = w.addStore.2 ∧
        ∀ d, (w.brokerAt b).durable? key = some d →
          d.active = false ∧ ¬ (d.topic = topic ∧ d.source = selector.map (·.source))) ∨
      (next = w ∧ ∃ d, (w.brokerAt b).durable? key = some d ∧ d.active = false ∧
        d.topic = topic ∧ d.source = selector.map (·.source) ∧ store = d.store) := by
  unfold durableStore at h
  split at h
  next hnone =>
    obtain ⟨hstore, rfl⟩ := Prod.mk.injEq .. ▸ h
    exact .inl ⟨(Except.ok.inj hstore).symm, rfl, by simp [hnone]⟩
  next d hd =>
    split at h
    next => simp at h
    next hinactive =>
      have hinactive : d.active = false := by simpa using hinactive
      split at h
      next hsame =>
        obtain ⟨hstore, rfl⟩ := Prod.mk.injEq .. ▸ h
        exact .inr ⟨rfl, d, hd, hinactive, hsame.1, hsame.2, (Except.ok.inj hstore).symm⟩
      next hother =>
        obtain ⟨hstore, rfl⟩ := Prod.mk.injEq .. ▸ h
        refine .inl ⟨(Except.ok.inj hstore).symm, rfl, ?_⟩
        intro d' hd'
        rw [hd] at hd'
        cases hd'
        exact ⟨hinactive, hother⟩

theorem durableStore_frame {b : BrokerId} {key : DurableKey} {topic : Destination}
    {selector : Option Selector} {w next : Provider} {store : StoreId}
    (h : w.durableStore b key topic selector = (.ok store, next)) :
    ∃ stores, next = { w with stores } := by
  rcases durableStore_eq_ok h with ⟨-, rfl, -⟩ | ⟨rfl, -⟩ <;> exact ⟨_, rfl⟩

/-! ## Sending -/

theorem checkSend_eq_ok {producer : Producer} {requested : Option Destination} {q : Quality}
    {d : Destination} (h : checkSend producer requested q = .ok d) :
    producer.closed = false ∧ resolve producer.destination requested = .ok d ∧ q.Allowed := by
  unfold checkSend at h
  cases hd : resolve producer.destination requested with
  | error e => simp [hd, bind, Except.bind] at h
  | ok d' =>
      simp only [hd, bind, Except.bind] at h
      cases hclosed : producer.closed with
      | true => simp [hclosed, throw, throwThe, MonadExceptOf.throw] at h
      | false =>
          simp only [hclosed, Bool.false_eq_true, if_false, pure, Except.pure] at h
          by_cases hpriority : 0 ≤ q.priority ∧ q.priority ≤ 9
          · by_cases hlife : q.timeToLive < 0
            · simp [checkPriority, checkTimeToLive, hpriority, hlife] at h
            · obtain rfl : d' = d := by
                simpa [checkPriority, checkTimeToLive, hpriority, hlife] using h
              exact ⟨rfl, rfl, hpriority, by simpa using hlife⟩
          · simp [checkPriority, hpriority] at h

theorem prepare_eq_ok {p : ProducerId} {requested : Option Destination} {q : Quality}
    {m m' : Message} {w : Provider} {producer : Producer} {d : Destination}
    (h : w.prepare p requested q m = .ok (producer, d, m')) :
    w.producers[p]? = some producer ∧ producer.closed = false ∧
      resolve producer.destination requested = .ok d ∧ q.Allowed ∧
      ∃ id, m' = stamp d q producer.config w.now id m := by
  unfold prepare at h
  cases hp : w.producers[p]? with
  | none => simp [hp] at h
  | some x =>
      simp only [hp] at h
      split at h
      next => cases h
      next d' _ _ hchecked _ _ =>
        obtain ⟨rfl, rfl, rfl⟩ : x = producer ∧ d' = d ∧ _ = m' := by simpa using h
        obtain ⟨hopen, hresolved, hallowed⟩ := checkSend_eq_ok hchecked
        exact ⟨rfl, hopen, hresolved, hallowed, _, rfl⟩
      next => cases h

theorem countSend_frame (p : ProducerId) (producer : Producer) (w : Provider) :
    ∃ producers, w.countSend p producer = { w with producers } := by
  unfold countSend
  split <;> exact ⟨_, rfl⟩

/-! ## Handing out -/

theorem deliver_of_open {s : SessionId} {session : Session} (hopen : session.closed = false)
    (store : StoreId) (e : Envelope) (w : Provider) :
    (w.deliver s session store e).2 =
      if session.mode.isTracked then
        w.updateSession s fun x =>
          { x with
            nextTag := session.nextTag + 1
            delivered := x.delivered ++ [⟨session.nextTag, store, e⟩] }
      else w := by
  unfold deliver
  cases session.mode.isTracked <;> simp [hopen]

end Provider

end Messaging
