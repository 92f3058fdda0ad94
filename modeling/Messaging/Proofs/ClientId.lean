import Messaging.Proofs.Run.Enrolment
import Messaging.Proofs.Run.Lineage

/-!
# Client ids

A broker knows the client ids of the open connections at it, and these all differ.  A connection
can choose another client id once, before it is used and if it was opened without one; so all its
durable subscriptions are known by one client id.
-/

namespace Messaging

def Operation.subscriber? : Operation → Option SessionId
  | .createDurableConsumer s _ _ _ _ | .unsubscribe s _ => some s
  | _ => none

def Step.subscribes (key : DurableKey) (x : Step) : Prop :=
  (∃ a, x.attaches? = some a ∧ a.key = key) ∨ ∃ b, x.removes? = some (b, key)

theorem Step.openSession_of_subscribes {key : DurableKey} {x : Step} (h : x.subscribes key) :
    ∃ s session connection, x.operation.subscriber? = some s ∧
      x.before.openSession s = .ok (session, connection) ∧ connection.clientId = key.clientId := by
  obtain ⟨op, w⟩ := x
  rcases h with ⟨a, ha, rfl⟩ | ⟨b, hb⟩
  · unfold Step.attaches? at ha
    split at ha
    next s topic name text noLocal hop =>
      subst hop
      split at ha
      next session connection selector c hopen _ _ =>
        obtain rfl := Option.some.inj ha
        exact ⟨s, session, connection, rfl, hopen, rfl⟩
      next => cases ha
    next => cases ha
  · unfold Step.removes? at hb
    split at hb
    next s name hop =>
      subst hop
      split at hb
      next session connection _ hopen _ =>
        obtain ⟨-, rfl⟩ := Prod.mk.inj (Option.some.inj hb)
        exact ⟨s, session, connection, rfl, hopen, rfl⟩
      next => cases hb
    next => cases hb

namespace Provider

/-- The client id of a connection, or the last that it had if it is closed. -/
def clientIdOf (c : ConnectionId) (w : Provider) : Option String :=
  w.connections[c]?.map (·.clientId)

/-! ## Connecting -/

theorem findBroker_frame (u : BrokerUri) (w : Provider) :
    (w.findBroker u).2.connections = w.connections ∧
      ∀ b, ((w.findBroker u).2.brokerAt b).clientIds = (w.brokerAt b).clientIds := by
  unfold findBroker
  cases w.running.lookup u.broker with
  | some b => exact ⟨rfl, fun _ => rfl⟩
  | none =>
      cases u.create with
      | false => exact ⟨rfl, fun _ => rfl⟩
      | true =>
          refine ⟨rfl, ?_⟩
          exact brokerAt_concat_frame (g := (·.clientIds))
            (x := { name := u.broker, credentials := u.credentials }) rfl rfl

section AnyLabels

variable [Labels]

inductive Connects (w : Provider) (chosen : Option String) : Outcome ConnectionId → Prop where
  | refused (e : Error) (next : Provider) (hconnections : next.connections = w.connections)
      (hids : ∀ b, (next.brokerAt b).clientIds = (w.brokerAt b).clientIds) :
      Connects w chosen (.error e, next)
  | opened (x : Connection) (next : Provider)
      (hconnections : next.connections = w.connections ++ [x])
      (hid : ∀ id, chosen = some id → x.clientId = id ∧ x.clientIdFixed = true) :
      Connects w chosen (.ok w.connections.length, next)

theorem connects (f : ConnectionFactory) (username password : String) (clientId : Option String)
    (w : Provider) :
    Connects w (clientId <|> f.uri.clientId) (w.connectWith f username password clientId) := by
  obtain ⟨hconnections, hids⟩ := findBroker_frame f.uri w
  unfold connectWith
  cases hfound : w.findBroker f.uri with
  | mk r next =>
      rw [hfound] at hconnections hids
      cases r with
      | error e => exact .refused e next hconnections hids
      | ok b =>
          refine check_elim (fun e => .refused e next hconnections hids) fun _ => ?_
          refine check_elim (fun e => .refused e _ hconnections hids) fun label => ?_
          refine check_elim (fun e => .refused e _ hconnections hids) fun _ => ?_
          change next.connections = w.connections at hconnections
          dsimp only [updateBroker]
          rw [hconnections]
          refine .opened _ _ rfl fun id hid => ?_
          simp [hid]

theorem connectWith_of_error {f : ConnectionFactory} {username password : String}
    {clientId : Option String} {w : Provider} {e : Error}
    (h : (w.connectWith f username password clientId).1 = .error e) :
    (w.connectWith f username password clientId).2.connections = w.connections ∧
      ∀ b, ((w.connectWith f username password clientId).2.brokerAt b).clientIds =
        (w.brokerAt b).clientIds := by
  have hconnects := connects f username password clientId w
  generalize connectWith f username password clientId w = r at *
  cases hconnects with
  | refused e next hconnections hids => exact ⟨hconnections, hids⟩
  | opened x next => cases h

theorem connectWith_of_chosen {f : ConnectionFactory} {username password id : String}
    {clientId : Option String} {w : Provider} {c : ConnectionId}
    (h : (w.connectWith f username password clientId).1 = .ok c)
    (hid : (clientId <|> f.uri.clientId) = some id) :
    ∃ x, (w.connectWith f username password clientId).2.connections[c]? = some x ∧
      x.clientId = id ∧ x.clientIdFixed = true := by
  have hconnects := connects f username password clientId w
  generalize connectWith f username password clientId w = r at *
  cases hconnects with
  | refused e next => cases h
  | opened x next hconnections hchosen =>
      obtain rfl := Except.ok.inj h
      exact ⟨x, by simp [hconnections], hchosen id hid⟩

/-! ## Choosing -/

section Choosing

variable {w : Provider} {c : ConnectionId}

omit [Labels] in
theorem setClientId_of_error {id : String} {e : Error} :
    (w.setClientId c id).1 = .error e → (w.setClientId c id).2 = w := by
  refine check_elim (P := fun o => o.1 = .error e → o.2 = w) (fun _ _ => rfl) fun x => ?_
  split
  · exact fun _ => rfl
  · refine check_elim (P := fun o => o.1 = .error e → o.2 = w) (fun _ _ => rfl) fun _ h => ?_
    cases h

theorem clientIdOf_run (hw : w.Coherent) {x : Connection} (hx : w.connections[c]? = some x)
    (hfixed : x.clientIdFixed = true) (later : List Operation) :
    (w.run later).clientIdOf c = some x.clientId := by
  obtain ⟨y, hy, hcontinues⟩ := (stands_run hw later).connections c x hx
  rw [clientIdOf, hy, Option.map_some, hcontinues.clientId_of_fixed hfixed]

theorem clientIdOf_use {x : Connection} {f : Connection → Connection} {w' : Provider}
    (hw' : w'.Coherent) (hopen : w.openConnection c = .ok x)
    (hconnections : w'.connections = w.connections.modify c f) (hid : (f x).clientId = x.clientId)
    (hfixed : (f x).clientIdFixed = true) (later : List Operation) :
    (w'.run later).clientIdOf c = w.clientIdOf c := by
  have hc := (openConnection_eq_ok.mp hopen).1
  have hused : w'.connections[c]? = some (f x) := by
    rw [hconnections, List.getElem?_modify_eq, hc]
    rfl
  rw [clientIdOf_run hw' hused hfixed later, hid, clientIdOf, hc]
  rfl

theorem clientIdOf_start (hw : w.Coherent) (hok : (w.start c).1 = .ok ())
    (later : List Operation) : ((w.start c).2.run later).clientIdOf c = w.clientIdOf c := by
  have hw' : (w.start c).2.Coherent := hw.step (.start c)
  unfold start at hok hw' ⊢
  cases hopen : w.openConnection c with
  | error e => simp [check, hopen] at hok
  | ok x =>
      simp only [hopen, check] at hw' ⊢
      exact clientIdOf_use hw' hopen rfl rfl rfl later

theorem clientIdOf_createSession (hw : w.Coherent) {mode : AckMode} {s : SessionId}
    (hok : (w.createSession c mode).1 = .ok s) (later : List Operation) :
    ((w.createSession c mode).2.run later).clientIdOf c = w.clientIdOf c := by
  have hw' : (w.createSession c mode).2.Coherent := hw.step (.createSession c mode)
  unfold createSession at hok hw' ⊢
  cases hopen : w.openConnection c with
  | error e => simp [check, hopen] at hok
  | ok x =>
      simp only [hopen, check] at hw' ⊢
      exact clientIdOf_use hw' hopen rfl rfl rfl later

end Choosing

structure Identified (ops : List Operation) : Prop where
  clients : ∀ b, ((run ops {}).brokerAt b).clientIds.Perm ((run ops {}).clientsAt b)
  distinct : ∀ {i j : ConnectionId} {x y : Connection}, (run ops {}).connections[i]? = some x →
    (run ops {}).connections[j]? = some y → x.state ≠ .closed → y.state ≠ .closed →
    x.broker = y.broker → x.clientId = y.clientId → i = j
  named : ∀ x ∈ (run ops {}).connections, x.state ≠ .closed → x.clientId ≠ ""
  refused : ∀ f username password clientId e,
    ((run ops {}).connectWith f username password clientId).1 = .error e →
    (run (ops ++ [.connect f username password clientId]) {}).connections =
      (run ops {}).connections ∧
    ∀ b, ((run (ops ++ [.connect f username password clientId]) {}).brokerAt b).clientIds =
      ((run ops {}).brokerAt b).clientIds
  denied : ∀ c id e, ((run ops {}).setClientId c id).1 = .error e →
    run (ops ++ [.setClientId c id]) {} = run ops {}
  once : ∀ c, c < (run ops {}).connections.length → ∀ later even,
    (run (ops ++ later) {}).clientIdOf c ≠ (run ops {}).clientIdOf c →
    (run (ops ++ later ++ even) {}).clientIdOf c = (run (ops ++ later) {}).clientIdOf c
  given : ∀ f username password clientId c id,
    ((run ops {}).connectWith f username password clientId).1 = .ok c →
    (clientId <|> f.uri.clientId) = some id → ∀ later,
    (run (ops ++ .connect f username password clientId :: later) {}).clientIdOf c = some id
  started : ∀ c, ((run ops {}).start c).1 = .ok () → ∀ later,
    (run (ops ++ .start c :: later) {}).clientIdOf c = (run ops {}).clientIdOf c
  used : ∀ c mode s, ((run ops {}).createSession c mode).1 = .ok s → ∀ later,
    (run (ops ++ .createSession c mode :: later) {}).clientIdOf c = (run ops {}).clientIdOf c
  consumers : ∀ x ∈ (run ops {}).consumers, ∀ key noLocal, x.source = .durable key noLocal →
    ∃ session, (run ops {}).sessions[x.session]? = some session ∧
      (run ops {}).clientIdOf session.connection = some key.clientId
  keys : ∀ x ∈ trace ops {}, ∀ key, x.subscribes key →
    ∃ s session, x.operation.subscriber? = some s ∧ (run ops {}).sessions[s]? = some session ∧
      (run ops {}).clientIdOf session.connection = some key.clientId

section Runs

variable (ops : List Operation)

theorem clientAt_ne_empty {x : Connection} (hx : x ∈ (run ops {}).connections)
    (hopen : x.state ≠ .closed) : x.clientId ≠ "" := by
  intro hempty
  have hn := enrolled_run ops
  refine hn.named x.broker ((hn.clients x.broker).mem_iff.mpr ?_)
  exact hempty ▸ List.mem_filterMap.mpr ⟨x, hx, clientAt_of_open rfl hopen⟩

theorem place_eq_of_clientId {i j : ConnectionId} {x y : Connection}
    (hx : (run ops {}).connections[i]? = some x) (hy : (run ops {}).connections[j]? = some y)
    (hxopen : x.state ≠ .closed) (hyopen : y.state ≠ .closed) (hbroker : x.broker = y.broker)
    (hid : x.clientId = y.clientId) : i = j := by
  have hn := enrolled_run ops
  have hdistinct := (hn.clients x.broker).nodup_iff.mp (hn.distinct x.broker)
  refine place_eq_of_nodup_filterMap hdistinct hx hy (clientAt_of_open rfl hxopen) ?_
  exact hid ▸ clientAt_of_open hbroker.symm hyopen

theorem clientIdOf_session {first : List Operation} {s : SessionId} {session : Session}
    {connection : Connection} (hopen : (run first {}).openSession s = .ok (session, connection))
    (second : List Operation) :
    ∃ session', (run (first ++ second) {}).sessions[s]? = some session' ∧
      (run (first ++ second) {}).clientIdOf session'.connection = some connection.clientId := by
  have hw := coherent_run first
  obtain ⟨hs, -, hc⟩ := openSession_eq_ok.mp hopen
  obtain ⟨x, hx, hfixed⟩ := (keyed_run first).sessions session (List.mem_of_getElem? hs)
  obtain rfl : connection = x := Option.some.inj ((openConnection_eq_ok.mp hc).1.symm.trans hx)
  obtain ⟨session', hs', hstays⟩ := (stands_run hw second).sessions s session hs
  have hmaker : session'.connection = session.connection := hstays.maker
  rw [run_append]
  exact ⟨session', hs', hmaker ▸ clientIdOf_run hw hx hfixed second⟩

theorem clientIdOf_once {c : ConnectionId} (hc : c < (run ops {}).connections.length)
    (later even : List Operation)
    (hchanged : (run (ops ++ later) {}).clientIdOf c ≠ (run ops {}).clientIdOf c) :
    (run (ops ++ later ++ even) {}).clientIdOf c = (run (ops ++ later) {}).clientIdOf c := by
  have hx := List.getElem?_eq_getElem hc
  obtain ⟨y, hy, hcontinues⟩ := (stands_run (coherent_run ops) later).connections c _ hx
  rw [← run_append] at hy
  have hnow : (run (ops ++ later) {}).clientIdOf c = some y.clientId := by simp [clientIdOf, hy]
  rcases hcontinues.clientId with hid | ⟨-, hfixed⟩
  · simp [clientIdOf, hy, hx, hid] at hchanged
  · rw [run_append (ops ++ later), hnow]
    exact clientIdOf_run (coherent_run (ops ++ later)) hy hfixed even

theorem clientIdOf_consumer {x : Consumer} (hx : x ∈ (run ops {}).consumers) {key : DurableKey}
    {noLocal : Bool} (hkey : x.source = .durable key noLocal) :
    ∃ session, (run ops {}).sessions[x.session]? = some session ∧
      (run ops {}).clientIdOf session.connection = some key.clientId := by
  obtain ⟨y, hy, hid⟩ := (keyed_run ops).consumers x hx key noLocal hkey
  obtain ⟨session, hs, hc⟩ := Option.bind_eq_some_iff.mp hy
  exact ⟨session, hs, by simp [clientIdOf, hc, hid]⟩

theorem clientIdOf_subscriber {x : Step} (hx : x ∈ trace ops {}) {key : DurableKey}
    (hkey : x.subscribes key) :
    ∃ s session, x.operation.subscriber? = some s ∧ (run ops {}).sessions[s]? = some session ∧
      (run ops {}).clientIdOf session.connection = some key.clientId := by
  obtain ⟨first, second, rfl, hbefore⟩ := exists_of_mem_trace hx
  obtain ⟨s, session, connection, hs, hopen, hid⟩ := Step.openSession_of_subscribes hkey
  rw [hbefore] at hopen
  obtain ⟨session', hs', hnow⟩ := clientIdOf_session hopen (x.operation :: second)
  exact ⟨s, session', hs, hs', hid ▸ hnow⟩

end Runs

/-- After every run, client ids are exact and stable. -/
theorem identified (ops : List Operation) : Identified ops := by
  have hw := coherent_run ops
  have hstep : ∀ op later, run (ops ++ op :: later) {} = ((run ops {}).step op).run later :=
    fun op later => run_append ops (op :: later) {}
  refine ⟨(enrolled_run ops).clients, place_eq_of_clientId ops,
    fun x hx => clientAt_ne_empty ops hx, ?_, ?_, fun c hc => clientIdOf_once ops hc, ?_, ?_, ?_,
    fun x hx key noLocal => clientIdOf_consumer ops hx,
    fun x hx key => clientIdOf_subscriber ops hx⟩
  · intro f username password clientId e herror
    rw [hstep]
    exact connectWith_of_error herror
  · intro c id e herror
    rw [hstep]
    exact setClientId_of_error herror
  · intro f username password clientId c id hok hid later
    obtain ⟨x, hx, rfl, hfixed⟩ := connectWith_of_chosen hok hid
    rw [hstep]
    exact clientIdOf_run (hw.step (.connect f username password clientId)) hx hfixed later
  · intro c hok later
    rw [hstep]
    exact clientIdOf_start hw hok later
  · intro c mode s hok later
    rw [hstep]
    exact clientIdOf_createSession hw hok later

end AnyLabels

def host : ConnectionFactory := ⟨{ text := "vm://local", broker := "local" }, "", ""⟩

def twoClients : List Operation :=
  [.connect host "" "" none, .connect host "" "" (some "second"), .setClientId 0 "first",
    .createSession 0 .auto, .createDurableConsumer 0 ⟨.topic, "news"⟩ "name" none false]

theorem identified_twoClients :
    ((run twoClients {}).brokerAt 0).clientIds.Perm ["first", "second"] ∧
    ((run twoClients {}).clientsAt 0).Perm ["first", "second"] ∧
    (∀ b, ((run (twoClients ++ [.connect host "" "" (some "first")]) {}).brokerAt b).clientIds =
      ((run twoClients {}).brokerAt b).clientIds) ∧
    run (twoClients ++ [.setClientId 0 "third"]) {} = run twoClients {} ∧
    ∀ later, (run ([.connect host "" "" none] ++ .connect host "" "" (some "second") :: later)
      {}).clientIdOf 1 = some "second" := by
  have hall := identified twoClients
  have hids : ((run twoClients {}).brokerAt 0).clientIds.Perm ["first", "second"] := by
    decide +kernel
  refine ⟨hids, (hall.clients 0).symm.trans hids, ?_, ?_, ?_⟩
  · exact (hall.refused host "" "" (some "first") (.clientIdInUse "first") (by decide +kernel)).2
  · exact hall.denied 0 "third" .clientIdFixed (by decide +kernel)
  · exact (identified [.connect host "" "" none]).given host "" "" (some "second") 1 "second"
      (by decide +kernel) rfl

end Provider

end Messaging
