import Messaging.Proofs.Run.Tenancy

/-!
# Temporary destinations

What a broker keeps for temporary destinations, it keeps for live ones, each of which belongs to
one open connection that alone consumes from it.  Once the owner is closed, nobody gets anything
there or from there, and no later destination is the same, whatever labels the connections get.
-/

namespace Messaging.Provider

/-- A call that fails and changes nothing. -/
def Refused {α : Type} (w : Provider) (o : Outcome α) : Prop := ∃ e, o = (.error e, w)

/-- Nobody can send to a destination any more, nor open anything on it. -/
structure Deserted (d : Destination) (w : Provider) : Prop where
  publish : ∀ b m origin, w.publish b d m origin = (.error (.deleted d), w)
  /-- A send stores nothing, and fails unless its transaction keeps the message. -/
  send : ∀ p requested q m producer m', w.prepare p requested q m = .ok (producer, d, m') →
    (w.send p requested q m).2.stores = w.stores ∧
    (w.send p requested q m).2.brokers = w.brokers ∧
    (w.isOpen producer.session = true → w.isTransacted producer.session = false →
      (w.send p requested q m).1.result = .error (.deleted d))
  /-- A commit stores what it would store without the sends to the destination. -/
  commit : ∀ s session connection, w.openTransaction s = .ok (session, connection) →
    (w.commit s).2 =
      ((w.updateSession s ({ · with buffered := [], delivered := [] })).publishAll
        connection.broker session.connection (session.buffered.filter (·.1 != d))).2 ∧
    (d ∈ session.buffered.map (·.1) →
      ∃ e, (w.commit s).1 = .error e ∧ e.kind = .invalidDestination)
  consumer : ∀ s selector noLocal, Refused w (w.createConsumer s d selector noLocal)
  durable : ∀ s name selector noLocal, Refused w (w.createDurableConsumer s d name selector noLocal)
  browser : ∀ s selector, Refused w (w.createBrowser s d selector)

/-! ## Destinations without owners -/

section Dead

variable {w : Provider} {d : Destination}

theorem publish_of_dead {b : BrokerId} (hdead : (w.brokerAt b).isLive d = false) (m : Message)
    (origin : ConnectionId) : w.publish b d m origin = (.error (.deleted d), w) := by
  simp [publish, hdead]

theorem publishAll_filter {b : BrokerId} (hb : b < w.brokers.length)
    (hdead : (w.brokerAt b).isLive d = false) (origin : ConnectionId)
    (sends : List (Destination × Message)) :
    (w.publishAll b origin sends).2 = (w.publishAll b origin (sends.filter (·.1 != d))).2 := by
  induction sends generalizing w with
  | nil => rfl
  | cons x sends ih =>
      obtain ⟨d', m⟩ := x
      by_cases hd : d' = d
      · subst hd
        rw [publishAll_cons, publish_of_dead hdead, List.filter_cons_of_neg (by simp)]
        exact ih hb hdead
      · rw [List.filter_cons_of_pos (by simpa using hd), publishAll_cons, publishAll_cons]
        refine ih (by rwa [length_brokers_publish hb]) ?_
        rw [brokerAt_publish hb, (extends_ready d' b).isLive]
        exact hdead

theorem checkConsumable_of_dead {b : Broker} (hdead : b.isLive d = false) (c : ConnectionId) :
    ∃ e, b.checkConsumable d c = .error e := by
  cases h : b.checkConsumable d c with
  | error e => exact ⟨e, rfl⟩
  | ok _ => simp [isLive_of_checkConsumable h] at hdead

theorem createConsumer_of_dead (hdead : ∀ b, (w.brokerAt b).isLive d = false) (s : SessionId)
    (selector : Option String) (noLocal : Bool) :
    Refused w (w.createConsumer s d selector noLocal) := by
  refine check_elim (fun e => ⟨e, rfl⟩) fun x => ?_
  refine check_elim (fun e => ⟨e, rfl⟩) fun selector => ?_
  obtain ⟨e, he⟩ := checkConsumable_of_dead (hdead x.2.broker) x.1.connection
  exact ⟨e, check_of_error he _⟩

theorem createDurableConsumer_of_temporary (hd : d.isTemporary = true) (s : SessionId)
    (name : String) (selector : Option String) (noLocal : Bool) :
    Refused w (w.createDurableConsumer s d name selector noLocal) := by
  have hkind : d.kind ≠ .topic := by
    intro h
    rw [Destination.isTemporary, h] at hd
    cases hd
  refine check_elim (fun e => ⟨e, rfl⟩) fun _ => ?_
  exact check_elim (fun e => ⟨e, rfl⟩) fun _ => ⟨_, if_pos hkind⟩

theorem createBrowser_of_dead (hdead : ∀ b, (w.brokerAt b).isLive d = false) (s : SessionId)
    (selector : Option String) : Refused w (w.createBrowser s d selector) := by
  refine check_elim (fun e => ⟨e, rfl⟩) fun x => ?_
  refine check_elim (fun e => ⟨e, rfl⟩) fun selector => ?_
  dsimp only
  split
  next => exact ⟨_, rfl⟩
  next =>
    obtain ⟨e, he⟩ := checkConsumable_of_dead (hdead x.2.broker) x.1.connection
    exact ⟨e, check_of_error he _⟩

theorem send_of_dead (hdead : ∀ b, (w.brokerAt b).isLive d = false) {p : ProducerId}
    {requested : Option Destination} {q : Quality} {m m' : Message} {producer : Producer}
    (hprepared : w.prepare p requested q m = .ok (producer, d, m')) :
    (w.send p requested q m).2.stores = w.stores ∧
      (w.send p requested q m).2.brokers = w.brokers ∧
      (w.isOpen producer.session = true → w.isTransacted producer.session = false →
        (w.send p requested q m).1.result = .error (.deleted d)) := by
  obtain ⟨producers, hcount⟩ := countSend_frame p producer w
  have hopen : (w.countSend p producer).openSession producer.session =
      w.openSession producer.session := openSession_countSend p producer producer.session w
  simp only [send, hprepared, hcount] at hopen ⊢
  unfold sendThrough check
  rw [hopen]
  cases hsession : w.openSession producer.session with
  | error e =>
      refine ⟨rfl, rfl, fun hisOpen => ?_⟩
      simp [isOpen, hsession, Except.isOk, Except.toBool] at hisOpen
  | ok x =>
      obtain ⟨session, connection⟩ := x
      dsimp only
      split
      next hmode =>
        refine ⟨rfl, rfl, fun _ hplain => ?_⟩
        simp [isTransacted, (openSession_eq_ok.mp hsession).1, hmode] at hplain
      next =>
        rw [publish_of_dead (w := { w with producers }) (hdead connection.broker)]
        exact ⟨rfl, rfl, fun _ _ => rfl⟩

theorem commit_of_dead (hw : w.Grounded) (hdead : ∀ b, (w.brokerAt b).isLive d = false)
    {s : SessionId} {session : Session} {connection : Connection}
    (hopen : w.openTransaction s = .ok (session, connection)) :
    (w.commit s).2 =
        ((w.updateSession s ({ · with buffered := [], delivered := [] })).publishAll
          connection.broker session.connection (session.buffered.filter (·.1 != d))).2 ∧
      (d ∈ session.buffered.map (·.1) →
        ∃ e, (w.commit s).1 = .error e ∧ e.kind = .invalidDestination) := by
  have hb : connection.broker < w.brokers.length :=
    hw.lt_of_openSession (openTransaction_eq_ok.mp hopen).1
  have hcommit : w.commit s =
      (w.updateSession s ({ · with buffered := [], delivered := [] })).publishAll
        connection.broker session.connection session.buffered := by
    simp only [commit, hopen, check]
  have hresult := publishAll_result
    (w := w.updateSession s ({ · with buffered := [], delivered := [] })) session.connection hb
    session.buffered
  have hfilter := publishAll_filter
    (w := w.updateSession s ({ · with buffered := [], delivered := [] })) hb
    (hdead connection.broker) session.connection session.buffered
  rw [hcommit]
  refine ⟨hfilter, fun hd => ?_⟩
  obtain ⟨x, hx, rfl⟩ := List.mem_map.mp hd
  rw [hresult]
  split
  next hnone =>
    have hlive : ¬ (!(w.brokerAt connection.broker).isLive x.1) = true :=
      List.find?_eq_none.mp hnone x hx
    rw [hdead] at hlive
    exact absurd rfl hlive
  next => exact ⟨_, rfl, rfl⟩

theorem deserted_of_dead (hw : w.Grounded) (hd : d.isTemporary = true)
    (hdead : ∀ b, (w.brokerAt b).isLive d = false) : Deserted d w where
  publish b m origin := publish_of_dead (hdead b) m origin
  send _ _ _ _ _ _ hprepared := send_of_dead hdead hprepared
  commit _ _ _ hopen := commit_of_dead hw hdead hopen
  consumer := createConsumer_of_dead hdead
  durable := createDurableConsumer_of_temporary hd
  browser := createBrowser_of_dead hdead

end Dead

/-! ## Owners -/

theorem createTemporary_eq_ok {w : Provider} {s : SessionId} {kind : DestinationKind}
    {d : Destination} (h : (w.createTemporary s kind).1 = .ok d) :
    ∃ session connection, w.openSession s = .ok (session, connection) ∧
      d = ⟨kind, s!"{connection.label}:{connection.nextTemporary}"⟩ ∧
      (w.createTemporary s kind).2.brokers =
        w.brokers.modify connection.broker (·.addTemporary d session.connection) := by
  unfold createTemporary check at h ⊢
  cases hopen : w.openSession s with
  | error e => simp [hopen] at h
  | ok x =>
      obtain ⟨session, connection⟩ := x
      simp only [hopen] at h ⊢
      obtain rfl := Except.ok.inj h
      exact ⟨session, connection, rfl, rfl, rfl⟩

theorem createTemporary_ne [Labels] {w : Provider} (hw : w.Tenanted) {d : Destination}
    {c : ConnectionId} (hd : w.Got d c) (s : SessionId) (kind : DestinationKind) :
    (w.createTemporary s kind).1 ≠ .ok d := by
  intro h
  obtain ⟨session, connection, hopen, heq, -⟩ := createTemporary_eq_ok h
  have hc := (openConnection_eq_ok.mp (openSession_eq_ok.mp hopen).2.2).1
  exact hd.name_ne hw hc kind heq

structure Tenancy [Labels] (ops : List Operation) : Prop where
  queues : ∀ b, ∀ q ∈ ((run ops {}).brokerAt b).queues,
    ((run ops {}).brokerAt b).isLive q.1 = true
  topics : ∀ b, ∀ s ∈ ((run ops {}).brokerAt b).attached,
    ((run ops {}).brokerAt b).isLive s.topic = true
  owners : ∀ b, ∀ t ∈ ((run ops {}).brokerAt b).temporaries,
    ∃ x, (run ops {}).connections[t.2]? = some x ∧ x.broker = b ∧ x.state ≠ .closed
  consumers : ∀ b, ∀ t ∈ ((run ops {}).brokerAt b).temporaries, ∀ x ∈ (run ops {}).consumers,
    x.closed = false → x.destination = t.1 →
    ∃ session, (run ops {}).sessions[x.session]? = some session ∧ session.connection = t.2
  issued : ∀ s kind d, ((run ops {}).createTemporary s kind).1 = .ok d →
    ∃ session connection, (run ops {}).openSession s = .ok (session, connection) ∧
      (d, session.connection) ∈
        (((run ops {}).createTemporary s kind).2.brokerAt connection.broker).temporaries
  fresh : ∀ b d c, (d, c) ∈ ((run ops {}).brokerAt b).temporaries → ∀ later s kind,
    ((run (ops ++ later) {}).createTemporary s kind).1 ≠ .ok d
  /-- Without its owner a temporary destination is of no use for ever. -/
  deserted : ∀ b d c, (d, c) ∈ ((run ops {}).brokerAt b).temporaries → ∀ later,
    (run (ops ++ later) {}).connectionClosed c = true → Deserted d (run (ops ++ later) {})

/-- After every run, temporary destinations belong to open connections, and die with them. -/
theorem tenancy [Labels] (ops : List Operation) : Tenancy ops := by
  have hw := settled_run ops
  have hgot : ∀ {b d c}, (d, c) ∈ ((run ops {}).brokerAt b).temporaries → ∀ later,
      (run (ops ++ later) {}).Got d c := by
    intro b d c h later
    rw [run_append]
    exact (got_of_mem hw.tenanted h).run hw.coherent later
  refine ⟨housed_run ops, fun b s hs => isLive_of_attached hw hs, ?_, ?_, ?_, ?_, ?_⟩
  · intro b t ht
    obtain ⟨-, x, n, hx, hb, hstate, -⟩ := hw.tenanted.owned b t ht
    exact ⟨x, hx, hb, hstate⟩
  · intro b t ht x hx hopen hdestination
    have htemporary := (hw.tenanted.owned b t ht).1
    obtain ⟨b', session, hs, hmem⟩ := owner_of_consumer hw hx hopen (hdestination ▸ htemporary)
    refine ⟨session, hs, ?_⟩
    rw [hdestination] at hmem
    exact (got_of_mem hw.tenanted (c := t.2) ht).owner_eq hw.tenanted hmem
  · intro s kind d h
    obtain ⟨session, connection, hopen, -, hbrokers⟩ := createTemporary_eq_ok h
    refine ⟨session, connection, hopen, ?_⟩
    rw [brokerAt_of_modify hbrokers (hw.coherent.grounded.lt_of_openSession hopen)]
    exact List.mem_cons_self
  · intro b d c h later s kind
    exact createTemporary_ne (settled_run (ops ++ later)).tenanted (hgot h later) s kind
  · intro b d c h later hclosed
    have hlater := settled_run (ops ++ later)
    refine deserted_of_dead hlater.coherent.grounded (hgot h later).1 ?_
    exact (hgot h later).not_live hlater.tenanted hclosed

def replies : Destination := ⟨.temporaryQueue, "ID:000000000000000000000001:1"⟩

def lateReply : List Operation :=
  [.connect ⟨{ text := "vm://local", broker := "local" }, "", ""⟩ "" "" none,
    .createSession 0 .auto, .createTemporaryQueue 0,
    .connect ⟨{ text := "vm://local", broker := "local" }, "", ""⟩ "" "" none,
    .createSession 1 .transacted, .createProducer 1 (some replies),
    .send 0 none none (.ofText "reply")]

theorem tenancy_lateReply :
    (replies, 0) ∈ ((run lateReply {}).brokerAt 0).temporaries ∧
    Deserted replies (run (lateReply ++ [.closeConnection 0]) {}) ∧
    (∃ e, ((run (lateReply ++ [.closeConnection 0]) {}).commit 1).1 = .error e ∧
      e.kind = .invalidDestination) ∧
    ∀ s kind, ((run (lateReply ++ [.closeConnection 0]) {}).createTemporary s kind).1 ≠
      .ok replies := by
  have hmem : (replies, 0) ∈ ((run lateReply {}).brokerAt 0).temporaries := by decide +kernel
  have hdeserted := (tenancy lateReply).deserted 0 replies 0 hmem [.closeConnection 0]
    (by decide +kernel)
  have hopen : ∃ x ∈ ((run (lateReply ++ [.closeConnection 0]) {}).openTransaction 1).toOption,
      replies ∈ x.1.buffered.map (·.1) := by decide +kernel
  refine ⟨hmem, hdeserted, ?_, (tenancy lateReply).fresh 0 replies 0 hmem [.closeConnection 0]⟩
  obtain ⟨⟨session, connection⟩, hx, hbuffered⟩ := hopen
  cases h : (run (lateReply ++ [.closeConnection 0]) {}).openTransaction 1 with
  | error e => simp [h, Except.toOption] at hx
  | ok x =>
      obtain rfl : x = (session, connection) := by simpa [h, Except.toOption] using hx
      exact (hdeserted.commit 1 session connection h).2 hbuffered

end Messaging.Provider
