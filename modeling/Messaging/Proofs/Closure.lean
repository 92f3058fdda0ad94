import Messaging.Proofs.Acknowledgement
import Messaging.Proofs.Fidelity
import Messaging.Proofs.Run.Severance
import Messaging.Proofs.Run.Users

/-!
# Closing for good

Closing reaches all that was made from what is closed, and lets go of all that it held.  From then
on no call on it has any effect, and a receive that waits for it comes to nothing.
-/

namespace Messaging

inductive Object where
  | connection (c : ConnectionId)
  | session (s : SessionId)
  | producer (p : ProducerId)
  | consumer (c : ConsumerId)
  | browser (b : BrowserId)
  deriving DecidableEq

def Object.close : Object → Operation
  | connection c => .closeConnection c
  | session s => .closeSession s
  | producer p => .closeProducer p
  | consumer c => .closeConsumer c
  | browser b => .closeBrowser b

/-- What an operation is called on; a handle is acknowledged in its session. -/
def Operation.object? : Operation → Option Object
  | .connect .. | .shutdown | .advance _ => none
  | .start c | .stop c | .setClientId c _ | .closeConnection c | .createSession c _ =>
      some (.connection c)
  | .createTemporaryQueue s | .createTemporaryTopic s | .commit s | .rollback s | .recover s
  | .unsubscribe s _ | .closeSession s | .createProducer s _ | .createConsumer s _ _ _
  | .createDurableConsumer s _ _ _ _ | .createBrowser s _ _ => some (.session s)
  | .acknowledge m => m.ack.map (.session ·.session)
  | .configure p _ | .closeProducer p | .send p _ _ _ => some (.producer p)
  | .closeConsumer c | .receiveNow c | .receive c | .poll c => some (.consumer c)
  | .hasMore b | .browseNext b | .closeBrowser b => some (.browser b)

namespace Provider

def isMade (o : Object) (w : Provider) : Prop :=
  match o with
  | .connection c => c < w.connections.length
  | .session s => s < w.sessions.length
  | .producer p => p < w.producers.length
  | .consumer c => c < w.consumers.length
  | .browser b => b < w.browsers.length

def isClosed (o : Object) (w : Provider) : Bool :=
  match o with
  | .connection c => w.connectionClosed c
  | .session s => w.sessionClosed s
  | .producer p => w.producerClosed p
  | .consumer c => w.consumerClosed c
  | .browser b => w.browserClosed b

/-- What is closed has nothing left, and neither has what was made from it. -/
structure Shut (w : Provider) : Prop where
  sessions : ∀ x ∈ w.sessions, w.connectionClosed x.connection = true → x.closed = true
  consumers : ∀ x ∈ w.consumers, w.sessionClosed x.session = true → x.closed = true
  holdings : ∀ x ∈ w.sessions, x.closed = true → x.buffered = [] ∧ x.delivered = []
  subscriptions : ∀ x ∈ w.consumers, x.closed = true → ∀ noLocal, x.source = .topic noLocal →
    ∀ b, ∀ y ∈ (w.brokerAt b).attached, y.store ≠ x.store
  durables : ∀ b, ∀ d ∈ (w.brokerAt b).durables, d.active = true →
    ∃ x, (w.attachedTo b d.key).getLast? = some x ∧ x.closed = false
  temporaries : ∀ b, ∀ t ∈ (w.brokerAt b).temporaries, w.connectionClosed t.2 = false

/-- A call that gives nothing and leaves all but the producers and browsers as it is. -/
structure Inert [Labels] (op : Operation) (w : Provider) : Prop where
  effect : ∃ producers browsers, w.step op = { w with producers, browsers }
  received : w.received op = none

/-! ## Closed objects -/

section States

variable {w : Provider}

theorem closed_of_connectionClosed (hw : w.Cascading) {x : Session} (hx : x ∈ w.sessions)
    (hc : w.connectionClosed x.connection = true) : x.closed = true := by
  by_contra hopen
  obtain ⟨y, hy, hstate⟩ := hw.sessions x hx (by simpa using hopen)
  simp [connectionClosed, hy, hstate] at hc

theorem closed_of_sessionClosed (hw : w.Cascading) {x : Consumer} (hx : x ∈ w.consumers)
    (hs : w.sessionClosed x.session = true) : x.closed = true := by
  by_contra hopen
  obtain ⟨y, hy, hyopen⟩ := hw.consumers x hx (by simpa using hopen)
  rw [sessionClosed, hy, Option.any_some, hyopen, Bool.false_or] at hs
  rw [closed_of_connectionClosed hw (List.mem_of_getElem? hy) hs] at hyopen
  cases hyopen

variable [Labels]

theorem shut_of_settled (hw : w.Settled) (hv : w.Severed) : w.Shut := by
  have hcascading := hw.coherent.cascading
  refine ⟨fun x hx => closed_of_connectionClosed hcascading hx,
    fun x hx => closed_of_sessionClosed hcascading hx, ?_, ?_, ?_, ?_⟩
  · intro x hx hclosed
    have hsound := hcascading.sound x hx
    exact ⟨hsound.buffered hclosed, hsound.delivered hclosed⟩
  · intro x hx hclosed noLocal hsource b y hy hstore
    refine hv.topics x hx hclosed noLocal hsource b (List.mem_append_right _ ?_)
    exact hstore ▸ List.mem_map_of_mem hy
  · exact fun b d hd => last_of_active hw hv hd
  · intro b t ht
    obtain ⟨-, x, n, hx, -, hstate, -⟩ := hw.tenanted.owned b t ht
    simp [connectionClosed, hx, hstate]

theorem isClosed_run (hw : w.Coherent) (ops : List Operation) {o : Object}
    (ho : w.isClosed o = true) : (w.run ops).isClosed o = true := by
  cases o with
  | connection c => exact connectionClosed_run hw ops ho
  | session s => exact sessionClosed_run hw ops ho
  | producer p => exact producerClosed_run hw ops ho
  | consumer c => exact consumerClosed_run hw ops ho
  | browser b => exact browserClosed_run hw ops ho

end States

/-! ## Closing -/

section Closing

variable (w : Provider)

theorem connectionClosed_closeConnection {c : ConnectionId} (hc : c < w.connections.length) :
    (w.closeConnection c).connectionClosed c = true := by
  have hx := List.getElem?_eq_getElem hc
  by_cases hstate : w.connections[c].state = .closed
  · simp [closeConnection, connectionClosed, hx, hstate]
  · have hopen := openConnection_eq_ok.mpr ⟨hx, hstate⟩
    rw [closeConnection_eq hopen]
    simp [connectionClosed, updateBroker, updateConnection, connections_foldl_closeSession, hc]

theorem sessionClosed_closeSession {s : SessionId} (hs : s < w.sessions.length) :
    (w.closeSession s).sessionClosed s = true := by
  simp [sessionClosed, sessions_closeSession, hs, Session.closed_shut]

theorem consumerClosed_closeConsumer {c : ConsumerId} (hc : c < w.consumers.length) :
    (w.closeConsumer c).consumerClosed c = true := by
  simp [consumerClosed, consumers_closeConsumer, hc]

theorem isClosed_close [Labels] {o : Object} (ho : w.isMade o) :
    (w.step o.close).isClosed o = true := by
  cases o with
  | connection c => exact connectionClosed_closeConnection w ho
  | session s => exact sessionClosed_closeSession w ho
  | producer p =>
      have hp : p < w.producers.length := ho
      simp [isClosed, producerClosed, Object.close, step, closeProducer, updateProducer, hp]
  | consumer c => exact consumerClosed_closeConsumer w ho
  | browser b =>
      have hb : b < w.browsers.length := ho
      simp [isClosed, browserClosed, Object.close, step, closeBrowser, updateBrowser, hb]

end Closing

/-! ## Calls on what is closed -/

section AnyLabels

variable [Labels]

section Calls

variable {w : Provider} {op : Operation}

omit [Labels] in
theorem object?_acknowledge {m : Message} {o : Object} (ho : ∀ s, o ≠ .session s) :
    (Operation.acknowledge m).object? ≠ some o := by
  intro h
  obtain ⟨token, -, heq⟩ := Option.map_eq_some_iff.mp h
  exact ho token.session heq.symm

theorem step_of_connectionClosed {c : ConnectionId} (hop : op.object? = some (.connection c))
    (hc : w.connectionClosed c = true) : w.step op = w := by
  have hopen := openConnection_of_closed hc
  cases op with
  | start | stop | setClientId | createSession =>
      obtain rfl := Object.connection.inj (Option.some.inj hop)
      exact congrArg Prod.snd (check_of_error hopen _)
  | closeConnection c =>
      obtain rfl := Object.connection.inj (Option.some.inj hop)
      unfold connectionClosed at hc
      simp only [step, closeConnection]
      cases hx : w.connections[c]? with
      | none => rfl
      | some x =>
          rw [hx] at hc
          exact if_pos (by simpa using hc)
  | acknowledge => exact absurd hop (object?_acknowledge (by simp))
  | _ => cases hop

theorem step_of_sessionClosed (hw : w.Cascading) {s : SessionId}
    (hop : op.object? = some (.session s)) (hs : w.sessionClosed s = true) : w.step op = w := by
  obtain ⟨part, hopen⟩ := openSession_of_closed hs
  cases op with
  | createTemporaryQueue | createTemporaryTopic | recover | unsubscribe | createProducer |
      createConsumer | createDurableConsumer | createBrowser =>
      obtain rfl := Object.session.inj (Option.some.inj hop)
      exact congrArg Prod.snd (check_of_error hopen _)
  | commit | rollback =>
      obtain rfl := Object.session.inj (Option.some.inj hop)
      exact congrArg Prod.snd (check_of_error (openTransaction_of_error hopen) _)
  | closeSession s =>
      obtain rfl := Object.session.inj (Option.some.inj hop)
      simp only [step, closeSession]
      cases hx : w.sessions[s]? with
      | none => rfl
      | some x =>
          refine if_pos ?_
          rw [sessionClosed, hx, Option.any_some] at hs
          rcases Bool.or_eq_true_iff.mp hs with hclosed | hc
          · exact hclosed
          · exact closed_of_connectionClosed hw (List.mem_of_getElem? hx) hc
  | acknowledge m =>
      obtain ⟨token, hm, h⟩ := Option.map_eq_some_iff.mp hop
      obtain rfl := Object.session.inj h
      obtain ⟨⟨e, hfailed, -⟩, -⟩ := acknowledge_of_closed hm hs
      exact congrArg Prod.snd hfailed
  | _ => cases hop

omit [Labels] in
theorem poll_of_closed {c : ConsumerId} (hc : w.consumerClosed c = true) :
    w.poll c = (.finished none, w) := by
  unfold consumerClosed at hc
  unfold poll
  cases hx : w.consumers[c]? with
  | none => rfl
  | some x =>
      rw [hx] at hc
      refine if_pos (Bool.or_eq_true_iff.mpr ((Bool.or_eq_true_iff.mp hc).imp_right fun hs => ?_))
      obtain ⟨part, hopen⟩ := openSession_of_closed hs
      simp [isOpen, hopen, Except.isOk, Except.toBool]

theorem inert_of_consumerClosed (hw : w.Cascading) {c : ConsumerId}
    (hop : op.object? = some (.consumer c)) (hc : w.consumerClosed c = true) :
    w.step op = w ∧ w.received op = none := by
  have hpoll := poll_of_closed hc
  have hclosed : ∀ x, w.consumers[c]? = some x → x.closed = true := by
    intro x hx
    rw [consumerClosed, hx, Option.any_some] at hc
    rcases Bool.or_eq_true_iff.mp hc with hclosed | hs
    · exact hclosed
    · exact closed_of_sessionClosed hw (List.mem_of_getElem? hx) hs
  cases op with
  | closeConsumer c =>
      obtain rfl := Object.consumer.inj (Option.some.inj hop)
      refine ⟨?_, rfl⟩
      simp only [step, closeConsumer]
      cases hx : w.consumers[c]? with
      | none => rfl
      | some x => exact if_pos (hclosed x hx)
  | receiveNow c =>
      obtain rfl := Object.consumer.inj (Option.some.inj hop)
      have hnow : w.receiveNow c = (.error (.closed .consumer), w) := by
        unfold receiveNow
        cases hx : w.consumers[c]? with
        | none => rfl
        | some x => exact if_pos (hclosed x hx)
      exact ⟨congrArg Prod.snd hnow, by simp [received, hnow]⟩
  | receive c =>
      obtain rfl := Object.consumer.inj (Option.some.inj hop)
      have hnow : w.receive c = (.error (.closed .consumer), w) := by
        unfold receive
        cases hx : w.consumers[c]? with
        | none => rfl
        | some x => exact if_pos (hclosed x hx)
      exact ⟨congrArg Prod.snd hnow, by simp [received, hnow]⟩
  | poll c =>
      obtain rfl := Object.consumer.inj (Option.some.inj hop)
      exact ⟨congrArg Prod.snd hpoll, by simp [received, hpoll]⟩
  | acknowledge => exact absurd hop (object?_acknowledge (by simp))
  | _ => cases hop

theorem step_of_browserClosed {b : BrowserId} (hop : op.object? = some (.browser b))
    (hb : w.browserClosed b = true) : ∃ browsers, w.step op = { w with browsers } := by
  have hopen : ∃ part, w.openBrowser b = .error (.closed part) := by
    unfold browserClosed at hb
    unfold openBrowser
    cases hx : w.browsers[b]? with
    | none => exact ⟨_, rfl⟩
    | some x =>
        rw [hx, Option.any_some] at hb
        dsimp only
        split
        · exact ⟨_, rfl⟩
        next hx =>
          have hs := (Bool.or_eq_true_iff.mp hb).resolve_left hx
          obtain ⟨part, hpart⟩ := openSession_of_closed hs
          exact ⟨part, by rw [hpart]; rfl⟩
  obtain ⟨part, hopen⟩ := hopen
  cases op with
  | hasMore | browseNext =>
      obtain rfl := Object.browser.inj (Option.some.inj hop)
      exact ⟨w.browsers, congrArg Prod.snd (check_of_error hopen _)⟩
  | closeBrowser => exact ⟨_, rfl⟩
  | acknowledge => exact absurd hop (object?_acknowledge (by simp))
  | _ => cases hop

theorem step_of_producerClosed {p : ProducerId} (hop : op.object? = some (.producer p))
    (hp : w.producerClosed p = true) : ∃ producers, w.step op = { w with producers } := by
  cases op with
  | configure p x =>
      cases x with
      | deliveryMode | disableMessageId | disableTimestamp => exact ⟨_, rfl⟩
      | priority n =>
          simp only [step, set, setPriority, check]
          split <;> exact ⟨_, rfl⟩
      | timeToLive millis =>
          simp only [step, set, setTimeToLive, check]
          split <;> exact ⟨_, rfl⟩
  | closeProducer => exact ⟨_, rfl⟩
  | send p requested q m =>
      obtain rfl := Object.producer.inj (Option.some.inj hop)
      cases hprepared : w.prepare p requested (w.qualityOf p q) m with
      | error e => exact ⟨w.producers, by simp [step, send, hprepared]⟩
      | ok x =>
          obtain ⟨producer, d, m'⟩ := x
          obtain ⟨hx, hopen, -⟩ := prepare_eq_ok hprepared
          rw [producerClosed, hx, Option.any_some, hopen, Bool.false_or] at hp
          obtain ⟨part, hsession⟩ := openSession_of_closed hp
          obtain ⟨producers, hcount⟩ := countSend_frame p producer w
          have hfailed : (w.countSend p producer).sendThrough producer.session d m' =
              (.error (.closed part), w.countSend p producer) :=
            check_of_error ((openSession_countSend p producer producer.session w).trans hsession) _
          exact ⟨producers, by simpa [step, send, hprepared, hfailed] using hcount⟩
  | acknowledge => exact absurd hop (object?_acknowledge (by simp))
  | _ => cases hop

end Calls

theorem inert_of_isClosed {w : Provider} (hw : w.Cascading) {op : Operation} {o : Object}
    (hop : op.object? = some o) (ho : w.isClosed o = true) : Inert op w := by
  -- only what is called on a consumer gives a message
  have hnone : (∀ c, o ≠ .consumer c) → w.received op = none := by
    intro hne
    cases op with
    | receiveNow c | receive c | poll c => exact absurd (Option.some.inj hop).symm (hne c)
    | _ => rfl
  cases o with
  | connection c => exact ⟨⟨_, _, step_of_connectionClosed hop ho⟩, hnone (by simp)⟩
  | session s => exact ⟨⟨_, _, step_of_sessionClosed hw hop ho⟩, hnone (by simp)⟩
  | producer p =>
      obtain ⟨producers, hstep⟩ := step_of_producerClosed hop ho
      exact ⟨⟨producers, w.browsers, hstep⟩, hnone (by simp)⟩
  | consumer c =>
      obtain ⟨hstep, hreceived⟩ := inert_of_consumerClosed hw hop ho
      exact ⟨⟨w.producers, w.browsers, hstep⟩, hreceived⟩
  | browser b =>
      obtain ⟨browsers, hstep⟩ := step_of_browserClosed hop ho
      exact ⟨⟨w.producers, browsers, hstep⟩, hnone (by simp)⟩

theorem step_acknowledge_of_handing {ops : List Operation} {x : Step} (hx : x ∈ trace ops {})
    {h : Handing} (hh : x.handing = some h)
    (hclosed : (run ops {}).sessionClosed h.consumer.session = true) {m : Message}
    (hm : m.ack = h.message.ack) (later : List Operation) :
    ((run ops {}).run later).step (.acknowledge m) = (run ops {}).run later := by
  obtain ⟨first, second, -, hbefore⟩ := exists_of_mem_trace hx
  rw [Step.handing, hbefore] at hh
  have hack : m.ack = _ := hm.trans (ack_eq hh)
  cases hexplicit : h.session.mode.isExplicit with
  | false =>
      rw [hexplicit] at hack
      simp [step, acknowledge, hack]
  | true =>
      rw [hexplicit, if_pos rfl] at hack
      obtain ⟨⟨e, hfailed, -⟩, -⟩ :=
        acknowledge_of_closed hack (sessionClosed_run (coherent_run ops) later hclosed)
      exact congrArg Prod.snd hfailed

structure Finality (ops : List Operation) : Prop where
  shut : (run ops {}).Shut
  closes : ∀ o, (run ops {}).isMade o → (run (ops ++ [o.close]) {}).isClosed o = true
  /-- What is closed stays closed, and no call on it has any effect. -/
  inert : ∀ o, (run ops {}).isClosed o = true → ∀ later op, op.object? = some o →
    Inert op (run (ops ++ later) {})
  /-- Whoever waits for a message of a closed consumer waits no more, and gets none. -/
  waiting : ∀ c, (run ops {}).consumerClosed c = true → ∀ later,
    (run (ops ++ later) {}).poll c = (.finished none, run (ops ++ later) {})
  acknowledged : ∀ x ∈ trace ops {}, ∀ h, x.handing = some h →
    (run ops {}).sessionClosed h.consumer.session = true →
    ∀ m : Message, m.ack = h.message.ack → ∀ later,
      (run (ops ++ later) {}).step (.acknowledge m) = run (ops ++ later) {}

/-- After every run, what is closed has nothing left and does nothing any more. -/
theorem finality (ops : List Operation) : Finality ops := by
  have hw := coherent_run ops
  have hlater : ∀ later, (run (ops ++ later) {}).Cascading := fun later =>
    (coherent_run (ops ++ later)).cascading
  refine ⟨shut_of_settled (settled_run ops) (severed_run ops), ?_, ?_, ?_, ?_⟩
  · intro o ho
    rw [run_append]
    exact isClosed_close _ ho
  · intro o ho later op hop
    refine inert_of_isClosed (hlater later) hop ?_
    rw [run_append]
    exact isClosed_run hw later ho
  · intro c hc later
    rw [run_append]
    exact poll_of_closed (consumerClosed_run hw later hc)
  · intro x hx h hh hclosed m hm later
    rw [run_append]
    exact step_acknowledge_of_handing hx hh hclosed hm later

end AnyLabels

def abandoned : List Operation :=
  [.connect ⟨{ text := "vm://local", broker := "local" }, "", ""⟩ "" "" (some "client"),
    .createSession 0 .client, .createDurableConsumer 0 ⟨.topic, "news"⟩ "name" none false,
    .createConsumer 0 ⟨.topic, "news"⟩ none false, .createConsumer 0 ⟨.queue, "jobs"⟩ none false,
    .createTemporaryQueue 0, .createProducer 0 (some ⟨.queue, "jobs"⟩),
    .send 0 none none (.ofText "one"),
    .send 0 none none (.ofText "two"),
    .start 0, .receiveNow 2, .stop 0, .receive 2]

theorem finality_abandoned :
    ((run abandoned {}).poll 2).1 = .waiting ∧
    (((run (abandoned ++ [.closeConnection 0]) {}).storeAt 2).pending.map (·.seq)) = [0, 1] ∧
    (run (abandoned ++ [.closeConnection 0]) {}).poll 2 =
      (.finished none, run (abandoned ++ [.closeConnection 0]) {}) ∧
    Inert (.send 0 none none (.ofText "three"))
      (run (abandoned ++ [.closeConnection 0]) {}) ∧
    ∀ m : Message, m.ack = some ⟨0, 0⟩ →
      (run (abandoned ++ [.closeConnection 0]) {}).step (.acknowledge m) =
        run (abandoned ++ [.closeConnection 0]) {} := by
  have hfinal := finality (abandoned ++ [.closeConnection 0])
  have hfirst : ∃ x ∈ trace (abandoned ++ [.closeConnection 0]) {}, ∃ h ∈ x.handing,
      h.consumer.session = 0 ∧ h.message.ack = some ⟨0, 0⟩ := by decide +kernel
  refine ⟨by decide +kernel, by decide +kernel, ?_, ?_, ?_⟩
  · exact hfinal.waiting 2 (by decide +kernel) []
  · exact hfinal.inert (.producer 0) (by decide +kernel) [] _ rfl
  · obtain ⟨x, hx, h, hh, hs, hack⟩ := hfirst
    intro m hm
    exact hfinal.acknowledged x hx h hh (by rw [hs]; decide +kernel) m (hm.trans hack.symm) []

end Provider

end Messaging
