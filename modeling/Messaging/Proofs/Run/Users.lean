import Messaging.Proofs.Run.Standing

/-!
# Producers and browsers

Only the operations on producers and on browsers touch them.  They stay in their places and in
their sessions, and those that are closed stay closed.
-/

namespace Messaging

/-- The operations on producers and those that change what browsers there are or what they know. -/
def Operation.ofUser : Operation → Bool
  | .createProducer .. | .configure .. | .closeProducer _ | .send .. => true
  | .createBrowser .. | .browseNext _ | .closeBrowser _ => true
  | _ => false

namespace Provider

/-! ## What has to do with neither -/

/-- What has to do with messages and brokers leaves producers and browsers alone. -/
structure Spares (w w' : Provider) : Prop where
  producers : w'.producers = w.producers
  browsers : w'.browsers = w.browsers

namespace Spares

variable {w w' w'' : Provider}

theorem refl (w : Provider) : w.Spares w := ⟨rfl, rfl⟩

theorem trans (h : w.Spares w') (h' : w'.Spares w'') : w.Spares w'' :=
  ⟨h'.producers.trans h.producers, h'.browsers.trans h.browsers⟩

theorem foldl {α : Type} {f : Provider → α → Provider} (hf : ∀ w a, Spares w (f w a))
    (l : List α) (w : Provider) : w.Spares (l.foldl f w) := by
  induction l generalizing w with
  | nil => exact .refl w
  | cons a l ih => exact (hf w a).trans (ih (f w a))

theorem check {α β : Type} {r : Except Error α} {f : α → Outcome β}
    (hf : ∀ a, w.Spares (f a).2) : w.Spares (Provider.check r w f).2 := by
  cases r with
  | error e => exact .refl w
  | ok a => exact hf a

end Spares

section Spares

variable (w : Provider)

theorem spares_queueStore (b : BrokerId) (d : Destination) : w.Spares (w.queueStore b d).2 := by
  obtain ⟨brokers, stores, h⟩ := queueStore_frame (b := b) (w := w) d
  rw [h]
  exact ⟨rfl, rfl⟩

theorem spares_publish (b : BrokerId) (d : Destination) (m : Message) (origin : ConnectionId) :
    w.Spares (w.publish b d m origin).2 := by
  have hpush : ∀ ss v, Provider.Spares v (v.pushAll (sealed m) origin ss) :=
    Spares.foldl fun _ _ => ⟨rfl, rfl⟩
  unfold publish
  dsimp only
  split
  · exact .refl w
  · split
    · exact (spares_queueStore w b d).trans (hpush _ _)
    · exact hpush _ w

theorem spares_publishAll (b : BrokerId) (origin : ConnectionId)
    (sends : List (Destination × Message)) : w.Spares (w.publishAll b origin sends).2 := by
  induction sends generalizing w with
  | nil => exact .refl w
  | cons x sends ih =>
      rw [publishAll_cons]
      exact (spares_publish w b x.1 x.2 origin).trans (ih _)

theorem spares_closeConsumer (c : ConsumerId) : w.Spares (w.closeConsumer c) := by
  obtain ⟨consumers, brokers, h⟩ := closeConsumer_eq c w
  rw [h]
  exact ⟨rfl, rfl⟩

theorem spares_redeliver (s : SessionId) : w.Spares (w.redeliver s) := by
  unfold redeliver
  cases w.sessions[s]? with
  | none => exact .refl w
  | some x =>
      obtain ⟨stores, h⟩ := foldr_putBack_eq x.delivered
        (w.updateSession s ({ · with delivered := [] }))
      simp only [h]
      exact ⟨rfl, rfl⟩

theorem spares_closeSession (s : SessionId) : w.Spares (w.closeSession s) := by
  unfold closeSession
  cases w.sessions[s]? with
  | none => exact .refl w
  | some x =>
      cases hx : x.closed with
      | true => simpa [hx] using .refl w
      | false =>
          have hmark : w.Spares (w.updateSession s ({ · with closed := true, buffered := [] })) :=
            ⟨rfl, rfl⟩
          have hconsumers := Spares.foldl (f := fun w c => w.closeConsumer c)
            fun w c => spares_closeConsumer w c
          simpa [hx] using (hmark.trans (hconsumers _ _)).trans (spares_redeliver _ s)

theorem spares_closeConnection (c : ConnectionId) : w.Spares (w.closeConnection c) := by
  unfold closeConnection
  cases w.connections[c]? with
  | none => exact .refl w
  | some x =>
      by_cases hx : x.state = .closed
      · simpa [hx] using .refl w
      · have hmark : w.Spares (w.updateConnection c ({ · with state := .closed })) := ⟨rfl, rfl⟩
        have hsessions := Spares.foldl (f := fun w s => w.closeSession s)
          fun w s => spares_closeSession w s
        have hclosed := hmark.trans
          (hsessions ((w.updateConnection c ({ · with state := .closed })).sessionsOf c) _)
        simp only [hx, if_false]
        exact hclosed.trans ⟨rfl, rfl⟩

theorem spares_takeNext (x : Consumer) : w.Spares (w.takeNext x).2 := by
  have htake : w.Spares (w.takeFrom x.store x.filter).2 := by
    unfold takeFrom
    dsimp only
    split <;> exact ⟨rfl, rfl⟩
  unfold takeNext
  cases hs : w.sessions[x.session]? with
  | none => exact .refl w
  | some session =>
      cases htaken : w.takeFrom x.store x.filter with
      | mk found next =>
          rw [htaken] at htake
          cases found with
          | none => exact htake
          | some e =>
              refine htake.trans ?_
              unfold deliver
              dsimp only
              split
              · exact ⟨rfl, rfl⟩
              · split <;> exact ⟨rfl, rfl⟩

theorem spares_pull (c : ConsumerId) : w.Spares (w.pull c).2 := by
  unfold pull
  split
  · exact .refl w
  · split
    · exact spares_takeNext w _
    · exact .refl w

end Spares

/-! ## Operations -/

structure Retains (w w' : Provider) : Prop where
  producers : Succeeds (Stays Producer.session Producer.closed) w.producers w'.producers
  browsers : Succeeds (Stays Browser.session Browser.closed) w.browsers w'.browsers

namespace Retains

variable {w w' w'' : Provider}

theorem refl (w : Provider) : w.Retains w := ⟨.of_eq .refl rfl, .of_eq .refl rfl⟩

theorem trans (h : w.Retains w') (h' : w'.Retains w'') : w.Retains w'' :=
  ⟨h.producers.trans Stays.trans h'.producers, h.browsers.trans Stays.trans h'.browsers⟩

theorem of_spares (h : w.Spares w') : w.Retains w' :=
  ⟨.of_eq .refl h.producers, .of_eq .refl h.browsers⟩

theorem updateProducer {p : ProducerId} {f : Producer → Producer}
    (hf : ∀ x, Stays Producer.session Producer.closed x (f x)) : w.Retains (w.updateProducer p f) :=
  ⟨.modify .refl fun x _ => hf x, .of_eq .refl rfl⟩

theorem updateBrowser {b : BrowserId} {f : Browser → Browser}
    (hf : ∀ x, Stays Browser.session Browser.closed x (f x)) : w.Retains (w.updateBrowser b f) :=
  ⟨.of_eq .refl rfl, .modify .refl fun x _ => hf x⟩

theorem check {α β : Type} {r : Except Error α} {f : α → Outcome β}
    (hf : ∀ a, w.Retains (f a).2) : w.Retains (Provider.check r w f).2 := by
  cases r with
  | error e => exact .refl w
  | ok a => exact hf a

end Retains

section Steps

variable {w : Provider}

theorem spares_acknowledge (m : Message) (w : Provider) : w.Spares (w.acknowledge m).2 := by
  unfold acknowledge
  cases m.ack with
  | none => exact .refl w
  | some token =>
      refine .check fun (session, connection) => ?_
      dsimp only
      cases session.mode <;> exact ⟨rfl, rfl⟩

theorem spares_connectWith [Labels] (f : ConnectionFactory) (username password : String)
    (clientId : Option String) (w : Provider) :
    w.Spares (w.connectWith f username password clientId).2 := by
  have hfind : w.Spares (w.findBroker f.uri).2 := by
    unfold findBroker
    split
    · exact .refl w
    · split <;> exact ⟨rfl, rfl⟩
  unfold connectWith
  cases hfound : w.findBroker f.uri with
  | mk r next =>
      rw [hfound] at hfind
      cases r with
      | error e => exact hfind
      | ok b =>
          refine hfind.trans (.check fun _ => ?_)
          have hasked : next.Spares { next with labels := next.labels + 1 } := ⟨rfl, rfl⟩
          exact hasked.trans (.check fun _ => .check fun _ => ⟨rfl, rfl⟩)

theorem spares_createConsumer (s : SessionId) (d : Destination) (selector : Option String)
    (noLocal : Bool) (w : Provider) : w.Spares (w.createConsumer s d selector noLocal).2 := by
  refine .check fun (session, connection) => .check fun selector => .check fun _ => ?_
  dsimp only
  split
  · exact (spares_queueStore w connection.broker d).trans ⟨rfl, rfl⟩
  · exact ⟨rfl, rfl⟩

theorem spares_createDurableConsumer (s : SessionId) (topic : Destination) (name : String)
    (selector : Option String) (noLocal : Bool) (w : Provider) :
    w.Spares (w.createDurableConsumer s topic name selector noLocal).2 := by
  refine .check fun (session, connection) => .check fun selector => ?_
  dsimp only
  split
  · exact .refl w
  · have hstore : w.Spares
        (w.durableStore connection.broker ⟨connection.clientId, name⟩ topic selector).2 := by
      unfold durableStore
      split
      · exact ⟨rfl, rfl⟩
      · split
        · exact .refl w
        · split <;> exact ⟨rfl, rfl⟩
    cases hfound : w.durableStore connection.broker ⟨connection.clientId, name⟩ topic selector with
    | mk r next =>
        rw [hfound] at hstore
        cases r with
        | error e => exact hstore
        | ok store => exact hstore.trans ⟨rfl, rfl⟩

theorem spares_sendThrough (s : SessionId) (d : Destination) (m : Message) (w : Provider) :
    w.Spares (w.sendThrough s d m).2 := by
  refine .check fun (session, connection) => ?_
  dsimp only
  split
  · exact ⟨rfl, rfl⟩
  · exact spares_publish w connection.broker d m session.connection

theorem spares_peek (browser : Browser) (w : Provider) : w.Spares (w.peek browser).2 := ⟨rfl, rfl⟩

theorem retains_set (p : ProducerId) (x : ProducerSetting) (w : Provider) :
    w.Retains (w.set p x) := by
  cases x with
  | deliveryMode | disableMessageId | disableTimestamp => exact .updateProducer fun _ => ⟨rfl, id⟩
  | priority | timeToLive => exact .check fun _ => .updateProducer fun _ => ⟨rfl, id⟩

theorem retains_send (p : ProducerId) (requested : Option Destination) (q : Quality) (m : Message)
    (w : Provider) : w.Retains (w.send p requested q m).2 := by
  unfold send
  cases w.prepare p requested q m with
  | error e => exact .refl w
  | ok x =>
      obtain ⟨producer, d, m⟩ := x
      have hcount : w.Retains (w.countSend p producer) := by
        unfold countSend
        split
        · exact .refl w
        · exact .updateProducer fun _ => ⟨rfl, id⟩
      exact hcount.trans (.of_spares (spares_sendThrough producer.session d m _))

theorem retains_createBrowser (s : SessionId) (queue : Destination) (selector : Option String)
    (w : Provider) : w.Retains (w.createBrowser s queue selector).2 := by
  refine .check fun (session, connection) => .check fun selector => ?_
  dsimp only
  split
  · exact .refl w
  · have hqueue := Retains.of_spares (spares_queueStore w connection.broker queue)
    exact .check fun _ => hqueue.trans ⟨.of_eq .refl rfl, .append .refl _⟩

theorem retains_browseNext (b : BrowserId) (w : Provider) : w.Retains (w.browseNext b).2 := by
  refine .check fun browser => ?_
  have hpeek := Retains.of_spares (spares_peek browser w)
  cases hfound : w.peek browser with
  | mk found next =>
      rw [hfound] at hpeek
      cases found with
      | none => exact hpeek
      | some e => exact hpeek.trans (.updateBrowser fun _ => ⟨rfl, id⟩)

variable [Labels]

theorem spares_step (hw : w.Coherent) {op : Operation} (hop : op.ofUser = false) :
    w.Spares (w.step op) := by
  have hmark : ∀ {s : SessionId} {f : Session → Session}, w.Spares (w.updateSession s f) :=
    ⟨rfl, rfl⟩
  have hpull : ∀ op c, Operation.consumer? op = some c → w.Spares (w.step op) :=
    fun op c hop => step_eq hw hop ▸ spares_pull w c
  cases op with
  | connect f username password clientId => exact spares_connectWith f username password clientId w
  | start | stop | createSession | createTemporaryQueue | createTemporaryTopic =>
      exact .check fun _ => ⟨rfl, rfl⟩
  | setClientId =>
      refine .check fun _ => ?_
      split
      · exact .refl w
      · exact .check fun _ => ⟨rfl, rfl⟩
  | closeConnection c => exact spares_closeConnection w c
  | shutdown | advance => exact ⟨rfl, rfl⟩
  | acknowledge m => exact spares_acknowledge m w
  | commit s =>
      exact .check fun (session, connection) =>
        hmark.trans (spares_publishAll _ connection.broker session.connection session.buffered)
  | rollback s => exact .check fun _ => hmark.trans (spares_redeliver _ s)
  | recover s =>
      refine .check fun (session, connection) => ?_
      dsimp only
      split
      · exact .refl w
      · exact spares_redeliver w s
  | unsubscribe s name =>
      refine .check fun (session, connection) => ?_
      dsimp only
      split
      · exact .refl w
      · split <;> exact ⟨rfl, rfl⟩
  | closeSession s => exact spares_closeSession w s
  | createConsumer s d selector noLocal => exact spares_createConsumer s d selector noLocal w
  | createDurableConsumer s topic name selector noLocal =>
      exact spares_createDurableConsumer s topic name selector noLocal w
  | closeConsumer c => exact spares_closeConsumer w c
  | receiveNow c => exact hpull (.receiveNow c) c rfl
  | receive c => exact hpull (.receive c) c rfl
  | poll c => exact hpull (.poll c) c rfl
  | hasMore b => exact .check fun browser => spares_peek browser w
  | createProducer | configure | closeProducer | send | createBrowser | browseNext
      | closeBrowser => cases hop

theorem retains_step (hw : w.Coherent) (op : Operation) : w.Retains (w.step op) := by
  cases hop : op.ofUser with
  | false => exact .of_spares (spares_step hw hop)
  | true =>
      cases op with
      | createProducer s d => exact .check fun _ => ⟨.append .refl _, .of_eq .refl rfl⟩
      | configure p x => exact retains_set p x w
      | closeProducer p => exact .updateProducer fun _ => ⟨rfl, fun _ => rfl⟩
      | send p requested q m => exact retains_send p requested _ m w
      | createBrowser s queue selector => exact retains_createBrowser s queue selector w
      | browseNext b => exact retains_browseNext b w
      | closeBrowser b => exact .updateBrowser fun _ => ⟨rfl, fun _ => rfl⟩
      | _ => cases hop

theorem retains_run (hw : w.Coherent) (ops : List Operation) : w.Retains (w.run ops) := by
  induction ops generalizing w with
  | nil => exact .refl w
  | cons op ops ih => exact (retains_step hw op).trans (ih (hw.step op))

end Steps

/-! ## What is closed -/

def producerClosed (p : ProducerId) (w : Provider) : Bool :=
  w.producers[p]?.any fun x => x.closed || w.sessionClosed x.session

def browserClosed (b : BrowserId) (w : Provider) : Bool :=
  w.browsers[b]?.any fun x => x.closed || w.sessionClosed x.session

section Forever

variable {w : Provider} (hw : w.Coherent) (ops : List Operation)

include hw

variable [Labels]

theorem producerClosed_run {p : ProducerId} (hp : w.producerClosed p = true) :
    (w.run ops).producerClosed p = true :=
  (retains_run hw ops).producers.closed (fun s => sessionClosed_run hw ops (s := s)) hp

theorem browserClosed_run {b : BrowserId} (hb : w.browserClosed b = true) :
    (w.run ops).browserClosed b = true :=
  (retains_run hw ops).browsers.closed (fun s => sessionClosed_run hw ops (s := s)) hb

end Forever

end Provider

end Messaging
