import Mathlib.Data.List.Induction
import Messaging.Proofs.Provider.Publishing
import Messaging.Proofs.Run.Closing

/-!
# Operations as moves

Every operation on a coherent provider is a chain of moves that adds to the log what the operation
does.  Hence every run is a chain of moves from the provider that nobody has used.
-/

namespace Messaging.Provider

/-! ## Publishing -/

theorem isLive_of_checkConsumable {b : Broker} {d : Destination} {c : ConnectionId}
    (h : b.checkConsumable d c = .ok ()) : b.isLive d = true := by
  unfold Broker.checkConsumable at h
  unfold Broker.isLive
  grind

variable [Labels]

theorem moves_queueStore {b : BrokerId} {d : Destination} {w : Provider}
    (hb : b < w.brokers.length) (hd : d.isQueue = true)
    (hlive : (w.brokerAt b).isLive d = true) : Moves w [] (w.queueStore b d).2 := by
  rw [queueStore_eq d]
  cases h : (w.brokerAt b).queue? d with
  | some s => exact .refl w
  | none => exact (Move.addQueue w b d hb hd hlive h).moves

theorem moves_ready {b : BrokerId} {w : Provider} (hb : b < w.brokers.length)
    (d : Destination) : Moves w [] (w.ready b d) := by
  unfold ready
  split
  next h =>
    rw [Bool.and_eq_true] at h
    exact moves_queueStore hb h.2 h.1
  next => exact .refl w

omit [Labels] in
theorem Grounded.routes_lt {w : Provider} (hw : w.Grounded) (b : BrokerId) (p : Publication) :
    ∀ s ∈ (w.brokerAt b).routes p, s < w.stores.length := by
  intro s hs
  unfold Broker.routes at hs
  split at hs
  next => simp at hs
  next =>
    split at hs
    next =>
      have hqueue := Option.mem_toList.mp hs
      exact hw.queues _ (brokerAt_mem (lt_of_queue? hqueue)) _ (Broker.queue?_mem hqueue)
    next =>
      obtain ⟨x, hx, rfl⟩ := List.mem_map.mp hs
      have hx := (List.mem_filter.mp hx).1
      by_cases hb : b < w.brokers.length
      · exact hw.attached _ (brokerAt_mem hb) x hx
      · simp [brokerAt, hb] at hx

theorem moves_pushAll (m : Message) (origin : ConnectionId) {ss : List StoreId} {w : Provider}
    (hss : ∀ s ∈ ss, s < w.stores.length) :
    Moves w (ss.map fun s => .posted s (sealed m) origin) (w.pushAll (sealed m) origin ss) := by
  induction ss generalizing w with
  | nil => exact .refl w
  | cons s ss ih =>
      have hs := hss s List.mem_cons_self
      have hrest : ∀ t ∈ ss, t < (w.updateStore s (·.push (sealed m) origin)).stores.length := by
        intro t ht
        simpa [updateStore] using hss t (List.mem_cons_of_mem s ht)
      exact (Move.post w s m origin hs).moves.trans (ih hrest)

theorem moves_publish {b : BrokerId} {w : Provider} (hw : w.Coherent)
    (hb : b < w.brokers.length) (d : Destination) (m : Message) (origin : ConnectionId) :
    Moves w
      ((((w.ready b d).brokerAt b).routes ⟨b, d, sealed m, origin⟩).map fun s =>
        .posted s (sealed m) origin)
      (w.publish b d m origin).2 := by
  rw [publish_eq hb]
  have hready := moves_ready hb d
  have hpush := moves_pushAll m origin
    ((hready.coherent hw).grounded.routes_lt b ⟨b, d, sealed m, origin⟩)
  exact hready.trans hpush

theorem moves_publishAll {b : BrokerId} (origin : ConnectionId) {w : Provider} (hw : w.Coherent)
    (hb : b < w.brokers.length) (sends : List (Destination × Message)) :
    Moves w
      (sends.flatMap fun x =>
        (((w.publishAll b origin sends).2.brokerAt b).routes
          ⟨b, x.1, sealed x.2, origin⟩).map fun s => .posted s (sealed x.2) origin)
      (w.publishAll b origin sends).2 := by
  induction sends generalizing w with
  | nil => exact .refl w
  | cons x sends ih =>
      obtain ⟨d, m⟩ := x
      have hfirst := moves_publish hw hb d m origin
      have hb' : b < (w.publish b d m origin).2.brokers.length := by
        rwa [length_brokers_publish hb]
      have hrest := ih (hfirst.coherent hw) hb'
      -- later publications leave the queue of the first one where it is
      have hroutes := Broker.Extends.routes (p := ⟨b, d, sealed m, origin⟩)
        (extends_publishAll origin hb' sends b) (brokerAt_publish hb d m origin b ▸ queue?_ready hb)
      rw [publishAll_cons origin, List.flatMap_cons, hroutes, brokerAt_publish hb]
      exact hfirst.trans hrest

/-! ## Reading -/

omit [Labels] in
theorem Cascading.openSession {w : Provider} (hw : w.Cascading) {x : Consumer}
    (hx : x ∈ w.consumers) (hopen : x.closed = false) (hstarted : w.isStarted x.session = true) :
    ∃ session connection, w.openSession x.session = .ok (session, connection) ∧
      connection.state = .started := by
  obtain ⟨session, hs, hclosed⟩ := hw.consumers x hx hopen
  obtain ⟨connection, hc, hstate⟩ := isStarted_iff.mp hstarted
  have hconnection : w.connections[session.connection]? = some connection := by
    simpa [connectionOf, hs] using hc
  have hsession := openConnection_eq_ok.mpr ⟨hconnection, by simp [hstate]⟩
  exact ⟨session, connection, openSession_eq_ok.mpr ⟨hs, hclosed, hsession⟩, hstate⟩

theorem moves_taking {c : ConsumerId} {w : Provider} {x : Consumer} (hw : w.Coherent)
    (hx : w.consumers[c]? = some x) (hopen : x.closed = false)
    (hstarted : w.isStarted x.session = true) : Moves w (w.taking x) (w.takeNext x).2 := by
  have hmem := List.mem_of_getElem? hx
  obtain ⟨session, connection, hsession, hstate⟩ :=
    hw.cascading.openSession hmem hopen hstarted
  have hs := (openSession_eq_ok.mp hsession).1
  have hpurge := (Move.purge w x.store).moves
  unfold taking takeNext takeFrom
  simp only [hs]
  cases htake : ((w.storeAt x.store).purge w.now).take x.filter with
  | none =>
      rw [List.append_nil]
      simpa only [updateStore_const x.store (·.purge w.now)] using hpurge
  | some taken =>
      obtain ⟨e, rest⟩ := taken
      have hpurged : (w.updateStore x.store (·.purge w.now)).storeAt x.store =
          (w.storeAt x.store).purge w.now := by
        rw [storeAt_updateStore, if_pos ⟨rfl, hw.grounded.consumed x hmem⟩]
      have hlive : e.message.isExpired w.now = false := by
        obtain ⟨before, after, hpending, -⟩ := Store.take_eq_some htake
        have he : e ∈ ((w.storeAt x.store).purge w.now).pending := by simp [hpending]
        simpa using (List.mem_filter.mp he).2
      have hhand := Move.handOut (w.updateStore x.store (·.purge w.now)) c x session connection e
        rest hx hopen hsession hstate hlive (by rw [hpurged]; exact htake)
      have htwice : ((w.updateStore x.store (·.purge w.now)).updateStore x.store fun _ => rest) =
          w.updateStore x.store fun _ => rest := by
        simp only [updateStore, List.modify_modify_eq]
        rfl
      rw [htwice] at hhand
      exact hpurge.trans hhand.moves

def pull (c : ConsumerId) (w : Provider) : Option Message × Provider :=
  match w.consumers[c]? with
  | none => (none, w)
  | some x => if !x.closed && w.isStarted x.session then w.takeNext x else (none, w)

theorem moves_pull (c : ConsumerId) {w : Provider} (hw : w.Coherent) :
    Moves w (w.receiving c) (w.pull c).2 := by
  unfold receiving pull
  cases hx : w.consumers[c]? with
  | none => exact .refl w
  | some x =>
      dsimp only
      split
      next hready =>
        obtain ⟨hopen, hstarted⟩ := Bool.and_eq_true_iff.mp hready
        exact moves_taking hw hx (by simpa using hopen) hstarted
      next => exact .refl w

theorem pull_receiveNow (c : ConsumerId) (w : Provider) :
    (w.received (.receiveNow c), w.step (.receiveNow c)) = w.pull c := by
  simp only [received, step, receiveNow, pull]
  cases hx : w.consumers[c]? with
  | none => rfl
  | some x =>
      dsimp only
      cases x.closed <;> cases w.isStarted x.session <;> rfl

theorem pull_poll (c : ConsumerId) {w : Provider} (hw : w.Coherent) :
    (w.received (.poll c), w.step (.poll c)) = w.pull c := by
  simp only [received, step, poll, pull]
  cases hx : w.consumers[c]? with
  | none => rfl
  | some x =>
      dsimp only
      cases hclosed : x.closed with
      | true => rfl
      | false =>
          cases hstarted : w.isStarted x.session with
          | false => cases w.isOpen x.session <;> rfl
          | true =>
              -- the session of an open consumer is open
              obtain ⟨session, connection, hsession, -⟩ :=
                hw.cascading.openSession (List.mem_of_getElem? hx) hclosed hstarted
              have hopen : w.isOpen x.session = true := by simp [isOpen, hsession]; rfl
              rw [hopen]
              cases htake : w.takeNext x with
              | mk m next => cases m <;> simp

theorem pull_receive (c : ConsumerId) {w : Provider} (hw : w.Coherent) :
    (w.received (.receive c), w.step (.receive c)) = w.pull c := by
  rw [← pull_poll c hw]
  simp only [received, step, receive]
  cases hx : w.consumers[c]? with
  | none => simp [poll, hx]
  | some x =>
      cases hclosed : x.closed with
      | true => simp [poll, hx, hclosed]
      | false =>
          simp only [hclosed]
          cases w.poll c with
          | mk answer next => cases answer <;> rfl

/-- All ways to receive come to the same. -/
theorem pull_eq {op : Operation} {c : ConsumerId} {w : Provider} (hw : w.Coherent)
    (hop : op.consumer? = some c) : (w.received op, w.step op) = w.pull c := by
  cases op with
  | receiveNow i => cases hop; exact pull_receiveNow c w
  | receive i => cases hop; exact pull_receive c hw
  | poll i => cases hop; exact pull_poll c hw
  | _ => cases hop

theorem received_eq {op : Operation} {c : ConsumerId} {w : Provider} (hw : w.Coherent)
    (hop : op.consumer? = some c) : w.received op = (w.pull c).1 :=
  congrArg Prod.fst (pull_eq hw hop)

theorem step_eq {op : Operation} {c : ConsumerId} {w : Provider} (hw : w.Coherent)
    (hop : op.consumer? = some c) : w.step op = (w.pull c).2 :=
  congrArg Prod.snd (pull_eq hw hop)

omit [Labels] in
theorem pull_of_ready {c : ConsumerId} {w : Provider} {x : Consumer}
    (hx : w.consumers[c]? = some x) (hopen : x.closed = false)
    (hstarted : w.isStarted x.session = true) : w.pull c = w.takeNext x := by
  simp [pull, hx, hopen, hstarted]

omit [Labels] in
theorem takeNext_answer {x : Consumer} {session : Session} {w : Provider} {e : Envelope}
    {rest : Store} (hs : w.sessions[x.session]? = some session) (hopen : session.closed = false)
    (hmode : session.mode.isTracked = false)
    (htake : ((w.storeAt x.store).purge w.now).take x.filter = some (e, rest)) :
    (w.takeNext x).1 = some e.message := by
  simp [takeNext, takeFrom, hs, htake, deliver, hopen, hmode]

theorem moves_peek (browser : Browser) (w : Provider) :
    Moves w (w.expirations browser.store) (w.peek browser).2 := by
  have hpurge := (Move.purge w browser.store).moves
  rw [← updateStore_const] at hpurge
  exact hpurge

/-! ## Settling -/

omit [Labels] in
theorem redeliver_concat {s : SessionId} {older : List Delivery} {d : Delivery} {w : Provider}
    {x : Session} (hs : w.sessions[s]? = some x) (hx : x.delivered = older ++ [d]) :
    w.redeliver s =
      (putBack d (w.updateSession s ({ · with delivered := older }))).redeliver s := by
  have hnext : (putBack d (w.updateSession s ({ · with delivered := older }))).sessions[s]? =
      some { x with delivered := older } := by
    change (w.sessions.modify s _)[s]? = _
    simp [hs]
  rw [redeliver_eq hs, redeliver_eq hnext, hx, List.foldr_append]
  refine congrArg (fun v => older.foldr putBack v) ?_
  rw [List.foldr_cons, List.foldr_nil]
  simp only [putBack, updateStore, updateSession, List.modify_modify_eq]
  rfl

theorem moves_redeliver {s : SessionId} {ds : List Delivery} {w : Provider} {x : Session}
    (hs : w.sessions[s]? = some x) (hds : x.delivered = ds) :
    Moves w (ds.reverse.map (.putBack s)) (w.redeliver s) := by
  induction ds using List.reverseRecOn generalizing w x with
  | nil =>
      have hsame : w.redeliver s = w := by
        rw [redeliver_eq hs, hds]
        change { w with sessions := w.sessions.modify s _ } = w
        rw [modify_eq_self]
        intro y hy
        rw [hs] at hy
        cases hy
        rw [← hds]
      rw [hsame]
      exact .refl w
  | append_singleton older d ih =>
      have hback := (Move.giveBack w s x older d hs hds).moves
      have hnext : (putBack d (w.updateSession s ({ · with delivered := older }))).sessions[s]? =
          some { x with delivered := older } := by
        change (w.sessions.modify s _)[s]? = _
        simp [hs]
      rw [redeliver_concat hs hds, List.reverse_append]
      exact hback.trans (ih hnext rfl)

theorem moves_acknowledge (m : Message) (w : Provider) :
    Moves w (w.acknowledging m) (w.acknowledge m).2 := by
  unfold acknowledging acknowledge
  cases m.ack with
  | none => exact .refl w
  | some token =>
      simp only [check]
      cases hopen : w.openSession token.session with
      | error e => exact .refl w
      | ok x =>
          obtain ⟨session, connection⟩ := x
          have hack := (Move.acknowledge w token.session session connection token.tag hopen).moves
          have hnone : ∀ mode : AckMode, mode.isExplicit = false →
              session.delivered.filter (covers mode token.tag) = [] := by
            intro mode hmode
            refine List.filter_eq_nil_iff.mpr fun d _ => ?_
            cases mode <;> simp_all [covers, AckMode.isExplicit]
          dsimp only
          cases hmode : session.mode <;> rw [hmode] at hack
          case client => simpa [covers] using hack
          case individual => simpa [covers, bne] using hack
          case auto | dupsOk | transacted =>
            rw [hnone _ rfl]
            exact .refl w

theorem moves_commit {s : SessionId} {w : Provider} (hw : w.Coherent) :
    Moves w (w.events (.commit s)) (w.step (.commit s)) := by
  simp only [events, posts, published, step]
  unfold commit check
  cases hopen : w.openTransaction s with
  | error e => exact .refl w
  | ok x =>
      obtain ⟨session, connection⟩ := x
      have hsession := (openTransaction_eq_ok.mp hopen).1
      have hcommit := (Move.commit w s session connection hopen).moves
      have hc := openConnection_eq_ok.mp (openSession_eq_ok.mp hsession).2.2
      have hb := hw.grounded.connections connection (List.mem_of_getElem? hc.1)
      have hpublish := moves_publishAll session.connection (hcommit.coherent hw) hb session.buffered
      simpa [publications, hsession, List.flatMap_map] using hcommit.trans hpublish

theorem moves_rollback (s : SessionId) (w : Provider) :
    Moves w (w.events (.rollback s)) (w.rollback s).2 := by
  simp only [events]
  unfold rollback check
  cases hopen : w.openTransaction s with
  | error e => exact .refl w
  | ok x =>
      obtain ⟨session, connection⟩ := x
      have hs := (openSession_eq_ok.mp (openTransaction_eq_ok.mp hopen).1).1
      have hforget := (Move.forget w s session connection hopen).moves
      have hforgotten : (w.updateSession s ({ · with buffered := [] })).sessions[s]? =
          some { session with buffered := [] } := by
        simp [updateSession, hs]
      exact hforget.trans (moves_redeliver hforgotten rfl)

theorem moves_recover (s : SessionId) (w : Provider) :
    Moves w (w.events (.recover s)) (w.recover s).2 := by
  simp only [events]
  unfold recover check
  cases hopen : w.openSession s with
  | error e => exact .refl w
  | ok x =>
      obtain ⟨session, connection⟩ := x
      by_cases hmode : session.mode = .transacted
      · simpa [hmode] using .refl w
      · simp only [hmode, if_false]
        exact moves_redeliver (openSession_eq_ok.mp hopen).1 rfl

/-! ## Closing -/

theorem moves_closeConsumer (c : ConsumerId) (w : Provider) : Moves w [] (w.closeConsumer c) := by
  unfold closeConsumer
  cases hx : w.consumers[c]? with
  | none => exact .refl w
  | some x =>
      cases hclosed : x.closed with
      | true => simpa [hclosed] using .refl w
      | false => simpa [hclosed] using (Move.closeConsumer w c x hx hclosed).moves

theorem moves_foldl_closeConsumer (cs : List ConsumerId) (w : Provider) :
    Moves w [] (cs.foldl (fun w c => w.closeConsumer c) w) := by
  induction cs generalizing w with
  | nil => exact .refl w
  | cons c cs ih => exact (moves_closeConsumer c w).trans (ih (w.closeConsumer c))

theorem moves_closeSession (s : SessionId) (w : Provider) :
    Moves w (w.closing s) (w.closeSession s) := by
  unfold closing
  cases hs : w.sessions[s]? with
  | none => simpa [closeSession, hs] using .refl w
  | some x =>
      cases hclosed : x.closed with
      | true => simpa [closeSession, hs, hclosed] using .refl w
      | false =>
          have hconsumers := moves_foldl_closeConsumer (w.consumersOf s) w
          have hs' := (congrArg (·[s]?) (sessions_foldl_closeConsumer (w.consumersOf s) w)).trans hs
          have hback := moves_redeliver hs' rfl
          have hretire := Move.retireSession
            (((w.consumersOf s).foldl (fun w c => w.closeConsumer c) w).redeliver s) s
            { x with delivered := [] } (by rw [sessions_redeliver]; simp [hs']) hclosed rfl
            (by
              rw [(redeliver_frame s _).1]
              exact fun y hy hsession => closed_of_foldl_closeConsumer hy hsession)
          rw [closeSession_eq hs hclosed]
          simpa [hclosed, returning] using (hconsumers.trans hback).trans hretire.moves

omit [Labels] in
theorem closing_closeSession {s t : SessionId} (hst : s ≠ t) (w : Provider) :
    (w.closeSession s).closing t = w.closing t := by
  unfold closing
  rw [sessions_closeSession, List.getElem?_modify_ne _ _ hst]

theorem moves_foldl_closeSession {ss : List SessionId} (hss : ss.Nodup) (w : Provider) :
    Moves w (ss.flatMap fun s => w.closing s) (ss.foldl (fun w s => w.closeSession s) w) := by
  induction ss generalizing w with
  | nil => exact .refl w
  | cons s ss ih =>
      obtain ⟨hs, hss⟩ := List.nodup_cons.mp hss
      have hrest := ih hss (w.closeSession s)
      have hsame : (ss.flatMap fun t => (w.closeSession s).closing t) =
          ss.flatMap fun t => w.closing t := by
        refine List.flatMap_congr fun t ht => closing_closeSession ?_ w
        rintro rfl
        exact hs ht
      rw [hsame] at hrest
      exact (moves_closeSession s w).trans hrest

omit [Labels] in
theorem nodup_sessionsOf (c : ConnectionId) (w : Provider) : (w.sessionsOf c).Nodup :=
  List.nodup_range.filter _

theorem moves_closeConnection (c : ConnectionId) (w : Provider) :
    Moves w (w.events (.closeConnection c)) (w.closeConnection c) := by
  simp only [events]
  cases hopen : w.openConnection c with
  | error e =>
      have hsame : w.closeConnection c = w := by
        unfold closeConnection
        unfold openConnection at hopen
        grind
      rw [hsame]
      exact .refl w
  | ok x =>
      have hsessions := moves_foldl_closeSession (nodup_sessionsOf c w) w
      have hopen' : ((w.sessionsOf c).foldl (fun w s => w.closeSession s) w).openConnection c =
          .ok x := by
        unfold openConnection
        rw [connections_foldl_closeSession]
        exact hopen
      have hretire := Move.retireConnection _ c x hopen' fun y hy hc =>
        closed_of_foldl_closeSession hy hc
      rw [closeConnection_eq hopen]
      simpa [Except.isOk, Except.toBool] using hsessions.trans hretire.moves

/-! ## Opening -/

theorem moves_findBroker {u : BrokerUri} {w next : Provider} {r : Except Error BrokerId}
    (h : w.findBroker u = (r, next)) : Moves w [] next := by
  unfold findBroker at h
  split at h
  next =>
    obtain ⟨-, rfl⟩ := Prod.mk.injEq .. ▸ h
    exact .refl w
  next =>
    split at h
    next =>
      obtain ⟨-, rfl⟩ := Prod.mk.injEq .. ▸ h
      exact (Move.startBroker w u.broker u.credentials).moves
    next =>
      obtain ⟨-, rfl⟩ := Prod.mk.injEq .. ▸ h
      exact .refl w

omit [Labels] in
theorem lt_of_findBroker {u : BrokerUri} {w next : Provider} {b : BrokerId} (hw : w.Grounded)
    (h : w.findBroker u = (.ok b, next)) : b < next.brokers.length := by
  unfold findBroker at h
  split at h
  next b' hfound =>
    obtain ⟨hb, rfl⟩ := Prod.mk.injEq .. ▸ h
    obtain ⟨before, after, hrunning, -⟩ := List.lookup_eq_some_iff.mp hfound
    have hmem : (u.broker, b') ∈ w.running := by simp [hrunning]
    exact Except.ok.inj hb ▸ hw.running _ hmem
  next =>
    split at h
    next =>
      obtain ⟨hb, rfl⟩ := Prod.mk.injEq .. ▸ h
      simp [← Except.ok.inj hb]
    next => simp at h

omit [Labels] in
theorem openSession_queueStore (b : BrokerId) (d : Destination) (s : SessionId) {w : Provider} :
    (w.queueStore b d).2.openSession s = w.openSession s := by
  obtain ⟨brokers, stores, h⟩ := queueStore_frame (b := b) (w := w) d
  rw [h]
  exact openSession_congr rfl rfl s

theorem moves_check {α β : Type} {r : Except Error α} {w : Provider} {f : α → Outcome β}
    (h : ∀ a, r = .ok a → Moves w [] (f a).2) : Moves w [] (check r w f).2 := by
  cases r with
  | error e => exact .refl w
  | ok a => exact h a rfl

theorem moves_connectWith (f : ConnectionFactory) (username password : String)
    (clientId : Option String) {w : Provider} (hw : w.Coherent) :
    Moves w [] (w.connectWith f username password clientId).2 := by
  unfold connectWith
  cases hfound : w.findBroker f.uri with
  | mk r next =>
      have hfind := moves_findBroker hfound
      cases r with
      | error e => exact hfind
      | ok b =>
          refine hfind.trans (moves_check fun _ _ => ?_)
          have hb := lt_of_findBroker hw.grounded hfound
          have hasked := (Move.idle next next.clock (next.labels + 1) next.producers
            next.browsers (Nat.le_succ _)).moves
          dsimp only
          cases hlabel : Labels.request (next.labels + 1) with
          | error e => exact hasked
          | ok label =>
              cases hid : (Provider.brokerAt b { next with labels := next.labels + 1 }).checkClientId
                  ((clientId <|> f.uri.clientId).getD label) with
              | error e => simpa only [check, hid] using hasked
              | ok _ =>
                  have hfixed : (clientId <|> f.uri.clientId).isSome = false →
                      (clientId <|> f.uri.clientId).getD label = label := by
                    cases clientId <|> f.uri.clientId <;> simp
                  simp only [check, hid]
                  exact (Move.connect next b label _ _ hb hlabel hid hfixed).moves

theorem moves_start (c : ConnectionId) (w : Provider) : Moves w [] (w.start c).2 := by
  refine moves_check fun x hopen => ?_
  exact (Move.useConnection w c x _ hopen ⟨rfl, rfl, rfl, fun _ => rfl, by simp, rfl⟩).moves

theorem moves_stop (c : ConnectionId) (w : Provider) : Moves w [] (w.stop c).2 := by
  refine moves_check fun x hopen => ?_
  exact (Move.useConnection w c x _ hopen ⟨rfl, rfl, rfl, fun h => h, by simp, rfl⟩).moves

theorem moves_setClientId (c : ConnectionId) (id : String) (w : Provider) :
    Moves w [] (w.setClientId c id).2 := by
  refine moves_check fun x hopen => ?_
  cases hfree : x.clientIdFixed with
  | true => simpa [hfree] using .refl w
  | false =>
      refine moves_check fun _ hid => ?_
      exact (Move.setClientId w c x id hopen hfree hid).moves

theorem moves_createSession (c : ConnectionId) (mode : AckMode) (w : Provider) :
    Moves w [] (w.createSession c mode).2 := by
  refine moves_check fun x hopen => ?_
  obtain ⟨hc, hstate⟩ := openConnection_eq_ok.mp hopen
  have huse := (Move.useConnection w c x
    (fun x => { x with clientIdFixed := true, nextSession := x.nextSession + 1 }) hopen
    ⟨rfl, rfl, rfl, fun _ => rfl, hstate, rfl⟩).moves
  refine huse.trans (Move.openSession _ c
    { x with clientIdFixed := true, nextSession := x.nextSession + 1 } x.nextSession mode ?_
    rfl).moves
  refine openConnection_eq_ok.mpr ⟨?_, hstate⟩
  simp [updateConnection, hc]

theorem moves_createTemporary (s : SessionId) {kind : DestinationKind}
    (hkind : kind.isTemporary = true) (w : Provider) :
    Moves w [] (w.createTemporary s kind).2 := by
  refine moves_check fun (session, connection) hopen => ?_
  obtain ⟨-, -, hc⟩ := openSession_eq_ok.mp hopen
  exact (Move.addTemporary w session.connection connection kind hc hkind).moves

theorem moves_createProducer (s : SessionId) (d : Option Destination) (w : Provider) :
    Moves w [] (w.createProducer s d).2 := by
  refine moves_check fun (session, connection) hopen => ?_
  have hnumber := (Move.numberProducer w s (session.nextProducer + 1)).moves
  exact hnumber.trans (Move.idle _ _ _ _ _ (Nat.le_refl _)).moves

theorem moves_createConsumer (s : SessionId) (d : Destination) (selector : Option String)
    (noLocal : Bool) {w : Provider} (hw : w.Coherent) :
    Moves w [] (w.createConsumer s d selector noLocal).2 := by
  refine moves_check fun (session, connection) hopen => moves_check fun selector _ =>
    moves_check fun _ hallowed => ?_
  have hb := hw.grounded.lt_of_openSession hopen
  cases hd : d.isQueue with
  | false => exact (Move.subscribe w s session connection d selector noLocal hopen hd hallowed).moves
  | true =>
      refine (moves_queueStore hb hd (isLive_of_checkConsumable hallowed)).trans ?_
      have hopen' := (openSession_queueStore connection.broker d s).trans hopen
      have hextends := extends_queueStore (b := connection.broker) (w := w) d connection.broker
      have hallowed' := (hextends.checkConsumable d session.connection).trans hallowed
      exact (Move.consume _ s session connection d _ selector hopen' hd hallowed'
        (queue?_queueStore d hb)).moves

theorem moves_createBrowser (s : SessionId) (queue : Destination) (selector : Option String)
    {w : Provider} (hw : w.Coherent) : Moves w [] (w.createBrowser s queue selector).2 := by
  refine moves_check fun (session, connection) hopen => moves_check fun selector _ => ?_
  have hb := hw.grounded.lt_of_openSession hopen
  cases hd : queue.isQueue with
  | false => exact .refl w
  | true =>
      refine moves_check fun _ hallowed => ?_
      refine (moves_queueStore hb hd (isLive_of_checkConsumable hallowed)).trans ?_
      exact (Move.idle _ _ _ _ _ (Nat.le_refl _)).moves

theorem moves_createDurableConsumer (s : SessionId) (topic : Destination) (name : String)
    (selector : Option String) (noLocal : Bool) (w : Provider) :
    Moves w (w.events (.createDurableConsumer s topic name selector noLocal))
      (w.createDurableConsumer s topic name selector noLocal).2 := by
  simp only [events]
  unfold createDurableConsumer
  cases hopen : w.openSession s with
  | error e => exact .refl w
  | ok x =>
      obtain ⟨session, connection⟩ := x
      cases hparse : Selector.parseOptional selector with
      | error e => exact .refl w
      | ok parsed =>
          by_cases htopic : topic.kind = .topic
          · cases hstore : w.durableStore connection.broker ⟨connection.clientId, name⟩ topic
                parsed with
            | mk r next =>
                cases r with
                | error e =>
                    have hsame : next = w := by
                      unfold durableStore at hstore
                      grind
                    simpa [check, htopic, hstore, hsame] using .refl w
                | ok store =>
                    simpa [check, htopic, hstore] using (Move.attach w s session connection topic
                      name selector parsed noLocal store next hopen hparse htopic hstore).moves
          · simpa [check, htopic] using .refl w

theorem moves_unsubscribe (s : SessionId) (name : String) (w : Provider) :
    Moves w (w.events (.unsubscribe s name)) (w.unsubscribe s name).2 := by
  simp only [events]
  unfold unsubscribe
  cases hopen : w.openSession s with
  | error e => exact .refl w
  | ok x =>
      obtain ⟨session, connection⟩ := x
      simp only [check]
      cases hd : (w.brokerAt connection.broker).durable? ⟨connection.clientId, name⟩ with
      | none => exact .refl w
      | some d =>
          cases hactive : d.active with
          | true => simpa [hactive] using .refl w
          | false =>
              simpa [hactive] using
                (Move.unsubscribe w s session connection name d hopen hd hactive).moves

/-! ## Sending -/

theorem moves_countSend (p : ProducerId) (producer : Producer) (w : Provider) :
    Moves w [] (w.countSend p producer) := by
  unfold countSend
  split
  · exact .refl w
  · exact (Move.idle w _ _ _ _ (Nat.le_refl _)).moves

theorem moves_sendThrough {s : SessionId} {session : Session} {connection : Connection}
    {w : Provider} (hw : w.Coherent) (hopen : w.openSession s = .ok (session, connection))
    (d : Destination) (m : Message) :
    Moves w
      (if session.mode = .transacted then [.kept s d m]
        else (((w.sendThrough s d m).2.brokerAt connection.broker).routes
          ⟨connection.broker, d, sealed m, session.connection⟩).map fun s =>
            .posted s (sealed m) session.connection)
      (w.sendThrough s d m).2 := by
  unfold sendThrough
  simp only [hopen, check]
  by_cases hmode : session.mode = .transacted
  · simp only [hmode, if_true]
    exact (Move.keep w s session connection d m hopen hmode).moves
  · have hb := hw.grounded.lt_of_openSession hopen
    simp only [hmode, if_false]
    rw [brokerAt_publish hb]
    exact moves_publish hw hb d m session.connection

omit [Labels] in
theorem openSession_countSend (p : ProducerId) (producer : Producer) (s : SessionId)
    (w : Provider) : (w.countSend p producer).openSession s = w.openSession s := by
  unfold countSend
  split <;> exact openSession_congr rfl rfl s

theorem moves_send (p : ProducerId) (requested : Option Destination) (q : Option Quality)
    (m : Message) {w : Provider} (hw : w.Coherent) :
    Moves w (w.events (.send p requested q m)) (w.step (.send p requested q m)) := by
  simp only [events, posts, published, submission, step, send]
  cases hprepare : w.prepare p requested (w.qualityOf p q) m with
  | error e => exact .refl w
  | ok x =>
      obtain ⟨producer, d, m⟩ := x
      have hcount := moves_countSend p producer w
      cases hopen : w.openSession producer.session with
      | error e =>
          have hclosed : w.isOpen producer.session = false := by simp [isOpen, hopen]; rfl
          have hfailed : (w.countSend p producer).sendThrough producer.session d m =
              (.error e, w.countSend p producer) := by
            simp [sendThrough, openSession_countSend, hopen, check]
          simpa [hclosed, hfailed] using hcount
      | ok x =>
          obtain ⟨session, connection⟩ := x
          have hisOpen : w.isOpen producer.session = true := by simp [isOpen, hopen]; rfl
          have htransacted : w.isTransacted producer.session =
              decide (session.mode = .transacted) := by
            simp [isTransacted, (openSession_eq_ok.mp hopen).1, beq_eq_decide]
          have hsend := moves_sendThrough (hcount.coherent hw)
            ((openSession_countSend p producer producer.session w).trans hopen) d m
          by_cases hmode : session.mode = .transacted
          · simpa [hisOpen, htransacted, hmode] using hcount.trans hsend
          · simpa [hisOpen, htransacted, hmode, publications, hopen] using hcount.trans hsend

/-! ## Runs -/

/-- An operation is a chain of moves. -/
theorem moves_step {w : Provider} (hw : w.Coherent) (op : Operation) :
    Moves w (w.events op) (w.step op) := by
  have hproducers : ∀ producers : List Producer, Moves w [] { w with producers } := fun producers =>
    (Move.idle w w.clock w.labels producers w.browsers (Nat.le_refl _)).moves
  have hpull : ∀ op c, Operation.consumer? op = some c → Moves w (w.receiving c) (w.step op) :=
    fun op c hop => step_eq hw hop ▸ moves_pull c hw
  cases op with
  | connect f username password clientId => exact moves_connectWith f username password clientId hw
  | start c => exact moves_start c w
  | stop c => exact moves_stop c w
  | setClientId c id => exact moves_setClientId c id w
  | closeConnection c => exact moves_closeConnection c w
  | shutdown => exact (Move.shutdown w).moves
  | advance millis => exact (Move.idle w _ _ _ _ (Nat.le_refl _)).moves
  | createSession c mode => exact moves_createSession c mode w
  | createTemporaryQueue s => exact moves_createTemporary s rfl w
  | createTemporaryTopic s => exact moves_createTemporary s rfl w
  | acknowledge m => exact moves_acknowledge m w
  | commit s => exact moves_commit hw
  | rollback s => exact moves_rollback s w
  | recover s => exact moves_recover s w
  | unsubscribe s name => exact moves_unsubscribe s name w
  | closeSession s => exact moves_closeSession s w
  | createProducer s d => exact moves_createProducer s d w
  | configure p x =>
      cases x with
      | deliveryMode | disableMessageId | disableTimestamp => exact hproducers _
      | priority n => exact moves_check fun _ _ => hproducers _
      | timeToLive millis => exact moves_check fun _ _ => hproducers _
  | closeProducer p => exact hproducers _
  | send p requested q m => exact moves_send p requested q m hw
  | createConsumer s d selector noLocal => exact moves_createConsumer s d selector noLocal hw
  | createDurableConsumer s topic name selector noLocal =>
      exact moves_createDurableConsumer s topic name selector noLocal w
  | closeConsumer c => exact moves_closeConsumer c w
  | receiveNow c => exact hpull (.receiveNow c) c rfl
  | receive c => exact hpull (.receive c) c rfl
  | poll c => exact hpull (.poll c) c rfl
  | createBrowser s queue selector => exact moves_createBrowser s queue selector hw
  | hasMore b =>
      change Moves w (w.browsing b) (w.hasMore b).2
      unfold browsing hasMore
      cases w.openBrowser b with
      | error e => exact .refl w
      | ok browser => exact moves_peek browser w
  | browseNext b =>
      change Moves w (w.browsing b) (w.browseNext b).2
      unfold browsing browseNext
      cases w.openBrowser b with
      | error e => exact .refl w
      | ok browser =>
          have hpeek := moves_peek browser w
          simp only [check]
          cases hseen : w.peek browser with
          | mk e next =>
              rw [hseen] at hpeek
              cases e with
              | none => exact hpeek
              | some e =>
                  have hmark := hpeek.trans (Move.idle next next.clock next.labels next.producers
                    (next.browsers.modify b ({ · with seen := e.seq :: browser.seen }))
                    (Nat.le_refl _)).moves
                  rw [List.append_nil] at hmark
                  exact hmark
  | closeBrowser b => exact (Move.idle w _ _ _ _ (Nat.le_refl _)).moves

theorem moves_run (ops : List Operation) :
    Moves {} (log ops {}) (run ops {}) := by
  induction ops using List.reverseRecOn with
  | nil => exact .refl _
  | append_singleton ops op ih =>
      rw [log_concat, run_append]
      exact ih.trans (moves_step (ih.coherent .init) op)

theorem coherent_run (ops : List Operation) : (run ops {}).Coherent :=
  (moves_run ops).coherent .init

/-- What holds at first and what every move keeps holds after every run. -/
theorem keeps_run {P : List Event → Provider → Prop} (hinit : P [] {})
    (hP : ∀ {w w' : Provider} {es log : List Event},
      Move w es w' → w.Coherent → P log w → P (log ++ es) w')
    (ops : List Operation) : P (log ops {}) (run ops {}) := by
  have hchain : ∀ {w es}, Moves {} es w → w.Coherent ∧ P es w := by
    intro w es h
    induction h with
    | refl => exact ⟨.init, hinit⟩
    | step hmoves hmove ih =>
        obtain ⟨hcoherent, hkept⟩ := ih
        exact ⟨hmove.coherent hcoherent, hP hmove hcoherent hkept⟩
  exact (hchain (moves_run ops)).2

end Messaging.Provider
