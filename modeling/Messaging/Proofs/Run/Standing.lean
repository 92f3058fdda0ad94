import Messaging.Proofs.Run.Lasting

/-!
# What stays closed

What is closed stays closed, and so does what was made from it.  A connection keeps its broker and
its label; it gets another client id only while its client id is not fixed, and then it is.
-/

namespace Messaging

structure Connection.Continues (x y : Connection) : Prop where
  broker : y.broker = x.broker
  label : y.label = x.label
  fixed : x.clientIdFixed = true → y.clientIdFixed = true
  clientId : y.clientId = x.clientId ∨ x.clientIdFixed = false ∧ y.clientIdFixed = true
  closed : x.state = .closed → y.state = .closed
  nextTemporary : x.nextTemporary ≤ y.nextTemporary

namespace Connection.Continues

variable {x y z : Connection}

theorem refl (x : Connection) : x.Continues x :=
  ⟨rfl, rfl, id, .inl rfl, id, Nat.le_refl _⟩

theorem trans (h : x.Continues y) (h' : y.Continues z) : x.Continues z := by
  refine ⟨h'.broker.trans h.broker, h'.label.trans h.label, h'.fixed ∘ h.fixed, ?_,
    h'.closed ∘ h.closed, Nat.le_trans h.nextTemporary h'.nextTemporary⟩
  have hfixed := h.fixed
  rcases h.clientId with hid | ⟨hfree, hy⟩ <;> rcases h'.clientId with hid' | ⟨hfree', hz⟩
  · exact .inl (hid'.trans hid)
  · refine .inr ⟨?_, hz⟩
    cases hx : x.clientIdFixed with
    | false => rfl
    | true => simp [hfixed hx] at hfree'
  · exact .inr ⟨hfree, h'.fixed hy⟩
  · simp [hy] at hfree'

theorem clientId_of_fixed (h : x.Continues y) (hx : x.clientIdFixed = true) :
    y.clientId = x.clientId := by
  rcases h.clientId with hid | ⟨hfree, -⟩
  · exact hid
  · rw [hx] at hfree
    cases hfree

end Connection.Continues

/-- What was made keeps its maker, and stays closed once it is closed. -/
structure Stays {α β : Type} (maker : α → β) (closed : α → Bool) (x y : α) : Prop where
  maker : maker y = maker x
  closed : closed x = true → closed y = true

namespace Stays

variable {α β : Type} {maker : α → β} {closed : α → Bool} {x y z : α}

theorem refl (x : α) : Stays maker closed x x := ⟨rfl, id⟩

theorem trans (h : Stays maker closed x y) (h' : Stays maker closed y z) :
    Stays maker closed x z :=
  ⟨h'.maker.trans h.maker, h'.closed ∘ h.closed⟩

end Stays

theorem Succeeds.closed {α β : Type} {maker : α → β} {closed : α → Bool} {l l' : List α}
    (h : Succeeds (Stays maker closed) l l') {above above' : β → Bool}
    (habove : ∀ m, above m = true → above' m = true) {i : Nat}
    (hi : l[i]?.any (fun x => closed x || above (maker x)) = true) :
    l'[i]?.any (fun x => closed x || above' (maker x)) = true := by
  cases hx : l[i]? with
  | none => simp [hx] at hi
  | some x =>
      obtain ⟨y, hy, hxy⟩ := h i x hx
      have hclosed : (closed x || above (maker x)) = true := by simpa [hx] using hi
      rw [hy, Option.any_some, Bool.or_eq_true_iff, hxy.maker]
      exact (Bool.or_eq_true_iff.mp hclosed).imp hxy.closed (habove _)

namespace Provider

/-! ## Connections, sessions and consumers -/

structure Stands (w w' : Provider) : Prop where
  connections : Succeeds Connection.Continues w.connections w'.connections
  sessions : Succeeds (Stays Session.connection Session.closed) w.sessions w'.sessions
  consumers : Succeeds (Stays Consumer.session Consumer.closed) w.consumers w'.consumers

namespace Stands

variable {w w' w'' : Provider}

theorem same (hconnections : w'.connections = w.connections) (hsessions : w'.sessions = w.sessions)
    (hconsumers : w'.consumers = w.consumers) : w.Stands w' :=
  ⟨.of_eq .refl hconnections, .of_eq .refl hsessions, .of_eq .refl hconsumers⟩

theorem refl (w : Provider) : w.Stands w := same rfl rfl rfl

theorem trans (h : w.Stands w') (h' : w'.Stands w'') : w.Stands w'' :=
  ⟨h.connections.trans Connection.Continues.trans h'.connections,
    h.sessions.trans Stays.trans h'.sessions, h.consumers.trans Stays.trans h'.consumers⟩

theorem updateConnection {c : ConnectionId} {x : Connection} {f : Connection → Connection}
    (hconnections : w'.connections = w.connections.modify c f)
    (hsessions : w'.sessions = w.sessions) (hconsumers : w'.consumers = w.consumers)
    (hopen : w.openConnection c = .ok x) (hf : x.Continues (f x)) : w.Stands w' := by
  refine ⟨?_, .of_eq .refl hsessions, .of_eq .refl hconsumers⟩
  rw [hconnections]
  refine .modify .refl fun y hy => ?_
  obtain rfl : x = y := Option.some.inj ((openConnection_eq_ok.mp hopen).1.symm.trans hy)
  exact hf

theorem updateSession {s : SessionId} {f : Session → Session}
    (hconnections : w'.connections = w.connections)
    (hsessions : w'.sessions = w.sessions.modify s f) (hconsumers : w'.consumers = w.consumers)
    (hf : ∀ x, Stays Session.connection Session.closed x (f x)) : w.Stands w' := by
  refine ⟨.of_eq .refl hconnections, ?_, .of_eq .refl hconsumers⟩
  rw [hsessions]
  exact .modify .refl fun x _ => hf x

end Stands

section AnyLabels

variable [Labels]

theorem Move.stands {w w' : Provider} {es : List Event} (h : Move w es w') : w.Stands w' := by
  cases h with
  | idle | shutdown | startBroker | addQueue | post | purge | unsubscribe =>
      exact .same rfl rfl rfl
  | connect => exact ⟨.append .refl _, .of_eq .refl rfl, .of_eq .refl rfl⟩
  | useConnection c x f hopen hf =>
      have hstate := (openConnection_eq_ok.mp hopen).2
      exact .updateConnection rfl rfl rfl hopen ⟨hf.broker, hf.label, hf.clientIdFixed,
        .inl hf.clientId, fun h => absurd h hstate, Nat.le_of_eq hf.nextTemporary.symm⟩
  | setClientId c x name hopen hfree =>
      exact .updateConnection rfl rfl rfl hopen
        ⟨rfl, rfl, fun _ => rfl, .inr ⟨hfree, rfl⟩, id, Nat.le_refl _⟩
  | addTemporary c x kind hopen =>
      exact .updateConnection rfl rfl rfl hopen ⟨rfl, rfl, id, .inl rfl, id, Nat.le_succ _⟩
  | retireConnection c x hopen =>
      exact .updateConnection rfl rfl rfl hopen
        ⟨rfl, rfl, id, .inl rfl, fun _ => rfl, Nat.le_refl _⟩
  | openSession => exact ⟨.of_eq .refl rfl, .append .refl _, .of_eq .refl rfl⟩
  | numberProducer | keep | acknowledge | commit | forget | giveBack =>
      exact .updateSession rfl rfl rfl fun _ => ⟨rfl, id⟩
  | retireSession => exact .updateSession rfl rfl rfl fun _ => ⟨rfl, fun _ => rfl⟩
  | consume | subscribe => exact ⟨.of_eq .refl rfl, .of_eq .refl rfl, .append .refl _⟩
  | attach i session connection topic name text selector noLocal store next _ _ _ hstore =>
      obtain ⟨stores, rfl⟩ := durableStore_frame hstore
      exact ⟨.of_eq .refl rfl, .of_eq .refl rfl, .append .refl _⟩
  | closeConsumer c x =>
      obtain ⟨brokers, heq⟩ := releaseSource_frame c x w
      rw [heq]
      exact ⟨.of_eq .refl rfl, .of_eq .refl rfl, .modify .refl fun _ _ => ⟨rfl, fun _ => rfl⟩⟩
  | handOut c x session connection e rest _ _ hsession =>
      rw [deliver_of_open (openSession_eq_ok.mp hsession).2.1]
      split
      · exact .updateSession rfl rfl rfl fun _ => ⟨rfl, id⟩
      · exact .same rfl rfl rfl

theorem Moves.stands {w w' : Provider} {es : List Event} (h : Moves w es w') : w.Stands w' := by
  induction h with
  | refl => exact .refl _
  | step _ hmove ih => exact ih.trans hmove.stands

theorem stands_step {w : Provider} (hw : w.Coherent) (op : Operation) : w.Stands (w.step op) :=
  (moves_step hw op).stands

theorem stands_run {w : Provider} (hw : w.Coherent) (ops : List Operation) :
    w.Stands (w.run ops) := by
  induction ops generalizing w with
  | nil => exact .refl w
  | cons op ops ih => exact (stands_step hw op).trans (ih (hw.step op))

end AnyLabels

/-! ## What is closed -/

def connectionClosed (c : ConnectionId) (w : Provider) : Bool :=
  w.connections[c]?.any (·.state == .closed)

def sessionClosed (s : SessionId) (w : Provider) : Bool :=
  w.sessions[s]?.any fun x => x.closed || w.connectionClosed x.connection

def consumerClosed (c : ConsumerId) (w : Provider) : Bool :=
  w.consumers[c]?.any fun x => x.closed || w.sessionClosed x.session

section Closed

variable {w : Provider}

theorem openConnection_of_closed {c : ConnectionId} (hc : w.connectionClosed c = true) :
    w.openConnection c = .error (.closed .connection) := by
  unfold connectionClosed at hc
  unfold openConnection
  cases h : w.connections[c]? with
  | none => rfl
  | some x =>
      rw [h] at hc
      exact if_pos (by simpa using hc)

theorem openSession_of_closed {s : SessionId} (hs : w.sessionClosed s = true) :
    ∃ part, w.openSession s = .error (.closed part) := by
  unfold sessionClosed at hs
  unfold openSession
  cases h : w.sessions[s]? with
  | none => exact ⟨_, rfl⟩
  | some x =>
      rw [h] at hs
      rcases Bool.or_eq_true_iff.mp hs with hclosed | hc
      · exact ⟨_, if_pos hclosed⟩
      · dsimp only
        rw [openConnection_of_closed hc]
        split <;> exact ⟨_, rfl⟩

theorem sessionClosed_or_open {s : SessionId} {x : Session} (hw : w.Grounded)
    (hs : w.sessions[s]? = some x) :
    w.sessionClosed s = true ∨ ∃ connection, w.openSession s = .ok (x, connection) := by
  have hlt := hw.sessions x (List.mem_of_getElem? hs)
  cases hclosed : x.closed with
  | true => exact .inl (by simp [sessionClosed, hs, hclosed])
  | false =>
      by_cases hstate : (w.connections[x.connection]).state = .closed
      · exact .inl (by simp [sessionClosed, connectionClosed, hs, hlt, hstate])
      · refine .inr ⟨w.connections[x.connection], openSession_eq_ok.mpr ⟨hs, hclosed, ?_⟩⟩
        exact openConnection_eq_ok.mpr ⟨List.getElem?_eq_getElem hlt, hstate⟩

end Closed

section Forever

variable {w : Provider} (hw : w.Coherent) (ops : List Operation)

include hw

variable [Labels]

theorem connectionClosed_run {c : ConnectionId} (hc : w.connectionClosed c = true) :
    (w.run ops).connectionClosed c = true := by
  unfold connectionClosed at hc ⊢
  cases hx : w.connections[c]? with
  | none => simp [hx] at hc
  | some x =>
      obtain ⟨y, hy, hxy⟩ := (stands_run hw ops).connections c x hx
      simpa [hy] using hxy.closed (by simpa [hx] using hc)

theorem sessionClosed_run {s : SessionId} (hs : w.sessionClosed s = true) :
    (w.run ops).sessionClosed s = true :=
  (stands_run hw ops).sessions.closed (fun c => connectionClosed_run hw ops (c := c)) hs

theorem consumerClosed_run {c : ConsumerId} (hc : w.consumerClosed c = true) :
    (w.run ops).consumerClosed c = true :=
  (stands_run hw ops).consumers.closed (fun s => sessionClosed_run hw ops (s := s)) hc

end Forever

end Provider

end Messaging
