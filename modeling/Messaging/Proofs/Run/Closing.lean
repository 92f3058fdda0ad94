import Messaging.Proofs.Run.Coherence

/-!
# Closing

A connection is marked as closed before its sessions are closed, and a session before its
consumers are.  The marks make no difference to what closes after them, so that closing can be
read from the inside out: consumers first, then what their session has delivered, and so on.
-/

namespace Messaging

def Session.shut (x : Session) : Session :=
  if x.closed then x else { x with closed := true, delivered := [], buffered := [] }

theorem Session.shut_shut (x : Session) : x.shut.shut = x.shut := by
  unfold Session.shut
  grind

theorem Session.closed_shut (x : Session) : x.shut.closed = true := by
  unfold Session.shut
  split <;> simp [*]

namespace Provider

/-! ## Closing a consumer -/

theorem consumers_closeConsumer (c : ConsumerId) (w : Provider) :
    (w.closeConsumer c).consumers = w.consumers.modify c ({ · with closed := true }) := by
  unfold closeConsumer
  cases hc : w.consumers[c]? with
  | none => exact (modify_eq_self (by simp [hc])).symm
  | some x =>
      cases hx : x.closed with
      | true =>
          simp only [hx, if_true]
          refine (modify_eq_self ?_).symm
          intro y hy
          rw [hc] at hy
          cases hy
          rw [← hx]
      | false =>
          obtain ⟨brokers, heq⟩ := releaseSource_frame c x w
          simp only [hx, heq]
          rfl

section Frames

variable (c : ConsumerId) (w : Provider)

theorem closeConsumer_eq :
    ∃ consumers brokers, w.closeConsumer c = { w with consumers, brokers } := by
  unfold closeConsumer
  cases w.consumers[c]? with
  | none => exact ⟨_, _, rfl⟩
  | some x =>
      by_cases hx : x.closed = true
      · exact ⟨_, _, if_pos hx⟩
      · obtain ⟨brokers, heq⟩ := releaseSource_frame c x w
        simp only [hx, heq]
        exact ⟨_, _, rfl⟩

@[simp] theorem sessions_closeConsumer : (w.closeConsumer c).sessions = w.sessions := by
  obtain ⟨consumers, brokers, h⟩ := closeConsumer_eq c w
  rw [h]

@[simp] theorem connections_closeConsumer : (w.closeConsumer c).connections = w.connections := by
  obtain ⟨consumers, brokers, h⟩ := closeConsumer_eq c w
  rw [h]

end Frames

theorem consumers_foldl_closeConsumer (cs : List ConsumerId) (w : Provider) :
    (cs.foldl (fun w c => w.closeConsumer c) w).consumers =
      cs.foldl (fun xs c => xs.modify c ({ · with closed := true })) w.consumers := by
  induction cs generalizing w with
  | nil => rfl
  | cons c cs ih => rw [List.foldl_cons, ih, consumers_closeConsumer, List.foldl_cons]

theorem sessions_foldl_closeConsumer (cs : List ConsumerId) (w : Provider) :
    (cs.foldl (fun w c => w.closeConsumer c) w).sessions = w.sessions := by
  induction cs generalizing w with
  | nil => rfl
  | cons c cs ih => rw [List.foldl_cons, ih, sessions_closeConsumer]

theorem connections_foldl_closeConsumer (cs : List ConsumerId) (w : Provider) :
    (cs.foldl (fun w c => w.closeConsumer c) w).connections = w.connections := by
  induction cs generalizing w with
  | nil => rfl
  | cons c cs ih => rw [List.foldl_cons, ih, connections_closeConsumer]

theorem closed_of_foldl_closeConsumer {s : SessionId} {w : Provider} {x : Consumer}
    (hx : x ∈ ((w.consumersOf s).foldl (fun w c => w.closeConsumer c) w).consumers)
    (hs : x.session = s) : x.closed = true := by
  rw [consumers_foldl_closeConsumer] at hx
  obtain ⟨j, hj⟩ := List.mem_iff_getElem?.mp hx
  rw [getElem?_foldl_modify (f := fun x : Consumer => { x with closed := true })
    (fun _ => rfl)] at hj
  split at hj
  next =>
    obtain ⟨y, -, rfl⟩ := Option.map_eq_some_iff.mp hj
    rfl
  next hnot =>
    refine absurd ?_ hnot
    have hlt := (List.getElem?_eq_some_iff.mp hj).1
    refine List.mem_filter.mpr ⟨List.mem_range.mpr hlt, ?_⟩
    rw [hj]
    simpa using hs

/-! ## Marks -/

section Marks

variable (s t : SessionId) (c : ConnectionId) (w : Provider)

theorem connectionOf_updateSession {f : Session → Session}
    (hf : ∀ x, (f x).connection = x.connection) :
    (w.updateSession s f).connectionOf t = w.connectionOf t := by
  unfold connectionOf updateSession
  rw [List.getElem?_modify]
  cases w.sessions[t]? with
  | none => rfl
  | some x =>
      by_cases hst : s = t
      · simp [hst, hf]
      · simp [hst]

theorem releaseSource_updateSession {f : Session → Session}
    (hf : ∀ x, (f x).connection = x.connection) (x : Consumer) :
    (w.updateSession s f).releaseSource x = (w.releaseSource x).updateSession s f := by
  unfold releaseSource
  rw [connectionOf_updateSession s _ w hf]
  cases w.connectionOf x.session with
  | none => rfl
  | some connection => cases x.source <;> rfl

theorem closeConsumer_updateSession {f : Session → Session}
    (hf : ∀ x, (f x).connection = x.connection) (i : ConsumerId) :
    (w.updateSession s f).closeConsumer i = (w.closeConsumer i).updateSession s f := by
  have hconsumers : (w.updateSession s f).consumers[i]? = w.consumers[i]? := rfl
  unfold closeConsumer
  rw [hconsumers]
  cases w.consumers[i]? with
  | none => rfl
  | some x =>
      by_cases hx : x.closed = true
      · simp [hx]
      · simp only [hx]
        exact releaseSource_updateSession s (w.updateConsumer i _) hf x

theorem foldl_closeConsumer_updateSession {f : Session → Session}
    (hf : ∀ x, (f x).connection = x.connection) (cs : List ConsumerId) :
    cs.foldl (fun w c => w.closeConsumer c) (w.updateSession s f) =
      (cs.foldl (fun w c => w.closeConsumer c) w).updateSession s f := by
  induction cs generalizing w with
  | nil => rfl
  | cons i cs ih =>
      simp only [List.foldl_cons]
      rw [closeConsumer_updateSession s w hf, ih]

theorem brokerOf_updateConnection {f : Connection → Connection}
    (hf : ∀ x, (f x).broker = x.broker) :
    ((w.updateConnection c f).connectionOf s).map Connection.broker =
      (w.connectionOf s).map Connection.broker := by
  change (w.sessions[s]?.bind fun x => (w.connections.modify c f)[x.connection]?).map _ = _
  unfold connectionOf
  cases w.sessions[s]? with
  | none => rfl
  | some x =>
      simp only [Option.bind_some]
      rw [List.getElem?_modify]
      by_cases hc : c = x.connection <;> cases w.connections[x.connection]? <;> simp [hc, hf]

theorem releaseSource_updateConnection {f : Connection → Connection}
    (hf : ∀ x, (f x).broker = x.broker) (x : Consumer) :
    (w.updateConnection c f).releaseSource x = (w.releaseSource x).updateConnection c f := by
  have hbroker := brokerOf_updateConnection x.session c w hf
  unfold releaseSource
  cases hbefore : w.connectionOf x.session with
  | none =>
      rw [hbefore] at hbroker
      rw [Option.map_eq_none_iff.mp hbroker]
  | some y =>
      rw [hbefore] at hbroker
      obtain ⟨z, hz, hzy⟩ := Option.map_eq_some_iff.mp hbroker
      rw [hz]
      cases x.source <;> simp only [hzy] <;> rfl

theorem closeConsumer_updateConnection {f : Connection → Connection}
    (hf : ∀ x, (f x).broker = x.broker) (i : ConsumerId) :
    (w.updateConnection c f).closeConsumer i = (w.closeConsumer i).updateConnection c f := by
  have hconsumers : (w.updateConnection c f).consumers[i]? = w.consumers[i]? := rfl
  unfold closeConsumer
  rw [hconsumers]
  cases w.consumers[i]? with
  | none => rfl
  | some x =>
      by_cases hx : x.closed = true
      · simp [hx]
      · simp only [hx]
        exact releaseSource_updateConnection c (w.updateConsumer i _) hf x

theorem foldl_closeConsumer_updateConnection {f : Connection → Connection}
    (hf : ∀ x, (f x).broker = x.broker) (cs : List ConsumerId) :
    cs.foldl (fun w c => w.closeConsumer c) (w.updateConnection c f) =
      (cs.foldl (fun w c => w.closeConsumer c) w).updateConnection c f := by
  induction cs generalizing w with
  | nil => rfl
  | cons i cs ih =>
      simp only [List.foldl_cons]
      rw [closeConsumer_updateConnection c w hf, ih]

theorem foldr_putBack_updateSession (f : Session → Session) (ds : List Delivery) :
    ds.foldr putBack (w.updateSession s f) = (ds.foldr putBack w).updateSession s f := by
  induction ds with
  | nil => rfl
  | cons d ds ih => rw [List.foldr_cons, ih, List.foldr_cons]; rfl

theorem foldr_putBack_updateConnection (f : Connection → Connection) (ds : List Delivery) :
    ds.foldr putBack (w.updateConnection c f) =
      (ds.foldr putBack w).updateConnection c f := by
  induction ds with
  | nil => rfl
  | cons d ds ih => rw [List.foldr_cons, ih, List.foldr_cons]; rfl

theorem redeliver_eq {s : SessionId} {w : Provider} {x : Session}
    (hs : w.sessions[s]? = some x) :
    w.redeliver s = x.delivered.foldr putBack (w.updateSession s ({ · with delivered := [] })) := by
  simp [redeliver, hs]

theorem redeliver_markClosed :
    (w.updateSession s ({ · with closed := true, buffered := [] })).redeliver s =
      (w.redeliver s).updateSession s ({ · with closed := true, buffered := [] }) := by
  cases hs : w.sessions[s]? with
  | none => simp [redeliver, updateSession, hs]
  | some x =>
      have hmarked : (w.updateSession s ({ · with closed := true, buffered := [] })).sessions[s]? =
          some { x with closed := true, buffered := [] } := by
        simp [updateSession, hs]
      rw [redeliver_eq hs, redeliver_eq hmarked, ← foldr_putBack_updateSession]
      refine congrArg (fun v => x.delivered.foldr putBack v) ?_
      simp only [updateSession, List.modify_modify_eq]
      rfl

theorem redeliver_updateConnection (f : Connection → Connection) :
    (w.updateConnection c f).redeliver s = (w.redeliver s).updateConnection c f := by
  cases hs : w.sessions[s]? with
  | none => simp [redeliver, updateConnection, hs]
  | some x =>
      have hupdated : (w.updateConnection c f).sessions[s]? = some x := hs
      rw [redeliver_eq hs, redeliver_eq hupdated, ← foldr_putBack_updateConnection]
      rfl

theorem closeSession_eq {s : SessionId} {w : Provider} {x : Session}
    (hs : w.sessions[s]? = some x) (hopen : x.closed = false) :
    w.closeSession s =
      (((w.consumersOf s).foldl (fun w c => w.closeConsumer c) w).redeliver s).updateSession s
        ({ · with closed := true, buffered := [] }) := by
  rw [← redeliver_markClosed]
  have hmark : ∀ x : Session,
      ({ x with closed := true, buffered := [] } : Session).connection = x.connection :=
    fun _ => rfl
  simp only [closeSession, hs, hopen]
  exact congrArg (redeliver s) (foldl_closeConsumer_updateSession s w hmark (w.consumersOf s))

theorem closeSession_updateConnection {f : Connection → Connection}
    (hf : ∀ x, (f x).broker = x.broker) :
    (w.updateConnection c f).closeSession s = (w.closeSession s).updateConnection c f := by
  have hsame : (w.updateConnection c f).sessions[s]? = w.sessions[s]? := rfl
  cases hs : w.sessions[s]? with
  | none => simp [closeSession, hsame, hs]
  | some x =>
      cases hx : x.closed with
      | true => simp [closeSession, hsame, hs, hx]
      | false =>
          rw [closeSession_eq hs hx, closeSession_eq (hsame.trans hs) hx]
          change (((w.consumersOf s).foldl _ (w.updateConnection c f)).redeliver s).updateSession
            s _ = _
          rw [foldl_closeConsumer_updateConnection c w hf, redeliver_updateConnection]
          rfl

theorem foldl_closeSession_updateConnection {f : Connection → Connection}
    (hf : ∀ x, (f x).broker = x.broker) (ss : List SessionId) :
    ss.foldl (fun w s => w.closeSession s) (w.updateConnection c f) =
      (ss.foldl (fun w s => w.closeSession s) w).updateConnection c f := by
  induction ss generalizing w with
  | nil => rfl
  | cons i ss ih =>
      simp only [List.foldl_cons]
      rw [closeSession_updateConnection i c w hf, ih]

end Marks

theorem closeConnection_eq {c : ConnectionId} {w : Provider} {x : Connection}
    (hopen : w.openConnection c = .ok x) :
    w.closeConnection c =
      (((w.sessionsOf c).foldl (fun w s => w.closeSession s) w).updateConnection c
        ({ · with state := .closed })).updateBroker x.broker fun b =>
          (b.releaseTemporaries c).removeClientId x.clientId := by
  obtain ⟨hc, hstate⟩ := openConnection_eq_ok.mp hopen
  have hmark : ∀ x : Connection, ({ x with state := .closed } : Connection).broker = x.broker :=
    fun _ => rfl
  simp only [closeConnection, hc, hstate]
  exact congrArg (updateBroker _ _)
    (foldl_closeSession_updateConnection c w hmark (w.sessionsOf c))

/-! ## Sessions -/

theorem foldr_putBack_eq (ds : List Delivery) (w : Provider) :
    ∃ stores, ds.foldr putBack w = { w with stores } := by
  induction ds with
  | nil => exact ⟨_, rfl⟩
  | cons d ds ih =>
      obtain ⟨stores, h⟩ := ih
      rw [List.foldr_cons, h]
      exact ⟨_, rfl⟩

theorem redeliver_frame (s : SessionId) (w : Provider) :
    (w.redeliver s).consumers = w.consumers ∧ (w.redeliver s).connections = w.connections := by
  unfold redeliver
  cases w.sessions[s]? with
  | none => exact ⟨rfl, rfl⟩
  | some x =>
      obtain ⟨stores, h⟩ := foldr_putBack_eq x.delivered
        (w.updateSession s ({ · with delivered := [] }))
      simp only [h]
      exact ⟨rfl, rfl⟩

theorem sessions_redeliver (s : SessionId) (w : Provider) :
    (w.redeliver s).sessions = w.sessions.modify s ({ · with delivered := [] }) := by
  unfold redeliver
  cases hs : w.sessions[s]? with
  | none => exact (modify_eq_self (by simp [hs])).symm
  | some x =>
      obtain ⟨stores, h⟩ := foldr_putBack_eq x.delivered
        (w.updateSession s ({ · with delivered := [] }))
      simp only [h]
      rfl

theorem connections_closeSession (s : SessionId) (w : Provider) :
    (w.closeSession s).connections = w.connections := by
  cases hs : w.sessions[s]? with
  | none => simp [closeSession, hs]
  | some x =>
      cases hx : x.closed with
      | true => simp [closeSession, hs, hx]
      | false =>
          rw [closeSession_eq hs hx]
          exact (redeliver_frame s _).2.trans (connections_foldl_closeConsumer _ w)

theorem connections_foldl_closeSession (ss : List SessionId) (w : Provider) :
    (ss.foldl (fun w s => w.closeSession s) w).connections = w.connections := by
  induction ss generalizing w with
  | nil => rfl
  | cons s ss ih => rw [List.foldl_cons, ih, connections_closeSession]

theorem sessions_closeSession (s : SessionId) (w : Provider) :
    (w.closeSession s).sessions = w.sessions.modify s Session.shut := by
  cases hs : w.sessions[s]? with
  | none =>
      rw [modify_eq_self (by simp [hs])]
      simp [closeSession, hs]
  | some x =>
      cases hx : x.closed with
      | true =>
          rw [modify_eq_self]
          · simp [closeSession, hs, hx]
          · intro y hy
            rw [hs] at hy
            cases hy
            simp [Session.shut, hx]
      | false =>
          rw [closeSession_eq hs hx]
          simp only [updateSession, sessions_redeliver, sessions_foldl_closeConsumer,
            List.modify_modify_eq]
          apply List.ext_getElem?
          intro i
          rw [List.getElem?_modify, List.getElem?_modify]
          by_cases hsi : s = i
          · subst hsi
            simp [hs, Session.shut, hx]
          · simp [hsi]

theorem sessions_foldl_closeSession (ss : List SessionId) (w : Provider) :
    (ss.foldl (fun w s => w.closeSession s) w).sessions =
      ss.foldl (fun xs s => xs.modify s Session.shut) w.sessions := by
  induction ss generalizing w with
  | nil => rfl
  | cons s ss ih => rw [List.foldl_cons, ih, sessions_closeSession, List.foldl_cons]

theorem closed_of_foldl_closeSession {c : ConnectionId} {w : Provider} {x : Session}
    (hx : x ∈ ((w.sessionsOf c).foldl (fun w s => w.closeSession s) w).sessions)
    (hc : x.connection = c) : x.closed = true := by
  rw [sessions_foldl_closeSession] at hx
  obtain ⟨j, hj⟩ := List.mem_iff_getElem?.mp hx
  rw [getElem?_foldl_modify Session.shut_shut] at hj
  split at hj
  next =>
    obtain ⟨y, -, rfl⟩ := Option.map_eq_some_iff.mp hj
    exact y.closed_shut
  next hnot =>
    refine absurd ?_ hnot
    have hlt := (List.getElem?_eq_some_iff.mp hj).1
    refine List.mem_filter.mpr ⟨List.mem_range.mpr hlt, ?_⟩
    rw [hj]
    simpa using hc

end Provider

end Messaging
