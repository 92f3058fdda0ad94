import Messaging.Proofs.Run.Lasting

/-!
# Handing out

What an operation that asks for a message gets: the first message of the store of its consumer
that did not expire and passes the filter of the consumer.
-/

namespace Messaging

/-- A message that a session hands out to a consumer, as the store had it. -/
structure Handing where
  consumer : Consumer
  session : Session
  envelope : Envelope
  deriving DecidableEq, Repr

def Handing.ack (h : Handing) : Option AckToken :=
  if h.session.mode.isExplicit then some ⟨h.consumer.session, h.session.nextTag⟩
  else h.envelope.message.ack

def Handing.message (h : Handing) : Message := { h.envelope.message with ack := h.ack }

namespace Provider

def handing (op : Operation) (w : Provider) : Option Handing :=
  op.consumer?.bind fun c => w.consumers[c]?.bind fun x =>
    w.sessions[x.session]?.bind fun session =>
      if !x.closed && w.isStarted x.session then
        (((w.storeAt x.store).purge w.now).take x.filter).map fun (e, _) => ⟨x, session, e⟩
      else none

structure Handed [Labels] (op : Operation) (w : Provider) (h : Handing) : Prop where
  asked : ∃ c, op.consumer? = some c ∧ w.consumers[c]? = some h.consumer
  listening : h.consumer.closed = false
  started : ∃ connection,
    w.openSession h.consumer.session = .ok (h.session, connection) ∧ connection.state = .started
  /-- The messages before it do not pass the filter. -/
  first : ∃ before after,
    ((w.storeAt h.consumer.store).purge w.now).pending = before ++ h.envelope :: after ∧
      (∀ y ∈ before, Selector.admits h.consumer.filter y.message = false) ∧
      (w.step op).storeAt h.consumer.store =
        { (w.storeAt h.consumer.store).purge w.now with pending := before ++ after }
  admitted : Selector.admits h.consumer.filter h.envelope.message = true
  held : (w.step op).sessions =
    if h.session.mode.isTracked then
      w.sessions.modify h.consumer.session fun x =>
        { x with
          nextTag := h.session.nextTag + 1
          delivered := x.delivered ++ [⟨h.session.nextTag, h.consumer.store, h.envelope⟩] }
    else w.sessions

namespace Handed

variable [Labels]
variable {op : Operation} {w : Provider} {h : Handing}

theorem session_eq (hh : w.Handed op h) : w.sessions[h.consumer.session]? = some h.session := by
  obtain ⟨connection, hopen, -⟩ := hh.started
  exact (openSession_eq_ok.mp hopen).1

theorem consumer_mem (hh : w.Handed op h) : h.consumer ∈ w.consumers := by
  obtain ⟨c, -, hx⟩ := hh.asked
  exact List.mem_of_getElem? hx

theorem live (hh : w.Handed op h) :
    h.envelope ∈ (w.storeAt h.consumer.store).pending ∧
      h.envelope.message.isExpired w.now = false := by
  obtain ⟨before, after, hpending, -⟩ := hh.first
  have hmem : h.envelope ∈ ((w.storeAt h.consumer.store).purge w.now).pending := by
    simp [hpending]
  obtain ⟨hmem, hlive⟩ := List.mem_filter.mp hmem
  exact ⟨hmem, by simpa using hlive⟩

end Handed

section Asking

variable {op : Operation} {w : Provider}

theorem handing_of_asked {c : ConsumerId} {x : Consumer} {session : Session}
    (hop : op.consumer? = some c) (hx : w.consumers[c]? = some x) (hopen : x.closed = false)
    (hstarted : w.isStarted x.session = true) (hs : w.sessions[x.session]? = some session) :
    w.handing op =
      (((w.storeAt x.store).purge w.now).take x.filter).map fun (e, _) => ⟨x, session, e⟩ := by
  simp [handing, hop, hx, hopen, hstarted, hs]

theorem handing_eq_some {h : Handing} (hhanding : w.handing op = some h) :
    ∃ c rest, op.consumer? = some c ∧ w.consumers[c]? = some h.consumer ∧
      h.consumer.closed = false ∧ w.isStarted h.consumer.session = true ∧
      w.sessions[h.consumer.session]? = some h.session ∧
      ((w.storeAt h.consumer.store).purge w.now).take h.consumer.filter =
        some (h.envelope, rest) := by
  obtain ⟨c, hop, hhanding⟩ := Option.bind_eq_some_iff.mp hhanding
  obtain ⟨x, hx, hhanding⟩ := Option.bind_eq_some_iff.mp hhanding
  obtain ⟨session, hs, hhanding⟩ := Option.bind_eq_some_iff.mp hhanding
  split at hhanding
  next hready =>
    obtain ⟨hopen, hstarted⟩ := Bool.and_eq_true_iff.mp hready
    obtain ⟨⟨e, rest⟩, htake, rfl⟩ := Option.map_eq_some_iff.mp hhanding
    exact ⟨c, rest, hop, hx, by simpa using hopen, hstarted, hs, htake⟩
  next => cases hhanding

theorem takeNext_of_take {x : Consumer} {session : Session} {e : Envelope} {rest : Store}
    (hs : w.sessions[x.session]? = some session) (hopen : session.closed = false)
    (htake : ((w.storeAt x.store).purge w.now).take x.filter = some (e, rest)) :
    (w.takeNext x).1 = some (Handing.mk x session e).message ∧
      (w.takeNext x).2.stores = (w.updateStore x.store fun _ => rest).stores ∧
      (w.takeNext x).2.sessions =
        if session.mode.isTracked then
          w.sessions.modify x.session fun y =>
            { y with
              nextTag := session.nextTag + 1
              delivered := y.delivered ++ [⟨session.nextTag, x.store, e⟩] }
        else w.sessions := by
  have htaken : w.takeNext x =
      (w.updateStore x.store fun _ => rest).deliver x.session session x.store e := by
    simp [takeNext, takeFrom, hs, htake]
  rw [htaken, deliver_of_open hopen]
  refine ⟨?_, ?_, ?_⟩
  · unfold deliver Handing.message Handing.ack
    cases session.mode <;> simp [hopen, AckMode.isTracked, AckMode.isExplicit]
  · split <;> rfl
  · split <;> rfl

variable [Labels]

theorem handed_of_handing {h : Handing} (hw : w.Coherent) (hhanding : w.handing op = some h) :
    w.Handed op h := by
  obtain ⟨c, rest, hop, hx, hopen, hstarted, hs, htake⟩ := handing_eq_some hhanding
  have hmem := List.mem_of_getElem? hx
  obtain ⟨session, connection, hsession, hstate⟩ := hw.cascading.openSession hmem hopen hstarted
  obtain ⟨hi, hclosed, -⟩ := openSession_eq_ok.mp hsession
  obtain rfl : h.session = session := Option.some.inj (hs.symm.trans hi)
  obtain ⟨before, after, hpending, hbefore, hadmits, rfl⟩ := Store.take_eq_some htake
  obtain ⟨-, hstores, hsessions⟩ := takeNext_of_take hs hclosed htake
  have hstep : w.step op = (w.takeNext h.consumer).2 := by
    rw [step_eq hw hop, pull_of_ready hx hopen hstarted]
  refine ⟨⟨c, hop, hx⟩, hopen, ⟨connection, hsession, hstate⟩,
    ⟨before, after, hpending, hbefore, ?_⟩, hadmits, ?_⟩
  · have hlt := hw.grounded.consumed _ hmem
    rw [hstep, storeAt, hstores]
    exact (storeAt_updateStore _ _ _ w).trans (if_pos ⟨rfl, hlt⟩)
  · rw [hstep, hsessions]

theorem received_eq_handing (hw : w.Coherent) :
    w.received op = (w.handing op).map (·.message) := by
  cases hop : op.consumer? with
  | none =>
      cases op with
      | receiveNow | receive | poll => cases hop
      | _ => rfl
  | some c =>
      rw [received_eq hw hop]
      unfold pull handing
      rw [hop, Option.bind_some]
      cases hx : w.consumers[c]? with
      | none => rfl
      | some x =>
          rw [Option.bind_some]
          dsimp only
          split
          next hready =>
            obtain ⟨hopen, hstarted⟩ := Bool.and_eq_true_iff.mp hready
            obtain ⟨session, connection, hsession, -⟩ :=
              hw.cascading.openSession (List.mem_of_getElem? hx) (by simpa using hopen) hstarted
            obtain ⟨hs, hclosed, -⟩ := openSession_eq_ok.mp hsession
            rw [hs, Option.bind_some]
            cases htake : ((w.storeAt x.store).purge w.now).take x.filter with
            | none => simp [takeNext, takeFrom, hs, htake]
            | some taken =>
                obtain ⟨e, rest⟩ := taken
                simpa using (takeNext_of_take hs hclosed htake).1
          next =>
            cases w.sessions[x.session]? <;> rfl

theorem handing_of_handedOut {x : Consumer} {e : Envelope}
    (hevent : .handedOut x e ∈ w.events op) :
    ∃ session, w.handing op = some ⟨x, session, e⟩ := by
  cases mem_events hevent with
  | received c hop h _ =>
      obtain ⟨x', session, hx, hopen, hstarted, hs, h | ⟨v, rest, htake, h⟩⟩ := mem_receiving h
      · simp [expirations] at h
      · obtain ⟨rfl, rfl⟩ : x = x' ∧ e = v := by
          unfold receipt at h
          grind
        exact ⟨session, by rw [handing_of_asked hop hx hopen hstarted hs, htake]; rfl⟩
  | browsed b hop h =>
      unfold browsing at h
      split at h <;> simp [expirations] at h
  | acknowledged m hop h =>
      unfold acknowledging at h
      split at h
      next => simp at h
      next => split at h <;> simp at h
  | committed i session connection hop hopen h => simp [committing] at h
  | returned i session hs h => simp [returning] at h
  | posted h => simp [posts] at h
  | kept _ _ _ he | rolledBack _ _ _ he | closed _ he | attached _ _ he | removed _ _ he => cases he

end Asking

end Provider

def Step.handing (x : Step) : Option Handing := x.before.handing x.operation

namespace Provider

theorem nextTag_lt [Labels] {ops : List Operation} {x : Step} (hx : x ∈ trace ops {}) {h : Handing}
    (hh : x.handing = some h) (htracked : h.session.mode.isTracked = true) {session : Session}
    (hs : (run ops {}).sessions[h.consumer.session]? = some session) :
    h.session.nextTag < session.nextTag := by
  obtain ⟨first, second, rfl, hbefore⟩ := exists_of_mem_trace hx
  have hw := coherent_run first
  rw [Step.handing, hbefore] at hh
  have hhanded := handed_of_handing hw hh
  have hheld := hhanded.held
  rw [if_pos htracked] at hheld
  -- from here on the session only counts upwards
  have hlasts := lasts_run (hw.step x.operation) second
  obtain ⟨y, hy, hcontinues⟩ := hlasts.sessions h.consumer.session _ (by
    rw [hheld, List.getElem?_modify_eq, hhanded.session_eq]
    rfl)
  rw [run_append, run_cons, hy] at hs
  obtain rfl := Option.some.inj hs
  exact hcontinues.nextTag

end Provider

end Messaging
