import Messaging.Proofs.Run.Custody
import Messaging.Proofs.Run.Recall

/-!
# What one session holds of a store

A move leaves to a session and to a store part of what they had, or puts a message into the
store, or hands one out to the session; or the session puts the newest one back.
-/

namespace Messaging.Provider

def heldBy (t : SessionId) (s : StoreId) (w : Provider) : List Delivery :=
  (w.deliveriesOf t).filter (·.store == s)

inductive Holding (t : SessionId) (s : StoreId) (w : Provider) (es : List Event) (w' : Provider) :
    Prop where
  | thinned (hheld : (w'.heldBy t s).Sublist (w.heldBy t s))
      (hpending : (w'.storeAt s).pending.Sublist (w.storeAt s).pending)
      (hnext : (w'.storeAt s).nextSeq = (w.storeAt s).nextSeq)
  | posted (m : Message) (origin : ConnectionId) (hheld : w'.heldBy t s = w.heldBy t s)
      (hstore : w'.storeAt s = (w.storeAt s).push m origin)
  | delivered (x : Consumer) (session : Session) (e : Envelope) (before after : List Envelope)
      (tag : Nat) (hxt : x.session = t) (hxs : x.store = s)
      (hsession : w.sessions[t]? = some session) (hmode : session.mode.isTracked = true)
      (hbefore : ∀ y ∈ before, Selector.admits x.filter y.message = false)
      (hpending : (w.storeAt s).pending = before ++ e :: after)
      (hstore : w'.storeAt s = { w.storeAt s with pending := before ++ after })
      (hheld : w'.heldBy t s = w.heldBy t s ++ [⟨tag, s, e⟩]) (hes : .handedOut x e ∈ es)
  | returned (d : Delivery) (hheld : w.heldBy t s = w'.heldBy t s ++ [d])
      (hstore : w'.storeAt s =
        (w.storeAt s).putBack { d.envelope with message := d.envelope.message.markRedelivered })
      (hes : .putBack t d ∈ es)
  | elsewhere (i : SessionId) (d : Delivery) (hit : i ≠ t) (hd : d ∈ w.heldBy i s)
      (hheld : w'.heldBy t s = w.heldBy t s)
      (hstore : w'.storeAt s =
        (w.storeAt s).putBack { d.envelope with message := d.envelope.message.markRedelivered })
      (hes : .putBack i d ∈ es)

section Parts

variable {t i : SessionId} {s : StoreId} {w w' : Provider}

theorem deliveriesOf_updateSession {f : Session → Session} {x : Session}
    (hi : w.sessions[i]? = some x) :
    (w.updateSession i f).deliveriesOf t = if i = t then (f x).delivered else w.deliveriesOf t := by
  unfold deliveriesOf updateSession
  by_cases hit : i = t
  · subst hit
    simp [hi]
  · simp [hit]

theorem deliveriesOf_eq {x : Session} (hi : w.sessions[i]? = some x) :
    w.deliveriesOf i = x.delivered := by
  simp [deliveriesOf, hi]

theorem deliveriesOf_of_delivered {f : Session → Session}
    (hf : ∀ x, (f x).delivered = x.delivered) :
    (w.updateSession i f).deliveriesOf t = w.deliveriesOf t := by
  unfold deliveriesOf updateSession
  rw [← List.getElem?_map, ← List.getElem?_map, map_modify_eq fun x _ => hf x]

theorem storeAt_deliver {x : Session} (hopen : x.closed = false) (i : SessionId) (n : StoreId)
    (e : Envelope) (w : Provider) (s : StoreId) :
    (w.deliver i x n e).2.storeAt s = w.storeAt s := by
  rw [deliver_of_open hopen]
  split <;> rfl

theorem heldBy_deliver {x : Session} (hi : w.sessions[i]? = some x) (hopen : x.closed = false)
    (n : StoreId) (e : Envelope) :
    (w.deliver i x n e).2.heldBy t s =
      w.heldBy t s ++
        if x.mode.isTracked = true ∧ i = t ∧ n = s then [⟨x.nextTag, n, e⟩] else [] := by
  rw [deliver_of_open hopen, heldBy]
  cases x.mode.isTracked with
  | false => simp [heldBy]
  | true =>
      simp only [if_true, deliveriesOf_updateSession hi]
      by_cases hit : i = t
      · subst hit
        rw [if_pos rfl, List.filter_append, heldBy, deliveriesOf_eq hi]
        by_cases hns : n = s <;> simp [hns]
      · simp [hit, heldBy]

end Parts

section Moves

variable {t : SessionId} {s : StoreId} {w w' : Provider} {es : List Event}

theorem Holding.same (hstore : w'.storeAt s = w.storeAt s)
    (hheld : w'.deliveriesOf t = w.deliveriesOf t) : Holding t s w es w' :=
  .thinned (by rw [heldBy, heldBy, hheld]) (by rw [hstore]) (by rw [hstore])

theorem Holding.settle {i : SessionId} {x : Session} {f : Session → Session}
    (hi : w.sessions[i]? = some x) (hf : (f x).delivered.Sublist x.delivered) :
    Holding t s w es (w.updateSession i f) := by
  refine .thinned ?_ (.refl _) rfl
  unfold heldBy
  rw [deliveriesOf_updateSession hi]
  split
  next hit =>
    rw [← hit, deliveriesOf_eq hi]
    exact hf.filter _
  next => exact .refl _

theorem Holding.post (n : StoreId) (m : Message) (origin : ConnectionId)
    (hn : n < w.stores.length) : Holding t s w es (w.updateStore n (·.push m origin)) := by
  have hstore := storeAt_updateStore n s (·.push m origin) w
  by_cases hns : n = s
  · subst hns
    rw [if_pos ⟨rfl, hn⟩] at hstore
    exact .posted m origin rfl hstore
  · rw [if_neg (fun h => hns h.1)] at hstore
    exact .same hstore rfl

theorem Holding.purge (n : StoreId) : Holding t s w es (w.updateStore n (·.purge w.now)) := by
  refine .thinned (.refl _) ?_ ?_ <;> rw [storeAt_purge] <;> split
  · exact List.filter_sublist
  · exact .refl _
  · rfl
  · rfl

theorem Holding.handOut {x : Consumer} {session : Session} {connection : Connection}
    {e : Envelope} {rest : Store} (hw : w.Grounded) (hx : x ∈ w.consumers)
    (hsession : w.openSession x.session = .ok (session, connection))
    (htake : (w.storeAt x.store).take x.filter = some (e, rest)) :
    Holding t s w (receipt x session e)
      ((w.updateStore x.store fun _ => rest).deliver x.session session x.store e).2 := by
  obtain ⟨hi, hclosed, -⟩ := openSession_eq_ok.mp hsession
  obtain ⟨before, after, hpending, hbefore, hstores⟩ := storeAt_take (hw.consumed x hx) htake
  have hstore := (storeAt_deliver hclosed x.session x.store e _ s).trans (hstores s)
  have hheld := heldBy_deliver (t := t) (s := s) (w := w.updateStore x.store fun _ => rest) hi
    hclosed x.store e
  by_cases hmine : session.mode.isTracked = true ∧ x.session = t ∧ x.store = s
  · obtain ⟨htracked, rfl, rfl⟩ := hmine
    rw [if_pos rfl] at hstore
    rw [if_pos ⟨htracked, rfl, rfl⟩] at hheld
    exact .delivered x session e before after session.nextTag rfl rfl hi htracked hbefore hpending
      hstore hheld List.mem_cons_self
  · -- whoever gets it, the session gets nothing of the store
    rw [if_neg hmine, List.append_nil] at hheld
    have hthinned : (before ++ e :: after).Sublist (w.storeAt x.store).pending := by rw [hpending]
    refine .thinned (by rw [hheld]; rfl) ?_ ?_ <;> rw [hstore] <;> split
    next hxs =>
      rw [← hxs]
      exact ((List.sublist_cons_self e after).append_left before).trans hthinned
    next => exact .refl _
    next => rfl
    next => rfl

theorem Holding.giveBack {i : SessionId} {x : Session} {older : List Delivery} {d : Delivery}
    (hw : w.Grounded) (hi : w.sessions[i]? = some x) (hx : x.delivered = older ++ [d]) :
    Holding t s w [.putBack i d]
      (putBack d (w.updateSession i ({ · with delivered := older }))) := by
  have hlt := hw.delivered x (List.mem_of_getElem? hi) d (by simp [hx])
  have hstore : (putBack d (w.updateSession i ({ · with delivered := older }))).storeAt s =
      if d.store = s then (w.storeAt s).putBack
        { d.envelope with message := d.envelope.message.markRedelivered } else w.storeAt s :=
    storeAt_putBack hlt s
  have hheld : (putBack d (w.updateSession i ({ · with delivered := older }))).deliveriesOf t =
      if i = t then older else w.deliveriesOf t := deliveriesOf_updateSession hi
  by_cases hit : i = t
  · subst hit
    rw [if_pos rfl] at hheld
    have hbefore : w.heldBy i s = older.filter (·.store == s) ++ [d].filter (·.store == s) := by
      rw [heldBy, deliveriesOf_eq hi, hx, List.filter_append]
    by_cases hds : d.store = s
    · rw [if_pos hds] at hstore
      refine .returned d ?_ hstore List.mem_cons_self
      rw [hbefore, heldBy, hheld]
      simp [hds]
    · rw [if_neg hds] at hstore
      refine .thinned ?_ (by rw [hstore]) (by rw [hstore])
      rw [hbefore, heldBy, hheld]
      exact List.sublist_append_left _ _
  · rw [if_neg hit] at hheld
    by_cases hds : d.store = s
    · rw [if_pos hds] at hstore
      refine .elsewhere i d hit ?_ (congrArg (List.filter _) hheld) hstore List.mem_cons_self
      rw [heldBy, deliveriesOf_eq hi, hx]
      simp [hds]
    · rw [if_neg hds] at hstore
      exact .same hstore hheld

end Moves

theorem Move.holding [Labels] {w w' : Provider} {es : List Event} (h : Move w es w')
    (hw : w.Coherent) (t : SessionId) (s : StoreId) : Holding t s w es w' := by
  cases h with
  | idle | shutdown | startBroker | connect | useConnection | setClientId | addTemporary |
      consume | unsubscribe | retireConnection =>
      exact .same rfl rfl
  | openSession c x number mode =>
      refine .same rfl ?_
      unfold deliveriesOf
      by_cases ht : t < w.sessions.length
      · rw [List.getElem?_append_left ht]
      · have ht := Nat.le_of_not_lt ht
        rw [List.getElem?_append_right ht, List.getElem?_eq_none ht]
        cases t - w.sessions.length <;> rfl
  | numberProducer | keep | forget | retireSession =>
      exact .same rfl (deliveriesOf_of_delivered fun _ => rfl)
  | addQueue | subscribe => exact .same (storeAt_addStore s w) rfl
  | post n m origin hn => exact .post n (sealed m) origin hn
  | attach i session connection topic name text selector noLocal store next _ _ _ hstore =>
      rcases durableStore_eq_ok hstore with ⟨-, rfl, -⟩ | ⟨rfl, -⟩
      · exact .same (storeAt_addStore s w) rfl
      · exact .same rfl rfl
  | closeConsumer c x =>
      obtain ⟨brokers, heq⟩ := releaseSource_frame c x w
      rw [heq]
      exact .same rfl rfl
  | purge n => exact .purge n
  | handOut c x session connection e rest hx _ hsession _ _ htake =>
      exact .handOut hw.grounded (List.mem_of_getElem? hx) hsession htake
  | acknowledge i session connection tag hopen =>
      exact .settle (openSession_eq_ok.mp hopen).1 List.filter_sublist
  | commit i session connection hopen =>
      exact .settle (openSession_eq_ok.mp (openTransaction_eq_ok.mp hopen).1).1
        (List.nil_sublist _)
  | giveBack i session older d hi hd => exact .giveBack hw.grounded hi hd

end Messaging.Provider
