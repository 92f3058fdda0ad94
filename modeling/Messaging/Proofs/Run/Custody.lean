import Messaging.Proofs.Run.Refinement

/-!
# Custody

The messages of a store are pending there, or sessions hold them.  A move adds a message to the
store, drops the expired ones, hands one out, settles deliveries or puts one back; or it has
nothing to do with the messages of the store.
-/

namespace Messaging

def Event.concerns (s : StoreId) : Event → Bool
  | .posted t _ _ | .settled t _ _ => t == s
  | .handedOut x _ => x.store == s
  | .putBack _ d => d.store == s
  | .kept .. | .ended .. | .attached .. | .removed .. => false

/-! ## What logs say of a store -/

def postsTo (s : StoreId) (log : List Event) : List (Message × ConnectionId) :=
  log.filterMap fun
    | .posted t m origin => if t = s then some (m, origin) else none
    | _ => none

def settledIn (s : StoreId) (log : List Event) : List Nat :=
  log.filterMap fun
    | .settled t seq _ => if t = s then some seq else none
    | _ => none

section Logs

variable (s : StoreId) (log es : List Event)

@[simp] theorem postsTo_append : postsTo s (log ++ es) = postsTo s log ++ postsTo s es :=
  List.filterMap_append

@[simp] theorem settledIn_append : settledIn s (log ++ es) = settledIn s log ++ settledIn s es :=
  List.filterMap_append

theorem postsTo_concerns : postsTo s (es.filter (·.concerns s)) = postsTo s es := by
  unfold postsTo
  rw [List.filterMap_filter]
  refine List.filterMap_congr fun x _ => ?_
  cases x <;> simp [Event.concerns]

theorem settledIn_concerns : settledIn s (es.filter (·.concerns s)) = settledIn s es := by
  unfold settledIn
  rw [List.filterMap_filter]
  refine List.filterMap_congr fun x _ => ?_
  cases x <;> simp [Event.concerns]

theorem settledIn_map {α : Type} (f : α → Nat) (cause : Cause) (xs : List α) :
    settledIn s (xs.map fun x => .settled s (f x) cause) = xs.map f := by
  induction xs with
  | nil => rfl
  | cons x xs ih =>
      rw [List.map_cons, List.map_cons, ← ih]
      simp [settledIn]

theorem postsTo_map_settled {α : Type} (f : α → Nat) (cause : Cause) (xs : List α) :
    postsTo s (xs.map fun x => .settled s (f x) cause) = [] := by
  induction xs with
  | nil => rfl
  | cons x xs ih => exact ih

end Logs

namespace Provider

def outstanding (s : StoreId) (w : Provider) : List Delivery :=
  w.sessions.flatMap fun x => x.delivered.filter (·.store == s)

/-- What a move can do to the messages of a store. -/
inductive Custody (s : StoreId) (w : Provider) (es : List Event) (w' : Provider) : Prop where
  | quiet (hstore : w'.storeAt s = w.storeAt s)
      (hheld : (w.outstanding s).Perm (w'.outstanding s)) (hes : es.filter (·.concerns s) = [])
  | posted (m : Message) (origin : ConnectionId)
      (hstore : w'.storeAt s = (w.storeAt s).push m origin)
      (hheld : w'.outstanding s = w.outstanding s)
      (hes : es.filter (·.concerns s) = [.posted s m origin])
  | purged (hstore : w'.storeAt s = (w.storeAt s).purge w.now)
      (hheld : w'.outstanding s = w.outstanding s)
      (hes : es.filter (·.concerns s) = w.expirations s)
  | received (x : Consumer) (session : Session) (e : Envelope) (before after : List Envelope)
      (hx : x ∈ w.consumers) (hopen : x.closed = false) (hxs : x.store = s)
      (hsession : w.sessions[x.session]? = some session) (hmode : session.mode.isTracked = false)
      (hbefore : ∀ y ∈ before, Selector.admits x.filter y.message = false)
      (hpending : (w.storeAt s).pending = before ++ e :: after)
      (hstore : w'.storeAt s = { w.storeAt s with pending := before ++ after })
      (hheld : w'.outstanding s = w.outstanding s)
      (hes : es.filter (·.concerns s) =
        [.handedOut x e, .settled s e.seq (.received x.session)])
  | delivered (x : Consumer) (session : Session) (e : Envelope) (before after : List Envelope)
      (tag : Nat) (hx : x ∈ w.consumers) (hopen : x.closed = false) (hxs : x.store = s)
      (hsession : w.sessions[x.session]? = some session) (hmode : session.mode.isTracked = true)
      (hpending : (w.storeAt s).pending = before ++ e :: after)
      (hstore : w'.storeAt s = { w.storeAt s with pending := before ++ after })
      (hheld : (w'.outstanding s).Perm (⟨tag, s, e⟩ :: w.outstanding s))
      (hes : es.filter (·.concerns s) = [.handedOut x e])
  | settled (ds : List Delivery) (cause : Cause) (hstore : w'.storeAt s = w.storeAt s)
      (hheld : (w.outstanding s).Perm (ds ++ w'.outstanding s))
      (hes : es.filter (·.concerns s) = ds.map fun d => .settled s d.envelope.seq cause)
  | returned (i : SessionId) (session : Session) (d : Delivery) (hds : d.store = s)
      (hsession : w.sessions[i]? = some session) (hd : d ∈ session.delivered)
      (hstore : w'.storeAt s =
        (w.storeAt s).putBack { d.envelope with message := d.envelope.message.markRedelivered })
      (hheld : (w.outstanding s).Perm (d :: w'.outstanding s))
      (hes : es.filter (·.concerns s) = [.putBack i d])

/-! ## What sessions hold -/

theorem outstanding_eq_of_map {s : StoreId} {w w' : Provider}
    (h : w'.sessions.map (·.delivered) = w.sessions.map (·.delivered)) :
    w'.outstanding s = w.outstanding s := by
  have hmap : ∀ xs : List Session, (xs.flatMap fun x => x.delivered.filter (·.store == s)) =
      (xs.map (·.delivered)).flatMap fun ds => ds.filter (·.store == s) := by
    intro xs
    rw [List.flatMap_map]
  unfold outstanding
  rw [hmap, hmap, h]

theorem outstanding_updateSession (s : StoreId) {i : SessionId} {w : Provider}
    {f : Session → Session} (hf : ∀ x, (f x).delivered = x.delivered) :
    (w.updateSession i f).outstanding s = w.outstanding s :=
  outstanding_eq_of_map (map_modify_eq fun x _ => hf x)

theorem outstanding_perm (s : StoreId) {i : SessionId} {w : Provider} {x : Session}
    (hi : w.sessions[i]? = some x) (f : Session → Session) :
    ∃ others : List Delivery,
      (w.outstanding s).Perm (x.delivered.filter (·.store == s) ++ others) ∧
      ((w.updateSession i f).outstanding s).Perm
        ((f x).delivered.filter (·.store == s) ++ others) := by
  refine ⟨(w.sessions.eraseIdx i).flatMap fun x => x.delivered.filter (·.store == s), ?_, ?_⟩
  · exact (perm_cons_eraseIdx hi).flatMap_right _
  · exact (modify_perm_cons_eraseIdx hi f).flatMap_right _

/-! ## Stores -/

theorem storeAt_purge (s t : StoreId) (w : Provider) :
    (w.updateStore t (·.purge w.now)).storeAt s =
      if t = s then (w.storeAt s).purge w.now else w.storeAt s := by
  rw [storeAt_updateStore]
  by_cases hts : t = s
  · subst hts
    by_cases ht : t < w.stores.length
    · simp [ht]
    · simp [ht, storeAt, Store.purge]
  · simp [hts]

theorem storeAt_take {t : StoreId} {filter : Option Selector} {e : Envelope} {rest : Store}
    {w : Provider} (ht : t < w.stores.length)
    (htake : (w.storeAt t).take filter = some (e, rest)) :
    ∃ before after, (w.storeAt t).pending = before ++ e :: after ∧
      (∀ y ∈ before, Selector.admits filter y.message = false) ∧
      ∀ s, (w.updateStore t fun _ => rest).storeAt s =
        if t = s then { w.storeAt s with pending := before ++ after } else w.storeAt s := by
  obtain ⟨before, after, hpending, hbefore, -, rfl⟩ := Store.take_eq_some htake
  refine ⟨before, after, hpending, hbefore, fun s => ?_⟩
  rw [storeAt_updateStore]
  by_cases hts : t = s
  · subst hts
    simp [ht]
  · simp [hts]

theorem storeAt_putBack {d : Delivery} {w : Provider} (hd : d.store < w.stores.length)
    (s : StoreId) :
    (putBack d w).storeAt s =
      if d.store = s then (w.storeAt s).putBack
        { d.envelope with message := d.envelope.message.markRedelivered } else w.storeAt s := by
  unfold putBack
  rw [storeAt_updateStore]
  by_cases hds : d.store = s
  · subst hds
    simp [hd]
  · simp [hds]

/-! ## Moves -/

section Moves

variable {s : StoreId} {w w' : Provider}

theorem Custody.same {es : List Event} (hstore : w'.storeAt s = w.storeAt s)
    (hsessions : w'.sessions = w.sessions) (hes : es.filter (·.concerns s) = []) :
    Custody s w es w' :=
  .quiet hstore (.of_eq (outstanding_eq_of_map (congrArg _ hsessions)).symm) hes

theorem Custody.purge (t : StoreId) :
    Custody s w (w.expirations t) (w.updateStore t (·.purge w.now)) := by
  have hstore := storeAt_purge s t w
  by_cases hts : t = s
  · subst hts
    rw [if_pos rfl] at hstore
    refine .purged hstore rfl (List.filter_eq_self.mpr ?_)
    intro x hx
    obtain ⟨e, -, rfl⟩ := List.mem_map.mp hx
    simp [Event.concerns]
  · rw [if_neg hts] at hstore
    refine .same hstore rfl (List.filter_eq_nil_iff.mpr ?_)
    intro x hx
    obtain ⟨e, -, rfl⟩ := List.mem_map.mp hx
    simp [Event.concerns, hts]

theorem Custody.handOut {x : Consumer} {session : Session} {connection : Connection}
    {e : Envelope} {rest : Store} (hw : w.Grounded) (hx : x ∈ w.consumers)
    (hopen : x.closed = false) (hsession : w.openSession x.session = .ok (session, connection))
    (htake : (w.storeAt x.store).take x.filter = some (e, rest)) :
    Custody s w (receipt x session e)
      ((w.updateStore x.store fun _ => rest).deliver x.session session x.store e).2 := by
  obtain ⟨hi, hclosed, -⟩ := openSession_eq_ok.mp hsession
  obtain ⟨before, after, hpending, hbefore, hstores⟩ := storeAt_take (hw.consumed x hx) htake
  have hstore := hstores s
  rw [deliver_of_open hclosed]
  unfold receipt
  cases htracked : session.mode.isTracked with
  | false =>
      by_cases hxs : x.store = s
      · subst hxs
        rw [if_pos rfl] at hstore
        exact .received x session e before after hx hopen rfl hi htracked hbefore hpending hstore
          rfl (by simp [Event.concerns])
      · rw [if_neg hxs] at hstore
        exact .same hstore rfl (by simp [Event.concerns, hxs])
  | true =>
      obtain ⟨others, hheld, hheld'⟩ := outstanding_perm s
        (w := w.updateStore x.store fun _ => rest) hi fun x' =>
          { x' with
            nextTag := session.nextTag + 1
            delivered := x'.delivered ++ [⟨session.nextTag, x.store, e⟩] }
      rw [List.filter_append] at hheld'
      by_cases hxs : x.store = s
      · subst hxs
        rw [if_pos rfl] at hstore
        refine .delivered x session e before after session.nextTag hx hopen rfl hi htracked hpending
          hstore ?_ (by simp [Event.concerns])
        refine hheld'.trans ?_
        have hlast : [(⟨session.nextTag, x.store, e⟩ : Delivery)].filter (·.store == x.store) =
            [⟨session.nextTag, x.store, e⟩] := by simp
        rw [hlast, List.append_assoc]
        exact List.perm_middle.trans (hheld.symm.cons _)
      · rw [if_neg hxs] at hstore
        have hlast : [(⟨session.nextTag, x.store, e⟩ : Delivery)].filter (·.store == s) = [] := by
          simp [hxs]
        rw [hlast, List.append_nil] at hheld'
        exact .quiet hstore (hheld.trans hheld'.symm) (by simp [Event.concerns, hxs])

theorem Custody.settle {i : SessionId} {x : Session} (hi : w.sessions[i]? = some x)
    (gone : Delivery → Bool) (cause : Cause) (f : Session → Session)
    (hf : (f x).delivered = x.delivered.filter fun d => !gone d) (others : List Event)
    (hothers : others.filter (·.concerns s) = []) :
    Custody s w
      ((x.delivered.filter gone).map (fun d => .settled d.store d.envelope.seq cause) ++ others)
      (w.updateSession i f) := by
  obtain ⟨held, hheld, hheld'⟩ := outstanding_perm s hi f
  rw [hf] at hheld'
  refine .settled ((x.delivered.filter gone).filter (·.store == s)) cause rfl ?_ ?_
  · have hsplit := (List.filter_append_perm gone x.delivered).symm.filter (·.store == s)
    rw [List.filter_append] at hsplit
    refine hheld.trans ((hsplit.append_right held).trans ?_)
    rw [List.append_assoc]
    exact hheld'.symm.append_left _
  · rw [List.filter_append, hothers, List.append_nil, List.filter_map]
    refine List.map_congr_left fun d hd => ?_
    have hds : d.store = s := by simpa [Event.concerns] using (List.mem_filter.mp hd).2
    rw [hds]

theorem Custody.giveBack {i : SessionId} {x : Session} {older : List Delivery} {d : Delivery}
    (hw : w.Grounded) (hi : w.sessions[i]? = some x) (hx : x.delivered = older ++ [d]) :
    Custody s w [.putBack i d] (putBack d (w.updateSession i ({ · with delivered := older }))) := by
  have hlt := hw.delivered x (List.mem_of_getElem? hi) d (by simp [hx])
  have hstore : (putBack d (w.updateSession i ({ · with delivered := older }))).storeAt s =
      if d.store = s then (w.storeAt s).putBack
        { d.envelope with message := d.envelope.message.markRedelivered } else w.storeAt s :=
    storeAt_putBack hlt s
  obtain ⟨held, hheld, hheld'⟩ := outstanding_perm s hi ({ · with delivered := older })
  rw [hx, List.filter_append] at hheld
  by_cases hds : d.store = s
  · subst hds
    rw [if_pos rfl] at hstore
    refine .returned i x d rfl hi (by simp [hx]) hstore ?_ (by simp [Event.concerns])
    have hlast : [d].filter (fun d' => d'.store == d.store) = [d] := by simp
    rw [hlast, List.append_assoc] at hheld
    exact hheld.trans (List.perm_middle.trans (hheld'.symm.cons _))
  · rw [if_neg hds] at hstore
    have hlast : [d].filter (fun d' => d'.store == s) = [] := by simp [hds]
    rw [hlast, List.append_nil] at hheld
    exact .quiet hstore (hheld.trans hheld'.symm) (by simp [Event.concerns, hds])

theorem Custody.post (t : StoreId) (m : Message) (origin : ConnectionId)
    (ht : t < w.stores.length) :
    Custody s w [.posted t m origin] (w.updateStore t (·.push m origin)) := by
  have hstore := storeAt_updateStore t s (·.push m origin) w
  by_cases hts : t = s
  · subst hts
    rw [if_pos ⟨rfl, ht⟩] at hstore
    exact .posted m origin hstore rfl (by simp [Event.concerns])
  · rw [if_neg (fun h => hts h.1)] at hstore
    exact .same hstore rfl (by simp [Event.concerns, hts])

theorem Custody.updateSession {i : SessionId} {f : Session → Session} {es : List Event}
    (hf : ∀ x, (f x).delivered = x.delivered) (hes : es.filter (·.concerns s) = []) :
    Custody s w es (w.updateSession i f) :=
  .quiet rfl (.of_eq (outstanding_updateSession s hf).symm) hes

end Moves

theorem Move.custody [Labels] {w w' : Provider} {es : List Event} (h : Move w es w')
    (hw : w.Coherent) (s : StoreId) : Custody s w es w' := by
  cases h with
  | idle | shutdown | startBroker | connect | useConnection | setClientId | addTemporary |
      consume | unsubscribe | retireConnection =>
      exact .same rfl rfl rfl
  | openSession c x number mode =>
      exact .quiet rfl (.of_eq (by simp [outstanding])) rfl
  | numberProducer | keep | forget | retireSession =>
      exact .updateSession (fun _ => rfl) rfl
  | addQueue b d => exact .same (storeAt_addStore s w) rfl rfl
  | post t m origin ht => exact .post t (sealed m) origin ht
  | subscribe => exact .same (storeAt_addStore s w) rfl rfl
  | attach i session connection topic name text selector noLocal store next _ _ _ hstore =>
      rcases durableStore_eq_ok hstore with ⟨-, rfl, -⟩ | ⟨rfl, -⟩
      · exact .same (storeAt_addStore s w) rfl rfl
      · exact .same rfl rfl rfl
  | closeConsumer c x =>
      obtain ⟨brokers, heq⟩ := releaseSource_frame c x w
      rw [heq]
      exact .same rfl rfl rfl
  | purge t => exact .purge t
  | handOut c x session connection e rest hx hopen hsession _ _ htake =>
      exact .handOut hw.grounded (List.mem_of_getElem? hx) hopen hsession htake
  | acknowledge i session connection tag hopen =>
      have hi := (openSession_eq_ok.mp hopen).1
      have hsettle := Custody.settle (s := s) hi (covers session.mode tag) (.acknowledged i)
        (fun x => { x with delivered := x.delivered.filter fun d => !covers session.mode tag d })
        rfl [] rfl
      rwa [List.append_nil] at hsettle
  | commit i session connection hopen =>
      have hi := (openSession_eq_ok.mp (openTransaction_eq_ok.mp hopen).1).1
      have hsettle := Custody.settle (s := s) hi (fun _ => true) (.committed i)
        ({ · with buffered := [], delivered := [] }) (by simp) [.ended i] rfl
      rwa [List.filter_true] at hsettle
  | giveBack i session older d hi hd => exact .giveBack hw.grounded hi hd

end Provider

end Messaging
