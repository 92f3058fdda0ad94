import Messaging.Proofs.Fanout
import Messaging.Proofs.Run.Standing

/-!
# What closed consumers leave behind

The subscription of a consumer is gone for ever once the consumer is closed.  A durable
subscription gets its next consumer only when all that it had before are closed, so that the one
that was attached last is the only one that can be open.
-/

namespace Messaging.Provider

def durableOf (w : Provider) (x : Consumer) : Option (BrokerId × DurableKey) :=
  x.key?.bind fun key => (w.home x.session).map fun p => (p.1, key)

def attachedTo (b : BrokerId) (key : DurableKey) (w : Provider) : List Consumer :=
  w.consumers.filter fun x => w.durableOf x == some (b, key)

structure Severed (w : Provider) : Prop where
  /-- Nothing is put any more into the store of a closed consumer of a topic. -/
  topics : ∀ x ∈ w.consumers, x.closed = true → ∀ noLocal, x.source = .topic noLocal →
    ∀ b, x.store ∉ (w.brokerAt b).fed
  successors : ∀ {i j : Nat} {x y p}, w.consumers[i]? = some x → w.consumers[j]? = some y → i < j →
    w.durableOf x = some p → w.durableOf y = some p → x.closed = true

inductive Turnover (w w' : Provider) : Prop where
  | same (h : w'.consumers = w.consumers)
  | joined (y : Consumer) (h : w'.consumers = w.consumers ++ [y]) (hopen : y.closed = false)
      (hfree : ∀ p, w'.durableOf y = some p → ∀ x ∈ w.consumers, w.durableOf x = some p →
        x.closed = true)
  | left (c : ConsumerId) (x : Consumer) (hx : w.consumers[c]? = some x) (hopen : x.closed = false)
      (h : w' = (w.updateConsumer c ({ · with closed := true })).releaseSource x)

theorem Severed.init : ({} : Provider).Severed := by
  constructor <;> simp

section Moves

variable {w w' : Provider} {es : List Event}

theorem home_of_stands (h : w.Stands w') {s : SessionId} {p : BrokerId × ConnectionId}
    (hp : w.home s = some p) : w'.home s = some p := by
  obtain ⟨x, hx, hp⟩ := Option.bind_eq_some_iff.mp hp
  obtain ⟨y, hy, rfl⟩ := Option.map_eq_some_iff.mp hp
  obtain ⟨x', hx', hsession⟩ := h.sessions s x hx
  obtain ⟨y', hy', hconnection⟩ := h.connections _ y hy
  have hmaker : x'.connection = x.connection := hsession.maker
  simp [home, hx', hmaker, hy', hconnection.broker]

theorem exists_home_of_grounded (hw : w.Grounded) {x : Consumer} (hx : x ∈ w.consumers) :
    ∃ p, w.home x.session = some p := by
  have hs := hw.consumers x hx
  have hc := hw.sessions _ (List.getElem_mem hs)
  simp [home, List.getElem?_eq_getElem hs, List.getElem?_eq_getElem hc]

variable [Labels]

theorem Move.durableOf (h : Move w es w') (hw : w.Grounded) {x y : Consumer}
    (hx : x ∈ w.consumers) (hxy : x.Continues y) : w'.durableOf y = w.durableOf x := by
  obtain ⟨p, hp⟩ := exists_home_of_grounded hw hx
  have hkey : y.key? = x.key? := by rw [hxy]; rfl
  have hsession : y.session = x.session := by rw [hxy]
  rw [Provider.durableOf, Provider.durableOf, hkey, hsession, hp, home_of_stands h.stands hp]

theorem Move.fed (h : Move w es w') (hw : w.Settled) {b : BrokerId} {s : StoreId}
    (hs : s ∈ (w'.brokerAt b).fed) : s ∈ (w.brokerAt b).fed ∨ s = w.stores.length := by
  obtain ⟨b₀, hself, hothers⟩ := h.registered hw.coherent
  by_cases hb : b₀ = b
  · subst hb
    exact hself.fed (hw.filed.directory b₀) hs
  · exact .inl ((hothers b hb).broker.fed ▸ hs)

theorem Severed.topics_of_move (hv : w.Severed) (h : Move w es w') (hw : w.Settled) {x : Consumer}
    (hx : x ∈ w.consumers) (hclosed : x.closed = true) {noLocal : Bool}
    (hsource : x.source = .topic noLocal) (b : BrokerId) : x.store ∉ (w'.brokerAt b).fed := by
  intro hfed
  rcases h.fed hw hfed with hfed | heq
  · exact hv.topics x hx hclosed noLocal hsource b hfed
  · exact Nat.lt_irrefl _ (heq ▸ hw.coherent.grounded.consumed x hx)

omit [Labels] in
theorem closed_of_inactive (hw : w.Filed) {b : BrokerId} {key : DurableKey}
    (hfree : ∀ d, (w.brokerAt b).durable? key = some d → d.active = false) {x : Consumer}
    (hx : x ∈ w.consumers) (hdurable : w.durableOf x = some (b, key)) : x.closed = true := by
  by_contra hopen
  obtain ⟨key', hkey, hplace⟩ := Option.bind_eq_some_iff.mp hdurable
  obtain ⟨⟨b', c⟩, hhome, heq⟩ := Option.map_eq_some_iff.mp hplace
  obtain ⟨rfl, rfl⟩ := Prod.mk.inj heq
  have hmem : (c, x) ∈ w.openAt b' := mem_openAt.mpr ⟨hx, by simpa using hopen, hhome⟩
  rw [Consumer.key?_eq] at hkey
  obtain ⟨d, hd, rfl⟩ := Option.map_eq_some_iff.mp hkey
  have hdirectory := hw.directory b'
  obtain ⟨hd, hactive⟩ := hdirectory.mem_durables hmem hd
  rw [hfree d (Broker.durable?_of_mem hdirectory.keys hd)] at hactive
  cases hactive

theorem Move.turnover (h : Move w es w') (hw : w.Settled) : Turnover w w' := by
  have hstands := h.stands
  have hnone : ∀ {v : Provider} {y : Consumer}, y.key? = none → ∀ p, v.durableOf y = some p →
      ∀ x ∈ w.consumers, w.durableOf x = some p → x.closed = true := by
    intro v y hkey p hp
    simp [Provider.durableOf, hkey] at hp
  cases h with
  | idle | shutdown | startBroker | connect | useConnection | setClientId | openSession |
      addTemporary | numberProducer | keep | addQueue | post | purge | acknowledge | commit |
      forget | giveBack | retireSession | retireConnection | unsubscribe => exact .same rfl
  | handOut c x session connection e rest _ _ hsession =>
      rw [deliver_of_open (openSession_eq_ok.mp hsession).2.1]
      split <;> exact .same rfl
  | closeConsumer c x hx hopen => exact .left c x hx hopen rfl
  | consume s session connection d store selector =>
      exact .joined ⟨s, d, .queue, store, selector, false⟩ rfl rfl (hnone rfl)
  | subscribe s session connection d selector noLocal =>
      exact .joined ⟨s, d, .topic noLocal, w.stores.length, selector, false⟩ rfl rfl (hnone rfl)
  | attach s session connection topic name text selector noLocal store next hopen _ _ hstore =>
      have hnext : next.consumers = w.consumers ∧
          ∀ d, (w.brokerAt connection.broker).durable? ⟨connection.clientId, name⟩ = some d →
            d.active = false := by
        rcases durableStore_eq_ok hstore with ⟨-, rfl, hfree⟩ | ⟨rfl, d, hd, hfree, -⟩
        · exact ⟨rfl, fun d hd => (hfree d hd).1⟩
        · refine ⟨rfl, fun d' hd' => ?_⟩
          obtain rfl : d = d' := Option.some.inj (hd.symm.trans hd')
          exact hfree
      refine .joined
        ⟨s, topic, .durable ⟨connection.clientId, name⟩ noLocal, store, selector, false⟩
        (congrArg (· ++ [_]) hnext.1) rfl fun p hp x hx hxp => ?_
      have hhome := home_of_stands hstands (home_of_openSession hopen)
      simp only [Provider.durableOf, Consumer.key?, Option.bind_some, hhome, Option.map_some,
        Option.some.injEq] at hp
      subst hp
      exact closed_of_inactive hw.filed hnext.2 hx hxp

theorem not_fed_of_closeConsumer (hw : w.Settled) {i : ConsumerId} {x : Consumer}
    (hi : w.consumers[i]? = some x) (hopen : x.closed = false) {noLocal : Bool}
    (hsource : x.source = .topic noLocal) (b : BrokerId) :
    x.store ∉
      (((w.updateConsumer i ({ · with closed := true })).releaseSource x).brokerAt b).fed := by
  have hx := List.mem_of_getElem? hi
  obtain ⟨b₀, c, hhome⟩ := exists_home hw.coherent.cascading hx hopen
  have hmem : (c, x) ∈ w.openAt b₀ := mem_openAt.mpr ⟨hx, hopen, hhome⟩
  have hattached := (hw.filed.directory b₀).subscription_mem hmem
    (Consumer.subscription?_topic hsource c)
  have hstore : x.store ∈ (w.brokerAt b₀).attached.map (·.store) := List.mem_map_of_mem hattached
  obtain ⟨session, hs, hplace⟩ := Option.bind_eq_some_iff.mp hhome
  obtain ⟨connection, hc, heq⟩ := Option.map_eq_some_iff.mp hplace
  obtain ⟨rfl, rfl⟩ := Prod.mk.inj heq
  have hconnection : (w.updateConsumer i ({ · with closed := true })).connectionOf x.session =
      some connection := by
    change w.connectionOf x.session = _
    simp [connectionOf, hs, hc]
  rw [releaseSource_of_connection hconnection, brokerAt_updateBroker]
  split
  next hb =>
    obtain ⟨rfl, -⟩ := hb
    change x.store ∉ (x.release (w.brokerAt connection.broker)).fed
    rw [Consumer.release, hsource]
    intro hfed
    rcases List.mem_append.mp hfed with hqueue | hremaining
    · -- a queue and a subscription never share a store
      exact (List.nodup_append.mp (hw.filed.directory _).fed).2.2 _ hqueue _ hstore rfl
    · obtain ⟨y, hy, hsame⟩ := List.mem_map.mp hremaining
      simpa [hsame] using (List.mem_filter.mp hy).2
  next hb =>
    intro hfed
    have hlt := hw.coherent.grounded.connections connection (List.mem_of_getElem? hc)
    exact hb ⟨hw.filed.apart (List.mem_append_right _ hstore) hfed, hlt⟩

theorem Severed.topics_step (hv : w.Severed) (h : Move w es w') (hw : w.Settled) {y : Consumer}
    (hy : y ∈ w'.consumers) (hclosed : y.closed = true) {noLocal : Bool}
    (hsource : y.source = .topic noLocal) (b : BrokerId) : y.store ∉ (w'.brokerAt b).fed := by
  cases h.turnover hw with
  | same heq => exact hv.topics_of_move h hw (heq ▸ hy) hclosed hsource b
  | joined z heq hopen _ =>
      rw [heq] at hy
      rcases List.mem_append.mp hy with hy | hy
      · exact hv.topics_of_move h hw hy hclosed hsource b
      · rw [List.mem_singleton.mp hy, hopen] at hclosed
        cases hclosed
  | left i x hi hopen heq =>
      obtain ⟨brokers, hrelease⟩ := releaseSource_frame i x w
      rw [heq, hrelease] at hy
      rcases mem_of_mem_modify hy with hy | ⟨z, hz, rfl⟩
      · exact hv.topics_of_move h hw hy hclosed hsource b
      · obtain rfl : x = z := Option.some.inj (hi.symm.trans hz)
        rw [heq]
        exact not_fed_of_closeConsumer hw hi hopen hsource b

theorem Move.consumer_before (h : Move w es w') (hw : w.Grounded) {j : Nat} {y' : Consumer}
    (hy' : w'.consumers[j]? = some y') (hj : j < w.consumers.length) :
    ∃ y, w.consumers[j]? = some y ∧ w'.durableOf y' = w.durableOf y ∧
      (y.closed = true → y'.closed = true) := by
  have hy := List.getElem?_eq_getElem hj
  obtain ⟨z, hz, hcontinues⟩ := h.lasts.consumers j _ hy
  obtain ⟨z', hz', hstays⟩ := h.stands.consumers j _ hy
  obtain rfl := Option.some.inj (hz.symm.trans hy')
  obtain rfl := Option.some.inj (hz'.symm.trans hy')
  exact ⟨_, hy, h.durableOf hw (List.mem_of_getElem? hy) hcontinues, hstays.closed⟩

theorem Severed.successors_step (hv : w.Severed) (h : Move w es w') (hw : w.Settled) {i j : Nat}
    {x' y' : Consumer} {p : BrokerId × DurableKey} (hx' : w'.consumers[i]? = some x')
    (hy' : w'.consumers[j]? = some y') (hij : i < j) (hxp : w'.durableOf x' = some p)
    (hyp : w'.durableOf y' = some p) : x'.closed = true := by
  have hg := hw.coherent.grounded
  have hlt := (List.getElem?_eq_some_iff.mp hy').1
  by_cases hj : j < w.consumers.length
  · obtain ⟨x, hx, hxsame, hkeeps⟩ := h.consumer_before hg hx' (Nat.lt_trans hij hj)
    obtain ⟨y, hy, hysame, -⟩ := h.consumer_before hg hy' hj
    exact hkeeps (hv.successors hx hy hij (hxsame ▸ hxp) (hysame ▸ hyp))
  · -- only the second of the two can be new
    cases h.turnover hw with
    | same heq => exact absurd (heq ▸ hlt) hj
    | left i x hi hopen heq =>
        obtain ⟨brokers, hrelease⟩ := releaseSource_frame i x w
        rw [heq, hrelease] at hlt
        exact absurd (by simpa using hlt) hj
    | joined z heq hopen hfree =>
        rw [heq, List.length_append, List.length_singleton] at hlt
        obtain rfl : j = w.consumers.length := by omega
        obtain ⟨x, hx, hxsame, hkeeps⟩ := h.consumer_before hg hx' hij
        have hz : z = y' := by simpa [heq] using hy'
        exact hkeeps (hfree p (hz ▸ hyp) x (List.mem_of_getElem? hx) (hxsame ▸ hxp))

theorem Severed.step (hv : w.Severed) (h : Move w es w') (hw : w.Settled) : w'.Severed where
  topics _ hy hclosed _ hsource b := hv.topics_step h hw hy hclosed hsource b
  successors hx hy hij hxp hyp := hv.successors_step h hw hx hy hij hxp hyp

end Moves

/-! ## Runs -/

theorem severed_run [Labels] (ops : List Operation) : (run ops {}).Severed := by
  have hboth := keeps_run (P := fun _ w => w.Settled ∧ w.Severed) ⟨⟨.init, .init, .init⟩, .init⟩
    (fun hmove _ ⟨hw, hv⟩ => ⟨hw.moves hmove.moves, hv.step hmove hw⟩) ops
  exact hboth.2

theorem Severed.pairwise {w : Provider} (hv : w.Severed) (b : BrokerId) (key : DurableKey) :
    (w.attachedTo b key).Pairwise fun x _ => x.closed = true := by
  refine List.Pairwise.imp_of_mem (R := fun x y => ∀ p, w.durableOf x = some p →
    w.durableOf y = some p → x.closed = true) ?_ ?_
  · intro x y hx hy h
    exact h (b, key) (by simpa using (List.mem_filter.mp hx).2)
      (by simpa using (List.mem_filter.mp hy).2)
  · refine List.Pairwise.sublist List.filter_sublist (List.pairwise_iff_getElem.mpr ?_)
    intro i j hi hj hij p hx hy
    exact hv.successors (List.getElem?_eq_getElem hi) (List.getElem?_eq_getElem hj) hij hx hy

/-- An active durable subscription has a consumer: the one that was attached to it last. -/
theorem last_of_active [Labels] {w : Provider} (hw : w.Settled) (hv : w.Severed) {b : BrokerId}
    {d : Durable} (hd : d ∈ (w.brokerAt b).durables) (hactive : d.active = true) :
    ∃ x, (w.attachedTo b d.key).getLast? = some x ∧ x.closed = false := by
  have husers := (hw.filed.directory b).users hd
  rw [if_pos hactive] at husers
  obtain ⟨p, hp, hkey⟩ := List.countP_pos_iff.mp (Nat.lt_of_lt_of_eq Nat.one_pos husers.symm)
  obtain ⟨hx, hopen, hhome⟩ := mem_openAt.mp hp
  have hkey : p.2.key? = some d.key := by simpa using hkey
  have hmem : p.2 ∈ w.attachedTo b d.key :=
    List.mem_filter.mpr ⟨hx, by simp [durableOf, hkey, hhome]⟩
  refine ⟨p.2, ?_, hopen⟩
  obtain ⟨before, after, hsplit⟩ := List.append_of_mem hmem
  have hpairwise := hv.pairwise b d.key
  rw [hsplit] at hpairwise ⊢
  cases after with
  | nil => simp
  | cons y after =>
      have hclosed := List.rel_of_pairwise_cons (List.pairwise_append.mp hpairwise).2.1
        (List.mem_cons_self (a := y))
      rw [hopen] at hclosed
      cases hclosed

end Messaging.Provider
