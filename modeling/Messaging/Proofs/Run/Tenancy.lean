import Messaging.Proofs.Run.Routing
import Messaging.Proofs.Run.Standing

/-!
# Tenancy

The queues and the subscriptions of a broker are those of destinations that are live there.  A
temporary destination is live at one broker at most, and once its owner is closed it never is
again.
-/

namespace Messaging

namespace Provider

/-! ## Queues -/

def Housed (w : Provider) : Prop :=
  ∀ b, ∀ q ∈ (w.brokerAt b).queues, (w.brokerAt b).isLive q.1 = true

theorem isLive_of_releaseTemporaries {b : Broker} {c : ConnectionId} {d : Destination}
    (howned : b.isOwned c d = false) (hlive : b.isLive d = true) :
    (b.releaseTemporaries c).isLive d = true := by
  rw [Broker.isLive_iff] at hlive ⊢
  intro htemporary
  obtain ⟨c', hc'⟩ := hlive htemporary
  refine ⟨c', List.mem_filter.mpr ⟨hc', ?_⟩⟩
  have hother : ¬ (d = d ∧ c' = c) := by
    simpa using List.any_eq_false.mp howned (d, c') hc'
  simpa using hother

theorem Registration.housed {w w' : Provider} {es : List Event} {b : BrokerId}
    (h : Registration b w es w')
    (hw : ∀ q ∈ (w.brokerAt b).queues, (w.brokerAt b).isLive q.1 = true) :
    ∀ q ∈ (w'.brokerAt b).queues, (w'.brokerAt b).isLive q.1 = true := by
  have hsame : ∀ {x : Broker}, x.Alike (w'.brokerAt b) → x.queues = (w.brokerAt b).queues →
      x.temporaries = (w.brokerAt b).temporaries →
      ∀ q ∈ (w'.brokerAt b).queues, (w'.brokerAt b).isLive q.1 = true := by
    intro x hbroker hqueues htemporaries q hq
    rw [Broker.isLive_congr (hbroker.temporaries.trans htemporaries)]
    rw [hbroker.queues, hqueues] at hq
    exact hw q hq
  cases h with
  | quiet h => exact hsame h.broker rfl rfl
  | temporary d c _ hbroker =>
      intro q hq
      rw [hbroker.queues] at hq
      rw [Broker.isLive_congr hbroker.temporaries, Broker.isLive_iff]
      intro htemporary
      obtain ⟨c', hc'⟩ := Broker.isLive_iff.mp (hw q hq) htemporary
      exact ⟨c', List.mem_cons_of_mem _ hc'⟩
  | queue d hlive _ hbroker =>
      intro q hq
      rw [hbroker.queues] at hq
      rw [Broker.isLive_congr hbroker.temporaries]
      rcases List.mem_cons.mp hq with rfl | hq
      · exact hlive
      · exact hw q hq
  | consumed _ _ _ _ _ _ hbroker | subscribed _ _ _ _ _ _ _ hbroker => exact hsame hbroker rfl rfl
  | attached _ _ _ _ _ _ _ _ _ _ hbroker _ => exact hsame hbroker (by simp) (by simp)
  | closed c x before after _ _ hbroker =>
      refine hsame hbroker ?_ ?_ <;> unfold Consumer.release <;> cases x.source <;>
        simp [Broker.detach]
  | released c _ _ hbroker =>
      intro q hq
      rw [hbroker.queues] at hq
      obtain ⟨hq, howned⟩ := List.mem_filter.mp hq
      rw [Broker.isLive_congr hbroker.temporaries]
      exact isLive_of_releaseTemporaries (by simpa using howned) (hw q hq)
  | unsubscribed _ _ _ _ _ hbroker _ => exact hsame hbroker rfl rfl

variable [Labels]

theorem Housed.step {w w' : Provider} {es : List Event} (hh : w.Housed) (h : Move w es w')
    (hw : w.Coherent) : w'.Housed := by
  obtain ⟨b₀, hself, hothers⟩ := h.registered hw
  intro b
  by_cases hb : b₀ = b
  · subst hb
    exact hself.housed (hh b₀)
  · have hbroker := (hothers b hb).broker
    intro q hq
    rw [hbroker.queues] at hq
    rw [Broker.isLive_congr hbroker.temporaries]
    exact hh b q hq

theorem housed_run (ops : List Operation) : (run ops {}).Housed :=
  keeps_run (P := fun _ w => w.Housed) (by intro b; simp [brokerAt])
    (fun hmove hw hh => hh.step hmove hw) ops

/-! ## Consumers and subscriptions -/

section Tenants

variable {w : Provider}

theorem owner_of_consumer (hw : w.Settled) {x : Consumer} (hx : x ∈ w.consumers)
    (hopen : x.closed = false) (htemporary : x.destination.isTemporary = true) :
    ∃ b session, w.sessions[x.session]? = some session ∧
      (x.destination, session.connection) ∈ (w.brokerAt b).temporaries := by
  obtain ⟨b, c, hhome⟩ := exists_home hw.coherent.cascading hx hopen
  obtain ⟨session, hs, hplace⟩ := Option.bind_eq_some_iff.mp hhome
  obtain ⟨connection, -, heq⟩ := Option.map_eq_some_iff.mp hplace
  obtain ⟨rfl, rfl⟩ := Prod.mk.inj heq
  have hmem : (session.connection, x) ∈ w.openAt connection.broker :=
    mem_openAt.mpr ⟨hx, hopen, hhome⟩
  exact ⟨_, session, hs, (hw.filed.directory _).tenants _ hmem htemporary⟩

theorem isLive_of_attached (hw : w.Settled) {b : BrokerId} {s : Subscription}
    (hs : s ∈ (w.brokerAt b).attached) : (w.brokerAt b).isLive s.topic = true := by
  have hdirectory := hw.filed.directory b
  rw [Broker.isLive_iff]
  intro htemporary
  rcases List.mem_append.mp (hdirectory.attached.mem_iff.mp hs) with hs | hs
  · obtain ⟨p, hp, hsubscription⟩ := List.mem_filterMap.mp hs
    have htopic : s.topic = p.2.destination := by
      unfold Consumer.subscription? at hsubscription
      grind
    exact ⟨p.1, htopic ▸ hdirectory.tenants p hp (htopic ▸ htemporary)⟩
  · -- a durable subscription is never to a temporary topic
    obtain ⟨d, hd, rfl⟩ := List.mem_map.mp hs
    have hkind := hdirectory.topics d (List.mem_filter.mp hd).1
    rw [Durable.dormant, Destination.isTemporary, hkind] at htemporary
    cases htemporary

end Tenants

/-! ## Owners that are closed -/

/-- A destination that a connection got, whether the connection is still open or not. -/
def Got (d : Destination) (c : ConnectionId) (w : Provider) : Prop :=
  d.isTemporary = true ∧ ∃ x n, w.connections[c]? = some x ∧ n < x.nextTemporary ∧
    d.name = s!"{x.label}:{n}"

section Owners

variable {w : Provider} {d : Destination} {c : ConnectionId}

theorem got_of_mem (hw : w.Tenanted) {b : BrokerId} (h : (d, c) ∈ (w.brokerAt b).temporaries) :
    w.Got d c := by
  obtain ⟨htemporary, x, n, hx, -, -, hn, hname⟩ := hw.owned b _ h
  exact ⟨htemporary, x, n, hx, hn, hname⟩

theorem Got.run (h : w.Got d c) (hw : w.Coherent) (ops : List Operation) : (w.run ops).Got d c := by
  obtain ⟨htemporary, x, n, hx, hn, hname⟩ := h
  obtain ⟨y, hy, hcontinues⟩ := (stands_run hw ops).connections c x hx
  refine ⟨htemporary, y, n, hy, Nat.lt_of_lt_of_le hn hcontinues.nextTemporary, ?_⟩
  rw [hcontinues.label]
  exact hname

theorem Got.owner_eq (h : w.Got d c) (hw : w.Tenanted) {b : BrokerId} {c' : ConnectionId}
    (h' : (d, c') ∈ (w.brokerAt b).temporaries) : c' = c := by
  obtain ⟨-, x, n, hx, -, hname⟩ := h
  obtain ⟨-, y, m, hy, -, -, -, hname'⟩ := hw.owned b _ h'
  exact place_eq_of_nodup hw.distinct hy hx (temporaryName_inj (hname'.symm.trans hname)).1

theorem Got.not_live (h : w.Got d c) (hw : w.Tenanted) (hc : w.connectionClosed c = true)
    (b : BrokerId) : (w.brokerAt b).isLive d = false := by
  by_contra hlive
  obtain ⟨c', hc'⟩ := Broker.isLive_iff.mp (by simpa using hlive) h.1
  obtain rfl := h.owner_eq hw hc'
  obtain ⟨-, x, -, hx, -, hstate, -⟩ := hw.owned b _ hc'
  simp [connectionClosed, hx, hstate] at hc

theorem Got.name_ne (h : w.Got d c) (hw : w.Tenanted) {c' : ConnectionId} {y : Connection}
    (hy : w.connections[c']? = some y) (kind : DestinationKind) :
    d ≠ ⟨kind, s!"{y.label}:{y.nextTemporary}"⟩ := by
  rintro rfl
  obtain ⟨-, x, n, hx, hn, hname⟩ := h
  obtain ⟨hlabel, heq⟩ := temporaryName_inj hname
  obtain rfl := place_eq_of_nodup hw.distinct hy hx hlabel
  obtain rfl := Option.some.inj (hy.symm.trans hx)
  omega

end Owners

end Provider

end Messaging
