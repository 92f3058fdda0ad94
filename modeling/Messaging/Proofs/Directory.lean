import Messaging.Proofs.Broker
import Messaging.Provider.Consumer

/-!
# The directory of a broker

A broker feeds the subscriptions of the open consumers of its topics, and those of the durable
subscriptions that nobody consumes from.  Opening and closing consumers and removing durable
subscriptions keep that so, in any order.
-/

namespace Messaging

def Consumer.subscription? (c : ConnectionId) (x : Consumer) : Option Subscription :=
  match x.source with
  | .queue => none
  | .topic noLocal | .durable _ noLocal =>
      some ⟨x.destination, x.store, x.selector, Provider.localTo noLocal c⟩

def Consumer.durable? (x : Consumer) : Option Durable :=
  match x.source with
  | .queue | .topic _ => none
  | .durable key noLocal => some ⟨key, x.destination, x.selector, noLocal, x.store, true⟩

section Source

variable {x : Consumer} {noLocal : Bool} {key : DurableKey}

theorem Consumer.subscription?_queue (hx : x.source = .queue) (c : ConnectionId) :
    x.subscription? c = none := by
  rw [Consumer.subscription?, hx]

theorem Consumer.subscription?_topic (hx : x.source = .topic noLocal) (c : ConnectionId) :
    x.subscription? c =
      some ⟨x.destination, x.store, x.selector, Provider.localTo noLocal c⟩ := by
  rw [Consumer.subscription?, hx]

theorem Consumer.subscription?_durable (hx : x.source = .durable key noLocal)
    (c : ConnectionId) :
    x.subscription? c =
      some ⟨x.destination, x.store, x.selector, Provider.localTo noLocal c⟩ := by
  rw [Consumer.subscription?, hx]

theorem Consumer.durable?_queue (hx : x.source = .queue) : x.durable? = none := by
  rw [Consumer.durable?, hx]

theorem Consumer.durable?_topic (hx : x.source = .topic noLocal) : x.durable? = none := by
  rw [Consumer.durable?, hx]

theorem Consumer.durable?_durable (hx : x.source = .durable key noLocal) :
    x.durable? = some ⟨key, x.destination, x.selector, noLocal, x.store, true⟩ := by
  rw [Consumer.durable?, hx]

end Source

def Durable.dormant (d : Durable) : Subscription := ⟨d.topic, d.store, d.selector, none⟩

def Consumer.release (x : Consumer) (b : Broker) : Broker :=
  match x.source with
  | .queue => b
  | .topic _ => b.detach x.store
  | .durable key _ => b.deactivate key

namespace Broker

def dormant (b : Broker) : List Subscription :=
  (b.durables.filter (!·.active)).map Durable.dormant

def fed (b : Broker) : List StoreId := b.queues.map (·.2) ++ b.attached.map (·.store)

structure Alike (b b' : Broker) : Prop where
  queues : b'.queues = b.queues
  attached : b'.attached = b.attached
  durables : b'.durables = b.durables
  temporaries : b'.temporaries = b.temporaries

theorem Alike.refl (b : Broker) : b.Alike b := ⟨rfl, rfl, rfl, rfl⟩

theorem Alike.fed {b b' : Broker} (h : b.Alike b') : b'.fed = b.fed := by
  unfold Broker.fed
  rw [h.queues, h.attached]

end Broker

/-- What a broker knows agrees with the open consumers at it. -/
structure Directory (xs : List (ConnectionId × Consumer)) (b : Broker) : Prop where
  attached : b.attached.Perm (xs.filterMap (fun p => p.2.subscription? p.1) ++ b.dormant)
  active : (xs.filterMap (·.2.durable?)).Perm (b.durables.filter (·.active))
  fed : b.fed.Nodup
  keys : (b.durables.map (·.key)).Nodup
  topics : ∀ d ∈ b.durables, d.topic.kind = .topic
  queues : ∀ p ∈ xs, p.2.source = .queue → (p.2.destination, p.2.store) ∈ b.queues
  tenants : ∀ p ∈ xs, p.2.destination.isTemporary = true → (p.2.destination, p.1) ∈ b.temporaries

namespace Directory

variable {xs before after : List (ConnectionId × Consumer)} {b b' : Broker} {c : ConnectionId}
  {x : Consumer}

theorem alike (h : Directory xs b) (hb : b.Alike b') : Directory xs b' := by
  obtain ⟨hqueues, hattached, hdurables, htemporaries⟩ := hb
  constructor
  · simpa only [Broker.dormant, hattached, hdurables] using h.attached
  · simpa only [hdurables] using h.active
  · simpa only [Broker.fed, hattached, hqueues] using h.fed
  · simpa only [hdurables] using h.keys
  · simpa only [hdurables] using h.topics
  · simpa only [hqueues] using h.queues
  · simpa only [htemporaries] using h.tenants

/-! ## Stores -/

theorem nodup_attached (h : Directory xs b) : (b.attached.map (·.store)).Nodup :=
  (List.nodup_append.mp h.fed).2.1

theorem dormant_mem {d : Durable} (hd : d ∈ b.durables) (hinactive : d.active = false) :
    d.dormant ∈ b.dormant :=
  List.mem_map_of_mem (List.mem_filter.mpr ⟨hd, by simp [hinactive]⟩)

theorem subscription_mem (h : Directory xs b) (hx : (c, x) ∈ xs) {s : Subscription}
    (hs : x.subscription? c = some s) : s ∈ b.attached :=
  h.attached.mem_iff.mpr (List.mem_append_left _ (List.mem_filterMap.mpr ⟨(c, x), hx, hs⟩))

theorem subscription_of_ne_queue (h : Directory xs b) (hx : (c, x) ∈ xs)
    (hsource : x.source ≠ .queue) :
    ∃ s ∈ b.attached, s.store = x.store ∧ s.selector = x.selector := by
  cases hkind : x.source with
  | queue => exact absurd hkind hsource
  | topic noLocal =>
      exact ⟨_, h.subscription_mem hx (Consumer.subscription?_topic hkind c), rfl, rfl⟩
  | durable key noLocal =>
      exact ⟨_, h.subscription_mem hx (Consumer.subscription?_durable hkind c), rfl, rfl⟩

theorem consumed_mem (h : Directory xs b) (hx : (c, x) ∈ xs) : x.store ∈ b.fed := by
  by_cases hsource : x.source = .queue
  · have hqueue := List.mem_map_of_mem (f := (·.2)) (h.queues _ hx hsource)
    exact List.mem_append_left _ hqueue
  · obtain ⟨s, hs, hstore, -⟩ := h.subscription_of_ne_queue hx hsource
    exact List.mem_append_right _ (hstore ▸ List.mem_map_of_mem (f := (·.store)) hs)

theorem store_mem (h : Directory xs b) {d : Durable} (hd : d ∈ b.durables) :
    d.store ∈ b.attached.map (·.store) := by
  cases hactive : d.active with
  | false =>
      have hmem := h.attached.mem_iff.mpr (List.mem_append_right _ (dormant_mem hd hactive))
      exact List.mem_map_of_mem (f := (·.store)) hmem
  | true =>
      have hmem := h.active.mem_iff.mpr (List.mem_filter.mpr ⟨hd, hactive⟩)
      obtain ⟨⟨c, x⟩, hx, hdx⟩ := List.mem_filterMap.mp hmem
      obtain ⟨s, hs, hstore⟩ : ∃ s, x.subscription? c = some s ∧ s.store = d.store := by
        cases hsource : x.source with
        | queue | topic => simp [Consumer.durable?, hsource] at hdx
        | durable key noLocal =>
            rw [Consumer.durable?, hsource] at hdx
            cases hdx
            exact ⟨_, by rw [Consumer.subscription?, hsource], rfl⟩
      rw [← hstore]
      exact List.mem_map_of_mem (f := (·.store)) (h.subscription_mem hx hs)

private theorem nodup_concat {ss : List StoreId} {s : StoreId} (hss : ss.Nodup) (hs : s ∉ ss) :
    (ss ++ [s]).Nodup := by
  simpa using hss.concat hs

/-! ## Queues and temporary destinations -/

theorem mem_temporaries_of_checkConsumable {d : Destination}
    (hallowed : b.checkConsumable d c = .ok ()) (hd : d.isTemporary = true) :
    (d, c) ∈ b.temporaries := by
  unfold Broker.checkConsumable at hallowed
  rw [hd] at hallowed
  cases howner : b.owner? d with
  | none => simp [howner] at hallowed
  | some owner =>
      obtain ⟨before, after, htemporaries, -⟩ := List.lookup_eq_some_iff.mp howner
      by_cases hc : owner = c
      · simp [htemporaries, hc]
      · simp [howner, hc] at hallowed

theorem consume (h : Directory xs b) (hx : x.source = .queue)
    (hqueue : b.queue? x.destination = some x.store)
    (hallowed : b.checkConsumable x.destination c = .ok ()) : Directory (xs ++ [(c, x)]) b := by
  refine ⟨?_, ?_, h.fed, h.keys, h.topics, ?_, ?_⟩
  · simpa [Consumer.subscription?_queue hx] using h.attached
  · simpa [Consumer.durable?_queue hx] using h.active
  · intro p hp hsource
    rcases List.mem_append.mp hp with hp | hp
    · exact h.queues p hp hsource
    · rw [List.mem_singleton.mp hp]
      exact Broker.queue?_mem hqueue
  · intro p hp htemporary
    rcases List.mem_append.mp hp with hp | hp
    · exact h.tenants p hp htemporary
    · rw [List.mem_singleton.mp hp] at htemporary ⊢
      exact mem_temporaries_of_checkConsumable hallowed htemporary

theorem addQueue (h : Directory xs b) {d : Destination} {s : StoreId} (hs : s ∉ b.fed) :
    Directory xs (b.addQueue d s) := by
  refine ⟨h.attached, h.active, List.nodup_cons.mpr ⟨hs, h.fed⟩, h.keys, h.topics, ?_, h.tenants⟩
  exact fun p hp hsource => List.mem_cons_of_mem _ (h.queues p hp hsource)

theorem addTemporary (h : Directory xs b) (d : Destination) (owner : ConnectionId) :
    Directory xs (b.addTemporary d owner) :=
  ⟨h.attached, h.active, h.fed, h.keys, h.topics, h.queues, fun p hp htemporary =>
    List.mem_cons_of_mem _ (h.tenants p hp htemporary)⟩

theorem releaseTemporaries (h : Directory xs b) (hothers : ∀ p ∈ xs, p.1 ≠ c)
    (htemporary : ∀ t ∈ b.temporaries, t.1.isTemporary = true)
    (hunique : (b.temporaries.map (·.1)).Nodup) : Directory xs (b.releaseTemporaries c) := by
  have hkept : ∀ p ∈ xs, b.isOwned c p.2.destination = false := by
    intro p hp
    by_contra howned
    obtain ⟨t, ht, htp⟩ := List.any_eq_true.mp (Bool.not_eq_false _ ▸ howned)
    obtain ⟨hdestination, rfl⟩ : t.1 = p.2.destination ∧ t.2 = c := by simpa using htp
    have hp' := h.tenants p hp (hdestination ▸ htemporary t ht)
    have hsame := List.inj_on_of_nodup_map hunique ht hp' hdestination
    exact hothers p hp (by rw [hsame])
  have hpermanent : ∀ d ∈ b.durables, b.isOwned c d.topic = false := by
    intro d hd
    by_contra howned
    obtain ⟨t, ht, htp⟩ := List.any_eq_true.mp (Bool.not_eq_false _ ▸ howned)
    obtain ⟨hdestination, -⟩ : t.1 = d.topic ∧ t.2 = c := by simpa using htp
    have hkind := htemporary t ht
    rw [hdestination, Destination.isTemporary, h.topics d hd] at hkind
    cases hkind
  have hattached : (b.releaseTemporaries c).attached = b.attached := by
    refine List.filter_eq_self.mpr fun s hs => ?_
    rcases List.mem_append.mp (h.attached.mem_iff.mp hs) with hs | hs
    · obtain ⟨p, hp, hs⟩ := List.mem_filterMap.mp hs
      have htopic : s.topic = p.2.destination := by
        unfold Consumer.subscription? at hs
        grind
      simpa [htopic] using hkept p hp
    · obtain ⟨d, hd, rfl⟩ := List.mem_map.mp hs
      simpa [Durable.dormant] using hpermanent d (List.mem_filter.mp hd).1
  refine ⟨hattached ▸ h.attached, h.active, ?_, h.keys, h.topics, ?_, ?_⟩
  · unfold Broker.fed
    rw [hattached]
    refine h.fed.sublist (List.Sublist.append ?_ (List.Sublist.refl _))
    exact List.filter_sublist.map _
  · intro p hp hsource
    exact List.mem_filter.mpr ⟨h.queues p hp hsource, by simpa using hkept p hp⟩
  · intro p hp htemp
    exact List.mem_filter.mpr ⟨h.tenants p hp htemp, by simpa using hothers p hp⟩

/-! ## Subscriptions -/

theorem subscribe (h : Directory xs b) {noLocal : Bool} (hx : x.source = .topic noLocal)
    (hstore : x.store ∉ b.fed) (hallowed : b.checkConsumable x.destination c = .ok ()) :
    Directory (xs ++ [(c, x)])
      (b.attach ⟨x.destination, x.store, x.selector, Provider.localTo noLocal c⟩) := by
  refine ⟨?_, ?_, ?_, h.keys, h.topics, ?_, ?_⟩
  · rw [List.filterMap_append, List.append_assoc]
    refine (h.attached.append_right _).trans ?_
    rw [List.append_assoc]
    refine List.Perm.append_left _ (List.perm_append_comm.trans ?_)
    simp [Consumer.subscription?_topic hx, Broker.dormant, Broker.attach]
  · simpa [Consumer.durable?_topic hx, Broker.attach] using h.active
  · rw [Broker.fed, Broker.attach, List.map_append, ← List.append_assoc]
    exact nodup_concat h.fed hstore
  · intro p hp hsource
    rcases List.mem_append.mp hp with hp | hp
    · exact h.queues p hp hsource
    · rw [List.mem_singleton.mp hp, hx] at hsource
      cases hsource
  · intro p hp htemporary
    rcases List.mem_append.mp hp with hp | hp
    · exact h.tenants p hp htemporary
    · rw [List.mem_singleton.mp hp] at htemporary ⊢
      exact mem_temporaries_of_checkConsumable hallowed htemporary

/-! ## Durable subscriptions -/

theorem durables_perm (h : Directory xs b) {key : DurableKey} {d : Durable}
    (hd : b.durable? key = some d) : b.durables.Perm (d :: b.durables.filter (·.key != key)) := by
  obtain ⟨hmem, rfl⟩ := Broker.durable?_mem hd
  exact perm_cons_filter_ne h.keys hmem

theorem attached_filter (h : Directory xs b) {key : DurableKey} {d : Durable}
    (hd : b.durable? key = some d) (hinactive : d.active = false) :
    (b.attached.filter (·.store != d.store)).Perm
      (xs.filterMap (fun p => p.2.subscription? p.1) ++
        ((b.durables.filter (·.key != key)).filter (!·.active)).map Durable.dormant) := by
  have hmem := h.attached.mem_iff.mpr
    (List.mem_append_right _ (dormant_mem (Broker.durable?_mem hd).1 hinactive))
  have hsplit := perm_cons_filter_ne (f := (·.store)) h.nodup_attached hmem
  have hdormant := ((h.durables_perm hd).filter (!·.active)).map Durable.dormant
  rw [List.filter_cons_of_pos (by simp [hinactive]), List.map_cons] at hdormant
  refine List.Perm.cons_inv (a := d.dormant) ?_
  exact hsplit.symm.trans (h.attached.trans ((hdormant.append_left _).trans List.perm_middle))

theorem attached_activate (h : Directory xs b) (noLocal : Option ConnectionId) (d : Durable)
    (hfree : ∀ old, b.durable? d.key = some old → old.active = false)
    (hstore : d.store ∉ b.fed ∨ ∃ old, b.durable? d.key = some old ∧ d.store = old.store) :
    ∃ others, (b.activate d noLocal).attached =
        others ++ [⟨d.topic, d.store, d.selector, noLocal⟩] ∧
      others.Perm (xs.filterMap (fun p => p.2.subscription? p.1) ++
        ((b.durables.filter (·.key != d.key)).filter (!·.active)).map Durable.dormant) ∧
      others.Sublist b.attached ∧ d.store ∉ b.queues.map (·.2) ++ others.map (·.store) := by
  cases hold : b.durable? d.key with
  | none =>
      refine ⟨b.attached, Broker.attached_activate_of_none d noLocal b hold, ?_, .refl _, ?_⟩
      · have hall : b.durables.filter (·.key != d.key) = b.durables := by
          refine List.filter_eq_self.mpr fun d' hd' => ?_
          simpa using Broker.durable?_eq_none.mp hold d' hd'
        rw [hall]
        exact h.attached
      · rcases hstore with hstore | ⟨old, hd, -⟩
        · exact hstore
        · rw [hold] at hd
          cases hd
  | some old =>
      refine ⟨_, Broker.attached_activate_of_some d noLocal b hold,
        h.attached_filter hold (hfree old hold), List.filter_sublist, ?_⟩
      intro hmem
      rcases hstore with hstore | ⟨old', hd, hsame⟩
      · refine hstore (List.mem_append.mpr ((List.mem_append.mp hmem).imp_right fun hmem => ?_))
        exact (List.filter_sublist.map _).subset hmem
      · obtain rfl : old = old' := Option.some.inj (hold.symm.trans hd)
        rw [hsame] at hmem
        rcases List.mem_append.mp hmem with hmem | hmem
        · -- the store of a durable subscription is not that of a queue
          have hapart := (List.nodup_append.mp h.fed).2.2
          exact hapart _ hmem _ (h.store_mem (Broker.durable?_mem hold).1) rfl
        · obtain ⟨s, hs, heq⟩ := List.mem_map.mp hmem
          have hne := (List.mem_filter.mp hs).2
          simp [heq] at hne

theorem attach (h : Directory xs b) {key : DurableKey} {noLocal : Bool}
    (hx : x.source = .durable key noLocal) (htopic : x.destination.kind = .topic)
    (hfree : ∀ d, b.durable? key = some d → d.active = false)
    (hstore : x.store ∉ b.fed ∨ ∃ d, b.durable? key = some d ∧ x.store = d.store) :
    Directory (xs ++ [(c, x)])
      (b.activate ⟨key, x.destination, x.selector, noLocal, x.store, true⟩
        (Provider.localTo noLocal c)) := by
  obtain ⟨others, hattached, hothers, hsublist, hfresh⟩ :=
    h.attached_activate (Provider.localTo noLocal c)
      ⟨key, x.destination, x.selector, noLocal, x.store, true⟩ hfree hstore
  refine ⟨?_, ?_, ?_, ?_, ?_, ?_, ?_⟩
  · rw [hattached, List.filterMap_append, List.append_assoc]
    refine (hothers.append_right _).trans ?_
    rw [List.append_assoc]
    refine List.Perm.append_left _ (List.perm_append_comm.trans ?_)
    simp [Consumer.subscription?_durable hx, Broker.dormant]
  · rw [List.filterMap_append, Broker.durables_activate]
    have hactive : (b.durables.filter (·.key != key)).filter (·.active) =
        b.durables.filter (·.active) := by
      rw [List.filter_filter]
      refine List.filter_congr fun d hd => ?_
      by_cases hkey : d.key = key
      · have hd := Broker.durable?_of_mem h.keys hd
        rw [hkey] at hd
        simp [hfree d hd]
      · simp [hkey]
    rw [List.filter_cons_of_pos rfl, hactive]
    refine List.perm_append_comm.trans ?_
    simpa [Consumer.durable?_durable hx] using h.active
  · rw [Broker.fed, Broker.queues_activate, hattached, List.map_append, ← List.append_assoc]
    refine nodup_concat (h.fed.sublist ?_) hfresh
    exact (List.Sublist.refl _).append (hsublist.map _)
  · rw [Broker.durables_activate, List.map_cons]
    refine List.nodup_cons.mpr ⟨?_, h.keys.sublist (List.filter_sublist.map _)⟩
    simp
  · intro d hd
    rw [Broker.durables_activate] at hd
    rcases List.mem_cons.mp hd with rfl | hd
    · exact htopic
    · exact h.topics d (List.mem_filter.mp hd).1
  · rw [Broker.queues_activate]
    intro p hp hsource
    rcases List.mem_append.mp hp with hp | hp
    · exact h.queues p hp hsource
    · rw [List.mem_singleton.mp hp, hx] at hsource
      cases hsource
  · rw [Broker.temporaries_activate]
    intro p hp htemporary
    rcases List.mem_append.mp hp with hp | hp
    · exact h.tenants p hp htemporary
    · rw [List.mem_singleton.mp hp, Destination.isTemporary, htopic] at htemporary
      cases htemporary

/-! ## Closing -/

private theorem filterMap_split {α : Type} {f : ConnectionId × Consumer → Option α}
    {p : ConnectionId × Consumer} {y : α} (hf : f p = some y)
    (before after : List (ConnectionId × Consumer)) :
    ((before ++ p :: after).filterMap f).Perm (y :: (before ++ after).filterMap f) := by
  rw [List.filterMap_append, List.filterMap_cons_some hf, List.filterMap_append]
  exact List.perm_middle

private theorem mem_of_remaining {p : ConnectionId × Consumer} (hp : p ∈ before ++ after) :
    p ∈ before ++ (c, x) :: after :=
  List.mem_append.mpr ((List.mem_append.mp hp).imp_right (List.mem_cons_of_mem _))

section Closing

variable (h : Directory (before ++ (c, x) :: after) b)
include h

theorem attached_filter_subscription {s : Subscription} (hs : x.subscription? c = some s) :
    (b.attached.filter (·.store != s.store)).Perm
      ((before ++ after).filterMap (fun p => p.2.subscription? p.1) ++ b.dormant) := by
  have hmem := h.subscription_mem (by simp) hs
  have hsplit := perm_cons_filter_ne (f := (·.store)) h.nodup_attached hmem
  have hsubscriptions := filterMap_split (f := fun p => p.2.subscription? p.1) (p := (c, x)) hs
    before after
  exact List.Perm.cons_inv (hsplit.symm.trans (h.attached.trans (hsubscriptions.append_right _)))

theorem closeQueue (hx : x.source = .queue) : Directory (before ++ after) b := by
  refine ⟨?_, ?_, h.fed, h.keys, h.topics, fun p hp => h.queues p (mem_of_remaining hp),
    fun p hp => h.tenants p (mem_of_remaining hp)⟩
  · simpa [Consumer.subscription?_queue hx] using h.attached
  · simpa [Consumer.durable?_queue hx] using h.active

theorem closeTopic {noLocal : Bool} (hx : x.source = .topic noLocal) :
    Directory (before ++ after) (b.detach x.store) := by
  refine ⟨h.attached_filter_subscription (Consumer.subscription?_topic hx c), ?_, ?_, h.keys,
    h.topics, fun p hp => h.queues p (mem_of_remaining hp),
    fun p hp => h.tenants p (mem_of_remaining hp)⟩
  · simpa [Consumer.durable?_topic hx, Broker.detach] using h.active
  · exact h.fed.sublist ((List.Sublist.refl _).append (List.filter_sublist.map _))

theorem durable?_of_consumer {d : Durable} (hd : x.durable? = some d) :
    b.durable? d.key = some d ∧ d.active = true := by
  have hmem := h.active.mem_iff.mp (List.mem_filterMap.mpr ⟨(c, x), by simp, hd⟩)
  obtain ⟨hmem, hactive⟩ := List.mem_filter.mp hmem
  exact ⟨Broker.durable?_of_mem h.keys hmem, hactive⟩

theorem attached_deactivate {key : DurableKey} {noLocal : Bool}
    (hx : x.source = .durable key noLocal) :
    (b.deactivate key).attached.Perm
      ((before ++ after).filterMap (fun p => p.2.subscription? p.1) ++
        ⟨x.destination, x.store, x.selector, none⟩ :: b.dormant) := by
  rw [Broker.attached_deactivate key b (h.durable?_of_consumer (Consumer.durable?_durable hx)).1]
  cases noLocal with
  | true =>
      have hothers := h.attached_filter_subscription (Consumer.subscription?_durable hx c)
      refine (hothers.append_right _).trans ?_
      rw [List.append_assoc]
      exact List.perm_append_comm.append_left _
  | false =>
      have hsubscriptions := filterMap_split (f := fun p => p.2.subscription? p.1) (p := (c, x))
        (Consumer.subscription?_durable hx c) before after
      exact h.attached.trans ((hsubscriptions.append_right _).trans List.perm_middle.symm)

theorem stores_deactivate {key : DurableKey} {noLocal : Bool}
    (hx : x.source = .durable key noLocal) :
    ((b.deactivate key).attached.map (·.store)).Perm (b.attached.map (·.store)) := by
  have hsubscriptions := filterMap_split (f := fun p => p.2.subscription? p.1) (p := (c, x))
    (Consumer.subscription?_durable hx c) before after
  have hbefore := (h.attached.trans (hsubscriptions.append_right _)).map (·.store)
  have hafter := ((h.attached_deactivate hx).trans List.perm_middle).map (·.store)
  exact hafter.trans hbefore.symm

theorem closeDurable {key : DurableKey} {noLocal : Bool}
    (hx : x.source = .durable key noLocal) :
    Directory (before ++ after) (b.deactivate key) := by
  have hd := (h.durable?_of_consumer (Consumer.durable?_durable hx)).1
  have hsplit := h.durables_perm hd
  have hmem := (Broker.durable?_mem hd).1
  refine ⟨?_, ?_, ?_, ?_, ?_, ?_, ?_⟩
  · refine (h.attached_deactivate hx).trans (List.Perm.append_left _ ?_)
    rw [Broker.dormant, Broker.dormant, Broker.durables_deactivate key b hd]
    exact ((hsplit.filter (!·.active)).map Durable.dormant).cons _
  · rw [Broker.durables_deactivate key b hd]
    have hothers := filterMap_split (f := (·.2.durable?)) (p := (c, x))
      (Consumer.durable?_durable hx) before after
    exact List.Perm.cons_inv (hothers.symm.trans (h.active.trans (hsplit.filter (·.active))))
  · rw [Broker.fed, Broker.queues_deactivate]
    exact ((h.stores_deactivate hx).append_left _).nodup_iff.mpr h.fed
  · rw [Broker.durables_deactivate key b hd]
    exact (hsplit.map (·.key)).nodup_iff.mp h.keys
  · rw [Broker.durables_deactivate key b hd]
    intro d hd
    rcases List.mem_cons.mp hd with rfl | hd
    · exact h.topics ⟨key, x.destination, x.selector, noLocal, x.store, true⟩ hmem
    · exact h.topics d (List.mem_filter.mp hd).1
  · rw [Broker.queues_deactivate]
    exact fun p hp => h.queues p (mem_of_remaining hp)
  · rw [Broker.temporaries_deactivate]
    exact fun p hp => h.tenants p (mem_of_remaining hp)

theorem close : Directory (before ++ after) (x.release b) := by
  unfold Consumer.release
  cases hx : x.source with
  | queue => exact h.closeQueue hx
  | topic noLocal => exact h.closeTopic hx
  | durable key noLocal => exact h.closeDurable hx

end Closing

theorem unsubscribe (h : Directory xs b) {key : DurableKey} {d : Durable}
    (hd : b.durable? key = some d) (hinactive : d.active = false) :
    Directory xs ((b.removeDurable key).detach d.store) := by
  refine ⟨h.attached_filter hd hinactive, ?_, ?_, ?_, ?_, h.queues, h.tenants⟩
  · have hsplit := (h.durables_perm hd).filter (·.active)
    rw [List.filter_cons_of_neg (by simp [hinactive])] at hsplit
    exact h.active.trans hsplit
  · exact h.fed.sublist ((List.Sublist.refl _).append (List.filter_sublist.map _))
  · exact h.keys.sublist (List.filter_sublist.map _)
  · exact fun d hd => h.topics d (List.mem_filter.mp hd).1

end Directory

end Messaging
