import Messaging.Proofs.Run.Arrival

/-!
# Fan-out

A broker feeds one subscription for each open consumer of a topic and one for each durable
subscription, with or without a consumer.  So a message that is published to a topic goes once to
each of them that accepts it, and nowhere else.
-/

namespace Messaging

def Consumer.key? (x : Consumer) : Option DurableKey :=
  match x.source with
  | .queue | .topic _ => none
  | .durable key _ => some key

theorem Consumer.key?_eq (x : Consumer) : x.key? = x.durable?.map (·.key) := by
  unfold Consumer.key? Consumer.durable?
  cases x.source <;> rfl

def Consumer.ownSubscription? (c : ConnectionId) (x : Consumer) : Option Subscription :=
  match x.source with
  | .topic noLocal =>
      some ⟨x.destination, x.store, x.selector, Provider.localTo noLocal c⟩
  | .queue | .durable _ _ => none

/--
What a durable subscription feeds its store by.  It leaves out the messages of the connection of
its consumer, if the consumer wants that, and none while it has no consumer.
-/
def Durable.current (xs : List (ConnectionId × Consumer)) (d : Durable) : Subscription :=
  ⟨d.topic, d.store, d.selector,
    (xs.find? (·.2.key? == some d.key)).bind fun p => Provider.localTo d.noLocal p.1⟩

structure Fanout (xs : List (ConnectionId × Consumer)) (b : Broker) : Prop where
  topics : ∀ p ∈ xs, ∀ s, p.2.ownSubscription? p.1 = some s → b.attached.count s = 1
  durables : ∀ d ∈ b.durables, b.attached.count (d.current xs) = 1
  others : ∀ s ∈ b.attached,
    (∃ p ∈ xs, p.2.ownSubscription? p.1 = some s) ∨ ∃ d ∈ b.durables, s = d.current xs
  /-- A durable subscription is active if and only if it has a consumer, and never has two. -/
  users : ∀ d ∈ b.durables,
    xs.countP (·.2.key? == some d.key) = if d.active then 1 else 0
  consumers : ∀ p ∈ xs, ∀ d, p.2.durable? = some d → d ∈ b.durables
  keys : (b.durables.map (·.key)).Nodup
  stores : b.fed.Nodup

namespace Directory

variable {xs : List (ConnectionId × Consumer)} {b : Broker}

theorem mem_durables (h : Directory xs b) {p : ConnectionId × Consumer} (hp : p ∈ xs) {d : Durable}
    (hd : p.2.durable? = some d) : d ∈ b.durables ∧ d.active = true :=
  List.mem_filter.mp (h.active.mem_iff.mp (List.mem_filterMap.mpr ⟨p, hp, hd⟩))

theorem filterMap_key? (xs : List (ConnectionId × Consumer)) :
    xs.filterMap (·.2.key?) = (xs.filterMap (·.2.durable?)).map (·.key) := by
  rw [List.map_filterMap]
  exact List.filterMap_congr fun p _ => p.2.key?_eq

theorem users (h : Directory xs b) {d : Durable} (hd : d ∈ b.durables) :
    xs.countP (·.2.key? == some d.key) = if d.active then 1 else 0 := by
  have hnodup : ((b.durables.filter (·.active)).map (·.key)).Nodup :=
    h.keys.sublist (List.filter_sublist.map _)
  have hmem : d.key ∈ (b.durables.filter (·.active)).map (·.key) ↔ d.active = true := by
    constructor
    · intro hkey
      obtain ⟨d', hd', heq⟩ := List.mem_map.mp hkey
      obtain ⟨hd', hactive⟩ := List.mem_filter.mp hd'
      rw [← List.inj_on_of_nodup_map h.keys hd' hd heq]
      exact hactive
    · intro hactive
      exact List.mem_map_of_mem (List.mem_filter.mpr ⟨hd, hactive⟩)
  rw [← List.count_filterMap, filterMap_key?, (h.active.map _).count_eq, hnodup.count]
  simp only [hmem]

theorem current_mem (h : Directory xs b) {d : Durable} (hd : d ∈ b.durables) :
    d.current xs ∈ b.attached := by
  have husers := h.users hd
  cases hactive : d.active with
  | false =>
      rw [hactive] at husers
      have hnone : xs.find? (·.2.key? == some d.key) = none :=
        List.find?_eq_none.mpr (List.countP_eq_zero.mp husers)
      have hcurrent : d.current xs = d.dormant := by
        rw [Durable.current, hnone]
        rfl
      rw [hcurrent]
      exact h.attached.mem_iff.mpr (List.mem_append_right _ (dormant_mem hd hactive))
  | true =>
      rw [hactive] at husers
      obtain ⟨p, hfind⟩ : ∃ p, xs.find? (·.2.key? == some d.key) = some p := by
        have hpos : 0 < xs.countP (·.2.key? == some d.key) := by
          rw [husers]
          exact Nat.one_pos
        exact Option.isSome_iff_exists.mp (List.find?_isSome.mpr (List.countP_pos_iff.mp hpos))
      have hp := List.mem_of_find?_eq_some hfind
      have hkey : p.2.key? = some d.key := by simpa using List.find?_some hfind
      obtain ⟨d', hdurable, hsame⟩ : ∃ d', p.2.durable? = some d' ∧ d'.key = d.key := by
        rw [Consumer.key?_eq] at hkey
        exact Option.map_eq_some_iff.mp hkey
      obtain rfl : d' = d := List.inj_on_of_nodup_map h.keys (h.mem_durables hp hdurable).1 hd hsame
      have hsubscription : p.2.subscription? p.1 = some (d'.current xs) := by
        rw [Durable.current, hfind]
        unfold Consumer.durable? at hdurable
        unfold Consumer.subscription?
        grind
      exact h.subscription_mem (c := p.1) (x := p.2) hp hsubscription

theorem eq_of_store (h : Directory xs b) {s t : Subscription} (hs : s ∈ b.attached)
    (ht : t ∈ b.attached) (hst : s.store = t.store) : s = t :=
  List.inj_on_of_nodup_map h.nodup_attached hs ht hst

theorem count_attached (h : Directory xs b) {s : Subscription} (hs : s ∈ b.attached) :
    b.attached.count s = 1 :=
  List.count_eq_one_of_mem h.nodup_attached.of_map hs

theorem ownSubscription_mem (h : Directory xs b) {p : ConnectionId × Consumer} (hp : p ∈ xs)
    {s : Subscription} (hs : p.2.ownSubscription? p.1 = some s) : s ∈ b.attached := by
  refine h.subscription_mem (c := p.1) (x := p.2) hp ?_
  unfold Consumer.ownSubscription? at hs
  unfold Consumer.subscription?
  grind

theorem fanout (h : Directory xs b) : Fanout xs b := by
  refine ⟨?_, ?_, ?_, fun d hd => h.users hd, fun p hp d hd => (h.mem_durables hp hd).1, h.keys,
    h.fed⟩
  · exact fun p hp s hs => h.count_attached (h.ownSubscription_mem hp hs)
  · exact fun d hd => h.count_attached (h.current_mem hd)
  · intro s hs
    rcases List.mem_append.mp (h.attached.mem_iff.mp hs) with hmem | hmem
    · obtain ⟨p, hp, hsubscription⟩ := List.mem_filterMap.mp hmem
      cases hsource : p.2.source with
      | queue => simp [Consumer.subscription?_queue hsource] at hsubscription
      | topic noLocal =>
          refine .inl ⟨p, hp, ?_⟩
          rw [← hsubscription, Consumer.subscription?_topic hsource, Consumer.ownSubscription?,
            hsource]
      | durable key noLocal =>
          have hd := (h.mem_durables hp (Consumer.durable?_durable hsource)).1
          refine .inr ⟨_, hd, h.eq_of_store hs (h.current_mem hd) ?_⟩
          rw [Consumer.subscription?_durable hsource] at hsubscription
          exact (Option.some.inj hsubscription) ▸ rfl
    · obtain ⟨d, hd, rfl⟩ := List.mem_map.mp hmem
      have hd := (List.mem_filter.mp hd).1
      exact .inr ⟨d, hd, h.eq_of_store hs (h.current_mem hd) rfl⟩

end Directory

namespace Provider

/--
After every run, each broker feeds the subscriptions of its open consumers and of its durable
subscriptions, and each of them once.  An operation that publishes adds to every store, in order,
one copy of each publication that is routed there.  A publication for a topic is routed to the
stores of the subscriptions that accept it.
-/
theorem fan_out [Labels] (ops : List Operation) :
    (∀ b, Fanout ((run ops {}).openAt b) ((run ops {}).brokerAt b)) ∧
    ∀ op : Operation, op.publishes = true →
      (∀ s, ((run ops {}).step op).storeAt s =
        ((run ops {}).storeAt s).pushAll ((run ops {}).arrivals s op)) ∧
      ∀ p ∈ (run ops {}).published op, p.destination.isQueue = false → ∀ s,
        ((((run ops {}).step op).brokerAt p.broker).routesTo s p = true ↔
          (run ops {}).Hears s p) := by
  have hw := settled_run ops
  refine ⟨fun b => (hw.filed.directory b).fanout, fun op hop => ⟨fun s => ?_, ?_⟩⟩
  · exact storeAt_step hw (not_shelves_of_publishes hop)
  · exact fun p _ htopic s => routesTo_iff_hears hw hop htopic s

def listeners : List Operation :=
  [.connect ⟨{ text := "vm://local", broker := "local" }, "", ""⟩ "" "" (some "client"),
    .createSession 0 .auto, .createDurableConsumer 0 ⟨.topic, "news"⟩ "name" none true,
    .closeConsumer 0, .createConsumer 0 ⟨.topic, "news"⟩ none false,
    .createConsumer 0 ⟨.topic, "news"⟩ none true, .createProducer 0 (some ⟨.topic, "news"⟩)]

def broadcast : Operation := .send 0 none none (.ofText "text")

theorem fan_out_listeners :
    ([0, 1, 2].map fun s => ((run listeners {}).arrivals s broadcast).length) = [1, 1, 0] ∧
    (∀ s, ((run listeners {}).step broadcast).storeAt s =
      ((run listeners {}).storeAt s).pushAll ((run listeners {}).arrivals s broadcast)) ∧
    ∃ p, (run listeners {}).published broadcast = [p] ∧ (run listeners {}).Hears 1 p := by
  obtain ⟨hstores, htopics⟩ := (fan_out listeners).2 broadcast rfl
  refine ⟨by decide, hstores, _, rfl, ?_⟩
  exact (htopics _ List.mem_cons_self rfl 1).mp (by decide)

end Provider

end Messaging
