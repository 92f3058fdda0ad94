import Messaging.Proofs.Fanout
import Messaging.Proofs.Run.Lineage
import Messaging.Proofs.Run.Taking

/-!
# The backlog of a durable subscription

A durable subscription collects what is published to its topic, also while it has no consumer.
What its consumers get, one after the other, and what is still waiting in the end, is what it
collected, in order.
-/

namespace Messaging

def leavesOut (key : DurableKey) (c : ConnectionId) (xs : List (ConnectionId × Consumer)) : Bool :=
  xs.any fun p => p.2.source == .durable key true && p.1 == c

namespace Directory

variable {xs : List (ConnectionId × Consumer)} {b : Broker} {d : Durable}
  {p : ConnectionId × Consumer}

theorem subscription_store {c : ConnectionId} {x : Consumer} {s : Subscription}
    (h : x.subscription? c = some s) : s.store = x.store := by
  unfold Consumer.subscription? at h
  split at h
  next => cases h
  next => exact (Option.some.inj h) ▸ rfl
  next => exact (Option.some.inj h) ▸ rfl

theorem subscription_of_durable (c : ConnectionId) {x : Consumer} (h : x.durable? = some d) :
    ∃ s, x.subscription? c = some s ∧ s.store = d.store := by
  unfold Consumer.durable? at h
  split at h
  next => cases h
  next => cases h
  next hsource =>
    obtain rfl := Option.some.inj h
    exact ⟨_, Consumer.subscription?_durable hsource c, rfl⟩

theorem nodup_subscriptions (h : Directory xs b) :
    (xs.filterMap (fun p => p.2.subscription? p.1) ++ b.dormant).Nodup :=
  h.attached.nodup_iff.mp h.nodup_attached.of_map

theorem key_of_store (h : Directory xs b) (hd : d ∈ b.durables) (hp : p ∈ xs)
    (hstore : p.2.store = d.store) : p.2.key? = some d.key := by
  cases hs : p.2.subscription? p.1 with
  | none =>
      have hsource : p.2.source = .queue := by
        cases hsource : p.2.source with
        | queue => rfl
        | topic noLocal => simp [Consumer.subscription?_topic hsource] at hs
        | durable key noLocal => simp [Consumer.subscription?_durable hsource] at hs
      have hqueue := List.mem_map_of_mem (f := (·.2)) (h.queues p hp hsource)
      exact absurd hstore ((List.nodup_append.mp h.fed).2.2 _ hqueue _ (h.store_mem hd))
  | some s =>
      have hmem := h.subscription_mem (c := p.1) (x := p.2) hp hs
      have hnodup := List.nodup_append.mp h.nodup_subscriptions
      have hmem' : s ∈ xs.filterMap fun p => p.2.subscription? p.1 :=
        List.mem_filterMap.mpr ⟨p, hp, hs⟩
      have hsame := (subscription_store hs).trans hstore
      cases hactive : d.active with
      | false =>
          have hdormant := dormant_mem hd hactive
          have hattached := h.attached.mem_iff.mpr (List.mem_append_right _ hdormant)
          exact absurd (h.eq_of_store hmem hattached hsame) (hnodup.2.2 s hmem' _ hdormant)
      | true =>
          have hmem' := h.active.mem_iff.mpr (List.mem_filter.mpr ⟨hd, hactive⟩)
          obtain ⟨q, hq, hdurable⟩ := List.mem_filterMap.mp hmem'
          obtain ⟨t, ht, htstore⟩ := subscription_of_durable q.1 hdurable
          have hsame := h.eq_of_store hmem (h.subscription_mem (c := q.1) (x := q.2) hq ht)
            (hsame.trans htstore.symm)
          obtain rfl : p = q := eq_of_nodup_filterMap hnodup.1 hp hq hs (hsame ▸ ht)
          rw [Consumer.key?_eq, hdurable]
          rfl

theorem consumer_of_key (h : Directory xs b) (hd : d ∈ b.durables) (hp : p ∈ xs)
    (hkey : p.2.key? = some d.key) :
    p.2.source = .durable d.key d.noLocal ∧ p.2.store = d.store := by
  rw [Consumer.key?_eq] at hkey
  obtain ⟨d', hdurable, hsame⟩ := Option.map_eq_some_iff.mp hkey
  obtain rfl := List.inj_on_of_nodup_map h.keys (h.mem_durables hp hdurable).1 hd hsame
  unfold Consumer.durable? at hdurable
  split at hdurable
  next => cases hdurable
  next => cases hdurable
  next hsource =>
    obtain rfl := Option.some.inj hdurable
    exact ⟨hsource, rfl⟩

theorem nodup_keys (h : Directory xs b) : (xs.filterMap (·.2.key?)).Nodup := by
  rw [filterMap_key?, (h.active.map _).nodup_iff]
  exact h.keys.sublist (List.filter_sublist.map _)

theorem current_noLocal (h : Directory xs b) (hd : d ∈ b.durables) (c : ConnectionId) :
    (d.current xs).noLocal = some c ↔ leavesOut d.key c xs = true := by
  unfold Durable.current leavesOut
  rw [List.any_eq_true]
  constructor
  · intro hlocal
    obtain ⟨p, hfind, hlocal⟩ := Option.bind_eq_some_iff.mp hlocal
    have hp := List.mem_of_find?_eq_some hfind
    have hsource := (h.consumer_of_key hd hp (by simpa using List.find?_some hfind)).1
    unfold Provider.localTo at hlocal
    split at hlocal
    next hnoLocal =>
      rw [hnoLocal] at hsource
      exact ⟨p, hp, by simp [hsource, Option.some.inj hlocal]⟩
    next => cases hlocal
  · rintro ⟨p, hp, hlocal⟩
    obtain ⟨hsource, rfl⟩ : p.2.source = .durable d.key true ∧ p.1 = c := by simpa using hlocal
    have hkey : p.2.key? = some d.key := by rw [Consumer.key?, hsource]
    have hnoLocal : d.noLocal = true := by
      have hsource' := (h.consumer_of_key hd hp hkey).1
      rw [hsource] at hsource'
      exact (Source.durable.inj hsource').2.symm
    obtain ⟨q, hfind⟩ : ∃ q, xs.find? (·.2.key? == some d.key) = some q :=
      Option.isSome_iff_exists.mp (List.find?_isSome.mpr ⟨p, hp, by simpa using hkey⟩)
    have hq : q.2.key? = some d.key := by simpa using List.find?_some hfind
    obtain rfl : q = p :=
      eq_of_nodup_filterMap h.nodup_keys (List.mem_of_find?_eq_some hfind) hp hq hkey
    rw [hfind, hnoLocal]
    rfl

end Directory

namespace Step

def yields? (b : BrokerId) (key : DurableKey) (x : Step) : Option Message :=
  match x.operation.consumer?.bind (x.before.consumers[·]?) with
  | some y =>
      if y.key? = some key ∧ (x.before.home y.session).map (·.1) = some b then
        x.before.received x.operation
      else none
  | none => none

def collects (a : Attachment) (x : Step) : List Message :=
  ((x.before.published x.operation).filter fun p =>
    p.broker == a.broker && p.destination == a.topic && Selector.admits a.selector p.message &&
      !leavesOut a.key p.origin (x.before.openAt a.broker)).map (·.message)

structure Continues (a : Attachment) (x : Step) : Prop where
  /-- Nobody asks for another topic, or for a selector of another text. -/
  same : ∀ a' ∈ x.attaches?, a'.broker = a.broker → a'.key = a.key →
    a'.topic = a.topic ∧ a'.selector.map (·.source) = a.selector.map (·.source)
  kept : x.removes? ≠ some (a.broker, a.key)
  immediate : ∀ p ∈ x.before.openAt a.broker, p.2.key? = some a.key →
    ∀ session ∈ x.before.sessions[p.2.session]?, session.mode = .auto ∨ session.mode = .dupsOk
  lasting : ∀ d ∈ (x.before.brokerAt a.broker).durable? a.key,
    ∀ e ∈ (x.before.storeAt d.store).pending, e.message.isExpired x.before.now = false

theorem continues_iff {a : Attachment} {x : Step} : x.Continues a ↔
    (∀ a' ∈ x.attaches?, a'.broker = a.broker → a'.key = a.key →
      a'.topic = a.topic ∧ a'.selector.map (·.source) = a.selector.map (·.source)) ∧
    x.removes? ≠ some (a.broker, a.key) ∧
    (∀ p ∈ x.before.openAt a.broker, p.2.key? = some a.key →
      ∀ session ∈ x.before.sessions[p.2.session]?,
        session.mode = .auto ∨ session.mode = .dupsOk) ∧
    ∀ d ∈ (x.before.brokerAt a.broker).durable? a.key,
      ∀ e ∈ (x.before.storeAt d.store).pending, e.message.isExpired x.before.now = false :=
  ⟨fun h => ⟨h.same, h.kept, h.immediate, h.lasting⟩, fun ⟨h₁, h₂, h₃, h₄⟩ => ⟨h₁, h₂, h₃, h₄⟩⟩

instance (a : Attachment) (x : Step) : Decidable (x.Continues a) :=
  decidable_of_iff' _ continues_iff

end Step

namespace Provider

/-! ## Consumers -/

section Consumers

variable {w : Provider} {a : Attachment} {store : StoreId}

theorem durable?_of_line? {b : Broker} {key : DurableKey} {l : Line}
    (h : b.line? key = some l) :
    ∃ d, b.durable? key = some d ∧ d ∈ b.durables ∧ d.key = key ∧ d.topic = l.topic ∧
      d.selector = l.selector ∧ d.store = l.store := by
  obtain ⟨d, hd, rfl⟩ := Option.map_eq_some_iff.mp h
  exact ⟨d, hd, (Broker.durable?_mem hd).1, (Broker.durable?_mem hd).2, rfl, rfl, rfl⟩

variable [Labels] (hw : w.Settled)
  (hline : (w.brokerAt a.broker).line? a.key = some ⟨a.topic, a.selector, store⟩)
include hw hline

theorem fed_of_line? : store ∈ (w.brokerAt a.broker).attached.map (·.store) := by
  obtain ⟨d, -, hd, -, -, -, rfl⟩ := durable?_of_line? hline
  exact (hw.filed.directory a.broker).store_mem hd

theorem store_eq_iff {x : Consumer} (hx : x ∈ w.consumers) (hopen : x.closed = false) :
    x.store = store ↔
      x.key? = some a.key ∧ (w.home x.session).map (·.1) = some a.broker := by
  obtain ⟨d, -, hd, hkey, -, -, rfl⟩ := durable?_of_line? hline
  have hfed := hw.filed.directory a.broker
  obtain ⟨b, c, hhome⟩ := exists_home hw.coherent.cascading hx hopen
  have hp : (c, x) ∈ w.openAt b := mem_openAt.mpr ⟨hx, hopen, hhome⟩
  rw [hhome]
  constructor
  · intro hstore
    have hmem := (hw.filed.directory b).consumed_mem hp
    rw [hstore] at hmem
    obtain rfl := hw.filed.apart hmem (List.mem_append_right _ (hfed.store_mem hd))
    exact ⟨hkey ▸ hfed.key_of_store hd hp hstore, rfl⟩
  · rintro ⟨hxkey, hb⟩
    obtain rfl : b = a.broker := by simpa using hb
    exact (hfed.consumer_of_key hd hp (hxkey.trans (congrArg some hkey.symm))).2

theorem arrivals_eq_collects {op : Operation} (hop : op.publishes = true) :
    (w.arrivals store op).map (·.1) = Step.collects a ⟨op, w⟩ := by
  obtain ⟨d, -, hd, hkey, htopic, hselector, hstore⟩ := durable?_of_line? hline
  dsimp only at htopic hselector hstore
  have hdirectory := hw.filed.directory a.broker
  have hkind : a.topic.kind = .topic := htopic ▸ hdirectory.topics d hd
  have hcurrent := hdirectory.current_mem hd
  unfold arrivals Step.collects
  rw [List.map_map]
  refine congrArg (List.map _) (List.filter_congr fun p _ => Bool.eq_iff_iff.mpr ?_)
  cases hqueue : p.destination.isQueue with
  | true =>
      refine iff_of_false (fun hroutes => ?_) (fun h => ?_)
      · have hsome : ((w.step op).brokerAt p.broker).queue? p.destination = some store := by
          unfold Broker.routesTo at hroutes
          simpa [hqueue] using (Bool.and_eq_true_iff.mp hroutes).2
        refine (hw.step op).filed.not_attached_of_queue? hsome a.broker ?_
        rw [(extends_step hw.coherent.grounded hop a.broker).attached]
        exact fed_of_line? hw hline
      · have hdestination : p.destination = a.topic := by simp at h; exact h.1.1.2
        rw [hdestination, Destination.isQueue, hkind] at hqueue
        cases hqueue
  | false =>
      rw [routesTo_iff_hears hw hop hqueue]
      have hnoLocal := hdirectory.current_noLocal hd p.origin
      rw [hkey] at hnoLocal
      constructor
      · rintro ⟨-, x, hx, hxstore, hxtopic, hadmits, hlocal⟩
        have hmem : store ∈ (w.brokerAt p.broker).fed :=
          List.mem_append_right _ (hxstore ▸ List.mem_map_of_mem hx)
        have hb := hw.filed.apart hmem (List.mem_append_right _ (fed_of_line? hw hline))
        rw [hb] at hx
        obtain rfl : x = d.current _ :=
          hdirectory.eq_of_store hx hcurrent (hxstore.trans hstore.symm)
        have hlocal' : leavesOut a.key p.origin (w.openAt a.broker) = false := by
          by_contra hleaves
          exact hlocal (hnoLocal.mpr (by simpa using hleaves))
        have hadmits : Selector.admits a.selector p.message = true := hselector ▸ hadmits
        simp [hb, ← hxtopic, Durable.current, htopic, hadmits, hlocal']
      · intro h
        obtain ⟨⟨⟨hb, hdestination⟩, hadmits⟩, hlocal⟩ : ((p.broker = a.broker ∧
            p.destination = a.topic) ∧ Selector.admits a.selector p.message = true) ∧
            leavesOut a.key p.origin (w.openAt a.broker) = false := by simpa using h
        rw [Hears, hb]
        refine ⟨?_, d.current _, hcurrent, hstore, htopic.trans hdestination.symm, ?_,
          fun hsome => ?_⟩
        · simp [Broker.isLive, Destination.isTemporary, DestinationKind.isTemporary, hdestination,
            hkind]
        · rw [← hselector] at hadmits
          exact hadmits
        · rw [hnoLocal.mp hsome] at hlocal
          cases hlocal

end Consumers

/-! ## Steps -/

structure Standing (a : Attachment) (store : StoreId) (w : Provider) : Prop where
  line : (w.brokerAt a.broker).line? a.key = some ⟨a.topic, a.selector, store⟩
  held : w.outstanding store = []

section Steps

variable {w : Provider} {op : Operation} {a : Attachment} {store : StoreId}

theorem lasting (ha : w.Standing a store) (hcontinues : Step.Continues a ⟨op, w⟩) :
    ∀ e ∈ (w.storeAt store).pending, e.message.isExpired w.now = false := by
  obtain ⟨d, hd, -, -, -, -, rfl⟩ := durable?_of_line? ha.line
  exact hcontinues.lasting d hd

variable [Labels] (hw : w.Settled) (ha : w.Standing a store)
include hw ha

theorem yields?_eq_none (htakes : ¬ w.TakesFrom store op) :
    Step.yields? a.broker a.key ⟨op, w⟩ = none := by
  unfold Step.yields?
  cases hop : op.consumer? with
  | none => rfl
  | some c =>
      cases hx : w.consumers[c]? with
      | none => simp [hx]
      | some x =>
          simp only [Option.bind_some, hx]
          split
          next hkey =>
            rw [received_eq hw.coherent hop]
            simp only [pull, hx]
            split
            next hready =>
              obtain ⟨hopen, hstarted⟩ : x.closed = false ∧ w.isStarted x.session = true := by
                simpa using hready
              have hmem := List.mem_of_getElem? hx
              have hstore := (store_eq_iff hw ha.line hmem hopen).mpr hkey
              exact absurd ⟨c, x, hop, hx, hopen, hstarted, hstore⟩ htakes
            next => rfl
          next => rfl

variable (hcontinues : Step.Continues a ⟨op, w⟩)
include hcontinues

theorem backlog_taking (htakes : w.TakesFrom store op) :
    (Step.yields? a.broker a.key ⟨op, w⟩).toList ++
        ((w.step op).storeAt store).pending.map (·.message) =
      (w.storeAt store).pending.map (·.message) ∧
      (w.step op).outstanding store = [] := by
  obtain ⟨c, x, hop, hx, hopen, hstarted, rfl⟩ := htakes
  have hmem := List.mem_of_getElem? hx
  obtain ⟨hkey, hbroker⟩ := (store_eq_iff hw ha.line hmem hopen).mp rfl
  obtain ⟨session, connection, hsession, -⟩ :=
    hw.coherent.cascading.openSession hmem hopen hstarted
  obtain ⟨hs, hsopen, -⟩ := openSession_eq_ok.mp hsession
  have hmode : session.mode.isTracked = false := by
    obtain ⟨⟨b, i⟩, hhome, hb⟩ := Option.map_eq_some_iff.mp hbroker
    obtain rfl : b = a.broker := hb
    have hp : (i, x) ∈ w.openAt a.broker := mem_openAt.mpr ⟨hmem, hopen, hhome⟩
    rcases hcontinues.immediate _ hp hkey session hs with hmode | hmode <;> rw [hmode] <;> rfl
  have hfilter : x.filter = none := by
    unfold Consumer.key? at hkey
    unfold Consumer.filter
    cases hsource : x.source with
    | queue | topic noLocal => simp [hsource] at hkey
    | durable key noLocal => rfl
  have hyields : Step.yields? a.broker a.key ⟨op, w⟩ = w.received op := by
    simp [Step.yields?, hop, hx, hkey, hbroker]
  have hfirst := takeNext_first hs hsopen hmode hfilter (hw.coherent.grounded.consumed x hmem)
    (lasting ha hcontinues)
  rw [hyields, received_eq hw.coherent hop, step_eq hw.coherent hop,
    pull_of_ready hx hopen hstarted]
  refine ⟨hfirst.1, ?_⟩
  rw [outstanding, hfirst.2]
  exact ha.held

theorem backlog_adding (htakes : ¬ w.TakesFrom store op) :
    ((w.step op).storeAt store).pending.map (·.message) =
      (w.storeAt store).pending.map (·.message) ++ Step.collects a ⟨op, w⟩ ∧
      (w.step op).outstanding store = [] := by
  have hes := not_shelves ha.held (lasting ha hcontinues) htakes
  have hreplay := (moves_step hw.coherent op).replay hw.coherent hes
  refine ⟨?_, hreplay.2 ha.held⟩
  rw [storeAt_step hw hes, Store.pending_pushAll]
  congr 1
  cases hop : op.publishes with
  | true => exact arrivals_eq_collects hw ha.line hop
  | false =>
      rw [arrivals, Step.collects]
      dsimp only
      rw [published_of_not_publishes hop]
      rfl

theorem backlog_step (hparse : ∃ text, Selector.parseOptional text = .ok a.selector) :
    (Step.yields? a.broker a.key ⟨op, w⟩).toList ++
        ((w.step op).storeAt store).pending.map (·.message) =
      (w.storeAt store).pending.map (·.message) ++ Step.collects a ⟨op, w⟩ ∧
      (w.step op).Standing a store := by
  have hline := line?_step hw.coherent ha.line hparse hcontinues.same hcontinues.kept
  by_cases htakes : w.TakesFrom store op
  · obtain ⟨hbacklog, hheld⟩ := backlog_taking hw ha hcontinues htakes
    obtain ⟨c, -, hop, -⟩ := htakes
    have hcollects : Step.collects a ⟨op, w⟩ = [] := by
      rw [Step.collects]
      dsimp only
      rw [published_of_not_publishes (publishes_of_consumer? hop)]
      rfl
    rw [hcollects, List.append_nil]
    exact ⟨hbacklog, hline, hheld⟩
  · obtain ⟨hbacklog, hheld⟩ := backlog_adding hw ha hcontinues htakes
    rw [yields?_eq_none hw ha htakes]
    exact ⟨hbacklog, hline, hheld⟩

end Steps

/-! ## Runs -/

/-- What the consumers got so far, and then the backlog, is what came in. -/
theorem backlog_run [Labels] {w : Provider} {a : Attachment} {store : StoreId} (hw : w.Settled)
    (ha : w.Standing a store) (hparse : ∃ text, Selector.parseOptional text = .ok a.selector)
    (ops : List Operation) (hcontinues : ∀ x ∈ w.trace ops, x.Continues a) :
    (w.trace ops).filterMap (Step.yields? a.broker a.key) ++
        ((w.run ops).storeAt store).pending.map (·.message) =
      (w.storeAt store).pending.map (·.message) ++ (w.trace ops).flatMap (Step.collects a) ∧
      (w.run ops).Standing a store := by
  induction ops generalizing w with
  | nil => exact ⟨by simp [trace], ha⟩
  | cons op ops ih =>
      rw [trace, List.forall_mem_cons] at hcontinues
      obtain ⟨hfirst, hnext⟩ := backlog_step hw ha hcontinues.1 hparse
      obtain ⟨hrest, hlast⟩ := ih (hw.step op) hnext hcontinues.2
      refine ⟨?_, hlast⟩
      have hsplit : (w.trace (op :: ops)).filterMap (Step.yields? a.broker a.key) =
          (Step.yields? a.broker a.key ⟨op, w⟩).toList ++
            ((w.step op).trace ops).filterMap (Step.yields? a.broker a.key) := by
        rw [trace, List.filterMap_cons]
        cases Step.yields? a.broker a.key ⟨op, w⟩ <;> rfl
      rw [hsplit, run_cons, List.append_assoc, hrest, ← List.append_assoc, hfirst, trace,
        List.flatMap_cons, List.append_assoc]

theorem empty_of_attaches [Labels] {w : Provider} {op : Operation} {a : Attachment} (hw : w.Settled)
    (ha : Step.attaches? ⟨op, w⟩ = some a) :
    ((w.step op).storeAt w.stores.length).pending = [] ∧
      (w.step op).outstanding w.stores.length = [] := by
  have hempty : w.storeAt w.stores.length = {} := by simp [storeAt]
  have hheld : w.outstanding w.stores.length = [] := by
    refine List.flatMap_eq_nil_iff.mpr fun x hx => List.filter_eq_nil_iff.mpr fun d hd => ?_
    have hlt := hw.coherent.grounded.delivered x hx d hd
    simpa using Nat.ne_of_lt hlt
  have hop : op.consumer? = none ∧ op.publishes = false := by
    cases op with
    | createDurableConsumer s topic name text noLocal => exact ⟨rfl, rfl⟩
    | _ => cases ha
  have htakes : ¬ w.TakesFrom w.stores.length op := by
    rintro ⟨c, x, hc, -⟩
    rw [hop.1] at hc
    cases hc
  have hes := not_shelves hheld (by simp [hempty]) htakes
  have hreplay := (moves_step hw.coherent op).replay hw.coherent hes
  refine ⟨?_, hreplay.2 hheld⟩
  rw [storeAt_step hw hes, hempty, arrivals, published_of_not_publishes hop.2]
  rfl

/--
A consumer that asks for a durable subscription of its own, or for one with another topic or another
selector than before, finds an empty backlog.  However consumers of the subscription come and go
from then on, it keeps its store.  What they get, and then what is still there, is what was
published to the topic that the selector accepts, without what the connection of a consumer sent
that wants none of its own.
-/
theorem durable_backlog [Labels] {first later : List Operation} {op : Operation} {a : Attachment}
    (hattaches : Step.attaches? ⟨op, run first {}⟩ = some a)
    (hnew : ∀ d ∈ ((run first {}).brokerAt a.broker).durable? a.key,
      ¬ (d.topic = a.topic ∧ d.source = a.selector.map (·.source)))
    (hcontinues : ∀ x ∈ ((run first {}).step op).trace later, x.Continues a) :
    ∃ store,
      (((run first {}).step op).brokerAt a.broker).line? a.key =
        some ⟨a.topic, a.selector, store⟩ ∧
      (((run first {}).step op).storeAt store).pending = [] ∧
      ((run (first ++ op :: later) {}).brokerAt a.broker).line? a.key =
        some ⟨a.topic, a.selector, store⟩ ∧
      (((run first {}).step op).trace later).filterMap (Step.yields? a.broker a.key) ++
          ((run (first ++ op :: later) {}).storeAt store).pending.map (·.message) =
        (((run first {}).step op).trace later).flatMap (Step.collects a) := by
  have hw := settled_run first
  obtain ⟨hparse, store, hline, hstore⟩ := line?_of_attaches hw.coherent hattaches
  obtain rfl : store = (run first {}).stores.length := by
    rcases hstore with ⟨hstore, -⟩ | ⟨d, hd, htopic, hsource, -⟩
    · exact hstore
    · exact absurd ⟨htopic, hsource⟩ (hnew d hd)
  obtain ⟨hempty, hheld⟩ := empty_of_attaches hw hattaches
  have hbacklog := backlog_run (hw.step op) ⟨hline, hheld⟩ hparse later hcontinues
  rw [hempty, List.map_nil, List.nil_append] at hbacklog
  rw [run_append, run_cons]
  exact ⟨_, hline, hempty, hbacklog.2.line, hbacklog.1⟩

def returningClient : Attachment := ⟨0, ⟨"client", "name"⟩, ⟨.topic, "news"⟩, none⟩

def firstVisit : List Operation :=
  [.connect ⟨{ text := "vm://local", broker := "local" }, "", ""⟩ "" "" (some "client"),
    .createSession 0 .auto]

def subscribing (s : SessionId) (noLocal : Bool) : Operation :=
  .createDurableConsumer s returningClient.topic returningClient.key.name none noLocal

def publishing (text : String) : Operation := .send 0 none none (.ofText text)

def laterVisits : List Operation :=
  [.start 0, .createProducer 0 (some returningClient.topic), publishing "one", .closeConsumer 0,
    publishing "two", .createSession 0 .dupsOk, subscribing 1 true, publishing "three",
    .receiveNow 1, .closeSession 1, publishing "four"]

theorem durable_backlog_returningClient :
    ((((run firstVisit {}).step (subscribing 0 false)).trace laterVisits).flatMap
        (Step.collects returningClient)).map (·.getText.toOption) =
      [some "one", some "two", some "four"] ∧
    ∃ store,
      ((run (firstVisit ++ subscribing 0 false :: laterVisits) {}).brokerAt 0).line?
        returningClient.key = some ⟨returningClient.topic, none, store⟩ ∧
      (((run firstVisit {}).step (subscribing 0 false)).trace laterVisits).filterMap
          (Step.yields? 0 returningClient.key) ++
        ((run (firstVisit ++ subscribing 0 false :: laterVisits) {}).storeAt store).pending.map
          (·.message) =
        (((run firstVisit {}).step (subscribing 0 false)).trace laterVisits).flatMap
          (Step.collects returningClient) := by
  have hattaches : Step.attaches? ⟨subscribing 0 false, run firstVisit {}⟩ =
      some returningClient := by decide
  have hnew : ∀ d ∈ ((run firstVisit {}).brokerAt 0).durable? returningClient.key,
      ¬ (d.topic = returningClient.topic ∧
        d.source = returningClient.selector.map (·.source)) := by decide
  have hcontinues : ∀ x ∈ ((run firstVisit {}).step (subscribing 0 false)).trace laterVisits,
      x.Continues returningClient := by decide
  obtain ⟨store, -, -, hline, hbacklog⟩ := durable_backlog hattaches hnew hcontinues
  exact ⟨by decide, store, hline, hbacklog⟩

end Provider

end Messaging
