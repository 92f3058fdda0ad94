import Messaging.Proofs.Fanout
import Messaging.Proofs.Run.Lineage
import Messaging.Proofs.Run.Origin

/-!
# Admission

A consumer gets what it asks for and nothing else.  A queue filters its messages when a consumer
takes them, a topic when they are published.  So what is in the store of a subscription was judged
long before it is received, perhaps for another consumer of the subscription.
-/

namespace Messaging

/-- The stores that a broker feeds were given only what is asked for there. -/
structure Screened (posts : StoreId → List (Message × ConnectionId))
    (xs : List (ConnectionId × Consumer)) (b : Broker) : Prop where
  parsed : ∀ d ∈ b.durables, ∃ text, Selector.parseOptional text = .ok d.selector
  admitted : ∀ s ∈ b.attached, ∀ q ∈ posts s.store, Selector.admits s.selector q.1 = true
  foreign : ∀ p ∈ xs, p.2.source = .topic true → ∀ q ∈ posts p.2.store, q.2 ≠ p.1

namespace Screened

variable {posts : StoreId → List (Message × ConnectionId)} {xs xs' : List (ConnectionId × Consumer)}
  {b b' : Broker}

theorem alike (h : Screened posts xs b) (hb : b.Alike b') : Screened posts xs b' :=
  ⟨hb.durables ▸ h.parsed, hb.attached ▸ h.admitted, h.foreign⟩

theorem mono (h : Screened posts xs b) (b' : Broker) (hxs : xs' ⊆ xs)
    (hdurables : b'.durables ⊆ b.durables) (hattached : b'.attached ⊆ b.attached) :
    Screened posts xs' b' :=
  ⟨fun d hd => h.parsed d (hdurables hd), fun s hs => h.admitted s (hattached hs),
    fun p hp => h.foreign p (hxs hp)⟩

theorem durable (h : Screened posts xs b) (hb : Directory xs b) {d : Durable}
    (hd : d ∈ b.durables) : ∀ q ∈ posts d.store, Selector.admits d.selector q.1 = true :=
  h.admitted _ (hb.current_mem hd)

theorem concat (h : Screened posts xs b) {c : ConnectionId} {x : Consumer}
    (hx : x.source = .topic true → posts x.store = []) : Screened posts (xs ++ [(c, x)]) b := by
  refine ⟨h.parsed, h.admitted, fun p hp hsource => ?_⟩
  rcases List.mem_append.mp hp with hp | hp
  · exact h.foreign p hp hsource
  · obtain rfl := List.mem_singleton.mp hp
    simp [hx hsource]

theorem attach (h : Screened posts xs b) {s : Subscription} (hs : posts s.store = []) :
    Screened posts xs (b.attach s) := by
  refine ⟨h.parsed, fun t ht => ?_, h.foreign⟩
  rcases List.mem_append.mp ht with ht | ht
  · exact h.admitted t ht
  · obtain rfl := List.mem_singleton.mp ht
    simp [hs]

theorem activate (h : Screened posts xs b) (hb : Directory xs b) {d : Durable}
    (noLocal : Option ConnectionId) (hd : ∃ text, Selector.parseOptional text = .ok d.selector)
    (hstore : posts d.store = [] ∨
      ∃ old ∈ b.durables, d.store = old.store ∧ old.source = d.source) :
    Screened posts xs (b.activate d noLocal) := by
  refine ⟨fun d' hd' => ?_, fun s hs => ?_, h.foreign⟩
  · rw [Broker.durables_activate] at hd'
    rcases List.mem_cons.mp hd' with rfl | hd'
    · exact hd
    · exact h.parsed d' (List.mem_filter.mp hd').1
  · rcases Broker.mem_attached_activate hs with hs | rfl
    · exact h.admitted s hs
    · rcases hstore with hstore | ⟨old, hold, hstore, hsource⟩
      · simp [hstore]
      · -- only the texts were compared, but they were parsed alike
        obtain ⟨text, hparse⟩ := hd
        obtain ⟨text', hparse'⟩ := h.parsed old hold
        have hselector : old.selector = d.selector :=
          Provider.parseOptional_eq hparse' hparse hsource
        simpa only [hstore, hselector] using h.durable hb hold

theorem deactivate (h : Screened posts xs b) (hb : Directory xs b) (key : DurableKey) :
    Screened posts xs (b.deactivate key) := by
  refine ⟨fun d hd => ?_, fun s hs => ?_, h.foreign⟩
  · rcases Broker.mem_durables_deactivate hd with hd | ⟨old, hold, rfl⟩
    · exact h.parsed d hd
    · exact h.parsed old hold
  · rcases Broker.mem_attached_deactivate hs with hs | ⟨d, hd, rfl⟩
    · exact h.admitted s hs
    · exact h.durable hb hd

theorem release (h : Screened posts xs b) (hb : Directory xs b) (x : Consumer) :
    Screened posts xs (x.release b) := by
  unfold Consumer.release
  cases x.source with
  | queue => exact h
  | topic noLocal => exact h.mono _ (.refl _) (.refl _) (List.filter_subset_self _)
  | durable key noLocal => exact h.deactivate hb key

end Screened

structure Admitted [Labels] (xs : List Step) (now : Int64) (h : Handing) : Prop where
  lasting : h.message.isExpired now = false
  taken : h.consumer.source = .queue → Selector.admits h.consumer.selector h.message = true
  published : h.consumer.source ≠ .queue →
    ∃ p, arrival h.consumer.store h.envelope.seq xs = some p ∧
      (h.envelope.message = p.message ∨ h.envelope.message = p.message.markRedelivered) ∧
      Selector.admits h.consumer.selector p.message = true ∧
      (h.consumer.source = .topic true → p.origin ≠ h.session.connection)

theorem Selector.admits_withAck (filter : Option Selector) (m : Message) (ack : Option AckToken) :
    Selector.admits filter { m with ack := ack } = Selector.admits filter m := by
  cases filter <;> rfl

theorem Store.take_eq_none {filter : Option Selector} {s : Store} :
    s.take filter = none ↔ ∀ e ∈ s.pending, Selector.admits filter e.message = false := by
  simp [Store.take]

namespace Provider

/-- There is nothing in the store of a consumer that the consumer could get now. -/
def Exhausted (x : Consumer) (w : Provider) : Prop :=
  ∀ e ∈ (w.storeAt x.store).pending, e.message.isExpired w.now = false →
    Selector.admits x.filter e.message = false

/-! ## Moves -/

section Moves

variable {posts : StoreId → List (Message × ConnectionId)} {w w' : Provider} {es : List Event}
  {b : BrokerId}

theorem Registration.screened (h : Registration b w es w')
    (hb : Directory (w.openAt b) (w.brokerAt b)) (hs : Screened posts (w.openAt b) (w.brokerAt b))
    (hfresh : posts w.stores.length = []) : Screened posts (w'.openAt b) (w'.brokerAt b) := by
  cases h with
  | quiet h => exact h.openAt ▸ hs.alike h.broker
  | temporary d c hopen hbroker =>
      have hadded := hs.mono ((w.brokerAt b).addTemporary d c) (.refl _) (.refl _) (.refl _)
      exact hopen ▸ hadded.alike hbroker
  | queue d _ hopen hbroker =>
      have hadded := hs.mono ((w.brokerAt b).addQueue d w.stores.length) (.refl _) (.refl _)
        (.refl _)
      exact hopen ▸ hadded.alike hbroker
  | consumed c x hx _ _ hopen hbroker =>
      exact hopen ▸ (hs.concat fun htopic => by simp [hx] at htopic).alike hbroker
  | subscribed c x noLocal _ hstore _ hopen hbroker =>
      have hempty : posts x.store = [] := hstore ▸ hfresh
      exact hopen ▸ ((hs.concat fun _ => hempty).attach hempty).alike hbroker
  | attached c x key noLocal hx _ hselector _ hstore hopen hbroker _ =>
      have hactive := hs.activate (d := ⟨key, x.destination, x.selector, noLocal, x.store, true⟩) hb
        (localTo noLocal c) hselector ?_
      · exact hopen ▸ (hactive.concat fun htopic => by simp [hx] at htopic).alike hbroker
      · rcases hstore with ⟨hstore, -⟩ | ⟨d, hd, hstore, -, hsource⟩
        · exact .inl (hstore ▸ hfresh)
        · exact .inr ⟨d, (Broker.durable?_mem hd).1, hstore, hsource⟩
  | closed c x before after hopen hopen' hbroker =>
      have hsubset : w'.openAt b ⊆ w.openAt b := by
        rw [hopen, hopen']
        exact List.append_subset.mpr ⟨List.subset_append_left _ _, fun p hp => by simp [hp]⟩
      exact ((hs.release hb x).mono _ hsubset (.refl _) (.refl _)).alike hbroker
  | released c _ hopen hbroker =>
      have hreleased := hs.mono ((w.brokerAt b).releaseTemporaries c) (.refl _) (.refl _)
        (List.filter_subset_self _)
      exact hopen ▸ hreleased.alike hbroker
  | unsubscribed key d _ _ hopen hbroker _ =>
      have hremoved := hs.mono (((w.brokerAt b).removeDurable key).detach d.store) (.refl _)
        (List.filter_subset_self _) (List.filter_subset_self _)
      exact hopen ▸ hremoved.alike hbroker

theorem Moves.screened [Labels] (h : Moves w es w') (hw : w.Settled)
    (hs : ∀ b, Screened posts (w.openAt b) (w.brokerAt b))
    (hfresh : ∀ s, w.stores.length ≤ s → posts s = []) :
    w.stores.length ≤ w'.stores.length ∧ ∀ b, Screened posts (w'.openAt b) (w'.brokerAt b) := by
  induction h with
  | refl => exact ⟨Nat.le_refl _, hs⟩
  | step hmoves hmove ih =>
      obtain ⟨hle, hscreened⟩ := ih
      have hbetween := hw.moves hmoves
      obtain ⟨b₀, hself, hothers⟩ := hmove.registered hbetween.coherent
      refine ⟨Nat.le_trans hle hmove.stores_le, fun b => ?_⟩
      by_cases hb : b₀ = b
      · subst hb
        exact hself.screened (hbetween.filed.directory b₀) (hscreened b₀) (hfresh _ hle)
      · exact (hothers b hb).openAt ▸ (hscreened b).alike (hothers b hb).broker

end Moves

/-! ## Runs -/

section Runs

variable [Labels]
variable {w : Provider} {op : Operation} {ops : List Operation} {b : BrokerId}

theorem accepts_of_mem_arrivals (hw : w.Settled) {s : Subscription}
    (hs : s ∈ ((w.step op).brokerAt b).attached) {q : Message × ConnectionId}
    (hq : q ∈ w.arrivals s.store op) : s.accepts q.1 q.2 = true := by
  obtain ⟨p, hp, rfl⟩ := List.mem_map.mp hq
  have hroutes := (List.mem_filter.mp hp).2
  have hafter := hw.step op
  have hstore := List.mem_map_of_mem (f := (·.store)) hs
  unfold Broker.routesTo at hroutes
  cases hqueue : p.destination.isQueue with
  | true =>
      have hsome : ((w.step op).brokerAt p.broker).queue? p.destination = some s.store := by
        simpa [hqueue] using (Bool.and_eq_true_iff.mp hroutes).2
      exact absurd hstore (hafter.filed.not_attached_of_queue? hsome b)
  | false =>
      obtain ⟨t, ht, hts, -, haccepts⟩ : ∃ t ∈ ((w.step op).brokerAt p.broker).attached,
          t.store = s.store ∧ t.topic = p.destination ∧
            t.accepts p.message p.origin = true := by
        simpa [hqueue, and_assoc] using (Bool.and_eq_true_iff.mp hroutes).2
      have hmem : s.store ∈ ((w.step op).brokerAt p.broker).fed :=
        List.mem_append_right _ (hts ▸ List.mem_map_of_mem (f := (·.store)) ht)
      obtain rfl := hafter.filed.apart hmem (List.mem_append_right _ hstore)
      obtain rfl := (hafter.filed.directory p.broker).eq_of_store ht hs hts
      exact haccepts

theorem postsTo_log_of_le {s : StoreId} (hs : (run ops {}).stores.length ≤ s) :
    postsTo s (log ops {}) = [] := by
  have hnumbered := (conserved_run s ops).numbered
  rw [storeAt, List.getElem?_eq_none hs] at hnumbered
  exact List.length_eq_zero_iff.mp hnumbered.symm

theorem screened_run (ops : List Operation) (b : BrokerId) :
    Screened (fun s => postsTo s (log ops {})) ((run ops {}).openAt b)
      ((run ops {}).brokerAt b) := by
  induction ops using List.reverseRecOn generalizing b with
  | nil => constructor <;> simp [openAt, brokerAt]
  | append_singleton ops op ih =>
      have hw := settled_run ops
      have hbefore := ((moves_step hw.coherent op).screened hw ih fun s => postsTo_log_of_le).2 b
      have hdirectory := (hw.step op).filed.directory b
      have hposts : ∀ {s q}, q ∈ postsTo s (log (ops ++ [op]) {}) →
          q ∈ postsTo s (log ops {}) ∨ q ∈ (run ops {}).arrivals s op := by
        intro s q hq
        rw [log_concat, postsTo_append, postsTo_events, postsTo_posts hw] at hq
        exact List.mem_append.mp hq
      rw [run_append]
      refine ⟨hbefore.parsed, fun s hs q hq => ?_, fun p hp hsource q hq => ?_⟩
      · rcases hposts hq with hq | hq
        · exact hbefore.admitted s hs q hq
        · exact (Bool.and_eq_true_iff.mp (accepts_of_mem_arrivals hw hs hq)).2
      · rcases hposts hq with hq | hq
        · exact hbefore.foreign p hp hsource q hq
        · have hs := hdirectory.subscription_mem (c := p.1) (x := p.2) hp
            (Consumer.subscription?_topic hsource p.1)
          have hother := (Bool.and_eq_true_iff.mp (accepts_of_mem_arrivals hw hs hq)).1
          intro heq
          simp [localTo, heq] at hother

theorem admitted_of_handed {h : Handing} (hh : (run ops {}).Handed op h) :
    Admitted (trace ops {}) (run ops {}).now h := by
  obtain ⟨hmem, hlive⟩ := hh.live
  refine ⟨hlive, fun hsource => ?_, fun hsource => ?_⟩
  · have hadmitted := hh.admitted
    rw [Consumer.filter, hsource] at hadmitted
    exact (Selector.admits_withAck _ _ _).trans hadmitted
  · obtain ⟨connection, hopen, -⟩ := hh.started
    have hp : (h.session.connection, h.consumer) ∈ (run ops {}).openAt connection.broker :=
      mem_openAt.mpr ⟨hh.consumer_mem, hh.listening, home_of_openSession hopen⟩
    have hdirectory := (settled_run ops).filed.directory connection.broker
    have hscreened := screened_run ops connection.broker
    obtain ⟨p, hp', horigin, hcopy⟩ := arrival_of_mem_custody (List.mem_append_left _ hmem)
    have hposted := mem_postsTo_of_arrival hp'
    obtain ⟨s, hs, hstore, hselector⟩ := hdirectory.subscription_of_ne_queue hp hsource
    refine ⟨p, hp', hcopy, ?_, fun htopic => ?_⟩
    · rw [← hstore] at hposted
      have hadmits := hscreened.admitted s hs (p.message, p.origin) hposted
      rwa [hselector] at hadmits
    · exact hscreened.foreign _ hp htopic (p.message, p.origin) hposted

theorem exhausted_of_received {c : ConsumerId} {x : Consumer} (hw : w.Coherent)
    (hop : op.consumer? = some c) (hx : w.consumers[c]? = some x) (hopen : x.closed = false)
    (hstarted : w.isStarted x.session = true) (hnone : w.received op = none) :
    w.Exhausted x ∧ (w.step op).Exhausted x := by
  have hmem := List.mem_of_getElem? hx
  obtain ⟨session, connection, hsession, -⟩ := hw.cascading.openSession hmem hopen hstarted
  have hs := (openSession_eq_ok.mp hsession).1
  have htake : ((w.storeAt x.store).purge w.now).take x.filter = none := by
    rw [received_eq_handing hw, handing_of_asked hop hx hopen hstarted hs] at hnone
    simpa using hnone
  have hpurged := Store.take_eq_none.mp htake
  have hstep : w.step op = w.updateStore x.store fun _ => (w.storeAt x.store).purge w.now := by
    rw [step_eq hw hop, pull_of_ready hx hopen hstarted]
    simp [takeNext, takeFrom, hs, htake]
  refine ⟨fun e he hlive => ?_, fun e he _ => ?_⟩
  · exact hpurged e (List.mem_filter.mpr ⟨he, by simp [hlive]⟩)
  · rw [hstep, storeAt_updateStore, if_pos ⟨rfl, hw.grounded.consumed x hmem⟩] at he
    exact hpurged e he

theorem step_eq_self_of_not_started {c : ConsumerId} {x : Consumer} (hw : w.Coherent)
    (hop : op.consumer? = some c) (hx : w.consumers[c]? = some x)
    (hstopped : w.isStarted x.session = false) : w.received op = none ∧ w.step op = w := by
  rw [received_eq hw hop, step_eq hw hop]
  simp [pull, hx, hstopped]

end Runs

/--
In every run, a consumer gets a message only while it and its session are open and its connection
is started, and only one that it asks for.  If it gets none then, there is none that it could get;
and while the connection is stopped, asking changes nothing.
-/
theorem admission [Labels] (ops : List Operation) :
    (∀ op m, (run ops {}).received op = some m →
      ∃ h, (run ops {}).Handed op h ∧ h.message = m ∧
        Admitted (trace ops {}) (run ops {}).now h) ∧
    ∀ op c x, Operation.consumer? op = some c → (run ops {}).consumers[c]? = some x →
      (x.closed = false → (run ops {}).isStarted x.session = true →
        (run ops {}).received op = none →
          (run ops {}).Exhausted x ∧ ((run ops {}).step op).Exhausted x) ∧
      ∀ connection, (run ops {}).connectionOf x.session = some connection →
        connection.state = .stopped →
          (run ops {}).received op = none ∧ (run ops {}).step op = run ops {} := by
  have hw := coherent_run ops
  refine ⟨fun op m hm => ?_, fun op c x hop hx => ⟨?_, fun connection hconnection hstopped => ?_⟩⟩
  · rw [received_eq_handing hw] at hm
    obtain ⟨h, hhanding, rfl⟩ := Option.map_eq_some_iff.mp hm
    have hhanded := handed_of_handing hw hhanding
    exact ⟨h, hhanded, rfl, admitted_of_handed hhanded⟩
  · exact exhausted_of_received hw hop hx
  · have hidle : (run ops {}).isStarted x.session = false := by
      simp [isStarted, hconnection, hstopped]
    exact step_eq_self_of_not_started hw hop hx hidle

def choosyClient : List Operation :=
  [.connect ⟨{ text := "vm://local", broker := "local" }, "", ""⟩ "" "" none,
    .connect ⟨{ text := "vm://local", broker := "local" }, "", ""⟩ "" "" none,
    .createSession 0 .auto, .createSession 1 .auto,
    .createConsumer 0 ⟨.queue, "jobs"⟩ (some "JMSPriority = 9") false,
    .createConsumer 0 ⟨.topic, "news"⟩ none true,
    .createProducer 0 none, .createProducer 1 none,
    .send 0 (some ⟨.queue, "jobs"⟩) (some ⟨.persistent, 4, 0⟩) (.ofText "later"),
    .send 0 (some ⟨.queue, "jobs"⟩) (some ⟨.persistent, 9, 0⟩) (.ofText "now"),
    .send 0 (some ⟨.topic, "news"⟩) (some ⟨.persistent, 4, 0⟩) (.ofText "own"),
    .send 1 (some ⟨.topic, "news"⟩) (some ⟨.persistent, 4, 0⟩) (.ofText "new")]

def listening : List Operation := choosyClient ++ [.start 0]

theorem admission_choosyClient :
    ((run choosyClient {}).received (.receiveNow 0) = none ∧
      (run choosyClient {}).step (.receiveNow 0) = run choosyClient {}) ∧
    (∃ m h, (run listening {}).received (.receiveNow 0) = some m ∧
      m.getText.toOption = some "now" ∧ h.message = m ∧
      Admitted (trace listening {}) (run listening {}).now h) ∧
    (∃ m h, (run listening {}).received (.receiveNow 1) = some m ∧
      m.getText.toOption = some "new" ∧ h.message = m ∧
      Admitted (trace listening {}) (run listening {}).now h) ∧
    ∃ x, (run (listening ++ [.receiveNow 0]) {}).consumers[0]? = some x ∧
      (run (listening ++ [.receiveNow 0]) {}).Exhausted x := by
  have hgets : ∀ op text, ((run listening {}).received op).bind (·.getText.toOption) = some text →
      ∃ m h, (run listening {}).received op = some m ∧ m.getText.toOption = some text ∧
        h.message = m ∧ Admitted (trace listening {}) (run listening {}).now h := by
    intro op text hbind
    obtain ⟨m, hm, htext⟩ := Option.bind_eq_some_iff.mp hbind
    obtain ⟨h, -, hmessage, hadmitted⟩ := (admission listening).1 op m hm
    exact ⟨m, h, hm, htext, hmessage, hadmitted⟩
  refine ⟨?_, hgets _ _ (by decide +kernel), hgets _ _ (by decide +kernel), ?_⟩
  · have hconsumer : (run choosyClient {}).consumers[0]?.map (·.session) = some 0 := by
      decide +kernel
    have hconnection : ((run choosyClient {}).connectionOf 0).map (·.state) = some .stopped := by
      decide +kernel
    obtain ⟨x, hx, hsession⟩ := Option.map_eq_some_iff.mp hconsumer
    obtain ⟨connection, hconnection, hstopped⟩ := Option.map_eq_some_iff.mp hconnection
    refine ((admission choosyClient).2 (.receiveNow 0) 0 x rfl hx).2 connection ?_ hstopped
    rw [hsession, hconnection]
  · have hconsumer : (run (listening ++ [.receiveNow 0]) {}).consumers[0]?.map
        (fun x => (x.closed, x.session)) = some (false, 0) := by decide +kernel
    obtain ⟨x, hx, heq⟩ := Option.map_eq_some_iff.mp hconsumer
    obtain ⟨hopen, hsession⟩ := Prod.mk.inj heq
    have hstarted : (run (listening ++ [.receiveNow 0]) {}).isStarted x.session = true := by
      rw [hsession]
      decide +kernel
    have hnone : (run (listening ++ [.receiveNow 0]) {}).received (.receiveNow 0) = none := by
      decide +kernel
    have hexhausted := (admission (listening ++ [.receiveNow 0])).2 (.receiveNow 0) 0 x rfl hx
    exact ⟨x, hx, (hexhausted.1 hopen hstarted hnone).1⟩

end Provider

end Messaging
