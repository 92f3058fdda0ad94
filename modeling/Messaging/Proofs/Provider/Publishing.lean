import Messaging.Proofs.Broker
import Messaging.Proofs.Provider.Parts
import Messaging.Proofs.Run.Event

/-!
# Publishing

A publication makes the store of its queue if there is none, and then adds its message to the
stores that its broker routes it to.
-/

namespace Messaging

/-! ## Brokers with more queues -/

/-- All that a broker routes by is still there, and queues may have come in addition. -/
structure Broker.Extends (b b' : Broker) : Prop where
  attached : b'.attached = b.attached
  temporaries : b'.temporaries = b.temporaries
  queues : ∀ {d s}, b.queue? d = some s → b'.queue? d = some s

theorem Broker.Extends.refl (b : Broker) : b.Extends b := ⟨rfl, rfl, fun h => h⟩

theorem Broker.Extends.trans {b b' b'' : Broker} (h : b.Extends b') (h' : b'.Extends b'') :
    b.Extends b'' :=
  ⟨h'.attached.trans h.attached, h'.temporaries.trans h.temporaries,
    fun hq => h'.queues (h.queues hq)⟩

theorem Broker.Extends.isLive {b b' : Broker} (h : b.Extends b') (d : Destination) :
    b'.isLive d = b.isLive d :=
  isLive_congr h.temporaries d

theorem Broker.Extends.checkConsumable {b b' : Broker} (h : b.Extends b') (d : Destination)
    (c : ConnectionId) : b'.checkConsumable d c = b.checkConsumable d c := by
  simp [Broker.checkConsumable, Broker.owner?, h.temporaries]

theorem Broker.Extends.routes {b b' : Broker} (h : b.Extends b') {p : Publication}
    (hready : b.isLive p.destination = true → p.destination.isQueue = true →
      (b.queue? p.destination).isSome = true) : b'.routes p = b.routes p := by
  unfold Broker.routes
  rw [h.isLive]
  cases hlive : b.isLive p.destination with
  | false => rfl
  | true =>
      cases hqueue : p.destination.isQueue with
      | false => simp [Broker.targets, h.attached]
      | true =>
          obtain ⟨s, hs⟩ := Option.isSome_iff_exists.mp (hready hlive hqueue)
          simp [hs, h.queues hs]

theorem Broker.extends_addQueue {b : Broker} {d : Destination} (h : b.queue? d = none)
    (s : StoreId) : b.Extends (b.addQueue d s) := by
  refine ⟨rfl, rfl, ?_⟩
  intro d' s' hd'
  have hne : (d' == d) = false := by
    by_contra heq
    rw [Bool.not_eq_false, beq_iff_eq] at heq
    rw [heq, h] at hd'
    cases hd'
  simpa [Broker.queue?, Broker.addQueue, List.lookup_cons, hne] using hd'

namespace Provider

/-! ## Stores of queues -/

def ready (b : BrokerId) (d : Destination) (w : Provider) : Provider :=
  if (w.brokerAt b).isLive d && d.isQueue then (w.queueStore b d).2 else w

section Ready

variable {b : BrokerId} {w : Provider}

theorem queueStore_eq (d : Destination) :
    w.queueStore b d =
      match (w.brokerAt b).queue? d with
      | some s => (s, w)
      | none => (w.stores.length, w.addStore.2.updateBroker b (·.addQueue d w.stores.length)) := by
  unfold queueStore
  cases (w.brokerAt b).queue? d <;> rfl

theorem queueStore_frame (d : Destination) :
    ∃ brokers stores, (w.queueStore b d).2 = { w with brokers, stores } := by
  rw [queueStore_eq d]
  cases (w.brokerAt b).queue? d <;> exact ⟨_, _, rfl⟩

theorem queue?_queueStore (d : Destination) (hb : b < w.brokers.length) :
    ((w.queueStore b d).2.brokerAt b).queue? d = some (w.queueStore b d).1 := by
  rw [queueStore_eq d]
  cases h : (w.brokerAt b).queue? d with
  | some s => exact h
  | none =>
      have hlt : b < w.addStore.2.brokers.length := hb
      simp [brokerAt_updateBroker, hlt, Broker.queue?, Broker.addQueue]

theorem extends_queueStore (d : Destination) (b' : BrokerId) :
    (w.brokerAt b').Extends ((w.queueStore b d).2.brokerAt b') := by
  rw [queueStore_eq d]
  cases h : (w.brokerAt b).queue? d with
  | some s => exact .refl _
  | none =>
      rw [brokerAt_updateBroker]
      split
      next hb =>
        obtain ⟨rfl, -⟩ := hb
        exact Broker.extends_addQueue h w.stores.length
      next => exact .refl _

theorem extends_ready (d : Destination) (b' : BrokerId) :
    (w.brokerAt b').Extends ((w.ready b d).brokerAt b') := by
  unfold ready
  split
  · exact extends_queueStore d b'
  · exact .refl _

theorem queue?_ready {d : Destination} (hb : b < w.brokers.length)
    (hlive : ((w.ready b d).brokerAt b).isLive d = true) (hd : d.isQueue = true) :
    (((w.ready b d).brokerAt b).queue? d).isSome = true := by
  rw [(extends_ready d b).isLive] at hlive
  unfold ready
  rw [hlive, hd]
  simp [queue?_queueStore d hb]

end Ready

/-! ## Single publications -/

theorem brokers_pushAll (m : Message) (origin : ConnectionId) (ss : List StoreId) (w : Provider) :
    (w.pushAll m origin ss).brokers = w.brokers := by
  unfold pushAll
  induction ss generalizing w with
  | nil => rfl
  | cons s ss ih => exact ih _

theorem publish_eq {b : BrokerId} {w : Provider} (hb : b < w.brokers.length) (d : Destination)
    (m : Message) (origin : ConnectionId) :
    w.publish b d m origin =
      (if (w.brokerAt b).isLive d then .ok () else .error (.deleted d),
        (w.ready b d).pushAll (sealed m) origin
          (((w.ready b d).brokerAt b).routes ⟨b, d, sealed m, origin⟩)) := by
  unfold publish Broker.routes
  rw [(extends_ready d b).isLive]
  cases hlive : (w.brokerAt b).isLive d with
  | false => simp [ready, hlive, pushAll]
  | true =>
      cases hqueue : d.isQueue with
      | false => simp [ready, hqueue]
      | true => simp [ready, hlive, hqueue, queue?_queueStore d hb]

theorem brokerAt_publish {b : BrokerId} {w : Provider} (hb : b < w.brokers.length)
    (d : Destination) (m : Message) (origin : ConnectionId) (b' : BrokerId) :
    (w.publish b d m origin).2.brokerAt b' = (w.ready b d).brokerAt b' := by
  rw [publish_eq hb]
  simp [brokerAt, brokers_pushAll]

theorem length_brokers_publish {b : BrokerId} {w : Provider} (hb : b < w.brokers.length)
    (d : Destination) (m : Message) (origin : ConnectionId) :
    (w.publish b d m origin).2.brokers.length = w.brokers.length := by
  rw [publish_eq hb, brokers_pushAll]
  unfold ready
  split
  · rw [queueStore_eq d]
    cases (w.brokerAt b).queue? d <;> simp [updateBroker, addStore]
  · rfl

/-! ## Several publications -/

section Several

variable {b : BrokerId} (origin : ConnectionId)

theorem publishAll_cons (d : Destination) (m : Message) (sends : List (Destination × Message))
    (w : Provider) :
    w.publishAll b origin ((d, m) :: sends) =
      (match (w.publish b d m origin).1 with
        | .ok _ => ((w.publish b d m origin).2.publishAll b origin sends).1
        | .error e => .error e,
        ((w.publish b d m origin).2.publishAll b origin sends).2) := by
  rw [publishAll]
  cases hfirst : w.publish b d m origin with
  | mk first next => cases first <;> rfl

theorem extends_publishAll {w : Provider} (hb : b < w.brokers.length)
    (sends : List (Destination × Message)) (b' : BrokerId) :
    (w.brokerAt b').Extends ((w.publishAll b origin sends).2.brokerAt b') := by
  induction sends generalizing w with
  | nil => exact .refl _
  | cons x sends ih =>
      obtain ⟨d, m⟩ := x
      rw [publishAll_cons origin]
      have hfirst : (w.brokerAt b').Extends ((w.publish b d m origin).2.brokerAt b') := by
        rw [brokerAt_publish hb]
        exact extends_ready d b'
      exact hfirst.trans (ih (by rwa [length_brokers_publish hb]))

theorem sessions_publish {w : Provider} (hb : b < w.brokers.length) (d : Destination)
    (m : Message) : (w.publish b d m origin).2.sessions = w.sessions := by
  have hpush : ∀ (ss : List StoreId) (w : Provider),
      (w.pushAll (sealed m) origin ss).sessions = w.sessions := by
    intro ss
    unfold pushAll
    induction ss with
    | nil => exact fun _ => rfl
    | cons s ss ih => exact fun w => ih _
  rw [publish_eq hb, hpush]
  unfold ready
  split
  · obtain ⟨brokers, stores, heq⟩ := queueStore_frame (b := b) (w := w) d
    rw [heq]
  · rfl

theorem sessions_publishAll {w : Provider} (hb : b < w.brokers.length)
    (sends : List (Destination × Message)) :
    (w.publishAll b origin sends).2.sessions = w.sessions := by
  induction sends generalizing w with
  | nil => rfl
  | cons x sends ih =>
      obtain ⟨d, m⟩ := x
      rw [publishAll_cons origin, ih (by rwa [length_brokers_publish hb]),
        sessions_publish origin hb]

theorem queue?_publishAll {w : Provider} (hb : b < w.brokers.length)
    {sends : List (Destination × Message)} {x : Destination × Message} (hx : x ∈ sends)
    (hlive : (w.brokerAt b).isLive x.1 = true) (hqueue : x.1.isQueue = true) :
    (((w.publishAll b origin sends).2.brokerAt b).queue? x.1).isSome = true := by
  induction sends generalizing w with
  | nil => cases hx
  | cons y sends ih =>
      obtain ⟨d, m⟩ := y
      have hb' : b < (w.publish b d m origin).2.brokers.length := by
        rwa [length_brokers_publish hb]
      have hfirst := brokerAt_publish hb d m origin b
      rw [publishAll_cons origin]
      rcases List.mem_cons.mp hx with rfl | hx
      · have hready := queue?_ready hb (((extends_ready d b).isLive d).trans hlive) hqueue
        rw [← hfirst] at hready
        obtain ⟨s, hs⟩ := Option.isSome_iff_exists.mp hready
        rw [(extends_publishAll origin hb' sends b).queues hs]
        rfl
      · refine ih hb' hx ?_
        rw [hfirst, (extends_ready d b).isLive]
        exact hlive

theorem publishAll_result {w : Provider} (hb : b < w.brokers.length)
    (sends : List (Destination × Message)) :
    (w.publishAll b origin sends).1 =
      match sends.find? fun x => !(w.brokerAt b).isLive x.1 with
      | none => .ok ()
      | some x => .error (.deleted x.1) := by
  induction sends generalizing w with
  | nil => rfl
  | cons x sends ih =>
      obtain ⟨d, m⟩ := x
      have hlive : ∀ d', ((w.publish b d m origin).2.brokerAt b).isLive d' =
          (w.brokerAt b).isLive d' := by
        intro d'
        rw [brokerAt_publish hb]
        exact (extends_ready d b).isLive d'
      rw [publishAll_cons origin, ih (by rwa [length_brokers_publish hb])]
      simp only [hlive, List.find?_cons]
      rw [publish_eq hb]
      cases (w.brokerAt b).isLive d <;> rfl

end Several

end Provider

end Messaging
