import Messaging.Proofs.Run.Arrival

/-!
# Durable subscriptions in runs

A durable subscription keeps its topic, its selector and its store until a consumer with another
topic or another selector is attached to it, or until it is removed.
-/

namespace Messaging

/-- What a durable subscription keeps while consumers come and go. -/
structure Line where
  topic : Destination
  selector : Option Selector
  store : StoreId

def Durable.line (d : Durable) : Line := ⟨d.topic, d.selector, d.store⟩

def Broker.line? (key : DurableKey) (b : Broker) : Option Line := (b.durable? key).map (·.line)

/-- A durable subscription to which a consumer is attached, by what the consumer asks for. -/
structure Attachment where
  broker : BrokerId
  key : DurableKey
  topic : Destination
  selector : Option Selector
  deriving DecidableEq, Repr

namespace Step

def attaches? (x : Step) : Option Attachment :=
  match x.operation with
  | .createDurableConsumer s topic name text noLocal =>
      match x.before.openSession s, Selector.parseOptional text,
          (x.before.createDurableConsumer s topic name text noLocal).1 with
      | .ok (_, connection), .ok selector, .ok _ =>
          some ⟨connection.broker, ⟨connection.clientId, name⟩, topic, selector⟩
      | _, _, _ => none
  | _ => none

def removes? (x : Step) : Option (BrokerId × DurableKey) :=
  match x.operation with
  | .unsubscribe s name =>
      match x.before.openSession s, (x.before.unsubscribe s name).1 with
      | .ok (_, connection), .ok _ => some (connection.broker, ⟨connection.clientId, name⟩)
      | _, _ => none
  | _ => none

end Step

namespace Provider

/-! ## Moves -/

section Moves

variable {w w' : Provider} {es : List Event} {b : BrokerId} {key : DurableKey}

theorem line?_alike {x y : Broker} (h : x.Alike y) : y.line? key = x.line? key := by
  unfold Broker.line? Broker.durable?
  rw [h.durables]

theorem Registration.line? (h : Registration b w es w') (hattached : .attached b key ∉ es)
    (hremoved : .removed b key ∉ es) :
    (w'.brokerAt b).line? key = (w.brokerAt b).line? key := by
  cases h with
  | quiet h => exact line?_alike h.broker
  | temporary _ _ _ hbroker | queue _ _ _ hbroker | released _ _ _ hbroker =>
      exact (line?_alike hbroker).trans rfl
  | consumed _ _ _ _ _ _ hbroker | subscribed _ _ _ _ _ _ _ hbroker =>
      exact (line?_alike hbroker).trans rfl
  | attached c x key' noLocal _ _ _ _ _ _ hbroker hes =>
      have hkey : key' ≠ key := fun heq => hattached (heq ▸ hes)
      rw [line?_alike hbroker, Broker.line?, Broker.durable?_activate, if_neg hkey]
      rfl
  | closed c x before after _ _ hbroker =>
      rw [line?_alike hbroker]
      unfold Consumer.release
      cases x.source with
      | queue | topic => rfl
      | durable key' noLocal =>
          dsimp only
          rw [Broker.line?, Broker.line?, Broker.durable?_deactivate]
          split
          · rw [Option.map_map]
            rfl
          · rfl
  | unsubscribed key' d _ _ _ hbroker hes =>
      have hkey : key' ≠ key := fun heq => hremoved (heq ▸ hes)
      refine (line?_alike hbroker).trans ?_
      exact congrArg (·.map Durable.line) (Broker.durable?_removeDurable hkey (w.brokerAt b))

theorem Moves.line? [Labels] (h : Moves w es w') (hw : w.Coherent)
    (hattached : .attached b key ∉ es) (hremoved : .removed b key ∉ es) :
    (w'.brokerAt b).line? key = (w.brokerAt b).line? key := by
  induction h with
  | refl => rfl
  | step hs hmove ih =>
      rw [List.mem_append, not_or] at hattached hremoved
      obtain ⟨b₀, hself, hothers⟩ := hmove.registered (hs.coherent hw)
      rw [← ih hattached.1 hremoved.1]
      by_cases hb : b₀ = b
      · subst hb
        exact hself.line? hattached.2 hremoved.2
      · exact line?_alike (hothers b hb).broker

end Moves

/-! ## Steps -/

section Steps

variable {op : Operation} {w : Provider} {b : BrokerId} {key : DurableKey} {a : Attachment}

theorem createDurableConsumer_isOk {s : SessionId} {topic : Destination} {name : String}
    {text : Option String} {noLocal : Bool} {session : Session} {connection : Connection}
    (hopen : w.openSession s = .ok (session, connection))
    (hok : (w.createDurableConsumer s topic name text noLocal).1.isOk = true) :
    ∃ selector store next, Selector.parseOptional text = .ok selector ∧
      w.durableStore connection.broker ⟨connection.clientId, name⟩ topic selector =
        (.ok store, next) ∧
      (w.createDurableConsumer s topic name text noLocal).2.brokers =
        next.brokers.modify connection.broker
          (·.activate ⟨⟨connection.clientId, name⟩, topic, selector, noLocal, store, true⟩
            (localTo noLocal session.connection)) := by
  unfold createDurableConsumer at hok ⊢
  simp only [hopen, check] at hok ⊢
  cases hparse : Selector.parseOptional text with
  | error e => simp [hparse, Except.isOk, Except.toBool] at hok
  | ok selector =>
      simp only [hparse] at hok ⊢
      split at hok
      next => simp [Except.isOk, Except.toBool] at hok
      next htopic =>
        rw [if_neg htopic]
        cases hstore : w.durableStore connection.broker ⟨connection.clientId, name⟩ topic
            selector with
        | mk r next =>
            cases r with
            | error e => simp [hstore, Except.isOk, Except.toBool] at hok
            | ok store => exact ⟨selector, store, next, rfl, hstore, rfl⟩

theorem attaches?_of_attached [Labels] (h : .attached b key ∈ w.events op) :
    ∃ a, Step.attaches? ⟨op, w⟩ = some a ∧ a.broker = b ∧ a.key = key := by
  cases mem_events h with
  | attached b' key' he h =>
      obtain ⟨rfl, rfl⟩ := Event.attached.injEq .. ▸ he
      obtain ⟨s, topic, name, text, noLocal, session, connection, rfl, hopen, hok, rfl, rfl⟩ := h
      obtain ⟨selector, store, next, hparse, -, -⟩ := createDurableConsumer_isOk hopen hok
      refine ⟨⟨connection.broker, ⟨connection.clientId, name⟩, topic, selector⟩, ?_, rfl, rfl⟩
      unfold Step.attaches?
      cases hc : (w.createDurableConsumer s topic name text noLocal).1 with
      | error e => simp [hc, Except.isOk, Except.toBool] at hok
      | ok c => simp [hopen, hparse, hc]
  | posted h => simp [posts] at h
  | committed i session connection hop hopen h => simp [committing] at h
  | received _ _ _ hkind | browsed _ _ _ hkind => cases hkind
  | acknowledged _ _ _ hkind | returned _ _ _ _ hkind => cases hkind
  | kept _ _ _ he | rolledBack _ _ _ he | closed _ he | removed _ _ he => cases he

theorem removes?_of_removed [Labels] (h : .removed b key ∈ w.events op) :
    Step.removes? ⟨op, w⟩ = some (b, key) := by
  cases mem_events h with
  | removed b' key' he h =>
      obtain ⟨rfl, rfl⟩ := Event.removed.injEq .. ▸ he
      obtain ⟨s, name, session, connection, rfl, hopen, hok, rfl, rfl⟩ := h
      unfold Step.removes?
      cases hu : (w.unsubscribe s name).1 with
      | error e => simp [hu, Except.isOk, Except.toBool] at hok
      | ok _ => simp [hopen, hu]
  | posted h => simp [posts] at h
  | committed i session connection hop hopen h => simp [committing] at h
  | received _ _ _ hkind | browsed _ _ _ hkind => cases hkind
  | acknowledged _ _ _ hkind | returned _ _ _ _ hkind => cases hkind
  | kept _ _ _ he | rolledBack _ _ _ he | closed _ he | attached _ _ he => cases he

theorem line?_of_attaches [Labels] (hw : w.Coherent) (ha : Step.attaches? ⟨op, w⟩ = some a) :
    (∃ text, Selector.parseOptional text = .ok a.selector) ∧
    ∃ store, ((w.step op).brokerAt a.broker).line? a.key = some ⟨a.topic, a.selector, store⟩ ∧
      (store = w.stores.length ∧ (∀ d, (w.brokerAt a.broker).durable? a.key = some d →
          ¬ (d.topic = a.topic ∧ d.source = a.selector.map (·.source))) ∨
        ∃ d, (w.brokerAt a.broker).durable? a.key = some d ∧ d.topic = a.topic ∧
          d.source = a.selector.map (·.source) ∧ store = d.store) := by
  cases op with
  | createDurableConsumer s topic name text noLocal =>
      simp only [Step.attaches?] at ha
      split at ha
      next session connection selector c hopen hparse hok =>
        obtain rfl := Option.some.inj ha
        obtain ⟨selector', store, next, hparse', hstore, hbrokers⟩ :=
          createDurableConsumer_isOk hopen (by rw [hok]; rfl)
        obtain rfl : selector = selector' := Except.ok.inj (hparse.symm.trans hparse')
        obtain ⟨stores, hnext⟩ := durableStore_frame hstore
        have hstore := durableStore_eq_ok hstore
        rw [hnext] at hbrokers
        have hb := hw.grounded.lt_of_openSession hopen
        refine ⟨⟨text, hparse⟩, store, ?_, ?_⟩
        · rw [step, brokerAt_of_modify hbrokers hb, Broker.line?, Broker.durable?_activate,
            if_pos rfl]
          rfl
        · rcases hstore with ⟨hfresh, -, hother⟩ | ⟨-, d, hd, -, htopic, hsource, hsame⟩
          · exact .inl ⟨hfresh, fun d hd => (hother d hd).2⟩
          · exact .inr ⟨d, hd, htopic, hsource, hsame⟩
      next => cases ha
  | _ => cases ha

theorem parse_source {text : Option String} {x : Selector}
    (h : Selector.parseOptional text = .ok (some x)) : Selector.parse x.source = .ok x := by
  cases text with
  | none => cases h
  | some t =>
      simp only [Selector.parseOptional] at h
      split at h
      next => cases h
      next =>
        cases hparse : Selector.parse t with
        | error e => simp [hparse, Except.map] at h
        | ok y =>
            obtain rfl : y = x := by simpa [hparse, Except.map] using h
            have htext : y.source = t := by
              unfold Selector.parse at hparse
              split at hparse
              next => exact (Except.ok.inj hparse) ▸ rfl
              next => cases hparse
            rw [htext, hparse]

theorem parseOptional_eq {text text' : Option String} {x y : Option Selector}
    (hx : Selector.parseOptional text = .ok x) (hy : Selector.parseOptional text' = .ok y)
    (h : x.map (·.source) = y.map (·.source)) : x = y := by
  cases x with
  | none => exact (Option.map_eq_none_iff.mp h.symm).symm
  | some x =>
      obtain ⟨y, rfl, hxy⟩ := Option.map_eq_some_iff.mp h.symm
      have hparse := parse_source hy
      dsimp only at hxy
      rw [hxy, parse_source hx] at hparse
      exact congrArg some (Except.ok.inj hparse)

/-- A durable subscription whose consumers ask for the same stays as it is. -/
theorem line?_step [Labels] (hw : w.Coherent) {store : StoreId}
    (hline : (w.brokerAt a.broker).line? a.key = some ⟨a.topic, a.selector, store⟩)
    (hparse : ∃ text, Selector.parseOptional text = .ok a.selector)
    (hsame : ∀ a' ∈ Step.attaches? ⟨op, w⟩, a'.broker = a.broker → a'.key = a.key →
      a'.topic = a.topic ∧ a'.selector.map (·.source) = a.selector.map (·.source))
    (hkept : Step.removes? ⟨op, w⟩ ≠ some (a.broker, a.key)) :
    ((w.step op).brokerAt a.broker).line? a.key = some ⟨a.topic, a.selector, store⟩ := by
  have hremoved : .removed a.broker a.key ∉ w.events op := fun h => hkept (removes?_of_removed h)
  by_cases hattached : .attached a.broker a.key ∈ w.events op
  · obtain ⟨a', ha', hbroker, hkey⟩ := attaches?_of_attached hattached
    obtain ⟨htopic, hsource⟩ := hsame a' ha' hbroker hkey
    obtain ⟨⟨text', hparse'⟩, store', hline', hstore⟩ := line?_of_attaches hw ha'
    obtain ⟨text, hparse⟩ := hparse
    have hselector := parseOptional_eq hparse' hparse hsource
    obtain ⟨d, hd, hd'⟩ := Option.map_eq_some_iff.mp hline
    obtain ⟨hdtopic, hdselector, hdstore⟩ := Line.mk.injEq .. ▸ hd'
    have hstore : store' = store := by
      rw [hbroker, hkey, htopic, hselector] at hstore
      rcases hstore with ⟨-, hother⟩ | ⟨d', hd', -, -, hstore⟩
      · exact absurd ⟨hdtopic, by rw [Durable.source, hdselector]⟩ (hother d hd)
      · obtain rfl : d = d' := Option.some.inj (hd.symm.trans hd')
        exact hstore.trans hdstore
    rw [hbroker, hkey, htopic, hselector, hstore] at hline'
    exact hline'
  · rw [(moves_step hw op).line? hw hattached hremoved, hline]

end Steps

end Provider

end Messaging
