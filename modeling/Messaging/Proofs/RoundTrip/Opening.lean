import Messaging.Proofs.Outcome
import Messaging.Proofs.RoundTrip.Setting

/-!
# The start of a round trip

A run connects to a broker that has nothing yet, makes its two sessions and its consumer, and starts
the connection.  From then on whatever is sent to its destination goes to the one store.
-/

namespace Messaging.RoundTrip

open Provider

def Options.target (o : Options) : Destination :=
  if o.topic then Destination.topic o.destination else Destination.queue o.destination

theorem isQueue_target (o : Options) : o.target.isQueue = !o.topic := by
  unfold Options.target
  cases o.topic <;> rfl

theorem isTemporary_target (o : Options) : o.target.isTemporary = false := by
  unfold Options.target
  cases o.topic <;> rfl

/-! ## Connecting -/

structure Contact where
  clock : Int64
  labels : Nat
  running : List (String × BrokerId)
  broker : Broker
  label : String
  clientId : String
  clientIdFixed : Bool
  deriving DecidableEq, Repr

namespace Contact

def provider (x : Contact) : Provider where
  clock := x.clock
  labels := x.labels
  running := x.running
  brokers := [x.broker]
  connections :=
    [{ broker := 0, label := x.label, clientId := x.clientId, clientIdFixed := x.clientIdFixed }]

structure Fresh (x : Contact) : Prop where
  queues : x.broker.queues = []
  attached : x.broker.attached = []

end Contact

theorem connect_fresh [Labels] {f : ConnectionFactory} {clock : Int64} {labels : Nat}
    {c : ConnectionId} {w : Provider} (h : Provider.connect f { clock, labels } = (.ok c, w)) :
    ∃ x : Contact, x.Fresh ∧ c = 0 ∧ w = x.provider := by
  unfold Provider.connect connectWith findBroker at h
  simp only [List.lookup_nil] at h
  split at h
  · cases h
  next b w₁ hfound =>
    split at hfound
    · cases hfound
      obtain ⟨_, hauthentic, h⟩ := eq_ok_of_check h
      obtain ⟨label, hlabel, h⟩ := eq_ok_of_check h
      obtain ⟨_, hfree, h⟩ := eq_ok_of_check h
      cases h
      exact ⟨⟨_, _, _, _, _, _, _⟩, ⟨rfl, rfl⟩, rfl, rfl⟩
    · cases hfound

/-! ## Sessions and the consumer -/

namespace Contact

def prepared (x : Contact) (o : Options) : Provider where
  clock := x.clock
  labels := x.labels
  running := x.running
  brokers := [x.broker]
  connections :=
    [{ broker := 0, label := x.label, clientId := x.clientId, clientIdFixed := true,
       nextSession := 3 }]
  sessions :=
    [{ connection := 0, number := 1, mode := if o.transacted then .transacted else .auto },
      Setting.receiver]

def setting (x : Contact) (o : Options) : Setting where
  clock := x.clock
  labels := x.labels
  running := x.running
  broker :=
    if o.topic then x.broker.attach ⟨o.target, 0, none, none⟩ else x.broker.addQueue o.target 0
  connection :=
    { broker := 0, label := x.label, clientId := x.clientId, clientIdFixed := true,
      state := .started, nextSession := 3 }
  destination := o.target
  transacted := o.transacted

variable {x : Contact}

theorem Fresh.sound_setting (hx : x.Fresh) (o : Options) : (x.setting o).Sound where
  started := rfl
  broker := rfl
  lasting := isTemporary_target o
  queue hqueue := by
    have htopic : o.topic = false := by simpa [setting, isQueue_target] using hqueue
    simp [setting, htopic, Broker.queue?, Broker.addQueue]
  topic hqueue m := by
    have htopic : o.topic = true := by simpa [setting, isQueue_target] using hqueue
    simp [setting, htopic, Broker.targets, Broker.attach, hx.attached, Subscription.accepts,
      Selector.admits]

theorem createSessions (x : Contact) (o : Options) :
    ∃ w, x.provider.createSession 0 (if o.transacted then .transacted else .auto) = (.ok 0, w) ∧
      w.createSession 0 .auto = (.ok 1, x.prepared o) :=
  ⟨_, rfl, rfl⟩

theorem create_prepared (x : Contact) (o : Options) (d : Destination) :
    (x.prepared o).create 1 d = (.ok d, x.prepared o) := rfl

theorem Fresh.createConsumer_start (hx : x.Fresh) (o : Options) :
    ∃ w, (x.prepared o).createConsumer 1 o.target none false = (.ok 0, w) ∧
      w.start 0 = (.ok (), (x.setting o).world {}) := by
  obtain ⟨clock, labels, running, ⟨name, credentials, queues⟩⟩ := x
  obtain ⟨uri, destination, topic⟩ := o
  cases hx.queues
  cases topic with
  | true => exact ⟨_, rfl, rfl⟩
  | false => exact ⟨_, rfl, rfl⟩

end Contact

/-! ## Addresses -/

theorem text_setOption {u u' : BrokerUri} {pair : String × String}
    (h : u.setOption pair = .ok u') : u'.text = u.text := by
  unfold BrokerUri.setOption at h
  split at h
  · obtain ⟨create, -, h⟩ := bind_eq_ok.mp h
    cases h
    rfl
  all_goals
    cases h
    rfl

theorem text_foldlM {pairs : List (String × String)} {u u' : BrokerUri}
    (h : pairs.foldlM BrokerUri.setOption u = .ok u') : u'.text = u.text := by
  induction pairs generalizing u with
  | nil =>
      cases h
      rfl
  | cons pair pairs ih =>
      obtain ⟨u₁, hset, h⟩ := bind_eq_ok.mp h
      rw [ih h, text_setOption hset]

theorem text_of_parse {text : String} {u : BrokerUri} (h : BrokerUri.parse text = .ok u) :
    u.text = text := by
  unfold BrokerUri.parse at h
  split at h
  · cases h
  · split at h
    · cases h
    · split at h
      · cases h
      · exact text_foldlM h

end Messaging.RoundTrip
