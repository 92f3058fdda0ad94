import Messaging.Provider.Browser
import Messaging.Provider.Connection
import Messaging.Provider.Producer

/-!
# Runs

Every call that can change the provider is an operation.  A run makes operations one after the
other, in any order and with any arguments, from a provider that nobody has used yet.  Calls that
only look, and the making of messages and of destinations that are not temporary, change nothing
and are left out.  To drop a connection, a session or a consumer is to close it.
-/

namespace Messaging

variable [Labels]

inductive ProducerSetting where
  | deliveryMode (mode : DeliveryMode)
  | priority (n : Int32)
  | timeToLive (millis : Int64)
  | disableMessageId (disabled : Bool)
  | disableTimestamp (disabled : Bool)
  deriving DecidableEq, Repr

inductive Operation where
  | connect (f : ConnectionFactory) (username password : String) (clientId : Option String)
  | start (c : ConnectionId)
  | stop (c : ConnectionId)
  | setClientId (c : ConnectionId) (id : String)
  | closeConnection (c : ConnectionId)
  | shutdown
  | advance (millis : Int64)
  | createSession (c : ConnectionId) (mode : AckMode)
  | createTemporaryQueue (s : SessionId)
  | createTemporaryTopic (s : SessionId)
  | acknowledge (m : Message)
  | commit (s : SessionId)
  | rollback (s : SessionId)
  | recover (s : SessionId)
  | unsubscribe (s : SessionId) (name : String)
  | closeSession (s : SessionId)
  | createProducer (s : SessionId) (d : Option Destination)
  | configure (p : ProducerId) (x : ProducerSetting)
  | closeProducer (p : ProducerId)
  | send (p : ProducerId) (requested : Option Destination) (q : Option Quality) (m : Message)
  | createConsumer (s : SessionId) (d : Destination) (selector : Option String) (noLocal : Bool)
  | createDurableConsumer (s : SessionId) (topic : Destination) (name : String)
      (selector : Option String) (noLocal : Bool)
  | closeConsumer (c : ConsumerId)
  | receiveNow (c : ConsumerId)
  /-- Begin to wait for a message, with or without a limit of time. -/
  | receive (c : ConsumerId)
  | poll (c : ConsumerId)
  | createBrowser (s : SessionId) (queue : Destination) (selector : Option String)
  | hasMore (b : BrowserId)
  | browseNext (b : BrowserId)
  | closeBrowser (b : BrowserId)

def Operation.consumer? : Operation → Option ConsumerId
  | .receiveNow c | .receive c | .poll c => some c
  | _ => none

def Operation.browser? : Operation → Option BrowserId
  | .hasMore b | .browseNext b => some b
  | _ => none

namespace Provider

def set (p : ProducerId) (x : ProducerSetting) (w : Provider) : Provider :=
  match x with
  | .deliveryMode mode => w.configure p ({ · with deliveryMode := mode })
  | .priority n => (w.setPriority p n).2
  | .timeToLive millis => (w.setTimeToLive p millis).2
  | .disableMessageId disabled => w.configure p ({ · with disableMessageId := disabled })
  | .disableTimestamp disabled => w.configure p ({ · with disableTimestamp := disabled })

def step (op : Operation) (w : Provider) : Provider :=
  match op with
  | .connect f username password clientId => (w.connectWith f username password clientId).2
  | .start c => (w.start c).2
  | .stop c => (w.stop c).2
  | .setClientId c id => (w.setClientId c id).2
  | .closeConnection c => w.closeConnection c
  | .shutdown => w.shutdown
  | .advance millis => w.advance millis
  | .createSession c mode => (w.createSession c mode).2
  | .createTemporaryQueue s => (w.createTemporary s .temporaryQueue).2
  | .createTemporaryTopic s => (w.createTemporary s .temporaryTopic).2
  | .acknowledge m => (w.acknowledge m).2
  | .commit s => (w.commit s).2
  | .rollback s => (w.rollback s).2
  | .recover s => (w.recover s).2
  | .unsubscribe s name => (w.unsubscribe s name).2
  | .closeSession s => w.closeSession s
  | .createProducer s d => (w.createProducer s d).2
  | .configure p x => w.set p x
  | .closeProducer p => w.closeProducer p
  | .send p requested q m => (w.send p requested (w.qualityOf p q) m).2
  | .createConsumer s d selector noLocal => (w.createConsumer s d selector noLocal).2
  | .createDurableConsumer s topic name selector noLocal =>
      (w.createDurableConsumer s topic name selector noLocal).2
  | .closeConsumer c => w.closeConsumer c
  | .receiveNow c => (w.receiveNow c).2
  | .receive c => (w.receive c).2
  | .poll c => (w.poll c).2
  | .createBrowser s queue selector => (w.createBrowser s queue selector).2
  | .hasMore b => (w.hasMore b).2
  | .browseNext b => (w.browseNext b).2
  | .closeBrowser b => w.closeBrowser b

def received (op : Operation) (w : Provider) : Option Message :=
  match op with
  | .receiveNow c =>
      match (w.receiveNow c).1 with
      | .ok m => m
      | .error _ => none
  | .receive c =>
      match (w.receive c).1 with
      | .ok (.finished m) => m
      | .ok .waiting | .error _ => none
  | .poll c =>
      match (w.poll c).1 with
      | .finished m => m
      | .waiting => none
  | _ => none

def run (ops : List Operation) (w : Provider) : Provider := ops.foldl (fun w op => w.step op) w

end Provider

/-- An operation of a run and the provider that it found. -/
structure Step where
  operation : Operation
  before : Provider

def Step.after (x : Step) : Provider := x.before.step x.operation

namespace Provider

def trace : List Operation → Provider → List Step
  | [], _ => []
  | op :: ops, w => ⟨op, w⟩ :: trace ops (w.step op)

/-! ## Splitting runs -/

@[simp] theorem run_nil (w : Provider) : w.run [] = w := rfl

@[simp] theorem run_cons (op : Operation) (ops : List Operation) (w : Provider) :
    w.run (op :: ops) = (w.step op).run ops := rfl

theorem run_append (first second : List Operation) (w : Provider) :
    w.run (first ++ second) = (w.run first).run second :=
  List.foldl_append

theorem trace_append (first second : List Operation) (w : Provider) :
    w.trace (first ++ second) = w.trace first ++ (w.run first).trace second := by
  induction first generalizing w with
  | nil => rfl
  | cons op ops ih => simp [trace, ih]

theorem trace_concat (ops : List Operation) (op : Operation) (w : Provider) :
    w.trace (ops ++ [op]) = w.trace ops ++ [⟨op, w.run ops⟩] := by
  rw [trace_append]
  rfl

@[simp] theorem length_trace (ops : List Operation) (w : Provider) :
    (w.trace ops).length = ops.length := by
  induction ops generalizing w with
  | nil => rfl
  | cons op ops ih => simp [trace, ih]

theorem exists_of_mem_trace {ops : List Operation} {w : Provider} {x : Step}
    (h : x ∈ w.trace ops) :
    ∃ first second, ops = first ++ x.operation :: second ∧ x.before = w.run first := by
  induction ops generalizing w with
  | nil => simp [trace] at h
  | cons op ops ih =>
      rcases List.mem_cons.mp h with rfl | h
      · exact ⟨[], ops, rfl, rfl⟩
      · obtain ⟨first, second, hops, hbefore⟩ := ih h
        exact ⟨op :: first, second, by rw [hops]; rfl, hbefore⟩

end Provider

end Messaging
