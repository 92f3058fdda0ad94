/-!
# Destinations

A message goes to a queue, whose consumers share its messages, or to a topic, whose subscribers
each get a copy.  Temporary destinations belong to one connection and die with it.
-/

namespace Messaging

inductive DestinationKind where
  | topic
  | queue
  | temporaryTopic
  | temporaryQueue
  deriving DecidableEq, Repr

namespace DestinationKind

def isTemporary : DestinationKind → Bool
  | temporaryTopic | temporaryQueue => true
  | topic | queue => false

def isTopic : DestinationKind → Bool
  | topic | temporaryTopic => true
  | queue | temporaryQueue => false

def scheme : DestinationKind → String
  | topic => "topic"
  | queue => "queue"
  | temporaryTopic => "temp-topic"
  | temporaryQueue => "temp-queue"

end DestinationKind

structure Destination where
  kind : DestinationKind
  name : String
  deriving DecidableEq, Repr

namespace Destination

def queue (name : String) : Destination := ⟨.queue, name⟩

def topic (name : String) : Destination := ⟨.topic, name⟩

def isTopic (d : Destination) : Bool := d.kind.isTopic

def isQueue (d : Destination) : Bool := !d.kind.isTopic

def isTemporary (d : Destination) : Bool := d.kind.isTemporary

def text (d : Destination) : String := d.kind.scheme ++ "://" ++ d.name

instance : ToString Destination := ⟨text⟩

end Destination

end Messaging
