import Messaging.Provider.Basic

/-!
# Publishing

A message for a queue goes to the store of the queue, which is made on first use.  A message for
a topic goes to the store of every subscription that accepts it.
-/

namespace Messaging.Provider

def queueStore (b : BrokerId) (queue : Destination) (w : Provider) : StoreId × Provider :=
  match (w.brokerAt b).queue? queue with
  | some s => (s, w)
  | none =>
    let (s, w) := w.addStore
    (s, w.updateBroker b (·.addQueue queue s))

def pushAll (m : Message) (origin : ConnectionId) (stores : List StoreId) (w : Provider) :
    Provider :=
  stores.foldl (fun w s => w.updateStore s (·.push m origin)) w

/-- What a broker keeps of a message: read-only, and without the handle of an earlier delivery. -/
def sealed (m : Message) : Message := { m.freeze with ack := none }

def publish (b : BrokerId) (d : Destination) (m : Message) (origin : ConnectionId)
    (w : Provider) : Outcome Unit :=
  let m := sealed m
  if !(w.brokerAt b).isLive d then (.error (.deleted d), w)
  else if d.isQueue then
    let (s, w) := w.queueStore b d
    (.ok (), w.pushAll m origin [s])
  else (.ok (), w.pushAll m origin ((w.brokerAt b).targets d m origin))

/-- Route several messages one after the other; the answer is the first failure, if any. -/
def publishAll (b : BrokerId) (origin : ConnectionId) :
    List (Destination × Message) → Provider → Outcome Unit
  | [], w => (.ok (), w)
  | (d, m) :: rest, w =>
    let (first, w) := w.publish b d m origin
    let (others, w) := publishAll b origin rest w
    match first with
    | .ok _ => (others, w)
    | .error e => (.error e, w)

end Messaging.Provider
