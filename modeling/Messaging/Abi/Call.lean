import Messaging.Abi.Body
import Messaging.Abi.Connection
import Messaging.Abi.Consumer
import Messaging.Abi.Producer
import Messaging.Abi.Session

/-!
# Calls

All calls of the C interface as one type, and what each of them replies.
-/

namespace Messaging.Abi

inductive Call where
  | connection (c : ConnectionCall)
  | session (c : SessionCall)
  | destination (c : DestinationCall)
  | message (c : MessageCall)
  | text (c : TextCall)
  | map (c : MapCall)
  | bytes (c : BytesCall)
  | stream (c : StreamCall)
  | producer (c : ProducerCall)
  | consumer (c : ConsumerCall)
  | browser (c : BrowserCall)
  | destroy (o : Option Object)

open Effect

def destroy : Option Object → Effect
  | some (.connection c) => change (·.closeConnection c)
  | some (.session s) => change (·.closeSession s)
  | some (.consumer c) => change (·.closeConsumer c)
  | some (.factory _) | some (.destination _) | some (.message _) | some (.producer _)
  | some (.browser _) | none => answer []

def Call.check [Labels] (w : Interface) : Call → Except Failure Effect
  | connection c => c.check w
  | session c => c.check w
  | destination c => c.check
  | message c => c.check w
  | text c => c.check w
  | map c => c.check w
  | bytes c => c.check w
  | stream c => c.check w
  | producer c => c.check w
  | consumer c => c.check w
  | browser c => c.check w
  | destroy o => .ok (Abi.destroy o)

namespace Interface

variable [Labels]

def call (c : Call) (w : Interface) : Reply × Interface := settle (c.check w) w

theorem call_of_check_error {c : Call} {w : Interface} {f : Failure} (h : c.check w = .error f) :
    w.call c = ({ failure := some f }, w) := by
  rw [call, h]
  rfl

def run (calls : List Call) (w : Interface) : Interface :=
  calls.foldl (fun w c => (w.call c).2) w

/-- Wait for a message on one thread and, while it waits, make another call on a second one. -/
def receiveDuring (c : Option ConsumerId) (out : Out) (other : Call) (w : Interface) :
    (Reply × Reply) × Interface :=
  let waiting := c.bind fun c =>
    match w.provider.receive c with
    | (.ok .waiting, provider) => if out = .null then none else some (c, provider)
    | _ => none
  match waiting with
  | none =>
    let (received, w) := w.call (.consumer (.receive c out))
    let (r, w) := w.call other
    ((received, r), w)
  | some (c, provider) =>
    let (r, w) := { w with provider }.call other
    let (received, w) := perform (fun p => match p.poll c with
      | (.finished m, p) => (.ok m, p)
      | (.waiting, p) => (.ok none, p)) (Effect.receive (some .consumerClosed)) w
    ((received, r), w)

end Interface

end Messaging.Abi
