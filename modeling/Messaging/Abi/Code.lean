import Messaging.Destination
import Messaging.Message
import Messaging.Mode

/-!
# Codes

The integers that stand for modes and kinds in the C interface.
-/

namespace Messaging

namespace AckMode

def code : AckMode → Int32
  | auto => 0
  | dupsOk => 1
  | client => 2
  | transacted => 3
  | individual => 4

def ofCode? (n : Int32) : Option AckMode :=
  [auto, dupsOk, client, transacted, individual].find? (·.code == n)

end AckMode

namespace DeliveryMode

def code : DeliveryMode → Int32
  | persistent => 0
  | nonPersistent => 1

def ofCode? (n : Int32) : Option DeliveryMode :=
  [persistent, nonPersistent].find? (·.code == n)

end DeliveryMode

namespace DestinationKind

def code : DestinationKind → Int32
  | topic => 0
  | queue => 1
  | temporaryTopic => 2
  | temporaryQueue => 3

def ofCode? (n : Int32) : Option DestinationKind :=
  [topic, queue, temporaryTopic, temporaryQueue].find? (·.code == n)

end DestinationKind

namespace MessageKind

def code : MessageKind → Int32
  | plain => 0
  | text => 1
  | bytes => 2
  | map => 3
  | stream => 4

def ofCode? (n : Int32) : Option MessageKind :=
  [plain, text, bytes, map, stream].find? (·.code == n)

end MessageKind

end Messaging
