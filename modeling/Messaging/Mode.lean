/-!
# Modes of acknowledgement and delivery
-/

namespace Messaging

inductive AckMode where
  /-- As soon as they are received. -/
  | auto
  /-- As soon as they are received; duplicates are tolerated. -/
  | dupsOk
  /-- All of them once any of them is acknowledged. -/
  | client
  /-- When the transaction that received them commits. -/
  | transacted
  /-- Each of them once it is acknowledged itself. -/
  | individual
  deriving DecidableEq, Repr

/-- Whether deliveries stay outstanding until they are settled. -/
def AckMode.isTracked : AckMode → Bool
  | auto | dupsOk => false
  | client | transacted | individual => true

def AckMode.isExplicit : AckMode → Bool
  | client | individual => true
  | auto | dupsOk | transacted => false

inductive DeliveryMode where
  | persistent
  | nonPersistent
  deriving DecidableEq, Repr

def DeliveryMode.word : DeliveryMode → String
  | persistent => "PERSISTENT"
  | nonPersistent => "NON_PERSISTENT"

end Messaging
