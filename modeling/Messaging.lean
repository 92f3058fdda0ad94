import Messaging.Abi.Symbol
import Messaging.Main
import Messaging.Proofs.Abi.Kind
import Messaging.Proofs.Abi.Reading
import Messaging.Proofs.Acknowledgement
import Messaging.Proofs.Admission
import Messaging.Proofs.Backlog
import Messaging.Proofs.Body.Bytes
import Messaging.Proofs.Body.Cursor
import Messaging.Proofs.Body.Field
import Messaging.Proofs.BrokerUri
import Messaging.Proofs.Browsing
import Messaging.Proofs.ClientId
import Messaging.Proofs.Closure
import Messaging.Proofs.Conservation
import Messaging.Proofs.Fanout
import Messaging.Proofs.Fidelity
import Messaging.Proofs.Integer
import Messaging.Proofs.Lifetime
import Messaging.Proofs.MessageId
import Messaging.Proofs.Order
import Messaging.Proofs.Protection
import Messaging.Proofs.Redelivery
import Messaging.Proofs.RoundTrip.Transcript
import Messaging.Proofs.Selector.Arithmetic
import Messaging.Proofs.Selector.Information
import Messaging.Proofs.Selector.Like
import Messaging.Proofs.Selector.Literal
import Messaging.Proofs.Selector.Long
import Messaging.Proofs.TemporaryDestination
import Messaging.Proofs.Text.Forms
import Messaging.Proofs.Transaction
