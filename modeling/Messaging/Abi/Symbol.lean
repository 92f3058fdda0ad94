import Messaging.Abi.Call
import Messaging.Abi.Signature

/-!
# Symbols

The C functions by name, without the prefix that all of them share.  The accessors of values have
the name of the type in their own.
-/

namespace Messaging.Abi.Symbol

open Signature

def libraryCall (name : String) : Option (Signature Call) :=
  match name with
  | "initialize" => some (return .connection .setUp)
  | "init_logger" => some (return .connection (.setUpLog (← text)))
  | "terminate" => some (return .connection .tearDown)
  | "create_connection_factory" =>
    some (return .connection (.createFactory (← text) (← text) (← text) (← handleOut)))
  | "destroy_connection_factory" => some (return .destroy ((← factory).map .factory))
  | _ => none

def connectionCall (name : String) : Option (Signature Call) :=
  match name with
  | "create_connection" => some
      (return .connection (.create (← factory) (← text) (← text) (← text) (← handleOut)))
  | "create_default_connection" =>
    some (return .connection (.createDefault (← factory) (← handleOut)))
  | "destroy_connection" => some (return .destroy ((← connection).map .connection))
  | "start_connection" => some (return .connection (.start (← connection)))
  | "stop_connection" => some (return .connection (.stop (← connection)))
  | "close_connection" => some (return .connection (.close (← connection)))
  | "set_connection_client_id" =>
    some (return .connection (.setClientId (← connection) (← text)))
  | "get_connection_client_id" =>
    some (return .connection (.getClientId (← connection) (← buffer)))
  | _ => none

def sessionCall (name : String) : Option (Signature Call) :=
  match name with
  | "create_session" => some (return .session (.create (← connection) (← int) (← handleOut)))
  | "create_default_session" =>
    some (return .session (.createDefault (← connection) (← handleOut)))
  | "destroy_session" => some (return .destroy ((← session).map .session))
  | "close_session" => some (return .session (.close (← session)))
  | "commit_session" => some (return .session (.commit (← session)))
  | "rollback_session" => some (return .session (.rollback (← session)))
  | "recover_session" => some (return .session (.recover (← session)))
  | "unsubscribe_durable_consumer" =>
    some (return .session (.unsubscribe (← session) (← text)))
  | "get_session_acknowledge_mode" =>
    some (return .session (.getMode (← session) (← intOut)))
  | "is_session_transacted" => some (return .session (.isTransacted (← session) (← intOut)))
  | _ => none

def destinationCall (name : String) : Option (Signature Call) :=
  match name with
  | "create_destination" =>
    some (return .destination (.create (← session) (← int) (← text) (← handleOut)))
  | "create_temporary_destination" =>
    some (return .destination (.createTemporary (← session) (← int) (← handleOut)))
  | "destroy_destination" => some (return .destroy ((← destination).map .destination))
  | "compare_destinations" =>
    some (return .destination (.compare (← destination) (← destination) (← intOut)))
  | "is_destination_topic" =>
    some (return .destination (.isTopic (← destination) (← intOut)))
  | "is_destination_queue" =>
    some (return .destination (.isQueue (← destination) (← intOut)))
  | "is_destination_temporary" =>
    some (return .destination (.isTemporary (← destination) (← intOut)))
  | "get_destination_name" =>
    some (return .destination (.getName (← destination) (← buffer)))
  | _ => none

def messageCall (name : String) : Option (Signature Call) :=
  match name with
  | "create_message" => some (return .message (.createPlain (← session) (← handleOut)))
  | "create_text_message" =>
    some (return .message (.createText (← session) (← text) (← handleOut)))
  | "create_bytes_message" =>
    some (return .message (.createBytes (← session) (← bytes) (← size) (← handleOut)))
  | "create_map_message" => some (return .message (.createMap (← session) (← handleOut)))
  | "create_stream_message" =>
    some (return .message (.createStream (← session) (← handleOut)))
  | "clone_message" => some (return .message (.clone (← message) (← handleOut)))
  | "destroy_message" => some (return .destroy ((← message).map .message))
  | "get_message_type" => some (return .message (.getKind (← message) (← intOut)))
  | "acknowledge_message" => some (return .message (.acknowledge (← message)))
  | "clear_message_body" => some (return .message (.clearBody (← message)))
  | "clear_message_properties" => some (return .message (.clearProperties (← message)))
  | "get_num_message_properties" =>
    some (return .message (.countProperties (← message) (← sizeOut)))
  | "get_message_property_names" =>
    some (return .message (.getPropertyNames (← message) (← namesOut)))
  | "message_property_exists" =>
    some (return .message (.hasProperty (← message) (← text) (← intOut)))
  | "get_message_string_property" =>
    some (return .message (.getTextProperty (← message) (← text) (← buffer)))
  | "set_message_string_property" =>
    some (return .message (.setTextProperty (← message) (← text) (← text)))
  | _ => none

def getText (h : TextHeader) : Signature Call :=
  return .message (.getText h (← message) (← buffer))

def setText (h : TextHeader) : Signature Call :=
  return .message (.setText h (← message) (← text))

def getInt (h : IntHeader) : Signature Call :=
  return .message (.getInt h (← message) (← intOut))

def setInt (h : IntHeader) : Signature Call := return .message (.setInt h (← message) (← int))

def getTime (h : TimeHeader) : Signature Call :=
  return .message (.getTime h (← message) (← longOut))

def setTime (h : TimeHeader) : Signature Call := return .message (.setTime h (← message) (← long))

def getDestination (h : DestinationHeader) : Signature Call :=
  return .message (.getDestination h (← message) (← handleOut))

def setDestination (h : DestinationHeader) : Signature Call :=
  return .message (.setDestination h (← message) (← destination))

def headerCall (name : String) : Option (Signature Call) :=
  match name with
  | "get_message_correlation_id" => some (getText .correlationId)
  | "set_message_correlation_id" => some (setText .correlationId)
  | "get_message_message_id" => some (getText .messageId)
  | "set_message_message_id" => some (setText .messageId)
  | "get_message_header_type" => some (getText .messageType)
  | "set_message_header_type" => some (setText .messageType)
  | "get_message_delivery_mode" => some (getInt .deliveryMode)
  | "set_message_delivery_mode" => some (setInt .deliveryMode)
  | "get_message_priority" => some (getInt .priority)
  | "set_message_priority" => some (setInt .priority)
  | "get_message_redelivered" => some (getInt .redelivered)
  | "set_message_redelivered" => some (setInt .redelivered)
  | "get_message_expiration" => some (getTime .expiration)
  | "set_message_expiration" => some (setTime .expiration)
  | "get_message_timestamp" => some (getTime .timestamp)
  | "set_message_timestamp" => some (setTime .timestamp)
  | "get_message_destination" => some (getDestination .destination)
  | "set_message_destination" => some (setDestination .destination)
  | "get_message_reply_to" => some (getDestination .replyTo)
  | "set_message_reply_to" => some (setDestination .replyTo)
  | _ => none

def bodyCall (name : String) : Option (Signature Call) :=
  match name with
  | "get_message_text" => some (return .text (.get (← message) (← buffer)))
  | "set_message_text" => some (return .text (.set (← message) (← text)))
  | "map_message_item_exists" =>
    some (return .map (.contains (← message) (← text) (← intOut)))
  | "get_map_message_names" =>
    some (return .map (.getNames (← message) (← namesOut)))
  | "get_map_message_string" =>
    some (return .map (.getText (← message) (← text) (← buffer)))
  | "set_map_message_string" => some (return .map (.setText (← message) (← text) (← text)))
  | "get_bytes_message_body_length" =>
    some (return .bytes (.getLength (← message) (← sizeOut)))
  | "reset_bytes_message" => some (return .bytes (.reset (← message)))
  | "read_bytes_from_bytes_message" =>
    some (return .bytes (.readBlock (← message) (← buffer) (← sizeOut)))
  | "write_bytes_to_bytes_message" =>
    some (return .bytes (.writeBlock (← message) (← bytes) (← size) (← size)))
  | "read_string_from_bytes_message" =>
    some (return .bytes (.readText (← message) (← buffer)))
  | "write_string_to_bytes_message" => some (return .bytes (.writeText (← message) (← text)))
  | "read_utf_from_bytes_message" => some (return .bytes (.readUtf (← message) (← buffer)))
  | "write_utf_to_bytes_message" => some (return .bytes (.writeUtf (← message) (← text)))
  | "reset_stream_message" => some (return .stream (.reset (← message)))
  | "read_bytes_from_stream_message" =>
    some (return .stream (.readBlock (← message) (← buffer) (← sizeOut)))
  | "write_bytes_to_stream_message" =>
    some (return .stream (.writeBlock (← message) (← bytes) (← size) (← size)))
  | "read_string_from_stream_message" =>
    some (return .stream (.readText (← message) (← buffer)))
  | "write_string_to_stream_message" =>
    some (return .stream (.writeText (← message) (← text)))
  | _ => none

def scalarCall (name : String) : Option (Signature Call) :=
  match name.splitOn "_" with
  | ["get", "message", t, "property"] => (Scalar.ofName? t).map fun t =>
    return .message (.getProperty t (← message) (← text) (← scalarOut t))
  | ["set", "message", t, "property"] => (Scalar.ofName? t).map fun t =>
    return .message (.setProperty (← message) (← text) (← scalar t))
  | ["get", "map", "message", t] => (Scalar.ofName? t).map fun t =>
    return .map (.get t (← message) (← text) (← scalarOut t))
  | ["set", "map", "message", t] => (Scalar.ofName? t).map fun t =>
    return .map (.set (← message) (← text) (← scalar t))
  | ["read", t, "from", "bytes", "message"] => (Scalar.ofName? t).map fun t =>
    return .bytes (.read t (← message) (← scalarOut t))
  | ["write", t, "to", "bytes", "message"] => (Scalar.ofName? t).map fun t =>
    return .bytes (.write (← message) (← scalar t))
  | ["read", t, "from", "stream", "message"] => (Scalar.ofName? t).map fun t =>
    return .stream (.read t (← message) (← scalarOut t))
  | ["write", t, "to", "stream", "message"] => (Scalar.ofName? t).map fun t =>
    return .stream (.write (← message) (← scalar t))
  | _ => none

def getSetting (x : Setting) : Signature Call :=
  return .producer (.get x (← producer) (← intOut))

def setSetting (x : Setting) : Signature Call := return .producer (.set x (← producer) (← int))

def producerCall (name : String) : Option (Signature Call) :=
  match name with
  | "create_producer" =>
    some (return .producer (.create (← session) (← destination) (← handleOut)))
  | "destroy_producer" => some (return .destroy ((← producer).map .producer))
  | "close_producer" => some (return .producer (.close (← producer)))
  | "producer_send" =>
    some (return .producer (.send (← producer) (← message) (← int) (← int) (← long)))
  | "producer_send_to_destination" => some
      (return .producer
        (.sendTo (← producer) (← message) (← destination) (← int) (← int) (← long)))
  | "producer_send_with_defaults" =>
    some (return .producer (.sendDefault (← producer) (← message)))
  | "producer_send_with_timeout" =>
    some (return .producer (.sendFor (← producer) (← message) (← long)))
  | "get_producer_delivery_mode" => some (getSetting .deliveryMode)
  | "set_producer_delivery_mode" => some (setSetting .deliveryMode)
  | "get_producer_disable_message_id" => some (getSetting .disableMessageId)
  | "set_producer_disable_message_id" => some (setSetting .disableMessageId)
  | "get_producer_disable_message_timestamp" => some (getSetting .disableTimestamp)
  | "set_producer_disable_message_timestamp" => some (setSetting .disableTimestamp)
  | "get_producer_priority" => some (getSetting .priority)
  | "set_producer_priority" => some (setSetting .priority)
  | "get_producer_time_to_live" =>
    some (return .producer (.getTimeToLive (← producer) (← longOut)))
  | "set_producer_time_to_live" =>
    some (return .producer (.setTimeToLive (← producer) (← long)))
  | _ => none

def consumerCall (name : String) : Option (Signature Call) :=
  match name with
  | "create_consumer" => some
      (return .consumer
        (.create (← session) (← destination) (← text) (← int) (← handleOut)))
  | "create_default_consumer" =>
    some (return .consumer (.createDefault (← session) (← destination) (← handleOut)))
  | "create_durable_consumer" => some
      (return .consumer
        (.createDurable (← session) (← destination) (← text) (← text) (← int) (← handleOut)))
  | "destroy_consumer" => some (return .destroy ((← consumer).map .consumer))
  | "close_consumer" => some (return .consumer (.close (← consumer)))
  | "get_consumer_message_selector" =>
    some (return .consumer (.getSelector (← consumer) (← buffer)))
  | "consumer_receive" => some (return .consumer (.receive (← consumer) (← handleOut)))
  | "consumer_receive_with_timeout" =>
    some (return .consumer (.receiveWithin (← consumer) (← handleOut) (← long)))
  | "consumer_receive_no_wait" =>
    some (return .consumer (.receiveNow (← consumer) (← handleOut)))
  | "create_queue_browser" =>
    some (return .browser (.create (← session) (← destination) (← text) (← handleOut)))
  | "destroy_queue_browser" => some (return .destroy ((← browser).map .browser))
  | "close_queue_browser" => some (return .browser (.close (← browser)))
  | "browser_has_more_messages" =>
    some (return .browser (.hasMore (← browser) (← intOut)))
  | "browser_get_next_message" =>
    some (return .browser (.next (← browser) (← handleOut)))
  | "get_browser_message_selector" =>
    some (return .browser (.getSelector (← browser) (← buffer)))
  | _ => none

/-- The function of a name, as the call that it makes of its arguments. -/
def call? (name : String) : Option (Signature Call) :=
  libraryCall name <|> connectionCall name <|> sessionCall name <|> destinationCall name <|>
  messageCall name <|> headerCall name <|> bodyCall name <|> scalarCall name <|>
  producerCall name <|> consumerCall name

end Messaging.Abi.Symbol
