import Messaging.Error
import Messaging.Text.Class
import Messaging.Uri.Basic
import Messaging.Uri.Form

/-!
# Addresses of brokers

The URI that configures a connection factory: `vm://`, the name of a broker, and options in the
query.  The last of several values of an option counts and unknown options do not matter.
-/

namespace Messaging

structure Credentials where
  username : String
  password : String
  deriving DecidableEq, Repr

structure BrokerUri where
  text : String
  broker : String
  /-- Whether a broker that is not running is started. -/
  create : Bool := true
  username : Option String := none
  password : Option String := none
  clientId : Option String := none
  deriving DecidableEq, Repr

namespace BrokerUri

def readSwitch (key value : String) : Except Error Bool :=
  if Text.sameIgnoringCase value "true" then .ok true
  else if Text.sameIgnoringCase value "false" then .ok false
  else .error (.badOption key value)

def setOption (u : BrokerUri) (pair : String × String) : Except Error BrokerUri :=
  match pair.1 with
  | "create" => do return { u with create := ← readSwitch pair.1 pair.2 }
  | "broker.username" => .ok { u with username := some pair.2 }
  | "broker.password" => .ok { u with password := some pair.2 }
  | "jms.clientID" => .ok { u with clientId := some pair.2 }
  | _ => .ok u

def options (query : Option (List Char)) : List (String × String) :=
  match query with
  | some cs => Uri.Form.decode (Text.Utf8.encode (String.ofList cs))
  | none => []

def parse (text : String) : Except Error BrokerUri :=
  match Uri.parse text with
  | .error e => .error (.uri e)
  | .ok u =>
    if u.scheme ≠ "vm" then .error (.unsupportedScheme u.scheme)
    else if u.host.isEmpty then .error (.unnamedBroker text)
    else (options u.query).foldlM setOption { text := text, broker := u.host }

/-- What a broker started for this address asks for; a missing half is empty. -/
def credentials (u : BrokerUri) : Option Credentials :=
  if u.username.isNone && u.password.isNone then none
  else some ⟨u.username.getD "", u.password.getD ""⟩

end BrokerUri

end Messaging
