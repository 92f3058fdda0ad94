import Messaging.Number.Integer

/-!
# Options of the command line

A switch stands alone.  Any other option has a value, in the same word or in the next one; a next
word that begins with a dash, other than a dash alone, is no value.  No option may be repeated.
-/

namespace Messaging.RoundTrip

structure Options where
  uri : String := "vm://localhost"
  destination : String := "mqc.demo"
  topic : Bool := false
  count : Nat := 3
  transacted : Bool := false
  browse : Bool := false
  /-- In milliseconds. -/
  timeout : Nat := 1000
  log : Option String := none
  deriving DecidableEq, Repr

inductive Key where
  | uri
  | destination
  | topic
  | count
  | transacted
  | browse
  | timeout
  | log
  deriving DecidableEq, Repr

namespace Key

def isSwitch : Key → Bool
  | topic | transacted | browse => true
  | uri | destination | count | timeout | log => false

def ofName? (name : String) : Option Key :=
  match name with
  | "uri" => some uri
  | "destination" => some destination
  | "topic" => some topic
  | "count" => some count
  | "transacted" => some transacted
  | "browse" => some browse
  | "timeout" => some timeout
  | "log" => some log
  | _ => none

def ofLetter? : Char → Option Key
  | 'u' => some uri
  | 'd' => some destination
  | 'n' => some count
  | _ => none

end Key

inductive Stop where
  | help
  | version
  | usage
  deriving DecidableEq, Repr

def readCount? (s : String) : Option Nat :=
  match Number.readInt? s.toList with
  | some n => if 0 ≤ n ∧ n < 4294967296 then some n.toNat else none
  | none => none

def readTimeout? (s : String) : Option Nat :=
  if s.toList.head? = some '-' then none
  else
    match Number.readInt? s.toList with
    | some n => if n < 18446744073709551616 then some n.toNat else none
    | none => none

def Options.set (o : Options) (k : Key) (value : Option String) : Except Stop Options :=
  let number (read? : String → Option Nat) (f : Nat → Options) : Except Stop Options :=
    match value.bind read? with
    | some n => .ok (f n)
    | none => .error .usage
  match k, value with
  | .topic, none => .ok { o with topic := true }
  | .transacted, none => .ok { o with transacted := true }
  | .browse, none => .ok { o with browse := true }
  | .uri, some s => .ok { o with uri := s }
  | .destination, some s => .ok { o with destination := s }
  | .log, some s => .ok { o with log := some s }
  | .count, some _ => number readCount? fun n => { o with count := n }
  | .timeout, some _ => number readTimeout? fun n => { o with timeout := n }
  | _, _ => .error .usage

structure Word where
  key : Key
  value : Option String
  deriving DecidableEq, Repr

def readLong (cs : List Char) : Except Stop Word :=
  let name := String.ofList (cs.takeWhile (· != '='))
  let value :=
    match cs.dropWhile (· != '=') with
    | [] => none
    | _ :: value => some (String.ofList value)
  match name, value with
  | "help", none => .error .help
  | "version", none => .error .version
  | _, _ =>
    match Key.ofName? name with
    | some k => .ok ⟨k, value⟩
    | none => .error .usage

def readShort (letter : Char) (rest : List Char) : Except Stop Word :=
  match letter with
  | 'h' => .error .help
  | 'V' => .error .version
  | _ =>
    match Key.ofLetter? letter, rest with
    | some k, [] => .ok ⟨k, none⟩
    | some k, '=' :: value => .ok ⟨k, some (String.ofList value)⟩
    | some k, value => .ok ⟨k, some (String.ofList value)⟩
    | none, _ => .error .usage

def readWord (word : String) : Except Stop Word :=
  match word.toList with
  | '-' :: '-' :: long => readLong long
  | '-' :: letter :: rest => readShort letter rest
  | _ => .error .usage

def isValue (word : String) : Bool := word == "-" || word.toList.head? != some '-'

def Options.parseFrom (o : Options) (seen : List Key) : List String → Except Stop Options
  | [] => .ok o
  | "--" :: rest => if rest.isEmpty then .ok o else .error .usage
  | word :: rest => do
    let w ← readWord word
    if seen.contains w.key then throw .usage
    if w.key.isSwitch || w.value.isSome then
      (← o.set w.key w.value).parseFrom (w.key :: seen) rest
    else
      match rest with
      | [] => throw .usage
      | value :: rest =>
        if isValue value then (← o.set w.key (some value)).parseFrom (w.key :: seen) rest
        else throw .usage

def Options.parse (words : List String) : Except Stop Options := parseFrom {} [] words

/-! ## Texts -/

def versionLine : String := "mqc 0.1.0"

def helpLines : List String := [
  "JMS-style messaging client runtime with a flat C ABI.",
  "",
  "Usage: mqc [OPTIONS]",
  "",
  "Options:",
  "  -u, --uri <URI>                  " ++
    "Broker URI, e.g. `vm://localhost?create=true` [default: vm://localhost]",
  "  -d, --destination <DESTINATION>  Destination name [default: mqc.demo]",
  "      --topic                      Use a topic instead of a queue",
  "  -n, --count <COUNT>              Number of messages to send [default: 3]",
  "      --transacted                 Send inside a transaction committed after the last message",
  "      --browse                     Browse the queue before consuming it",
  "      --timeout <TIMEOUT>          Receive timeout per message in milliseconds [default: 1000]",
  "      --log <LOG>                  Log filter (falls back to `RUST_LOG`)",
  "  -h, --help                       Print help",
  "  -V, --version                    Print version"]

end Messaging.RoundTrip
