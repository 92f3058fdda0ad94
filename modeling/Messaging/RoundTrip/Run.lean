import Messaging.Provider.Browser
import Messaging.Provider.Connection
import Messaging.Provider.Producer
import Messaging.RoundTrip.Options

/-!
# Round trips

A run opens one connection, sends a number of text messages through one session and takes them
back through another.  It prints a line for each thing that happens and stops at the first
failure.
-/

namespace Messaging.RoundTrip

inductive Failure where
  | browsedTopic
  | timedOut (received count : Nat)
  | runtime (e : Error)
  deriving DecidableEq, Repr

def Failure.message : Failure → String
  | browsedTopic => "--browse needs a queue"
  | timedOut received count => s!"received {received} of {count} message(s) before timing out"
  | runtime e => e.message

structure Desk where
  provider : Provider
  printed : List String := []
  deriving DecidableEq, Repr

abbrev Job := ExceptT Failure (StateM Desk)

namespace Job

def print (line : String) : Job Unit := modify fun d => { d with printed := d.printed ++ [line] }

def check : Except Error α → Job α
  | .ok a => return a
  | .error e => throw (.runtime e)

def perform (f : Provider → Outcome α) : Job α := do
  let (result, provider) := f (← get).provider
  modify ({ · with provider })
  check result

def change (f : Provider → Provider) : Job Unit :=
  modify fun d => { d with provider := f d.provider }

end Job

open Job

def messageLine (label : String) (m : Message) : String :=
  let text := m.getText.toOption.getD "<no text>"
  let mark := if m.headers.redelivered then " (redelivered)" else ""
  s!"{label} {m.headers.messageId}: {text}{mark}"

/-! ## Sending -/

def sendOne (s : SessionId) (p : ProducerId) (count i : Nat) : Job Unit := do
  let m ← perform (·.create s (Message.ofText s!"message {i} of {count}"))
  let m ← check (m.setProperty "sequence" (.long (.ofNat i)))
  let d ← get
  let (sent, provider) := d.provider.send p none (d.provider.qualityOf p none) m
  modify ({ · with provider })
  check sent.result
  print s!"sent {sent.message.headers.messageId}"

def sendEach (s : SessionId) (p : ProducerId) (count : Nat) : List Nat → Job Unit
  | [] => return
  | i :: rest => do
    sendOne s p count i
    sendEach s p count rest

def sendAll (s : SessionId) (d : Destination) (count : Nat) : Job Unit := do
  let p ← perform (·.createProducer s (some d))
  sendEach s p count (List.range' 1 count)
  change (·.closeProducer p)

/-! ## Browsing -/

def browseEach (b : BrowserId) (d : Desk) : Except Failure Nat × Desk :=
  match _ : d.provider.browseNext b with
  | (.error e, provider) => (.error (.runtime e), { d with provider })
  | (.ok none, provider) => (.ok 0, { d with provider })
  | (.ok (some m), provider) =>
    let (shown, d) := browseEach b ⟨provider, d.printed ++ [messageLine "pending" m]⟩
    (shown.map (· + 1), d)
termination_by d.provider.unseen b
decreasing_by exact Provider.unseen_browseNext_lt ‹_›

def browseAll (s : SessionId) (queue : Destination) : Job Unit := do
  let b ← perform (·.createBrowser s queue none)
  let shown ← browseEach b
  print s!"{shown} message(s) pending on {queue.text}"
  change (·.closeBrowser b)

/-! ## Receiving -/

def receiveEach (c : ConsumerId) : Nat → Job Nat
  | 0 => return 0
  | missing + 1 => do
    match ← perform (·.receiveBriefly c) with
    | none => return 0
    | some m =>
      print (messageLine "received" m)
      return (← receiveEach c missing) + 1

/-! ## A run -/

def run [Labels] (o : Options) : Job Unit := do
  if o.topic ∧ o.browse then throw .browsedTopic
  let f ← check (ConnectionFactory.create o.uri "" "")
  let c ← perform (·.connect f)
  let label := ((← get).provider.connections[c]?.map Connection.label).getD ""
  print s!"connected {label} to {f.uri.text}"
  let sender ← perform (·.createSession c (if o.transacted then .transacted else .auto))
  let receiver ← perform (·.createSession c .auto)
  let destination ← perform (·.create receiver
    (if o.topic then Destination.topic o.destination else Destination.queue o.destination))
  let consumer ← perform (·.createConsumer receiver destination none false)
  perform (·.start c)
  sendAll sender destination o.count
  if o.transacted then
    perform (·.commit sender)
    print s!"committed {o.count} message(s)"
  if o.browse then browseAll receiver destination
  let received ← receiveEach consumer o.count
  change (·.closeConnection c)
  if received < o.count then throw (.timedOut received o.count)
  print s!"done: {received} message(s) round-tripped through {destination.text}"

/-! ## The program -/

structure Exit where
  code : Nat
  printed : List String := []
  fatal : Option String := none
  deriving DecidableEq, Repr

def exit [Labels] (args : List String) (w : Provider) : Exit :=
  match Options.parse args with
  | .error .usage => { code := 2 }
  | .error .help => { code := 0, printed := helpLines }
  | .error .version => { code := 0, printed := [versionLine] }
  | .ok o =>
    match (run o).run.run { provider := w } with
    | (.ok _, d) => { code := 0, printed := d.printed }
    | (.error e, d) => { code := 1, printed := d.printed, fatal := some s!"fatal: {e.message}" }

end Messaging.RoundTrip
