import Messaging.Abi.Interface

/-!
# Calls on consumers and browsers
-/

namespace Messaging.Abi

open Effect

inductive ConsumerCall where
  | create (s : Option SessionId) (d : Option Destination) (selector : CString) (noLocal : Int32)
      (out : Out)
  | createDefault (s : Option SessionId) (d : Option Destination) (out : Out)
  | createDurable (s : Option SessionId) (d : Option Destination) (name selector : CString)
      (noLocal : Int32) (out : Out)
  | close (c : Option ConsumerId)
  | getSelector (c : Option ConsumerId) (b : Buffer)
  | receive (c : Option ConsumerId) (out : Out)
  | receiveWithin (c : Option ConsumerId) (out : Out) (millis : Int64)
  | receiveNow (c : Option ConsumerId) (out : Out)

def sourceOf (s : Option Selector) : String := (s.map (·.source)).getD ""

namespace ConsumerCall

def createWith (s : Option SessionId) (d : Option Destination) (selector : CString)
    (noLocal : Int32) (out : Out) : Except Failure Effect := do
  let s ← given s
  let d ← given d
  let selector ← selector.text?
  out.check
  return perform (·.createConsumer s d selector (truth noLocal)) fun c =>
    answer [.handle (.consumer c)]

/-- Wait until a message is there or the consumer is closed, as a wait that nothing ends counts. -/
def wait (c : ConsumerId) : Effect :=
  perform (·.receiveBriefly c) (Effect.receive (some .consumerClosed))

def check (w : Interface) : ConsumerCall → Except Failure Effect
  | create s d selector noLocal out => createWith s d selector noLocal out
  | createDefault s d out => createWith s d none 0 out
  | createDurable s d name selector noLocal out => do
    let s ← given s
    let d ← given d
    if d.kind ≠ .topic then throw (.runtime (.notDurable d))
    let name ← name.text
    let selector ← selector.text?
    out.check
    return perform (·.createDurableConsumer s d name selector (truth noLocal)) fun c =>
      answer [.handle (.consumer c)]
  | close c => do
    let c ← given c
    return change (·.closeConsumer c)
  | getSelector c b => do
    let c ← given c
    return copy b (.ok (sourceOf (w.provider.consumers[c]?.bind (·.selector))))
  | receive c out => do
    let c ← given c
    out.check
    return wait c
  | receiveWithin c out millis => do
    let c ← given c
    out.check
    if millis = 0 then return wait c
    if millis < 0 then throw (.negativeTimeout millis)
    return perform (·.receiveBriefly c) (Effect.receive (some .timedOut))
  | receiveNow c out => do
    let c ← given c
    out.check
    return perform (·.receiveNow c) (Effect.receive none)

end ConsumerCall

inductive BrowserCall where
  | create (s : Option SessionId) (d : Option Destination) (selector : CString) (out : Out)
  | close (b : Option BrowserId)
  | hasMore (b : Option BrowserId) (out : Out)
  | next (b : Option BrowserId) (out : Out)
  | getSelector (b : Option BrowserId) (buffer : Buffer)

def BrowserCall.check (w : Interface) : BrowserCall → Except Failure Effect
  | create s d selector out => do
    let s ← given s
    let d ← given d
    if !d.isQueue then throw (.runtime (.notBrowsable d))
    let selector ← selector.text?
    out.check
    return perform (·.createBrowser s d selector) fun b => answer [.handle (.browser b)]
  | close b => do
    let b ← given b
    return change (·.closeBrowser b)
  | hasMore b out => do
    let b ← given b
    return perform (·.hasMore b) fun more => write out (ofTruth more)
  | next b out => do
    let b ← given b
    out.check
    return perform (·.browseNext b) (Effect.receive none)
  | getSelector b buffer => do
    let b ← given b
    return copy buffer (.ok (sourceOf (w.provider.browsers[b]?.bind (·.selector))))

end Messaging.Abi
