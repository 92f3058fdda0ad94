import Messaging.Provider.Session

/-!
# Browsers

A browser walks over the messages that wait on a queue without taking them and shows each of them
at most once, also those that come in while it is at work.
-/

namespace Messaging.Provider

def createBrowser (s : SessionId) (queue : Destination) (selector : Option String)
    (w : Provider) : Outcome BrowserId :=
  check (w.openSession s) w fun (session, connection) =>
  check (Selector.parseOptional selector) w fun selector =>
    if !queue.isQueue then (.error (.notBrowsable queue), w)
    else
      check ((w.brokerAt connection.broker).checkConsumable queue session.connection) w fun _ =>
        let (store, w) := w.queueStore connection.broker queue
        (.ok w.browsers.length,
          { w with browsers := w.browsers ++ [⟨s, queue, store, selector, [], false⟩] })

def closeBrowser (b : BrowserId) (w : Provider) : Provider :=
  w.updateBrowser b ({ · with closed := true })

def openBrowser (b : BrowserId) (w : Provider) : Except Error Browser :=
  match w.browsers[b]? with
  | none => .error (.closed .browser)
  | some browser =>
    if browser.closed then .error (.closed .browser)
    else (w.openSession browser.session).map fun _ => browser

/-- The next message that a browser would show; expired messages are dropped. -/
def peek (browser : Browser) (w : Provider) : Option Envelope × Provider :=
  let store := (w.storeAt browser.store).purge w.now
  (store.findUnseen browser.selector browser.seen, w.updateStore browser.store fun _ => store)

def hasMore (b : BrowserId) (w : Provider) : Outcome Bool :=
  check (w.openBrowser b) w fun browser =>
    let (e, w) := w.peek browser
    (.ok e.isSome, w)

def browseNext (b : BrowserId) (w : Provider) : Outcome (Option Message) :=
  check (w.openBrowser b) w fun browser =>
    match w.peek browser with
    | (none, w) => (.ok none, w)
    | (some e, w) =>
      (.ok (some e.message), w.updateBrowser b ({ · with seen := e.seq :: browser.seen }))

/-! ## What is left to show -/

def unseen (b : BrowserId) (w : Provider) : Nat :=
  (w.browsers[b]?.map fun browser => (w.storeAt browser.store).unseen browser.seen).getD 0

section Unseen

variable {b : BrowserId} {browser : Browser} {w w' : Provider}

theorem unseen_eq (h : w.browsers[b]? = some browser) :
    w.unseen b = (w.storeAt browser.store).unseen browser.seen := by
  simp [unseen, h]

theorem openBrowser_eq_ok :
    w.openBrowser b = .ok browser ↔
      w.browsers[b]? = some browser ∧ browser.closed = false ∧
        (w.openSession browser.session).isOk = true := by
  unfold openBrowser
  cases w.browsers[b]? with
  | none => simp
  | some x => cases h : w.openSession x.session <;> grind [Except.map, Except.toBool]

theorem storeAt_peek (browser : Browser) (w : Provider) :
    (w.peek browser).2.storeAt browser.store = (w.storeAt browser.store).purge w.now := by
  cases h : w.stores[browser.store]? with
  | none => simp [peek, storeAt, updateStore, h, Store.purge]
  | some store => simp [peek, storeAt, updateStore, h]

/-- Each message that a browser shows is one less to show, whatever expired meanwhile. -/
theorem unseen_browseNext_lt {m : Message} (h : w.browseNext b = (.ok (some m), w')) :
    w'.unseen b < w.unseen b := by
  unfold browseNext at h
  cases hopen : w.openBrowser b with
  | error e => simp [hopen, check] at h
  | ok browser =>
      have hbrowser := (openBrowser_eq_ok.mp hopen).1
      rcases hpeek : w.peek browser with ⟨_ | e, next⟩
      · simp [hopen, check, hpeek] at h
      · have hfound : ((w.storeAt browser.store).purge w.now).findUnseen browser.selector
            browser.seen = some e := congrArg Prod.fst hpeek
        have hnext : next.browsers = w.browsers := (congrArg (·.2.browsers) hpeek).symm
        simp only [hopen, check, hpeek, Prod.mk.injEq] at h
        have hshown : w'.browsers[b]? = some { browser with seen := e.seq :: browser.seen } := by
          simp [← h.2, updateBrowser, hnext, hbrowser]
        have hstore : w'.storeAt browser.store = (w.storeAt browser.store).purge w.now := by
          rw [← h.2, ← storeAt_peek, hpeek]
          rfl
        rw [unseen_eq hshown, unseen_eq hbrowser, hstore]
        exact Nat.lt_of_lt_of_le (Store.unseen_lt_of_findUnseen hfound)
          (Store.unseen_purge_le browser.seen w.now _)

end Unseen

end Messaging.Provider
