import Messaging.Proofs.Run.Origin
import Messaging.Proofs.Run.Viewing

/-!
# Fidelity

What an application gets is what another one sent.  Every message that a consumer or a browser
returns is a copy of the message of the caller as the send left it, ready to be read from the
start; only the mark of a redelivery may differ.  The handle for acknowledging is that of the
delivery and of no other.
-/

namespace Messaging

inductive Content where
  | empty
  | text (s : String)
  | bytes (data : List UInt8)
  | map (t : ValueTable)
  | stream (values : List Value)
  deriving DecidableEq, Repr

def Body.content : Body → Content
  | .empty => .empty
  | .text s => .text s
  | .bytes b => .bytes b.data
  | .map t => .map t
  | .stream b => .stream b.values

def Body.isRewound : Body → Bool
  | .bytes (.reading [] _) | .stream (.reading [] _) => true
  | .bytes _ | .stream _ => false
  | .empty | .text _ | .map _ => true

structure Message.Mirrors (m sent : Message) : Prop where
  headers : { m.headers with redelivered := sent.headers.redelivered } = sent.headers
  properties : m.properties = sent.properties
  kind : m.kind = sent.kind
  content : m.body.content = sent.body.content
  rewound : m.body.isRewound = true
  propertiesFrozen : m.propertiesFrozen = true
  bodyFrozen : m.bodyFrozen = true

namespace Message

theorem mirrors_sealed (sent : Message) : (Provider.sealed sent).Mirrors sent := by
  refine ⟨rfl, rfl, ?_, ?_, ?_, rfl, rfl⟩ <;>
    cases hbody : sent.body <;>
      simp [Provider.sealed, freeze, kind, hbody, Body.kind, Body.content, Body.isRewound,
        BytesBody.reset, BytesBody.data, StreamBody.reset, StreamBody.values]

theorem Mirrors.mark {m sent : Message} (h : m.Mirrors sent) : m.markRedelivered.Mirrors sent :=
  ⟨h.headers, h.properties, h.kind, h.content, h.rewound, h.propertiesFrozen, h.bodyFrozen⟩

theorem Mirrors.withAck {m sent : Message} (h : m.Mirrors sent) (ack : Option AckToken) :
    { m with ack := ack }.Mirrors sent :=
  ⟨h.headers, h.properties, h.kind, h.content, h.rewound, h.propertiesFrozen, h.bodyFrozen⟩

end Message

def Copied [Labels] (xs : List Step) (s : StoreId) (seq : Nat) (m : Message) : Prop :=
  ∃ p x sent, arrival s seq xs = some p ∧ xs[p.send]? = some x ∧ x.sent = some sent ∧
    m.Mirrors sent

structure Received [Labels] (xs : List Step) (h : Handing) (m : Message) : Prop where
  copied : Copied xs h.consumer.store h.envelope.seq m
  handle : m.ack =
    if h.session.mode = .client ∨ h.session.mode = .individual then
      some ⟨h.consumer.session, h.session.nextTag⟩
    else none
  fresh : ∀ x ∈ xs, ∀ m', x.before.received x.operation = some m' → m'.ack ≠ none →
    m'.ack ≠ m.ack

namespace Provider

section Runs

variable [Labels]
variable {ops : List Operation} {op : Operation}

theorem copied_of_mem_custody {s : StoreId} {e : Envelope} (he : e ∈ (run ops {}).custody s) :
    Copied (trace ops {}) s e.seq e.message ∧ e.message.ack = none := by
  obtain ⟨p, hp, -, hcopy⟩ := arrival_of_mem_custody he
  obtain ⟨x, sent, hx, hsent, hmessage⟩ := sent_of_mem_ledger (mem_ledger_of_arrival hp).1
  have hmirrors := hmessage ▸ Message.mirrors_sealed sent
  have hack : p.message.ack = none := by
    rw [hmessage]
    rfl
  rcases hcopy with hcopy | hcopy <;> rw [hcopy]
  · exact ⟨⟨p, x, sent, hp, hx, hsent, hmirrors⟩, hack⟩
  · exact ⟨⟨p, x, sent, hp, hx, hsent, hmirrors.mark⟩, hack⟩

theorem ack_eq {h : Handing} (hh : (run ops {}).handing op = some h) :
    h.ack =
      if h.session.mode.isExplicit then some ⟨h.consumer.session, h.session.nextTag⟩ else none := by
  have hmem := (handed_of_handing (coherent_run ops) hh).live.1
  rw [Handing.ack, (copied_of_mem_custody (List.mem_append_left _ hmem)).2]

theorem ack_ne {g h : Handing} {x : Step} (hx : x ∈ trace ops {}) (hg : x.handing = some g)
    (hh : (run ops {}).handing op = some h) (hsome : g.ack ≠ none) : g.ack ≠ h.ack := by
  have hgack : g.ack =
      if g.session.mode.isExplicit then some ⟨g.consumer.session, g.session.nextTag⟩ else none := by
    obtain ⟨first, -, -, hbefore⟩ := exists_of_mem_trace hx
    rw [Step.handing, hbefore] at hg
    exact ack_eq hg
  intro hack
  rw [ack_eq hh] at hack
  cases hexplicit : g.session.mode.isExplicit with
  | false => simp [hgack, hexplicit] at hsome
  | true =>
      have htracked : g.session.mode.isTracked = true := by
        cases hmode : g.session.mode <;> simp_all [AckMode.isExplicit, AckMode.isTracked]
      -- a handle is a session with a number there, and the number was used before
      rw [hgack, if_pos hexplicit] at hack
      split at hack
      next =>
        obtain ⟨hsession, htag⟩ := AckToken.mk.injEq .. ▸ Option.some.inj hack
        have hs := (handed_of_handing (coherent_run ops) hh).session_eq
        have hlt := nextTag_lt hx hg htracked (hsession ▸ hs)
        omega
      next => cases hack

theorem received_of_handing {h : Handing} (hh : (run ops {}).handing op = some h) :
    Received (trace ops {}) h h.message := by
  have hmem := (handed_of_handing (coherent_run ops) hh).live.1
  obtain ⟨p, x, sent, hp, hx, hsent, hmirrors⟩ :=
    (copied_of_mem_custody (List.mem_append_left _ hmem)).1
  refine ⟨⟨p, x, sent, hp, hx, hsent, hmirrors.withAck h.ack⟩, ?_, ?_⟩
  · refine (ack_eq hh).trans ?_
    cases h.session.mode <;> rfl
  · intro y hy m' hm' hsome
    have hw : y.before.Coherent := by
      obtain ⟨first, -, -, hbefore⟩ := exists_of_mem_trace hy
      exact hbefore ▸ coherent_run first
    rw [received_eq_handing hw] at hm'
    obtain ⟨g, hg, rfl⟩ := Option.map_eq_some_iff.mp hm'
    exact ack_ne hy hg hh hsome

omit [Labels] in
theorem mem_pending_of_browseNext {b : BrowserId} {w : Provider} {m : Message}
    (h : (w.browseNext b).1 = .ok (some m)) :
    ∃ browser e, w.openBrowser b = .ok browser ∧ e ∈ (w.storeAt browser.store).pending ∧
      m = e.message := by
  obtain ⟨browser, e, hb, he, hm⟩ := accepted_of_browseNext h
  exact ⟨browser, e, hb, (mem_accepted.mp he).1, hm⟩

end Runs

/--
In every run, each message that a consumer or a browser returns is a copy of the message of the
caller as the send left it, with the handle of its own delivery or with none.
-/
theorem fidelity [Labels] (ops : List Operation) :
    (∀ op m, (run ops {}).received op = some m →
      ∃ h, (run ops {}).Handed op h ∧ Received (trace ops {}) h m) ∧
    ∀ b m, ((run ops {}).browseNext b).1 = .ok (some m) →
      ∃ browser e, (run ops {}).openBrowser b = .ok browser ∧
        e ∈ ((run ops {}).storeAt browser.store).pending ∧
        Copied (trace ops {}) browser.store e.seq m ∧ m.ack = none := by
  refine ⟨fun op m hm => ?_, fun b m hm => ?_⟩
  · rw [received_eq_handing (coherent_run ops)] at hm
    obtain ⟨h, hh, rfl⟩ := Option.map_eq_some_iff.mp hm
    exact ⟨h, handed_of_handing (coherent_run ops) hh, received_of_handing hh⟩
  · obtain ⟨browser, e, hb, he, rfl⟩ := mem_pending_of_browseNext hm
    obtain ⟨hcopied, hack⟩ := copied_of_mem_custody (List.mem_append_left _ he)
    exact ⟨browser, e, hb, he, hcopied, hack⟩

def halfRead : Message :=
  { Message.ofBytes [1, 2] with body := .bytes (.reading [1] [2]), ack := some ⟨0, 0⟩ }

def forwarding : List Operation :=
  [.connect ⟨{ text := "vm://local", broker := "local" }, "", ""⟩ "" "" none, .start 0,
    .createSession 0 .client, .createConsumer 0 ⟨.queue, "jobs"⟩ none false,
    .createProducer 0 (some ⟨.queue, "jobs"⟩),
    .send 0 none none (.ofBytes [1, 2]), .receiveNow 0,
    .send 0 none none halfRead,
    .createBrowser 0 ⟨.queue, "jobs"⟩ none]

theorem fidelity_forwarding :
    (∃ m h, (run forwarding {}).received (.receiveNow 0) = some m ∧
      Received (trace forwarding {}) h m ∧ m.ack = some ⟨0, 1⟩ ∧
      m.body = .bytes (.reading [] [1, 2])) ∧
    ∃ m, ((run forwarding {}).browseNext 0).1 = .ok (some m) ∧ m.ack = none := by
  obtain ⟨hreceived, hbrowsed⟩ := fidelity forwarding
  refine ⟨?_, ?_⟩
  · obtain ⟨h, -, hm⟩ := hreceived (.receiveNow 0) _ rfl
    exact ⟨_, h, rfl, hm, by decide, by decide⟩
  · obtain ⟨browser, e, -, -, -, hack⟩ := hbrowsed 0 _ rfl
    exact ⟨_, rfl, hack⟩

end Provider

end Messaging
