import Messaging.Proofs.Run.Arrival
import Messaging.Proofs.Run.Keeping
import Messaging.Proofs.Run.Standing

/-!
# Acknowledgement

A handle names one delivery of one session for ever.  In an individual session it settles that
delivery, if the session still holds it; in a client session it settles all that the session
holds.  A session puts back exactly what it holds, and a closed one settles nothing.
-/

namespace Messaging

def backInto (s : StoreId) (es : List Event) : List Envelope :=
  es.filterMap fun
    | .putBack _ d =>
        if d.store = s then
          some { d.envelope with message := d.envelope.message.markRedelivered }
        else none
    | _ => none

def Event.yields : Event → Bool
  | .putBack .. | .ended _ => true
  | _ => false

section Logs

variable (s : StoreId) (es es' : List Event)

theorem backInto_append : backInto s (es ++ es') = backInto s es ++ backInto s es' :=
  List.filterMap_append

theorem backInto_concerns : backInto s (es.filter (·.concerns s)) = backInto s es := by
  unfold backInto
  rw [List.filterMap_filter]
  refine List.filterMap_congr fun x _ => ?_
  cases x <;> simp [Event.concerns]

end Logs

namespace Provider

/-! ## What is put back -/

section AnyLabels

variable [Labels]

section Returns

variable {s : StoreId} {op : Operation} {w w' : Provider} {es : List Event}

omit [Labels] in
theorem Custody.restored (h : Custody s w es w') (hes : ∀ e ∈ es, e.yields = true) :
    w'.storeAt s =
      { w.storeAt s with pending := (backInto s es).reverse ++ (w.storeAt s).pending } := by
  have hyields : ∀ {events : List Event}, es.filter (·.concerns s) = events →
      ∀ e ∈ events, e.yields = true := by
    rintro events rfl e he
    exact hes e (List.mem_filter.mp he).1
  rw [← backInto_concerns]
  cases h with
  | quiet hstore _ hes' =>
      rw [hes', hstore]
      rfl
  | posted m origin _ _ hes' => cases hyields hes' _ List.mem_cons_self
  | received x session e _ _ _ _ _ _ _ _ _ _ _ hes' => cases hyields hes' _ List.mem_cons_self
  | delivered x session e _ _ _ _ _ _ _ _ _ _ _ hes' => cases hyields hes' _ List.mem_cons_self
  | purged hstore _ hes' =>
      have hlive : ∀ e ∈ (w.storeAt s).pending, e.message.isExpired w.now = false := by
        intro e he
        by_contra hexpired
        have hevent := hyields hes' _ (List.mem_map_of_mem
          (List.mem_filter.mpr ⟨he, by simpa using hexpired⟩))
        cases hevent
      have hnone : w.expirations s = [] := by
        rw [expirations, List.filter_eq_nil_iff.mpr fun e he => by simp [hlive e he]]
        rfl
      rw [hes', hnone, hstore, Store.purge_eq_self hlive]
      rfl
  | settled ds cause hstore _ hes' =>
      have hnone : ds = [] := by
        refine List.eq_nil_iff_forall_not_mem.mpr fun d hd => ?_
        cases hyields hes' _ (List.mem_map_of_mem hd)
      rw [hes', hnone, hstore]
      rfl
  | returned i session d hds _ _ hstore _ hes' =>
      rw [hes', hstore]
      simp [backInto, hds, Store.putBack]

theorem Moves.restored (h : Moves w es w') (hw : w.Coherent) (hes : ∀ e ∈ es, e.yields = true) :
    w'.storeAt s =
      { w.storeAt s with pending := (backInto s es).reverse ++ (w.storeAt s).pending } := by
  induction h with
  | refl => rfl
  | step hs hmove ih =>
      have hfirst := ih fun e he => hes e (List.mem_append_left _ he)
      have hlast := (hmove.custody (hs.coherent hw) s).restored
        fun e he => hes e (List.mem_append_right _ he)
      rw [hlast, hfirst, backInto_append]
      simp

/-- Closing, recovering and rolling back put messages back and do nothing else to stores. -/
theorem yields_of_returns (hop : op.returns = true) : ∀ e ∈ w.events op, e.yields = true := by
  intro e he
  cases mem_events he with
  | kept x hx =>
      cases op with
      | send => cases hop
      | _ => cases hx
  | posted h =>
      cases op with
      | send | commit => cases hop
      | _ => cases h
  | received c hask | browsed c hask => cases op <;> cases hop <;> cases hask
  | acknowledged _ hsame | committed _ _ _ hsame =>
      subst hsame
      cases hop
  | returned t session hs h =>
      obtain ⟨d, -, rfl⟩ := List.mem_map.mp h
      rfl
  | rolledBack t _ _ he | closed t he =>
      subst he
      rfl
  | attached _ _ _ h =>
      obtain ⟨_, _, _, _, _, _, _, rfl, -⟩ := h
      cases hop
  | removed _ _ _ h =>
      obtain ⟨_, _, _, _, rfl, -⟩ := h
      cases hop

theorem storeAt_returns (hw : w.Coherent) (hop : op.returns = true) (s : StoreId) :
    (w.step op).storeAt s =
      { w.storeAt s with
        pending := (backInto s (w.events op)).reverse ++ (w.storeAt s).pending } :=
  (moves_step hw op).restored hw (yields_of_returns hop)

end Returns

/-! ## What is settled -/

structure Settles (m : Message) (i : SessionId) (ds : List Delivery) (w : Provider) : Prop where
  effect : w.acknowledge m =
    (.ok (), w.updateSession i fun x =>
      { x with delivered := x.delivered.filter fun d => !ds.contains d })
  log : w.events (.acknowledge m) =
    ds.map fun d => .settled d.store d.envelope.seq (.acknowledged i)

section Settling

variable {w : Provider} {m : Message} {token : AckToken} {session : Session}
  {connection : Connection}

theorem settles_of_covers (hm : m.ack = some token)
    (hopen : w.openSession token.session = .ok (session, connection)) {ds : List Delivery}
    (hds : (w.deliveriesOf token.session).filter (covers session.mode token.tag) = ds) :
    Settles m token.session ds w := by
  have hs := (openSession_eq_ok.mp hopen).1
  rw [deliveriesOf_eq hs] at hds
  refine ⟨?_, by simp [events, acknowledging, hm, hopen, hds]⟩
  rw [acknowledge_eq hm hopen]
  unfold updateSession
  rw [modify_congr fun y hy => ?_]
  obtain rfl : session = y := Option.some.inj (hs.symm.trans hy)
  have hsame : session.delivered.filter (fun d => !covers session.mode token.tag d) =
      session.delivered.filter fun d => !ds.contains d := by
    refine List.filter_congr fun d hd => ?_
    simp [← hds, hd]
  rw [hsame]

theorem acknowledge_of_closed (hm : m.ack = some token)
    (hclosed : w.sessionClosed token.session = true) :
    (∃ e, w.acknowledge m = (.error e, w) ∧ e.kind = .illegalState) ∧
      w.events (.acknowledge m) = [] := by
  obtain ⟨part, hopen⟩ := openSession_of_closed hclosed
  refine ⟨⟨.closed part, ?_, rfl⟩, by simp [events, acknowledging, hm, hopen]⟩
  simp [acknowledge, hm, check, hopen]

omit [Labels] in
theorem filter_beq_of_nodup {α : Type} [DecidableEq α] {l : List α} (hl : l.Nodup) (a : α) :
    (l.filter fun b => b == a) = if a ∈ l then [a] else [] := by
  rw [List.filter_beq]
  split
  next ha => rw [List.count_eq_one_of_mem hl ha]; rfl
  next ha => rw [List.count_eq_zero_of_not_mem ha]; rfl

end Settling

/-! ## Handles -/

section Handles

variable {ops : List Operation} {x : Step} {h : Handing}

omit [Labels] in
theorem ack_of_explicit (hexplicit : h.session.mode.isExplicit = true) :
    h.message.ack = some ⟨h.consumer.session, h.session.nextTag⟩ :=
  if_pos hexplicit

theorem session_of_handing (hx : x ∈ trace ops {}) (hh : x.handing = some h) :
    ∃ session, (run ops {}).sessions[h.consumer.session]? = some session ∧
      session.mode = h.session.mode := by
  obtain ⟨first, second, rfl, hbefore⟩ := exists_of_mem_trace hx
  rw [Step.handing, hbefore] at hh
  have hs := (handed_of_handing (coherent_run first) hh).session_eq
  obtain ⟨y, hy, hcontinues⟩ :=
    (lasts_run (coherent_run first) (x.operation :: second)).sessions _ _ hs
  exact ⟨y, by rw [run_append]; exact hy, hcontinues.mode⟩

theorem openSession_of_handing (hx : x ∈ trace ops {}) (hh : x.handing = some h)
    (hopen : (run ops {}).sessionClosed h.consumer.session = false) :
    ∃ session connection,
      (run ops {}).openSession h.consumer.session = .ok (session, connection) ∧
        session.mode = h.session.mode := by
  obtain ⟨session, hs, hmode⟩ := session_of_handing hx hh
  rcases sessionClosed_or_open (coherent_run ops).grounded hs with hclosed | ⟨connection, hsession⟩
  · rw [hopen] at hclosed
    cases hclosed
  · exact ⟨session, connection, hsession, hmode⟩

theorem settles_of_client (hx : x ∈ trace ops {}) (hh : x.handing = some h)
    (hmode : h.session.mode = .client) {m : Message} (hm : m.ack = h.message.ack)
    (hopen : (run ops {}).sessionClosed h.consumer.session = false) :
    Settles m h.consumer.session ((run ops {}).deliveriesOf h.consumer.session)
      (run ops {}) := by
  obtain ⟨session, connection, hsession, hsame⟩ := openSession_of_handing hx hh hopen
  rw [ack_of_explicit (by rw [hmode]; rfl)] at hm
  refine settles_of_covers hm hsession (List.filter_eq_self.mpr fun d _ => ?_)
  rw [hsame, hmode]
  rfl

theorem settles_of_individual (hx : x ∈ trace ops {}) (hh : x.handing = some h)
    (hmode : h.session.mode = .individual) {m : Message} (hm : m.ack = h.message.ack)
    (hopen : (run ops {}).sessionClosed h.consumer.session = false) :
    Settles m h.consumer.session
      (if h.delivery ∈ (run ops {}).deliveriesOf h.consumer.session then [h.delivery] else [])
      (run ops {}) := by
  obtain ⟨session, connection, hsession, hsame⟩ := openSession_of_handing hx hh hopen
  rw [ack_of_explicit (by rw [hmode]; rfl)] at hm
  refine settles_of_covers hm hsession ?_
  have hadds := Step.adds_of_handing hh (by rw [hmode]; rfl)
  have hcovers : ∀ d ∈ (run ops {}).deliveriesOf h.consumer.session,
      covers session.mode h.session.nextTag d = (d == h.delivery) := by
    intro d hd
    rw [deliveriesOf_run] at hd
    obtain ⟨y, hy, hyd⟩ := exists_adds_of_mem_keeping hd
    -- among the deliveries of a session a number tells one from the others
    have hiff : d.tag = h.session.nextTag ↔ d = h.delivery :=
      ⟨fun htag => eq_of_tag hy hyd hx hadds htag, fun heq => heq ▸ rfl⟩
    rw [hsame, hmode, covers, Bool.eq_iff_iff, beq_iff_eq, beq_iff_eq, hiff]
  rw [List.filter_congr hcovers, filter_beq_of_nodup]
  rw [deliveriesOf_run]
  exact nodup_keeping _ ops

end Handles

structure Acknowledging (ops : List Operation) : Prop where
  received : ∀ x ∈ trace ops {},
    x.before.received x.operation = x.handing.map Handing.message
  individual : ∀ x ∈ trace ops {}, ∀ h, x.handing = some h → h.session.mode = .individual →
    (run ops {}).sessionClosed h.consumer.session = false →
    ∀ m : Message, m.ack = h.message.ack →
      Settles m h.consumer.session
        (if h.delivery ∈ (run ops {}).deliveriesOf h.consumer.session then [h.delivery] else [])
        (run ops {})
  client : ∀ x ∈ trace ops {}, ∀ h, x.handing = some h → h.session.mode = .client →
    (run ops {}).sessionClosed h.consumer.session = false →
    ∀ m : Message, m.ack = h.message.ack →
      Settles m h.consumer.session ((run ops {}).deliveriesOf h.consumer.session) (run ops {})
  closed : ∀ x ∈ trace ops {}, ∀ h, x.handing = some h → h.session.mode.isExplicit = true →
    (run ops {}).sessionClosed h.consumer.session = true →
    ∀ m : Message, m.ack = h.message.ack → ∀ later,
      (∃ e, (run (ops ++ later) {}).acknowledge m = (.error e, run (ops ++ later) {}) ∧
        e.kind = .illegalState) ∧
      (run (ops ++ later) {}).events (.acknowledge m) = []
  distinct : ∀ i, (((trace ops {}).filterMap (·.adds i)).map (·.tag)).Nodup
  /-- A session holds what it handed out and what was neither covered nor put back since. -/
  outstanding : ∀ i, (run ops {}).deliveriesOf i = keeping i (trace ops {})
  /-- A session puts back what it holds, each delivery once, and at no other time anything. -/
  returned : ∀ op i, returnedBy i ((run ops {}).events op) =
      (if Step.recalls i ⟨op, run ops {}⟩ then (keeping i (trace ops {})).reverse else []) ∧
    (returnedBy i ((run ops {}).events op)).Nodup
  stores : ∀ op s, op.returns = true →
    ((run ops {}).step op).storeAt s =
      { (run ops {}).storeAt s with
        pending := (backInto s ((run ops {}).events op)).reverse ++
          ((run ops {}).storeAt s).pending }

/--
In every run, a handle settles its own delivery or those of its own session, and only as long as
the session holds them; what no handle settled goes back once.
-/
theorem acknowledgement (ops : List Operation) : Acknowledging ops := by
  have hw := coherent_run ops
  have hcoherent : ∀ x ∈ trace ops {}, x.before.Coherent := by
    intro x hx
    obtain ⟨first, -, -, hbefore⟩ := exists_of_mem_trace hx
    exact hbefore ▸ coherent_run first
  refine ⟨fun x hx => received_eq_handing (hcoherent x hx), ?_, ?_, ?_, ?_, ?_, ?_, ?_⟩
  · intro x hx h hh hmode hopen m hm
    exact settles_of_individual hx hh hmode hm hopen
  · intro x hx h hh hmode hopen m hm
    exact settles_of_client hx hh hmode hm hopen
  · intro x hx h hh hexplicit hclosed m hm later
    rw [ack_of_explicit hexplicit] at hm
    rw [run_append]
    exact acknowledge_of_closed hm (sessionClosed_run hw later hclosed)
  · exact fun i => (rising_adds i ops).imp Nat.ne_of_lt
  · exact fun i => deliveriesOf_run i ops
  · intro op i
    have hreturned := returnedBy_events hw op i
    rw [deliveriesOf_run] at hreturned
    refine ⟨hreturned, ?_⟩
    rw [hreturned]
    split
    · exact List.nodup_reverse.mpr (nodup_keeping i ops)
    · exact .nil
  · exact fun op s hop => storeAt_returns hw hop s

end AnyLabels

def staleHandles : List Operation :=
  [.connect ⟨{ text := "vm://local", broker := "local" }, "", ""⟩ "" "" none, .start 0,
    .createSession 0 .individual, .createConsumer 0 ⟨.queue, "jobs"⟩ none false,
    .createSession 0 .client, .createConsumer 1 ⟨.queue, "jobs"⟩ none false,
    .createProducer 0 (some ⟨.queue, "jobs"⟩),
    .send 0 none none (.ofText "one"),
    .send 0 none none (.ofText "two"),
    .receiveNow 0, .recover 0, .receiveNow 0, .receiveNow 1]

theorem acknowledgement_staleHandles :
    (∀ m : Message, m.ack = some ⟨0, 0⟩ → Settles m 0 [] (run staleHandles {})) ∧
    (∃ d ∈ (run staleHandles {}).deliveriesOf 0, d.envelope.seq = 0 ∧
      ∀ m : Message, m.ack = some ⟨0, 1⟩ → Settles m 0 [d] (run staleHandles {})) ∧
    (∀ m : Message, m.ack = some ⟨1, 0⟩ →
      Settles m 1 ((run staleHandles {}).deliveriesOf 1) (run staleHandles {})) ∧
    ((keeping 0 (trace staleHandles {})).map (·.tag) = [1] ∧
      returnedBy 0 ((run staleHandles {}).events (.closeConnection 0)) =
        (keeping 0 (trace staleHandles {})).reverse) ∧
    ∀ m : Message, m.ack = some ⟨1, 0⟩ →
      ∃ e, (run (staleHandles ++ [.closeConnection 0] ++ [.start 0]) {}).acknowledge m =
        (.error e, run (staleHandles ++ [.closeConnection 0] ++ [.start 0]) {}) ∧
          e.kind = .illegalState := by
  have hheld := acknowledgement staleHandles
  have hclosed := acknowledgement (staleHandles ++ [.closeConnection 0])
  have hfirst : ∃ x ∈ trace staleHandles {}, ∃ h ∈ x.handing, h.session.mode = .individual ∧
      h.consumer.session = 0 ∧ h.message.ack = some ⟨0, 0⟩ ∧
      h.delivery ∉ (run staleHandles {}).deliveriesOf 0 := by decide +kernel
  have hagain : ∃ x ∈ trace staleHandles {}, ∃ h ∈ x.handing, h.session.mode = .individual ∧
      h.consumer.session = 0 ∧ h.message.ack = some ⟨0, 1⟩ ∧ h.delivery.envelope.seq = 0 ∧
      h.delivery ∈ (run staleHandles {}).deliveriesOf 0 := by decide +kernel
  have hother : ∃ x ∈ trace staleHandles {}, ∃ h ∈ x.handing, h.session.mode = .client ∧
      h.consumer.session = 1 ∧ h.message.ack = some ⟨1, 0⟩ := by decide +kernel
  have hlate : ∃ x ∈ trace (staleHandles ++ [.closeConnection 0]) {}, ∃ h ∈ x.handing,
      h.session.mode.isExplicit = true ∧ h.consumer.session = 1 ∧
      h.message.ack = some ⟨1, 0⟩ := by decide +kernel
  refine ⟨?_, ?_, ?_, ⟨by decide +kernel, ?_⟩, ?_⟩
  · obtain ⟨x, hx, h, hh, hmode, hs, hack, hgone⟩ := hfirst
    intro m hm
    have hsettles := hheld.individual x hx h hh hmode (by rw [hs]; decide +kernel) m
      (hm.trans hack.symm)
    rwa [hs, if_neg hgone] at hsettles
  · obtain ⟨x, hx, h, hh, hmode, hs, hack, hseq, hmem⟩ := hagain
    refine ⟨h.delivery, hmem, hseq, fun m hm => ?_⟩
    have hsettles := hheld.individual x hx h hh hmode (by rw [hs]; decide +kernel) m
      (hm.trans hack.symm)
    rwa [hs, if_pos hmem] at hsettles
  · obtain ⟨x, hx, h, hh, hmode, hs, hack⟩ := hother
    intro m hm
    have hsettles := hheld.client x hx h hh hmode (by rw [hs]; decide +kernel) m
      (hm.trans hack.symm)
    rwa [hs] at hsettles
  · rw [(hheld.returned (.closeConnection 0) 0).1]
    exact if_pos (by decide +kernel)
  · obtain ⟨x, hx, h, hh, hmode, hs, hack⟩ := hlate
    intro m hm
    exact (hclosed.closed x hx h hh hmode (by rw [hs]; decide +kernel) m
      (hm.trans hack.symm) [.start 0]).1

end Provider

end Messaging
