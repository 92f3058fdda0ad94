import Messaging.Proofs.Run.Holding
import Messaging.Proofs.Run.Origin

/-!
# Redelivery

A session marks what it puts back, and nothing takes the mark away.  Sending does not take it away
either: a message that its sender had marked, as a message that was received twice and sent on, is
marked when it is received for the first time.
-/

namespace Messaging

def returnedTo (s : StoreId) (log : List Event) : List Nat :=
  log.filterMap fun
    | .putBack _ d => if d.store = s then some d.envelope.seq else none
    | _ => none

section Logs

variable (s : StoreId) (log es : List Event)

@[simp] theorem returnedTo_append :
    returnedTo s (log ++ es) = returnedTo s log ++ returnedTo s es :=
  List.filterMap_append

theorem returnedTo_concerns : returnedTo s (es.filter (·.concerns s)) = returnedTo s es := by
  unfold returnedTo
  rw [List.filterMap_filter]
  refine List.filterMap_congr fun x _ => ?_
  cases x <;> simp [Event.concerns]

theorem returnedTo_map_settled {α : Type} (f : α → Nat) (cause : Cause) (xs : List α) :
    returnedTo s (xs.map fun x => .settled s (f x) cause) = [] := by
  induction xs with
  | nil => rfl
  | cons x xs ih => exact ih

end Logs

namespace Provider

section Moves

variable {s : StoreId} {log es : List Event} {w w' : Provider}

theorem Custody.members (h : Custody s w es w') :
    ((∀ e ∈ w'.custody s, e ∈ w.custody s) ∧ postsTo s es = [] ∧ returnedTo s es = []) ∨
    (∃ m origin, (∀ e ∈ w'.custody s,
        e ∈ w.custody s ∨ e = ⟨(w.storeAt s).nextSeq, m, origin⟩) ∧
      postsTo s es = [(m, origin)] ∧ returnedTo s es = []) ∨
    ∃ (d : Delivery) (rest : List Envelope), (w.custody s).Perm (d.envelope :: rest) ∧
      w'.custody s =
        { d.envelope with message := d.envelope.message.markRedelivered } :: rest ∧
      postsTo s es = [] ∧ returnedTo s es = [d.envelope.seq] := by
  rw [← postsTo_concerns, ← returnedTo_concerns]
  unfold custody
  cases h with
  | quiet hstore hheld hes =>
      refine .inl ⟨fun e he => ?_, by rw [hes]; rfl, by rw [hes]; rfl⟩
      rw [hstore] at he
      exact ((hheld.map _).append_left _).mem_iff.mpr he
  | posted m origin hstore hheld hes =>
      refine .inr (.inl ⟨m, origin, fun e he => ?_, by simp [hes, postsTo], by rw [hes]; rfl⟩)
      rw [hstore, hheld] at he
      simp only [Store.push] at he
      grind
  | purged hstore hheld hes =>
      refine .inl ⟨fun e he => ?_, ?_, ?_⟩
      · rw [hstore, hheld] at he
        refine List.mem_append.mpr ((List.mem_append.mp he).imp_left fun h => ?_)
        exact (List.mem_filter.mp h).1
      · rw [hes]
        exact postsTo_map_settled s _ _ _
      · rw [hes]
        exact returnedTo_map_settled s _ _ _
  | received x session e before after _ _ _ _ _ _ hpending hstore hheld hes =>
      refine .inl ⟨fun v hv => ?_, by rw [hes]; rfl, by rw [hes]; rfl⟩
      rw [hstore, hheld] at hv
      rw [hpending]
      grind
  | delivered x session e before after tag _ _ _ _ _ hpending hstore hheld hes =>
      refine .inl ⟨fun v hv => ?_, by rw [hes]; rfl, by rw [hes]; rfl⟩
      have hheld := (hheld.map (·.envelope)).mem_iff (a := v)
      rw [hstore] at hv
      rw [hpending]
      grind
  | settled ds cause hstore hheld hes =>
      refine .inl ⟨fun v hv => ?_, ?_, ?_⟩
      · have hheld := (hheld.map (·.envelope)).mem_iff (a := v)
        rw [hstore] at hv
        grind
      · rw [hes]
        exact postsTo_map_settled s _ _ _
      · rw [hes]
        exact returnedTo_map_settled s _ _ _
  | returned i session d hds _ _ hstore hheld hes =>
      refine .inr (.inr ⟨d, (w.storeAt s).pending ++ (w'.outstanding s).map (·.envelope), ?_, ?_,
        by rw [hes]; rfl, by simp [hes, returnedTo, hds]⟩)
      · exact ((hheld.map _).append_left _).trans List.perm_middle
      · rw [hstore]
        rfl

/-- A message is marked if its sender marked it, or a session put it back. -/
structure Marked (s : StoreId) (log : List Event) (w : Provider) : Prop where
  conserved : Conserved s log w
  marks : ∀ e ∈ w.custody s, ∀ m, (postsTo s log)[e.seq]? = some (m, e.origin) →
    (e.message.headers.redelivered = true ↔
      m.headers.redelivered = true ∨ e.seq ∈ returnedTo s log)
  known : ∀ n ∈ returnedTo s log, n < (postsTo s log).length

theorem Marked.step (h : Marked s log w) (hmove : Custody s w es w') : Marked s (log ++ es) w' := by
  have hconserved := h.conserved.step hmove
  have hlt : ∀ e ∈ w.custody s, e.seq < (postsTo s log).length := by
    intro e he
    obtain ⟨m, hm, -⟩ := h.conserved.copies e he
    exact (List.getElem?_eq_some_iff.mp hm).1
  rcases hmove.members with ⟨hkept, hposts, hreturned⟩ | ⟨m, origin, hkept, hposts, hreturned⟩ |
    ⟨d, rest, hbefore, hafter, hposts, hreturned⟩
  · refine ⟨hconserved, ?_, ?_⟩ <;>
      rw [postsTo_append, returnedTo_append, hposts, hreturned, List.append_nil, List.append_nil]
    · exact fun e he => h.marks e (hkept e he)
    · exact h.known
  · refine ⟨hconserved, ?_, ?_⟩ <;>
      rw [postsTo_append, returnedTo_append, hposts, hreturned, List.append_nil]
    · intro e he m' hm'
      rcases hkept e he with he | rfl
      · rw [List.getElem?_append_left (hlt e he)] at hm'
        exact h.marks e he m' hm'
      · -- nothing with a new number was put back yet
        rw [h.conserved.numbered, List.getElem?_concat_length] at hm'
        obtain ⟨rfl, -⟩ := Prod.mk.inj (Option.some.inj hm')
        have hnew : (w.storeAt s).nextSeq ∉ returnedTo s log := fun hmem =>
          Nat.ne_of_lt (h.known _ hmem) h.conserved.numbered
        simp [hnew]
    · intro n hn
      have hn := h.known n hn
      rw [List.length_append]
      omega
  · have hnodup : ((d.envelope :: rest).map (·.seq)).Nodup := by
      have hplaces := h.conserved.nodup
      exact (hbefore.map _).nodup_iff.mp (List.nodup_append.mp hplaces).1
    have hmem := fun e => hbefore.mem_iff (a := e)
    refine ⟨hconserved, ?_, ?_⟩ <;>
      rw [postsTo_append, returnedTo_append, hposts, hreturned, List.append_nil]
    · rw [hafter]
      intro e he m hm
      rcases List.mem_cons.mp he with rfl | he
      · simp [Message.markRedelivered]
      · have hne : e.seq ≠ d.envelope.seq := fun heq =>
          (List.nodup_cons.mp hnodup).1 (List.mem_map.mpr ⟨e, he, heq⟩)
        have hold := h.marks e ((hmem e).mpr (List.mem_cons_of_mem _ he)) m hm
        simpa [hne] using hold
    · intro n hn
      rcases List.mem_append.mp hn with hn | hn
      · exact h.known n hn
      · rw [List.mem_singleton.mp hn]
        exact hlt _ ((hmem _).mpr List.mem_cons_self)

end Moves

section AnyLabels

variable [Labels]

theorem marked_run (s : StoreId) (ops : List Operation) : Marked s (log ops {}) (run ops {}) := by
  refine keeps_run ⟨.init s, ?_, ?_⟩ (fun hmove hw h => h.step (hmove.custody hw s)) ops
  · simp [custody, storeAt, outstanding]
  · simp [returnedTo]

/-! ## Deliveries -/

section Runs

variable {s : StoreId} {seq : Nat} {ops : List Operation} {i : SessionId} {d : Delivery}

theorem mem_log {w : Provider} {e : Event} :
    e ∈ w.log ops ↔
      ∃ first op second, ops = first ++ op :: second ∧ e ∈ (w.run first).events op := by
  unfold log
  rw [List.mem_flatMap]
  constructor
  · rintro ⟨x, hx, he⟩
    obtain ⟨first, second, hops, hbefore⟩ := exists_of_mem_trace hx
    exact ⟨first, x.operation, second, hops, hbefore ▸ he⟩
  · rintro ⟨first, op, second, rfl, he⟩
    refine ⟨⟨op, w.run first⟩, ?_, he⟩
    rw [trace_append]
    exact List.mem_append_right _ List.mem_cons_self

theorem handedOut_of_heldBy (hd : d ∈ (run ops {}).heldBy i s) :
    ∃ x, .handedOut x d.envelope ∈ log ops {} ∧ x.session = i ∧ x.store = s := by
  refine keeps_run (P := fun es w => ∀ d ∈ w.heldBy i s,
    ∃ x, .handedOut x d.envelope ∈ es ∧ x.session = i ∧ x.store = s) ?_ ?_ ops d hd
  · simp [heldBy, deliveriesOf]
  · intro w w' es past hmove hw hpast d hd
    have hold : d ∈ w.heldBy i s →
        ∃ x, .handedOut x d.envelope ∈ past ++ es ∧ x.session = i ∧ x.store = s := by
      intro hd
      obtain ⟨x, hx, hsame⟩ := hpast d hd
      exact ⟨x, List.mem_append_left _ hx, hsame⟩
    cases hmove.holding hw i s with
    | thinned hheld => exact hold (hheld.subset hd)
    | posted _ _ hheld => exact hold (hheld ▸ hd)
    | delivered x session e before after tag hxi hxs _ _ _ _ _ hheld hes =>
        rw [hheld] at hd
        rcases List.mem_append.mp hd with hd | hd
        · exact hold hd
        · rw [List.mem_singleton.mp hd]
          exact ⟨x, List.mem_append_right _ hes, hxi, hxs⟩
    | returned d' hheld => exact hold (by simp [hheld, hd])
    | elsewhere _ _ _ _ hheld => exact hold (hheld ▸ hd)

theorem handed_of_heldBy (hd : d ∈ (run ops {}).heldBy i s) :
    ∃ first op second h, ops = first ++ op :: second ∧ (run first {}).Handed op h ∧
      h.consumer.session = i ∧ h.consumer.store = s ∧ h.envelope = d.envelope ∧
      h.session.mode.isTracked = true := by
  obtain ⟨x, hx, hxi, hxs⟩ := handedOut_of_heldBy hd
  obtain ⟨first, op, second, rfl, hevent⟩ := mem_log.mp hx
  obtain ⟨session, hh⟩ := handing_of_handedOut hevent
  have hhanded := handed_of_handing (coherent_run first) hh
  refine ⟨first, op, second, _, rfl, hhanded, hxi, hxs, rfl, ?_⟩
  obtain ⟨y, hy, hcontinues⟩ :=
    (lasts_run (coherent_run first) (op :: second)).sessions _ _ hhanded.session_eq
  rw [← run_append, hxi] at hy
  have hdelivered : d ∈ y.delivered := deliveriesOf_eq hy ▸ (List.mem_filter.mp hd).1
  have htracked := ((coherent_run _).cascading.sound y (List.mem_of_getElem? hy)).tracked
    (List.ne_nil_of_mem hdelivered)
  exact hcontinues.mode ▸ htracked

end Runs

/-- In a run, a session got a message of a store and kept it, and later put it back. -/
def WasReturned (s : StoreId) (seq : Nat) (ops : List Operation) : Prop :=
  ∃ first got middle back last h d,
    ops = first ++ got :: middle ++ back :: last ∧
    (run first {}).Handed got h ∧ h.session.mode.isTracked = true ∧
    h.consumer.store = s ∧ h.envelope.seq = seq ∧
    d ∈ (run (first ++ got :: middle) {}).heldBy h.consumer.session s ∧ d.envelope = h.envelope ∧
    Step.recalls h.consumer.session ⟨back, run (first ++ got :: middle) {}⟩ = true

theorem mem_returnedTo_iff {s : StoreId} {seq : Nat} {ops : List Operation} :
    seq ∈ returnedTo s (log ops {}) ↔ WasReturned s seq ops := by
  constructor
  · intro hmem
    obtain ⟨e, he, hseq⟩ := List.mem_filterMap.mp hmem
    obtain ⟨before, back, last, rfl, hevent⟩ := mem_log.mp he
    cases e with
    | putBack i d =>
        simp only at hseq
        split at hseq
        next hds =>
          obtain ⟨hrecalls, hd⟩ := (putBack_mem_events (coherent_run before)).mp hevent
          have hheld : d ∈ (run before {}).heldBy i s :=
            List.mem_filter.mpr ⟨hd, by simpa using hds⟩
          obtain ⟨first, got, middle, h, rfl, hh, rfl, hs, henvelope, htracked⟩ :=
            handed_of_heldBy hheld
          exact ⟨first, got, middle, back, last, h, d, rfl, hh, htracked, hs,
            henvelope ▸ Option.some.inj hseq, hheld, henvelope.symm, hrecalls⟩
        next => cases hseq
    | _ => cases hseq
  · rintro ⟨first, got, middle, back, last, h, d, rfl, -, -, hs, rfl, hheld, henvelope, hrecalls⟩
    obtain ⟨hd, hds⟩ := List.mem_filter.mp hheld
    have hevent := (putBack_mem_events (coherent_run _)).mpr ⟨hrecalls, hd⟩
    refine List.mem_filterMap.mpr ⟨_, mem_log.mpr ⟨_, back, last, rfl, hevent⟩, ?_⟩
    have hds : d.store = s := by simpa using hds
    simp [hds, henvelope]

/--
In every run, a message that a consumer returns bears the mark of a redelivery if and only if its
sender had marked it, or a session had got this message of the store before and put it back.
-/
theorem redelivered_iff (ops : List Operation) (op : Operation) (m : Message)
    (hm : (run ops {}).received op = some m) :
    ∃ h p x sent, (run ops {}).handing op = some h ∧ m = h.message ∧
      arrival h.consumer.store h.envelope.seq (trace ops {}) = some p ∧
      (trace ops {})[p.send]? = some x ∧ x.sent = some sent ∧
      (m.headers.redelivered = true ↔ sent.headers.redelivered = true ∨
        WasReturned h.consumer.store h.envelope.seq ops) := by
  rw [received_eq_handing (coherent_run ops)] at hm
  obtain ⟨h, hh, rfl⟩ := Option.map_eq_some_iff.mp hm
  have hmem : h.envelope ∈ (run ops {}).custody h.consumer.store :=
    List.mem_append_left _ (handed_of_handing (coherent_run ops) hh).live.1
  have hmarked := marked_run h.consumer.store ops
  obtain ⟨m, hm, -⟩ := hmarked.conserved.copies _ hmem
  obtain ⟨p, hp, hpm, -⟩ := arrival_of_copies hm
  obtain ⟨x, sent, hx, hsent, hmessage⟩ := sent_of_mem_ledger (mem_ledger_of_arrival hp).1
  refine ⟨h, p, x, sent, hh, rfl, hp, hx, hsent, ?_⟩
  have hflag : m.headers.redelivered = sent.headers.redelivered := by
    rw [← hpm, hmessage]
    rfl
  rw [← mem_returnedTo_iff, ← hflag]
  exact hmarked.marks _ hmem m hm

end AnyLabels

def recoveringClient : List Operation :=
  [.connect ⟨{ text := "vm://local", broker := "local" }, "", ""⟩ "" "" none, .start 0,
    .createSession 0 .client, .createConsumer 0 ⟨.queue, "jobs"⟩ none false,
    .createConsumer 0 ⟨.queue, "done"⟩ none false, .createProducer 0 none,
    .send 0 (some ⟨.queue, "jobs"⟩) (some ⟨.persistent, 4, 0⟩) (.ofText "one"), .receiveNow 0,
    .recover 0]

def again : Message := ((run recoveringClient {}).received (.receiveNow 0)).getD .plain

theorem redelivered_iff_recoveringClient :
    ∃ m h p x sent, (run recoveringClient {}).received (.receiveNow 0) = some m ∧
      (run recoveringClient {}).handing (.receiveNow 0) = some h ∧ m = h.message ∧
      arrival h.consumer.store h.envelope.seq (trace recoveringClient {}) = some p ∧
      (trace recoveringClient {})[p.send]? = some x ∧ x.sent = some sent ∧
      (m.headers.redelivered = true ↔ sent.headers.redelivered = true ∨
        WasReturned h.consumer.store h.envelope.seq recoveringClient) ∧
      m.headers.redelivered = true ∧ returnedTo 0 (log recoveringClient {}) = [0] := by
  have hagain : (run recoveringClient {}).received (.receiveNow 0) = some again := by
    decide +kernel
  obtain ⟨h, p, x, sent, hh, hm, hp, hx, hsent, hiff⟩ :=
    redelivered_iff recoveringClient (.receiveNow 0) again hagain
  exact ⟨again, h, p, x, sent, hagain, hh, hm, hp, hx, hsent, hiff, by decide, by decide⟩

def sendingOn : List Operation :=
  recoveringClient ++
    [.receiveNow 0, .send 0 (some ⟨.queue, "done"⟩) (some ⟨.persistent, 4, 0⟩) again]

/-- What was sent on was never received before, and is marked. -/
theorem marked_before_receipt :
    ∃ h, (run sendingOn {}).received (.receiveNow 1) = some h.message ∧
      (run sendingOn {}).handing (.receiveNow 1) = some h ∧
      h.message.headers.redelivered = true ∧
      ¬ WasReturned h.consumer.store h.envelope.seq sendingOn := by
  refine ⟨_, rfl, rfl, by decide, ?_⟩
  rw [← mem_returnedTo_iff]
  decide

end Provider

end Messaging
