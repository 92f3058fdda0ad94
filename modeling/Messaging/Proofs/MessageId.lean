import Mathlib.Data.List.Induction
import Messaging.Proofs.Run.Numbering
import Messaging.Proofs.Run.Origin
import Messaging.Proofs.Run.Standing
import Messaging.Proofs.Run.Temporary

/-!
# Message ids

A message id is the label of a connection with three numbers after it, which can be read back.  So
two sends of a run stamp different ids, whatever became of their producers, sessions, connections
and brokers, and of the sends themselves.
-/

namespace Messaging

def Stamp.id (naming : ConnectionId → String) (k : Stamp) : String :=
  Provider.messageId (naming k.connection) k.session k.producer k.seq

def Step.stampedId? (x : Step) : Option String :=
  match x.operation with
  | .send p requested q m =>
    match x.before.prepare p requested (x.before.qualityOf p q) m with
    | .error _ => none
    | .ok (producer, _, m) =>
      if producer.config.disableMessageId then none else some m.headers.messageId
  | _ => none

namespace Provider

def labelOf (w : Provider) (c : ConnectionId) : String := (w.connections[c]?.map (·.label)).getD ""

def stamps [Labels] (ops : List Operation) : List Stamp := (trace ops {}).filterMap Step.stamp?

/-! ## Reading ids back -/

theorem messageId_inj {l l' : String} {s s' p p' n n' : Nat}
    (h : messageId l s p n = messageId l' s' p' n') : l = l' ∧ s = s' ∧ p = p' ∧ n = n' := by
  obtain ⟨hproducer, hn⟩ := temporaryName_inj h
  obtain ⟨hsession, hp⟩ := temporaryName_inj hproducer
  obtain ⟨hl, hs⟩ := temporaryName_inj hsession
  exact ⟨hl, hs, hp, hn⟩

theorem nodup_ids {naming : ConnectionId → String} {count : Nat}
    (hnaming : ∀ c < count, ∀ d < count, naming c = naming d → c = d) {ks : List Stamp}
    (hks : ks.Nodup) (hcount : ∀ k ∈ ks, k.connection < count) :
    (ks.map (Stamp.id naming)).Nodup := by
  refine List.Nodup.map_on ?_ hks
  intro k hk k' hk' heq
  obtain ⟨hname, hsession, hproducer, hseq⟩ := messageId_inj heq
  have hconnection := hnaming _ (hcount k hk) _ (hcount k' hk') hname
  cases k
  cases k'
  simp_all

/-! ## Stamps of a run -/

/-- What the numbers of a provider say about the stamps of the run that led to it. -/
structure Accounts (ks : List Stamp) (w : Provider) : Prop where
  sound : w.numbering.Sound
  within : w.numbering.Within ks.length
  used : ∀ k ∈ ks, w.numbering.Used k
  nodup : ks.Nodup

theorem Accounts.init : Accounts [] {} := by
  refine ⟨⟨⟨?_, ?_⟩, ⟨?_, ?_⟩⟩, ⟨?_, ?_, ?_⟩, ?_, ?_⟩ <;> simp [numbering]

section AnyLabels

variable [Labels]

theorem Accounts.step {ks : List Stamp} {w : Provider} (h : Accounts ks w) (hw : w.Coherent)
    (op : Operation) : Accounts (ks ++ (Step.stamp? ⟨op, w⟩).toList) (w.step op) := by
  have hnext := numbering_step hw op
  have hused : ∀ k ∈ ks, (w.step op).numbering.Used k := fun k hk => hnext.used (h.used k hk)
  refine ⟨hnext.sound h.sound, ?_, ?_, ?_⟩
  · rw [List.length_append]
    exact hnext.within h.within
  · cases hstamp : Step.stamp? ⟨op, w⟩ with
    | none => simpa using hused
    | some k =>
        rw [hstamp] at hnext
        have hk := (hnext.stamp_fresh h.sound).2
        intro k' hk'
        rcases List.mem_append.mp hk' with hk' | hk'
        · exact hused k' hk'
        · rwa [List.mem_singleton.mp hk']
  · cases hstamp : Step.stamp? ⟨op, w⟩ with
    | none => simpa using h.nodup
    | some k =>
        rw [hstamp] at hnext
        have hfresh := (hnext.stamp_fresh h.sound).1
        refine List.nodup_append.mpr ⟨h.nodup, by simp, ?_⟩
        rintro k' hk' _ hk rfl
        rw [List.mem_singleton.mp hk] at hk'
        exact hfresh (h.used k hk')

theorem accounts_run (ops : List Operation) : Accounts (stamps ops) (run ops {}) := by
  induction ops using List.reverseRecOn with
  | nil => exact .init
  | append_singleton ops op ih =>
      have hstep := ih.step (coherent_run ops) op
      have hstamps : stamps (ops ++ [op]) =
          stamps ops ++ (Step.stamp? ⟨op, run ops {}⟩).toList := by
        unfold stamps
        rw [trace_concat, List.filterMap_append]
        cases h : Step.stamp? ⟨op, run ops {}⟩ <;> simp [h]
      rw [hstamps, run_append]
      exact hstep

/-! ## Labels -/

theorem tenanted_run (ops : List Operation) : (run ops {}).Tenanted :=
  (moves_run ops).keeps (fun hmove hw => hmove.tenanted hw) .init

theorem labelOf_inj {w : Provider} (hw : w.Tenanted) :
    ∀ c < w.connections.length, ∀ d < w.connections.length, w.labelOf c = w.labelOf d → c = d := by
  intro c hc d hd h
  apply place_eq_of_nodup hw.distinct (List.getElem?_eq_getElem hc) (List.getElem?_eq_getElem hd)
  simpa [labelOf, hc, hd] using h

theorem labelOf_run {w : Provider} (hw : w.Coherent) (ops : List Operation) {c : ConnectionId}
    {x : Connection} (hc : w.connections[c]? = some x) : (w.run ops).labelOf c = x.label := by
  obtain ⟨y, hy, hxy⟩ := (stands_run hw ops).connections c x hc
  simp [labelOf, hy, hxy.label]

theorem stampedId?_eq {ops : List Operation} {x : Step} (hx : x ∈ trace ops {}) :
    x.stampedId? = x.stamp?.map (Stamp.id (run ops {}).labelOf) := by
  obtain ⟨first, second, hops, hbefore⟩ := exists_of_mem_trace hx
  have hcoherent : x.before.Coherent := hbefore ▸ coherent_run first
  have hrun : run ops {} = x.before.run (x.operation :: second) := by
    rw [hops, run_append, hbefore]
  rw [hrun]
  obtain ⟨op, w⟩ := x
  cases op with
  | send p requested q m =>
      unfold Step.stampedId? Step.stamp?
      dsimp only at hcoherent ⊢
      cases hprepare : w.prepare p requested (w.qualityOf p q) m with
      | error e => rfl
      | ok prepared =>
          obtain ⟨producer, d, m'⟩ := prepared
          obtain ⟨-, session, connection, hs, hc, rfl⟩ := prepare_stamps hprepare
          have hlabel := labelOf_run hcoherent (.send p requested q m :: second) hc
          cases hdisabled : producer.config.disableMessageId with
          | true => simp [hdisabled]
          | false =>
              rw [run_cons] at hlabel
              simp [stamp, Stamp.id, hs, hlabel, hdisabled]
  | _ => rfl

end AnyLabels

/-! ## Sends -/

theorem sent_stamped {p : ProducerId} {requested : Option Destination} {q : Option Quality}
    {m : Message} (w : Provider) :
    ∃ sent, Step.sent ⟨.send p requested q m, w⟩ = some sent ∧
      match Step.stampedId? ⟨.send p requested q m, w⟩ with
      | some id => sent.headers.messageId = id
      | none => sent = m ∨ sent.headers.messageId = "" := by
  unfold Step.sent Step.stampedId? send
  dsimp only
  cases hprepare : w.prepare p requested (w.qualityOf p q) m with
  | error e => exact ⟨m, rfl, .inl rfl⟩
  | ok prepared =>
      obtain ⟨producer, d, m'⟩ := prepared
      obtain ⟨-, session, connection, -, -, rfl⟩ := prepare_stamps hprepare
      refine ⟨_, rfl, ?_⟩
      cases hdisabled : producer.config.disableMessageId with
      | true => simp [stamp, hdisabled]
      | false => simp [hdisabled]

/--
No two sends of a run stamp the same id, whatever the connections are called as long as no two have
one name; and the numbers in the ids are no more than there are sessions, producers and stamps.
-/
theorem messageIds_distinct [Labels] (ops : List Operation) :
    ((trace ops {}).filterMap Step.stampedId?).Nodup ∧
      (∀ naming : ConnectionId → String,
        (∀ c < (run ops {}).connections.length, ∀ d < (run ops {}).connections.length,
          naming c = naming d → c = d) →
        ((stamps ops).map (Stamp.id naming)).Nodup) ∧
      (∀ k ∈ stamps ops, k.session ≤ (run ops {}).sessions.length ∧
        k.producer ≤ (run ops {}).producers.length ∧ k.seq ≤ (stamps ops).length) ∧
      ∀ x ∈ trace ops {}, x.stampedId? = x.stamp?.map (Stamp.id (run ops {}).labelOf) ∧
        ∀ p requested q m, x.operation = .send p requested q m →
          ∃ sent, x.sent = some sent ∧
            match x.stampedId? with
            | some id => sent.headers.messageId = id
            | none => sent = m ∨ sent.headers.messageId = "" := by
  have haccounts := accounts_run ops
  have hbounds : ∀ k ∈ stamps ops, _ := fun k hk =>
    (haccounts.used k hk).bounds haccounts.sound haccounts.within
  have hplaces : ∀ k ∈ stamps ops, k.connection < (run ops {}).connections.length := by
    intro k hk
    simpa [numbering] using (hbounds k hk).1
  have hids : (trace ops {}).filterMap Step.stampedId? =
      (stamps ops).map (Stamp.id (run ops {}).labelOf) := by
    unfold stamps
    rw [List.map_filterMap]
    exact List.filterMap_congr fun x hx => stampedId?_eq hx
  refine ⟨?_, ?_, ?_, ?_⟩
  · rw [hids]
    exact nodup_ids (labelOf_inj (tenanted_run ops)) haccounts.nodup hplaces
  · exact fun naming hnaming => nodup_ids hnaming haccounts.nodup hplaces
  · intro k hk
    simpa [numbering] using (hbounds k hk).2
  · intro x hx
    refine ⟨stampedId?_eq hx, ?_⟩
    intro p requested q m hop
    obtain ⟨op, w⟩ := x
    cases hop
    exact sent_stamped w

def resending : List Operation :=
  [.connect ⟨{ text := "vm://local", broker := "local" }, "", ""⟩ "" "" none,
    .createSession 0 .auto, .createProducer 0 none,
    .send 0 (some ⟨.queue, "orders"⟩) (some ⟨.persistent, 4, 0⟩) (.ofText "one"),
    .send 0 (some ⟨.temporaryQueue, "gone"⟩) (some ⟨.persistent, 4, 0⟩) (.ofText "two"),
    .send 0 (some ⟨.queue, "orders"⟩) (some ⟨.persistent, 4, 0⟩) (.ofText "three"), .shutdown,
    .connect ⟨{ text := "vm://local", broker := "local" }, "", ""⟩ "" "" none,
    .createSession 1 .auto, .createProducer 1 none,
    .send 1 (some ⟨.queue, "orders"⟩) (some ⟨.persistent, 4, 0⟩) (.ofText "one")]

theorem messageIds_distinct_resending :
    (trace resending {}).filterMap Step.stampedId? =
        ["ID:000000000000000000000001:1:1:1", "ID:000000000000000000000001:1:1:2",
          "ID:000000000000000000000001:1:1:3", "ID:000000000000000000000002:1:1:1"] ∧
      ((run (resending.take 4) {}).send 0 (some ⟨.temporaryQueue, "gone"⟩) ⟨.persistent, 4, 0⟩
        (.ofText "two")).1.result = .error (.deleted ⟨.temporaryQueue, "gone"⟩) ∧
      ((stamps resending).map (Stamp.id fun c => if c = 0 then "ID" else "ID:1")).Nodup := by
  obtain ⟨-, hnaming, -⟩ := messageIds_distinct resending
  have hcount : (run resending {}).connections.length = 2 := by decide +kernel
  refine ⟨by decide +kernel, by decide +kernel, hnaming _ ?_⟩
  rw [hcount]
  decide

end Provider

end Messaging
