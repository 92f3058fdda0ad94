import Messaging.Proofs.Run.Custody

/-!
# Conservation of messages

A message that is put into a store stays in one place until it is settled: it is pending in the
store, or one session holds it.  The numbers of the store tell the messages apart.
-/

namespace Messaging

def Envelope.Copies (e : Envelope) (posts : List (Message × ConnectionId)) : Prop :=
  ∃ m, posts[e.seq]? = some (m, e.origin) ∧ (e.message = m ∨ e.message = m.markRedelivered)

namespace Provider

/-- All that is left of a store: what is pending and what sessions hold. -/
def custody (s : StoreId) (w : Provider) : List Envelope :=
  (w.storeAt s).pending ++ (w.outstanding s).map (·.envelope)

structure Conserved (s : StoreId) (log : List Event) (w : Provider) : Prop where
  numbered : (w.storeAt s).nextSeq = (postsTo s log).length
  places : ((w.custody s).map (·.seq) ++ settledIn s log).Perm
    (List.range (postsTo s log).length)
  copies : ∀ e ∈ w.custody s, e.Copies (postsTo s log)

theorem Conserved.nodup {s : StoreId} {log : List Event} {w : Provider} (h : Conserved s log w) :
    ((w.custody s).map (·.seq) ++ settledIn s log).Nodup :=
  h.places.nodup_iff.mpr List.nodup_range

end Provider

namespace Provider

/-! ## Steps of a store -/

section Steps

variable {s : StoreId} {log es : List Event} {w w' : Provider}

theorem Conserved.shift (h : Conserved s log w)
    (hnext : (w'.storeAt s).nextSeq = (w.storeAt s).nextSeq) (hposts : postsTo s es = [])
    (hplaces : ((w'.custody s).map (·.seq) ++ settledIn s es).Perm ((w.custody s).map (·.seq)))
    (hcopies : ∀ e' ∈ w'.custody s, ∃ e ∈ w.custody s, e'.seq = e.seq ∧ e'.origin = e.origin ∧
      (e'.message = e.message ∨ e'.message = e.message.markRedelivered)) :
    Conserved s (log ++ es) w' := by
  constructor
  · rw [hnext, h.numbered, postsTo_append, hposts, List.append_nil]
  · rw [settledIn_append, postsTo_append, hposts, List.append_nil]
    refine .trans ?_ h.places
    refine .trans ?_ (hplaces.append_right _)
    rw [List.append_assoc]
    exact List.perm_append_comm.append_left _
  · rw [postsTo_append, hposts, List.append_nil]
    intro e' he'
    obtain ⟨e, he, hseq, horigin, hmessage⟩ := hcopies e' he'
    obtain ⟨m, hm, hcopy⟩ := h.copies e he
    refine ⟨m, by rw [hseq, horigin]; exact hm, ?_⟩
    rcases hmessage with hmessage | hmessage <;> rcases hcopy with hcopy | hcopy
    · exact .inl (hmessage.trans hcopy)
    · exact .inr (hmessage.trans hcopy)
    · exact .inr (by rw [hmessage, hcopy])
    · exact .inr (by rw [hmessage, hcopy]; rfl)

theorem Conserved.post (h : Conserved s log w) {m : Message} {origin : ConnectionId}
    (hstore : w'.storeAt s = (w.storeAt s).push m origin)
    (hheld : w'.outstanding s = w.outstanding s) (hposts : postsTo s es = [(m, origin)])
    (hsettled : settledIn s es = []) : Conserved s (log ++ es) w' := by
  have hcustody : (w'.custody s).Perm
      (w.custody s ++ [⟨(postsTo s log).length, m, origin⟩]) := by
    unfold custody
    rw [hstore, hheld, ← h.numbered]
    simp only [Store.push, List.append_assoc]
    exact List.perm_append_comm.append_left _
  constructor
  · rw [hstore, postsTo_append, hposts, List.length_append]
    simp [Store.push, h.numbered]
  · rw [settledIn_append, hsettled, List.append_nil, postsTo_append, hposts, List.length_append,
      List.length_singleton, List.range_succ]
    refine ((hcustody.map _).append_right _).trans ?_
    rw [List.map_append, List.append_assoc]
    refine (List.perm_append_comm.append_left _).trans ?_
    rw [← List.append_assoc]
    exact h.places.append_right _
  · rw [postsTo_append, hposts]
    intro e he
    rcases List.mem_append.mp (hcustody.mem_iff.mp he) with he | he
    · obtain ⟨m', hm', hcopy⟩ := h.copies e he
      have hlt := (List.getElem?_eq_some_iff.mp hm').1
      exact ⟨m', (List.getElem?_append_left hlt).trans hm', hcopy⟩
    · rw [List.mem_singleton.mp he]
      exact ⟨m, by simp, .inl rfl⟩

theorem Conserved.step (h : Conserved s log w) (hmove : Custody s w es w') :
    Conserved s (log ++ es) w' := by
  have hposts := postsTo_concerns s es
  have hsettled := settledIn_concerns s es
  cases hmove with
  | quiet hstore hheld hes =>
      rw [hes] at hposts hsettled
      have hcustody : (w'.custody s).Perm (w.custody s) := by
        unfold custody
        rw [hstore]
        exact (hheld.symm.map _).append_left _
      refine h.shift (by rw [hstore]) hposts.symm ?_ ?_
      · rw [← hsettled]
        simpa [settledIn] using hcustody.map (·.seq)
      · exact fun e he => ⟨e, hcustody.mem_iff.mp he, rfl, rfl, .inl rfl⟩
  | posted m origin hstore hheld hes =>
      rw [hes] at hposts hsettled
      refine h.post hstore hheld (hposts.symm.trans ?_) hsettled.symm
      simp [postsTo]
  | purged hstore hheld hes =>
      rw [hes] at hposts hsettled
      unfold expirations at hposts hsettled
      rw [postsTo_map_settled] at hposts
      rw [settledIn_map] at hsettled
      refine h.shift (by rw [hstore]; rfl) hposts.symm ?_ ?_
      · rw [← hsettled, ← List.map_append]
        refine List.Perm.map _ ?_
        unfold custody
        rw [hstore, hheld, List.append_assoc]
        refine (List.perm_append_comm.append_left _).trans ?_
        rw [← List.append_assoc]
        refine List.Perm.append_right _ (List.perm_append_comm.trans ?_)
        exact List.filter_append_perm (fun e : Envelope => e.message.isExpired w.now) _
      · intro e he
        refine ⟨e, ?_, rfl, rfl, .inl rfl⟩
        unfold custody at he ⊢
        rw [hstore, hheld] at he
        exact List.mem_append.mpr
          ((List.mem_append.mp he).imp_left fun h => (List.mem_filter.mp h).1)
  | received x session e before after _ _ _ _ _ _ hpending hstore hheld hes =>
      rw [hes] at hposts hsettled
      have hcustody : (w.custody s).Perm (e :: w'.custody s) := by
        unfold custody
        rw [hstore, hheld, hpending, List.append_assoc, List.append_assoc]
        exact List.perm_middle
      refine h.shift (by rw [hstore]) hposts.symm ?_ ?_
      · rw [← hsettled]
        refine .trans ?_ (hcustody.map _).symm
        simp [settledIn]
      · exact fun e' he' => ⟨e', hcustody.mem_iff.mpr (.tail _ he'), rfl, rfl, .inl rfl⟩
  | delivered x session e before after tag _ _ _ _ _ hpending hstore hheld hes =>
      rw [hes] at hposts hsettled
      have hcustody : (w'.custody s).Perm (w.custody s) := by
        unfold custody
        rw [hstore, hpending, List.append_assoc, List.append_assoc]
        refine List.Perm.append_left _ ?_
        exact ((hheld.map _).append_left _).trans List.perm_middle
      refine h.shift (by rw [hstore]) hposts.symm ?_ ?_
      · rw [← hsettled]
        simpa [settledIn] using hcustody.map (·.seq)
      · exact fun e' he' => ⟨e', hcustody.mem_iff.mp he', rfl, rfl, .inl rfl⟩
  | settled ds cause hstore hheld hes =>
      rw [hes, postsTo_map_settled] at hposts
      rw [hes, settledIn_map] at hsettled
      have hcustody : (w.custody s).Perm (w'.custody s ++ ds.map (·.envelope)) := by
        unfold custody
        rw [hstore, List.append_assoc]
        refine List.Perm.append_left _ ?_
        rw [← List.map_append]
        exact (hheld.trans List.perm_append_comm).map _
      refine h.shift (by rw [hstore]) hposts.symm ?_ ?_
      · rw [← hsettled]
        simpa [Function.comp_def] using (hcustody.map (·.seq)).symm
      · exact fun e he => ⟨e, hcustody.mem_iff.mpr (List.mem_append_left _ he), rfl, rfl, .inl rfl⟩
  | returned i session d _ _ _ hstore hheld hes =>
      rw [hes] at hposts hsettled
      have hcustody : (w.custody s).Perm
          (d.envelope :: ((w.storeAt s).pending ++ (w'.outstanding s).map (·.envelope))) := by
        unfold custody
        exact ((hheld.map _).append_left _).trans List.perm_middle
      have hcustody' : w'.custody s =
          { d.envelope with message := d.envelope.message.markRedelivered } ::
            ((w.storeAt s).pending ++ (w'.outstanding s).map (·.envelope)) := by
        unfold custody
        rw [hstore]
        rfl
      refine h.shift (by rw [hstore]; rfl) hposts.symm ?_ ?_
      · rw [← hsettled, hcustody']
        simpa [settledIn] using (hcustody.map (·.seq)).symm
      · rw [hcustody']
        intro e he
        rcases List.mem_cons.mp he with rfl | he
        · exact ⟨d.envelope, hcustody.mem_iff.mpr List.mem_cons_self, rfl, rfl, .inr rfl⟩
        · exact ⟨e, hcustody.mem_iff.mpr (.tail _ he), rfl, rfl, .inl rfl⟩

end Steps

/-! ## Runs -/

theorem Conserved.init (s : StoreId) : Conserved s [] {} :=
  ⟨rfl, .refl _, by simp [custody, storeAt, outstanding]⟩

theorem conserved_run [Labels] (s : StoreId) (ops : List Operation) :
    Conserved s (log ops {}) (run ops {}) :=
  keeps_run (.init s) (fun hmove hw h => h.step (hmove.custody hw s)) ops

end Provider

/-! ## Reasons -/

def Step.Reads (x : Step) (s : StoreId) : Prop :=
  (∃ c y, x.operation.consumer? = some c ∧ x.before.consumers[c]? = some y ∧ y.closed = false ∧
    x.before.isStarted y.session = true ∧ y.store = s) ∨
  ∃ b browser, x.operation.browser? = some b ∧ x.before.openBrowser b = .ok browser ∧
    browser.store = s

def Step.Settles (x : Step) (s : StoreId) (seq : Nat) : Cause → Prop
  | .received i =>
      ∃ c y session connection e, x.operation.consumer? = some c ∧
        x.before.consumers[c]? = some y ∧ y.closed = false ∧ y.session = i ∧ y.store = s ∧
        x.before.openSession i = .ok (session, connection) ∧
        (session.mode = .auto ∨ session.mode = .dupsOk) ∧
        e ∈ (x.before.storeAt s).pending ∧ e.seq = seq ∧
        x.before.received x.operation = some e.message
  | .acknowledged i =>
      ∃ m tag session connection d, x.operation = .acknowledge m ∧ m.ack = some ⟨i, tag⟩ ∧
        x.before.openSession i = .ok (session, connection) ∧
        (session.mode = .client ∨ session.mode = .individual ∧ d.tag = tag) ∧
        d ∈ session.delivered ∧ d.store = s ∧ d.envelope.seq = seq
  | .committed i =>
      ∃ session connection d, x.operation = .commit i ∧
        x.before.openSession i = .ok (session, connection) ∧ session.mode = .transacted ∧
        d ∈ session.delivered ∧ d.store = s ∧ d.envelope.seq = seq
  | .expired =>
      x.Reads s ∧ ∃ e ∈ (x.before.storeAt s).pending, e.seq = seq ∧
        e.message.headers.expiration ≠ 0 ∧ e.message.headers.expiration ≤ x.before.now

namespace Provider

theorem expired_of_mem_expirations {s t : StoreId} {w : Provider} {seq : Nat} {cause : Cause}
    (h : .settled s seq cause ∈ w.expirations t) :
    cause = .expired ∧ t = s ∧ ∃ e ∈ (w.storeAt s).pending, e.seq = seq ∧
      e.message.headers.expiration ≠ 0 ∧ e.message.headers.expiration ≤ w.now := by
  obtain ⟨e, he, heq⟩ := List.mem_map.mp h
  obtain ⟨rfl, rfl, rfl⟩ := Event.settled.injEq .. ▸ heq
  obtain ⟨hpending, hexpired⟩ := List.mem_filter.mp he
  exact ⟨rfl, rfl, e, hpending, rfl, by simpa [Message.isExpired] using hexpired⟩

theorem settles_of_receiving [Labels] {x : Step} {c : ConsumerId} {s : StoreId} {seq : Nat}
    {cause : Cause} (hw : x.before.Coherent) (hop : x.operation.consumer? = some c)
    (h : .settled s seq cause ∈ x.before.receiving c) : x.Settles s seq cause := by
  obtain ⟨y, session', hy, hopen, hstarted, hs', h⟩ := mem_receiving h
  obtain ⟨session, connection, hsession, -⟩ :=
    hw.cascading.openSession (List.mem_of_getElem? hy) hopen hstarted
  obtain ⟨hs, hclosed, -⟩ := openSession_eq_ok.mp hsession
  obtain rfl : session = session' := Option.some.inj (hs.symm.trans hs')
  rcases h with h | ⟨e, rest, htake, h⟩
  · obtain ⟨rfl, hstore, he⟩ := expired_of_mem_expirations h
    exact ⟨.inl ⟨c, y, hop, hy, hopen, hstarted, hstore⟩, he⟩
  · cases hmode : session.mode.isTracked with
    | true => simp [receipt, hmode] at h
    | false =>
        obtain ⟨rfl, rfl, rfl⟩ : s = y.store ∧ seq = e.seq ∧ cause = .received y.session := by
          simpa [receipt, hmode] using h
        have hmem : e ∈ (x.before.storeAt y.store).pending := by
          obtain ⟨before, after, hpending, -⟩ := Store.take_eq_some htake
          have he : e ∈ ((x.before.storeAt y.store).purge x.before.now).pending := by
            simp [hpending]
          exact (List.mem_filter.mp he).1
        have hreceived : x.before.received x.operation = some e.message := by
          rw [received_eq hw hop, pull_of_ready hy hopen hstarted]
          exact takeNext_answer hs hclosed hmode htake
        refine ⟨c, y, session, connection, e, hop, hy, hopen, rfl, rfl, hsession, ?_, hmem, rfl,
          hreceived⟩
        cases hm : session.mode <;> simp_all [AckMode.isTracked]

theorem settles_of_browsing {x : Step} {b : BrowserId} {s : StoreId} {seq : Nat} {cause : Cause}
    (hop : x.operation.browser? = some b) (h : .settled s seq cause ∈ x.before.browsing b) :
    x.Settles s seq cause := by
  unfold browsing at h
  cases hb : x.before.openBrowser b with
  | error e => simp [hb] at h
  | ok browser =>
      rw [hb] at h
      obtain ⟨rfl, hstore, he⟩ := expired_of_mem_expirations h
      exact ⟨.inr ⟨b, browser, hop, hb, hstore⟩, he⟩

theorem settles_of_acknowledging {x : Step} {m : Message} {s : StoreId} {seq : Nat}
    {cause : Cause} (hop : x.operation = .acknowledge m)
    (h : .settled s seq cause ∈ x.before.acknowledging m) : x.Settles s seq cause := by
  unfold acknowledging at h
  cases hack : m.ack with
  | none => simp [hack] at h
  | some token =>
      simp only [hack] at h
      cases hopen : x.before.openSession token.session with
      | error e => simp [hopen] at h
      | ok y =>
          obtain ⟨session, connection⟩ := y
          rw [hopen] at h
          obtain ⟨d, hd, heq⟩ := List.mem_map.mp h
          obtain ⟨rfl, rfl, rfl⟩ := Event.settled.injEq .. ▸ heq
          obtain ⟨hd, hcovered⟩ := List.mem_filter.mp hd
          refine ⟨m, token.tag, session, connection, d, hop, hack, hopen, ?_, hd, rfl, rfl⟩
          cases hmode : session.mode <;> simp_all [covers]

theorem settles_of_committing {x : Step} {i : SessionId} {session : Session}
    {connection : Connection} {s : StoreId} {seq : Nat} {cause : Cause}
    (hop : x.operation = .commit i)
    (hopen : x.before.openTransaction i = .ok (session, connection))
    (h : .settled s seq cause ∈ committing i session) : x.Settles s seq cause := by
  obtain ⟨hsession, hmode⟩ := openTransaction_eq_ok.mp hopen
  rcases List.mem_append.mp h with h | h
  · obtain ⟨d, hd, heq⟩ := List.mem_map.mp h
    obtain ⟨rfl, rfl, rfl⟩ := Event.settled.injEq .. ▸ heq
    exact ⟨session, connection, d, hop, hsession, hmode, hd, rfl, rfl⟩
  · simp at h

theorem settles_of_events [Labels] {x : Step} {s : StoreId} {seq : Nat} {cause : Cause}
    (hw : x.before.Coherent) (h : .settled s seq cause ∈ x.before.events x.operation) :
    x.Settles s seq cause := by
  cases mem_events h with
  | received c hop h => exact settles_of_receiving hw hop h
  | browsed b hop h => exact settles_of_browsing hop h
  | acknowledged m hop h => exact settles_of_acknowledging hop h
  | committed i session connection hop hopen h => exact settles_of_committing hop hopen h
  | posted h => simp [posts] at h
  | returned i session hs h => simp [returning] at h
  | kept _ _ _ he | rolledBack _ _ _ he | closed _ he => cases he
  | attached _ _ he | removed _ _ he => cases he

/--
After every run, the messages that were ever put into a store are those that are pending there,
those that sessions hold and those that were settled, each of them once; only open sessions hold
any; and what is settled has its reason.
-/
theorem conservation [Labels] (ops : List Operation) (s : StoreId) :
    Conserved s (log ops {}) (run ops {}) ∧
    (∀ (i : SessionId) (x : Session), (run ops {}).sessions[i]? = some x → x.delivered ≠ [] →
      (run ops {}).isOpen i = true) ∧
    ∀ x ∈ trace ops {}, ∀ (seq : Nat) (cause : Cause),
      .settled s seq cause ∈ x.before.events x.operation → x.Settles s seq cause := by
  refine ⟨conserved_run s ops, ?_, ?_⟩
  · intro i x hi hheld
    have hcascading := (coherent_run ops).cascading
    have hx := List.mem_of_getElem? hi
    have hopen : x.closed = false := by
      by_contra h
      exact hheld ((hcascading.sound x hx).delivered (by simpa using h))
    obtain ⟨y, hy, hstate⟩ := hcascading.sessions x hx hopen
    have hsession := openSession_eq_ok.mpr ⟨hi, hopen, openConnection_eq_ok.mpr ⟨hy, hstate⟩⟩
    simp [isOpen, hsession]
    rfl
  · intro x hx seq cause h
    obtain ⟨first, second, -, hbefore⟩ := exists_of_mem_trace hx
    exact settles_of_events (hbefore ▸ coherent_run first) h

def twoReaders : List Operation :=
  [.connect ⟨{ text := "vm://local", broker := "local" }, "", ""⟩ "" "" none, .start 0,
    .createSession 0 .client, .createConsumer 0 ⟨.queue, "jobs"⟩ none false,
    .createSession 0 .auto, .createConsumer 1 ⟨.queue, "jobs"⟩ none false,
    .createProducer 0 (some ⟨.queue, "jobs"⟩), .send 0 none none (.ofText "one"),
    .send 0 none none (.ofText "two"), .receiveNow 0]

theorem conservation_twoReaders :
    Conserved 0 (log (twoReaders ++ [.receiveNow 1]) {}) (run (twoReaders ++ [.receiveNow 1]) {}) ∧
    ((run (twoReaders ++ [.receiveNow 1]) {}).custody 0).map (·.seq) = [0] ∧
    (run (twoReaders ++ [.receiveNow 1]) {}).isOpen 0 = true ∧
    Step.Settles ⟨.receiveNow 1, run twoReaders {}⟩ 0 1 (.received 1) := by
  obtain ⟨hconserved, hopen, hsettles⟩ := conservation (twoReaders ++ [.receiveNow 1]) 0
  have hlast : ⟨.receiveNow 1, run twoReaders {}⟩ ∈ trace (twoReaders ++ [.receiveNow 1]) {} := by
    rw [trace_concat]
    exact List.mem_append_right _ List.mem_cons_self
  refine ⟨hconserved, by decide, hopen 0 _ rfl (by decide), hsettles _ hlast 1 _ ?_⟩
  decide

end Provider

end Messaging
