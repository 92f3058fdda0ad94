import Messaging.Proofs.Conservation
import Messaging.Proofs.Run.Arrival
import Messaging.Proofs.Run.Buffer

/-!
# Transactions

What is sent in a transaction gets into stores when the transaction is committed and not before,
and never if it is rolled back or its session is closed.  A commit publishes each of the sends
once, in order, and leaves out those to temporary destinations that are gone.
-/

namespace Messaging

section AnyLabels

variable [Labels]

structure Posting where
  /-- The place of the step that sent the message. -/
  send : Nat
  /-- The place of the step that put it into the store. -/
  step : Nat
  store : StoreId
  message : Message
  origin : ConnectionId

def Posting.event (p : Posting) : Event := .posted p.store p.message p.origin

namespace Step

/-- The sends that a step publishes: its own, or those of the transaction that it commits. -/
def releases (past : List Step) (x : Step) : List (Nat × Submission) :=
  match x.operation with
  | .send .. =>
      match x.before.submission x.operation with
      | some y => if x.before.isTransacted y.session then [] else [(past.length, y)]
      | none => []
  | .commit s => if (x.before.openTransaction s).isOk then buffering s past else []
  | _ => []

def publication (x : Step) (y : Submission) : List Publication :=
  x.before.publications y.session [(y.destination, y.message)]

def postings (past : List Step) (x : Step) : List Posting :=
  (x.releases past).flatMap fun y => (x.publication y.2).flatMap fun p =>
    ((x.after.brokerAt p.broker).routes p).map fun s =>
      ⟨y.1, past.length, s, p.message, p.origin⟩

end Step

theorem Step.mem_postings {past : List Step} {x : Step} {p : Posting} :
    p ∈ x.postings past ↔ p.step = past.length ∧
      ∃ y, (p.send, y) ∈ x.releases past ∧ ∃ q ∈ x.publication y,
        p.store ∈ (x.after.brokerAt q.broker).routes q ∧ p.message = q.message ∧
          p.origin = q.origin := by
  simp only [Step.postings, List.mem_flatMap, List.mem_map]
  constructor
  · rintro ⟨⟨i, y⟩, hy, q, hq, s, hs, rfl⟩
    exact ⟨rfl, y, hy, q, hq, hs, rfl, rfl⟩
  · rintro ⟨hstep, y, hy, q, hq, hs, hm, ho⟩
    refine ⟨(p.send, y), hy, q, hq, p.store, hs, ?_⟩
    rw [← hstep, ← hm, ← ho]

omit [Labels] in
theorem Step.mem_releases {past : List Step} {x : Step} {i : Nat} {y : Submission}
    (h : (i, y) ∈ x.releases past) :
    (x.before.submission x.operation = some y ∧ x.before.isTransacted y.session = false ∧
        i = past.length) ∨
      x.operation = .commit y.session ∧ x.ends y.session = true ∧
        (i, y) ∈ buffering y.session past := by
  unfold Step.releases at h
  split at h
  next p requested q m hop =>
    left
    split at h
    next y' hy =>
      split at h
      next => simp at h
      next htransacted =>
        obtain ⟨rfl, rfl⟩ := Prod.mk.inj (List.mem_singleton.mp h)
        exact ⟨hy, by simpa using htransacted, rfl⟩
    next => simp at h
  next s hop =>
    split at h
    next hopen =>
      obtain ⟨⟨u, -, hkept⟩, -⟩ := mem_buffering.mp h
      obtain ⟨-, rfl, -⟩ := Step.kept_eq_some hkept
      rw [Provider.isOk_openTransaction] at hopen
      exact .inr ⟨hop, by simpa [Step.ends, hop] using hopen, h⟩
    next => simp at h
  next => simp at h

/-- All that the steps of a run put into stores, in order. -/
def ledger (xs : List Step) : List Posting :=
  (List.range xs.length).flatMap fun j => xs[j]?.toList.flatMap (Step.postings (xs.take j))

theorem ledger_concat (xs : List Step) (x : Step) :
    ledger (xs ++ [x]) = ledger xs ++ x.postings xs := by
  unfold ledger
  rw [List.length_append, List.length_singleton, List.range_succ, List.flatMap_append]
  congr 1
  · refine List.flatMap_congr fun j hj => ?_
    have hlt := List.mem_range.mp hj
    rw [List.getElem?_append_left hlt, List.take_append_of_le_length (Nat.le_of_lt hlt)]
  · simp

theorem mem_ledger {xs : List Step} {p : Posting} :
    p ∈ ledger xs ↔ ∃ x, xs[p.step]? = some x ∧ p ∈ x.postings (xs.take p.step) := by
  unfold ledger
  rw [List.mem_flatMap]
  constructor
  · rintro ⟨j, hj, h⟩
    obtain ⟨x, hx, hp⟩ := List.mem_flatMap.mp h
    have hstep := (Step.mem_postings.mp hp).1
    rw [List.length_take_of_le (Nat.le_of_lt (List.mem_range.mp hj))] at hstep
    rw [hstep]
    exact ⟨x, Option.mem_toList.mp hx, hp⟩
  · rintro ⟨x, hx, hp⟩
    refine ⟨p.step, List.mem_range.mpr (List.getElem?_eq_some_iff.mp hx).1, ?_⟩
    exact List.mem_flatMap.mpr ⟨x, Option.mem_toList.mpr hx, hp⟩

def Released (xs : List Step) (p : Posting) : Prop :=
  ∃ x y z, xs[p.send]? = some x ∧ x.before.submission x.operation = some y ∧
    xs[p.step]? = some z ∧
    if x.before.isTransacted y.session then
      p.send < p.step ∧ z.operation = .commit y.session ∧ z.ends y.session = true ∧
        ∀ k u, p.send < k → k < p.step → xs[k]? = some u → u.ends y.session = false
    else p.step = p.send

theorem released_of_mem_ledger {xs : List Step} {p : Posting} (hp : p ∈ ledger xs) :
    Released xs p := by
  obtain ⟨z, hz, hp⟩ := mem_ledger.mp hp
  have hlt := (List.getElem?_eq_some_iff.mp hz).1
  obtain ⟨-, y, hy, -⟩ := Step.mem_postings.mp hp
  rcases Step.mem_releases hy with ⟨hsubmission, htransacted, hsend⟩ | ⟨hop, hends, hbuffering⟩
  · rw [List.length_take_of_le (Nat.le_of_lt hlt)] at hsend
    refine ⟨z, y, z, hsend ▸ hz, hsubmission, hz, ?_⟩
    rw [htransacted]
    exact hsend.symm
  · obtain ⟨⟨x, hx, hkept⟩, hlater⟩ := mem_buffering.mp hbuffering
    obtain ⟨hsubmission, -, htransacted⟩ := Step.kept_eq_some hkept
    rw [List.getElem?_take] at hx
    split at hx
    next hsend =>
      refine ⟨x, y, z, hx, hsubmission, hz, ?_⟩
      rw [if_pos htransacted]
      refine ⟨hsend, hop, hends, fun k u hk hkj hu => hlater k u hk ?_⟩
      rw [List.getElem?_take_of_lt hkj]
      exact hu
    next => cases hx

theorem step_eq_of_send_eq {xs : List Step} {p p' : Posting} (hp : p ∈ ledger xs)
    (hp' : p' ∈ ledger xs) (hsend : p.send = p'.send) : p.step = p'.step := by
  have hle : ∀ {p p' : Posting}, Released xs p → Released xs p' → p.send = p'.send →
      p'.step ≤ p.step := by
    intro p p' ⟨x, y, z, hx, hy, hz, h⟩ ⟨x', y', z', hx', hy', hz', h'⟩ hsend
    rw [hsend] at hx
    obtain rfl : x = x' := Option.some.inj (hx.symm.trans hx')
    obtain rfl : y = y' := Option.some.inj (hy.symm.trans hy')
    by_contra hlt
    cases htransacted : x.before.isTransacted y.session with
    | false =>
        simp only [htransacted, Bool.false_eq_true, if_false] at h h'
        omega
    | true =>
        simp only [htransacted, if_true] at h h'
        obtain ⟨hbefore, -, hends, -⟩ := h
        obtain ⟨-, -, -, hlater⟩ := h'
        -- the commit at the earlier step ended what the session kept
        rw [hlater p.step z (hsend ▸ hbefore) (Nat.lt_of_not_le hlt) hz] at hends
        cases hends
  have h := released_of_mem_ledger hp
  have h' := released_of_mem_ledger hp'
  exact Nat.le_antisymm (hle h' h hsend.symm) (hle h h' hsend)

theorem not_released_of_discarded {xs : List Step} {k : Nat} {x : Step} {s : SessionId}
    (hx : xs[k]? = some x) (hends : x.ends s = true) (hop : x.operation ≠ .commit s)
    {y : Nat × Submission} (hy : y ∈ buffering s (xs.take k)) {p : Posting} (hp : p ∈ ledger xs) :
    p.send ≠ y.1 := by
  intro hsend
  obtain ⟨i, y⟩ := y
  obtain ⟨⟨u, hu, hkept⟩, hkeeps⟩ := mem_buffering.mp hy
  obtain ⟨hsubmission, rfl, htransacted⟩ := Step.kept_eq_some hkept
  rw [List.getElem?_take] at hu
  split at hu
  next hik =>
    obtain ⟨u', y', z, hu', hy', hz, h⟩ := released_of_mem_ledger hp
    rw [hsend] at hu'
    obtain rfl : u = u' := Option.some.inj (hu.symm.trans hu')
    obtain rfl : y = y' := Option.some.inj (hsubmission.symm.trans hy')
    rw [if_pos htransacted, hsend] at h
    obtain ⟨hbefore, hcommit, hends', hlater⟩ := h
    rcases Nat.lt_trichotomy p.step k with hlt | heq | hgt
    · -- then nothing would have been left to discard
      rw [hkeeps p.step z hbefore (by rw [List.getElem?_take_of_lt hlt]; exact hz)] at hends'
      cases hends'
    · rw [heq] at hz
      obtain rfl : x = z := Option.some.inj (hx.symm.trans hz)
      exact hop hcommit
    · rw [hlater k x hik hgt hx] at hends
      cases hends
  next => cases hu

end AnyLabels

/-! ## Once each -/

theorem Step.nodup_releases (past : List Step) (x : Step) :
    ((x.releases past).map (·.1)).Nodup := by
  unfold Step.releases
  split
  · split
    · split <;> simp
    · exact List.nodup_nil
  · split
    · exact nodup_buffering _ past
    · exact List.nodup_nil
  · exact List.nodup_nil

theorem Step.publication_eq (x : Step) (y : Submission) :
    x.publication y = [] ∨ ∃ p, x.publication y = [p] := by
  unfold Step.publication Provider.publications
  split
  · exact .inr ⟨_, rfl⟩
  · exact .inl rfl

theorem Step.nodup_postings [Labels] {past : List Step} {x : Step}
    (hroutes : ∀ p : Publication, ((x.after.brokerAt p.broker).routes p).Nodup) :
    ((x.postings past).map fun p => (p.send, p.store)).Nodup := by
  unfold Step.postings
  rw [List.map_flatMap]
  refine List.nodup_flatMap.mpr ⟨fun y _ => ?_, ?_⟩
  · rcases x.publication_eq y.2 with h | ⟨p, h⟩
    · simp [h]
    · rw [h, List.flatMap_singleton, List.map_map]
      exact (hroutes p).map fun s t hst => (Prod.mk.inj hst).2
  · refine (List.pairwise_map.mp (x.nodup_releases past)).imp fun hne => ?_
    -- postings of two sends tell them apart
    intro q hq hq'
    simp only [List.mem_map, List.mem_flatMap] at hq hq'
    obtain ⟨_, ⟨_, -, _, -, rfl⟩, rfl⟩ := hq
    obtain ⟨_, ⟨_, -, _, -, rfl⟩, heq⟩ := hq'
    exact hne (Prod.mk.inj heq).1.symm

theorem nodup_ledger [Labels] {xs : List Step}
    (hroutes : ∀ x ∈ xs, ∀ p : Publication, ((x.after.brokerAt p.broker).routes p).Nodup) :
    ((ledger xs).map fun p => (p.send, p.store)).Nodup := by
  induction xs using List.reverseRecOn with
  | nil => exact List.nodup_nil
  | append_singleton xs x ih =>
      rw [ledger_concat, List.map_append]
      refine List.nodup_append.mpr ⟨?_, ?_, ?_⟩
      · exact ih fun y hy => hroutes y (List.mem_append_left _ hy)
      · exact Step.nodup_postings (hroutes x (by simp))
      · intro key hkey key' hkey' heq
        obtain ⟨p, hp, rfl⟩ := List.mem_map.mp hkey
        obtain ⟨p', hp', rfl⟩ := List.mem_map.mp hkey'
        have hmem : p ∈ ledger (xs ++ [x]) := by simp [ledger_concat, hp]
        have hmem' : p' ∈ ledger (xs ++ [x]) := by simp [ledger_concat, hp']
        have hstep := step_eq_of_send_eq hmem hmem' (Prod.mk.inj heq).1
        obtain ⟨z, hz, -⟩ := mem_ledger.mp hp
        have hlt := (List.getElem?_eq_some_iff.mp hz).1
        rw [hstep, (Step.mem_postings.mp hp').1] at hlt
        exact Nat.lt_irrefl _ hlt

namespace Provider

/-! ## Steps of a run -/

section Steps

variable (ops : List Operation) (op : Operation)

theorem publications_eq_flatMap (s : SessionId) (sends : List (Destination × Message))
    (w : Provider) :
    w.publications s sends = sends.flatMap fun y => w.publications s [y] := by
  unfold publications
  cases w.openSession s with
  | error e => simp
  | ok x => exact List.map_eq_flatMap

variable [Labels]

theorem published_eq :
    (run ops {}).published op =
      (Step.releases (trace ops {}) ⟨op, run ops {}⟩).flatMap fun y =>
        Step.publication ⟨op, run ops {}⟩ y.2 := by
  cases op with
  | send p requested q m =>
      simp only [published, Step.releases]
      cases (run ops {}).submission (.send p requested q m) with
      | none => rfl
      | some y =>
          dsimp only
          split
          · rfl
          · rw [List.flatMap_singleton]
            rfl
  | commit s =>
      simp only [published, Step.releases]
      cases hopen : (run ops {}).openTransaction s with
      | error e => rfl
      | ok x =>
          obtain ⟨session, connection⟩ := x
          have hs := (openSession_eq_ok.mp (openTransaction_eq_ok.mp hopen).1).1
          have hbuffered : session.buffered = (run ops {}).bufferedOf s := by
            rw [bufferedOf, hs]
            rfl
          change (run ops {}).publications s session.buffered = (buffering s _).flatMap _
          rw [hbuffered, bufferedOf_run, publications_eq_flatMap, List.flatMap_map]
          refine List.flatMap_congr fun y hy => ?_
          obtain ⟨⟨x, -, hkept⟩, -⟩ := mem_buffering.mp hy
          rw [Step.publication, (Step.kept_eq_some hkept).2.1]
  | _ => rfl

theorem posts_eq :
    (run ops {}).posts op =
      (Step.postings (trace ops {}) ⟨op, run ops {}⟩).map Posting.event := by
  unfold posts Step.postings
  rw [published_eq, List.flatMap_assoc, List.map_flatMap]
  refine List.flatMap_congr fun y _ => ?_
  rw [List.map_flatMap]
  refine List.flatMap_congr fun p _ => ?_
  rw [List.map_map]
  rfl

def inbound (s : StoreId) (ps : List Posting) : List (Message × ConnectionId) :=
  (ps.filter (·.store == s)).map fun p => (p.message, p.origin)

omit [Labels] in
theorem postsTo_map_event (s : StoreId) (ps : List Posting) :
    postsTo s (ps.map Posting.event) = inbound s ps := by
  induction ps with
  | nil => rfl
  | cons p ps ih =>
      unfold postsTo inbound at ih ⊢
      rw [List.map_cons, List.filterMap_cons, ih, List.filter_cons]
      by_cases hs : p.store = s <;> simp [Posting.event, hs]

theorem postsTo_log (s : StoreId) :
    postsTo s (log ops {}) = inbound s (ledger (trace ops {})) := by
  induction ops using List.reverseRecOn with
  | nil => rfl
  | append_singleton ops op ih =>
      rw [log_concat, trace_concat, ledger_concat, postsTo_append, postsTo_events, posts_eq,
        postsTo_map_event, ih]
      simp [inbound]

end Steps

/-! ## Commits -/

structure Committed (s : SessionId) (session : Session) (connection : Connection)
    (w : Provider) : Prop where
  publications : w.publications s session.buffered =
    session.buffered.map fun x => ⟨connection.broker, x.1, sealed x.2, session.connection⟩
  stores : ∀ t, (w.commit s).2.storeAt t = (w.storeAt t).pushAll
    (((w.publications s session.buffered).filter fun p =>
      ((w.commit s).2.brokerAt p.broker).routesTo t p).map fun p => (p.message, p.origin))
  skipped : ∀ p ∈ w.publications s session.buffered,
    (w.brokerAt p.broker).isLive p.destination = false →
      ∀ t, ((w.commit s).2.brokerAt p.broker).routesTo t p = false
  queues : ∀ p ∈ w.publications s session.buffered,
    (w.brokerAt p.broker).isLive p.destination = true → p.destination.isQueue = true →
      ∃ t, (∀ t', ((w.commit s).2.brokerAt p.broker).routesTo t' p = true ↔ t' = t) ∧
        ∀ t', (w.brokerAt p.broker).queue? p.destination = some t' → t' = t
  topics : ∀ p ∈ w.publications s session.buffered, p.destination.isQueue = false →
    ∀ t, ((w.commit s).2.brokerAt p.broker).routesTo t p = true ↔ w.Hears t p
  /-- It answers with the first of the sends that are left out, if any. -/
  answer : (w.commit s).1 =
    match session.buffered.find? fun x => !(w.brokerAt connection.broker).isLive x.1 with
    | none => .ok ()
    | some x => .error (.deleted x.1)
  emptied : (w.commit s).2.sessions =
    w.sessions.modify s ({ · with buffered := [], delivered := [] })

theorem committed [Labels] {s : SessionId} {session : Session} {connection : Connection}
    {w : Provider} (hw : w.Settled) (hopen : w.openTransaction s = .ok (session, connection)) :
    Committed s session connection w := by
  have hsession := (openTransaction_eq_ok.mp hopen).1
  have hb : connection.broker <
      (w.updateSession s ({ · with buffered := [], delivered := [] })).brokers.length :=
    hw.coherent.grounded.lt_of_openSession hsession
  have hpublications : w.publications s session.buffered =
      session.buffered.map fun x => ⟨connection.broker, x.1, sealed x.2, session.connection⟩ := by
    simp only [publications, hsession]
  have hcommit : w.commit s =
      (w.updateSession s ({ · with buffered := [], delivered := [] })).publishAll
        connection.broker session.connection session.buffered := by
    rw [commit, hopen]
    rfl
  have hop : (Operation.commit s).publishes = true := rfl
  have hextends : ∀ b, (w.brokerAt b).Extends ((w.commit s).2.brokerAt b) :=
    extends_step hw.coherent.grounded hop
  refine ⟨hpublications, fun t => ?_, ?_, ?_, ?_, ?_, ?_⟩
  · have hstore := storeAt_step (s := t) hw (not_shelves_of_publishes hop)
    rw [arrivals, published, hopen] at hstore
    exact hstore
  · intro p _ hdead t
    rw [Broker.routesTo, (hextends p.broker).isLive, hdead]
    rfl
  · intro p hp hlive hqueue
    rw [hpublications] at hp
    obtain ⟨x, hx, rfl⟩ := List.mem_map.mp hp
    have hsome := queue?_publishAll session.connection hb hx hlive hqueue
    rw [← hcommit] at hsome
    obtain ⟨t, ht⟩ := Option.isSome_iff_exists.mp hsome
    refine ⟨t, fun t' => ?_, fun t' ht' => ?_⟩
    · dsimp only at hlive hqueue ⊢
      rw [Broker.routesTo, (hextends connection.broker).isLive, hlive, hqueue, ht]
      simp only [Bool.true_and, if_true, beq_iff_eq, Option.some.injEq]
      exact eq_comm
    · exact Option.some.inj (((hextends connection.broker).queues ht').symm.trans ht)
  · exact fun p _ htopic t => routesTo_iff_hears hw hop htopic t
  · rw [hcommit, publishAll_result session.connection hb]
    rfl
  · rw [hcommit, sessions_publishAll session.connection hb]
    rfl

theorem mem_settledIn {s : StoreId} {seq : Nat} {cause : Cause} {es : List Event}
    (h : .settled s seq cause ∈ es) : seq ∈ settledIn s es :=
  List.mem_filterMap.mpr ⟨_, h, by simp⟩

theorem settled_by_commit [Labels] {ops : List Operation} {s : SessionId} {session : Session}
    {connection : Connection}
    (hopen : (run ops {}).openTransaction s = .ok (session, connection)) {d : Delivery}
    (hd : d ∈ session.delivered) (later : List Operation) :
    ∀ e ∈ (run (ops ++ .commit s :: later) {}).custody d.store, e.seq ≠ d.envelope.seq := by
  intro e he heq
  have hlog : .settled d.store d.envelope.seq (.committed s) ∈
      log (ops ++ .commit s :: later) {} := by
    rw [log_append]
    refine List.mem_append_right _ (List.mem_flatMap.mpr
      ⟨⟨.commit s, run ops {}⟩, List.mem_cons_self, ?_⟩)
    simp only [events, hopen, committing]
    exact List.mem_append_left _ (List.mem_append_left _ (List.mem_map_of_mem hd))
  have hnodup := (conserved_run d.store (ops ++ .commit s :: later)).nodup
  exact (List.nodup_append.mp hnodup).2.2 _ (List.mem_map_of_mem he) _ (mem_settledIn hlog) heq

/-! ## Runs -/

structure Transactional [Labels] (ops : List Operation) : Prop where
  buffered : ∀ s, (run ops {}).bufferedOf s =
    (buffering s (trace ops {})).map fun y => (y.2.destination, y.2.message)
  /-- All that there is of a store are copies of what was put into it. -/
  stores : ∀ t, ((run ops {}).storeAt t).nextSeq = (inbound t (ledger (trace ops {}))).length ∧
    ∀ e ∈ (run ops {}).custody t, e.Copies (inbound t (ledger (trace ops {})))
  released : ∀ p ∈ ledger (trace ops {}), Released (trace ops {}) p
  once : ((ledger (trace ops {})).map fun p => (p.send, p.store)).Nodup
  /-- What a transaction kept at its rollback, or when its session was closed, is gone. -/
  discarded : ∀ k x s, (trace ops {})[k]? = some x → x.ends s = true → x.operation ≠ .commit s →
    ∀ y ∈ buffering s ((trace ops {}).take k), ∀ p ∈ ledger (trace ops {}), p.send ≠ y.1
  commits : ∀ s session connection,
    (run ops {}).openTransaction s = .ok (session, connection) →
      Committed s session connection (run ops {}) ∧
        ∀ d ∈ session.delivered, ∀ later : List Operation,
          ∀ e ∈ (run (ops ++ .commit s :: later) {}).custody d.store, e.seq ≠ d.envelope.seq

/-- In every run, transactions keep their sends from the stores until they are committed. -/
theorem transactional [Labels] (ops : List Operation) : Transactional ops := by
  refine ⟨fun s => bufferedOf_run s ops, fun t => ?_, fun p => released_of_mem_ledger, ?_, ?_, ?_⟩
  · have hconserved := conserved_run t ops
    rw [← postsTo_log]
    exact ⟨hconserved.numbered, hconserved.copies⟩
  · refine nodup_ledger fun x hx p => ?_
    obtain ⟨first, second, -, hbefore⟩ := exists_of_mem_trace hx
    have hsettled := (settled_run first).step x.operation
    rw [← hbefore] at hsettled
    exact nodup_routes (hsettled.filed.directory p.broker).fed p
  · exact fun k x s hx hends hop y hy p hp => not_released_of_discarded hx hends hop hy hp
  · intro s session connection hopen
    exact ⟨committed (settled_run ops) hopen,
      fun d hd later => settled_by_commit hopen hd later⟩

def transactedClient : List Operation :=
  [.connect ⟨{ text := "vm://local", broker := "local" }, "", ""⟩ "" "" none,
    .createSession 0 .transacted, .createProducer 0 (some ⟨.queue, "jobs"⟩),
    .createConsumer 0 ⟨.queue, "jobs"⟩ none false,
    .send 0 none none (.ofText "one"),
    .send 0 none none (.ofText "two")]

theorem transactional_transactedClient :
    (ledger (trace transactedClient {})).length = 0 ∧
    (∃ session connection,
      (run transactedClient {}).openTransaction 0 = .ok (session, connection) ∧
        Committed 0 session connection (run transactedClient {})) ∧
    ((ledger (trace (transactedClient ++ [.commit 0, .commit 0]) {})).map fun p =>
      (p.send, p.step)) = [(4, 6), (5, 6)] ∧
    ∀ p ∈ ledger (trace (transactedClient ++ [.commit 0, .commit 0]) {}),
      Released (trace (transactedClient ++ [.commit 0, .commit 0]) {}) p := by
  have hopen : ∃ session connection,
      (run transactedClient {}).openTransaction 0 = .ok (session, connection) := ⟨_, _, rfl⟩
  obtain ⟨session, connection, hopen⟩ := hopen
  have hcommits := ((transactional transactedClient).commits 0 session connection hopen).1
  have htwice := transactional (transactedClient ++ [.commit 0, .commit 0])
  exact ⟨by decide, ⟨session, connection, hopen, hcommits⟩, by decide, htwice.released⟩

end Provider

end Messaging
