import Messaging.Proofs.Run.Refinement

/-!
# Buffered sends

A session that is in a transaction keeps its sends, until it commits them, rolls them back or is
closed.  So what it has kept can be read off the steps of the run.
-/

namespace Messaging

def Event.buffer (s : SessionId) (sends : List (Destination × Message)) :
    Event → List (Destination × Message)
  | .kept t d m => if t = s then sends ++ [(d, m)] else sends
  | .ended t => if t = s then [] else sends
  | _ => sends

namespace Step

/-- The send that a step leaves to the commit of a session. -/
def kept (s : SessionId) (x : Step) : Option Submission :=
  (x.before.submission x.operation).filter fun y => y.session == s && x.before.isTransacted s

def ends (s : SessionId) (x : Step) : Bool :=
  x.before.isOpen s &&
    match x.operation with
    | .commit t | .rollback t => t == s && x.before.isTransacted s
    | .closeSession t => t == s
    | .closeConnection c => x.before.sessions[s]?.any (·.connection == c)
    | _ => false

end Step

theorem Step.kept_eq_some {s : SessionId} {x : Step} {y : Submission} (h : x.kept s = some y) :
    x.before.submission x.operation = some y ∧ y.session = s ∧ x.before.isTransacted s = true := by
  obtain ⟨hsubmission, hy⟩ := Option.filter_eq_some_iff.mp h
  exact ⟨hsubmission, by simpa using hy⟩

/-- The sends that a session kept and that no later step ended, with the places of their steps. -/
def buffering (s : SessionId) (xs : List Step) : List (Nat × Submission) :=
  (List.range xs.length).filterMap fun i =>
    if (xs.drop (i + 1)).any (·.ends s) then none else (xs[i]?.bind (·.kept s)).map (i, ·)

theorem buffering_concat (s : SessionId) (xs : List Step) (x : Step) :
    buffering s (xs ++ [x]) =
      (if x.ends s then [] else buffering s xs) ++ ((x.kept s).map (xs.length, ·)).toList := by
  unfold buffering
  rw [List.length_append, List.length_singleton, List.range_succ, List.filterMap_append]
  congr 1
  · split
    next hends =>
      refine List.filterMap_eq_nil_iff.mpr fun i hi => ?_
      have hlt : i + 1 ≤ xs.length := List.mem_range.mp hi
      simp [List.drop_append_of_le_length hlt, hends]
    next hends =>
      refine List.filterMap_congr fun i hi => ?_
      have hlt : i + 1 ≤ xs.length := List.mem_range.mp hi
      simp [List.drop_append_of_le_length hlt, hends, List.getElem?_append_left hlt]
  · have hdrop : (xs ++ [x]).drop (xs.length + 1) = [] := by simp
    cases hkept : x.kept s <;> simp [hdrop, hkept]

theorem mem_buffering {s : SessionId} {xs : List Step} {i : Nat} {y : Submission} :
    (i, y) ∈ buffering s xs ↔
      (∃ x, xs[i]? = some x ∧ x.kept s = some y) ∧
        ∀ k x, i < k → xs[k]? = some x → x.ends s = false := by
  unfold buffering
  rw [List.mem_filterMap]
  constructor
  · rintro ⟨i', -, h⟩
    split at h
    next => cases h
    next hends =>
      obtain ⟨y', hy, heq⟩ := Option.map_eq_some_iff.mp h
      obtain ⟨rfl, rfl⟩ := Prod.mk.inj heq
      obtain ⟨x, hx, hkept⟩ := Option.bind_eq_some_iff.mp hy
      refine ⟨⟨x, hx, hkept⟩, fun k z hk hz => ?_⟩
      by_contra hend
      refine hends (List.any_eq_true.mpr ⟨z, ?_, by simpa using hend⟩)
      refine List.mem_of_getElem? (i := k - (i' + 1)) ?_
      rw [List.getElem?_drop, ← hz]
      congr 1
      omega
  · rintro ⟨⟨x, hx, hkept⟩, hlater⟩
    refine ⟨i, List.mem_range.mpr (List.getElem?_eq_some_iff.mp hx).1, ?_⟩
    rw [if_neg]
    · simp [hx, hkept]
    · intro hends
      obtain ⟨z, hz, hend⟩ := List.any_eq_true.mp hends
      obtain ⟨k, hk⟩ := List.getElem?_of_mem hz
      rw [List.getElem?_drop] at hk
      rw [hlater _ z (by omega) hk] at hend
      cases hend

theorem nodup_buffering (s : SessionId) (xs : List Step) :
    ((buffering s xs).map (·.1)).Nodup := by
  unfold buffering
  rw [List.map_filterMap]
  have hplace : ∀ i k, k ∈ Option.map (·.1)
      (if (xs.drop (i + 1)).any (·.ends s) then none
        else (xs[i]?.bind (·.kept s)).map (i, ·)) → i = k := by
    intro i k h
    obtain ⟨y, hy, rfl⟩ := Option.map_eq_some_iff.mp h
    split at hy
    next => cases hy
    next =>
      obtain ⟨z, -, rfl⟩ := Option.map_eq_some_iff.mp hy
      rfl
  exact List.nodup_range.filterMap fun i j k hi hj => (hplace i k hi).trans (hplace j k hj).symm

namespace Provider

def bufferedOf (s : SessionId) (w : Provider) : List (Destination × Message) :=
  (w.sessions[s]?.map (·.buffered)).getD []

/-! ## Moves -/

section Moves

variable {s i : SessionId} {w w' : Provider}

theorem bufferedOf_congr (h : w'.sessions = w.sessions) : w'.bufferedOf s = w.bufferedOf s := by
  rw [bufferedOf, bufferedOf, h]

theorem bufferedOf_updateSession {f : Session → Session} (hf : ∀ x, (f x).buffered = x.buffered) :
    (w.updateSession i f).bufferedOf s = w.bufferedOf s := by
  unfold bufferedOf updateSession
  rw [← List.getElem?_map, ← List.getElem?_map, map_modify_eq fun x _ => hf x]

theorem bufferedOf_modify {f : Session → Session} {x : Session} (hi : w.sessions[i]? = some x) :
    (w.updateSession i f).bufferedOf s =
      if i = s then (f x).buffered else w.bufferedOf s := by
  unfold bufferedOf updateSession
  by_cases his : i = s
  · subst his
    simp [hi]
  · simp [his]

theorem foldl_buffer_eq {es : List Event} {sends : List (Destination × Message)}
    (h : ∀ e ∈ es, Event.buffer s sends e = sends) : es.foldl (Event.buffer s) sends = sends := by
  induction es with
  | nil => rfl
  | cons e es ih =>
      rw [List.foldl_cons, h e List.mem_cons_self]
      exact ih fun e he => h e (List.mem_cons_of_mem _ he)

variable [Labels]

theorem Move.buffer {es : List Event} (h : Move w es w') (s : SessionId) :
    w'.bufferedOf s = es.foldl (Event.buffer s) (w.bufferedOf s) := by
  cases h with
  | idle | shutdown | startBroker | connect | useConnection | setClientId | addTemporary |
      addQueue | post | consume | subscribe | retireConnection | unsubscribe =>
      exact bufferedOf_congr rfl
  | openSession c x number mode =>
      unfold bufferedOf
      rw [List.foldl_nil]
      by_cases hs : s < w.sessions.length
      · rw [List.getElem?_append_left hs]
      · have hs := Nat.le_of_not_lt hs
        rw [List.getElem?_append_right hs, List.getElem?_eq_none hs]
        cases s - w.sessions.length <;> rfl
  | numberProducer => exact bufferedOf_updateSession fun _ => rfl
  | keep i session connection d m hopen hmode =>
      have hi := (openSession_eq_ok.mp hopen).1
      rw [bufferedOf_modify hi]
      by_cases his : i = s
      · subst his
        simp [Event.buffer, bufferedOf, hi]
      · simp [Event.buffer, his]
  | attach i session connection topic name text selector noLocal store next _ _ _ hstore =>
      obtain ⟨stores, rfl⟩ := durableStore_frame hstore
      exact bufferedOf_congr rfl
  | closeConsumer c x =>
      obtain ⟨brokers, heq⟩ := releaseSource_frame c x w
      rw [heq]
      exact bufferedOf_congr rfl
  | purge t =>
      rw [foldl_buffer_eq]
      · exact bufferedOf_congr rfl
      · intro e he
        obtain ⟨y, -, rfl⟩ := List.mem_map.mp he
        rfl
  | handOut c x session connection e rest _ _ hsession =>
      have hreceipt : ∀ y ∈ receipt x session e, Event.buffer s (w.bufferedOf s) y =
          w.bufferedOf s := by
        intro y hy
        unfold receipt at hy
        cases hmode : session.mode.isTracked <;> simp [hmode] at hy <;> grind [Event.buffer]
      rw [foldl_buffer_eq hreceipt, deliver_of_open (openSession_eq_ok.mp hsession).2.1]
      split
      · refine Eq.trans (bufferedOf_updateSession ?_) (bufferedOf_congr rfl)
        exact fun _ => rfl
      · exact bufferedOf_congr rfl
  | acknowledge i session connection tag =>
      rw [foldl_buffer_eq]
      · exact bufferedOf_updateSession fun _ => rfl
      · intro e he
        obtain ⟨d, -, rfl⟩ := List.mem_map.mp he
        rfl
  | commit i session connection hopen =>
      have hi := (openSession_eq_ok.mp (openTransaction_eq_ok.mp hopen).1).1
      have hsettled : (session.delivered.map fun d => Event.settled d.store d.envelope.seq
          (.committed i)).foldl (Event.buffer s) (w.bufferedOf s) = w.bufferedOf s := by
        refine foldl_buffer_eq fun e he => ?_
        obtain ⟨d, -, rfl⟩ := List.mem_map.mp he
        rfl
      rw [bufferedOf_modify hi, committing, List.foldl_append, hsettled]
      rfl
  | forget i session connection hopen =>
      rw [bufferedOf_modify (openSession_eq_ok.mp (openTransaction_eq_ok.mp hopen).1).1]
      rfl
  | giveBack i session older d =>
      exact bufferedOf_updateSession (w := w) (f := ({ · with delivered := older })) fun _ => rfl
  | retireSession i session hi =>
      rw [bufferedOf_modify hi]
      rfl

theorem Moves.buffer {es : List Event} (h : Moves w es w') (s : SessionId) :
    w'.bufferedOf s = es.foldl (Event.buffer s) (w.bufferedOf s) := by
  induction h with
  | refl => rfl
  | step _ hmove ih => rw [List.foldl_append, ← ih, hmove.buffer s]

end Moves

/-! ## Steps -/

section Steps

variable {s : SessionId} {op : Operation} {w : Provider}

theorem foldl_buffer_of_ended {es : List Event} (hkept : ∀ d m, .kept s d m ∉ es)
    (sends : List (Destination × Message)) :
    es.foldl (Event.buffer s) sends = if .ended s ∈ es then [] else sends := by
  induction es using List.reverseRecOn with
  | nil => rfl
  | append_singleton es e ih =>
      rw [List.foldl_append, List.foldl_cons, List.foldl_nil,
        ih fun d m hmem => hkept d m (List.mem_append_left _ hmem)]
      cases e with
      | kept t d m =>
          have hts : t ≠ s := by
            rintro rfl
            exact hkept d m (by simp)
          simp [Event.buffer, hts]
      | ended t =>
          by_cases hts : t = s
          · simp [Event.buffer, hts]
          · simp [Event.buffer, hts, Ne.symm hts]
      | _ => simp [Event.buffer]

theorem isOpen_iff_closed (hw : w.Coherent) {session : Session}
    (hs : w.sessions[s]? = some session) : w.isOpen s = !session.closed := by
  unfold isOpen
  cases hclosed : session.closed with
  | true => simp [openSession, hs, hclosed, Except.isOk, Except.toBool]
  | false =>
      obtain ⟨connection, hc, hstate⟩ :=
        hw.cascading.sessions session (List.mem_of_getElem? hs) hclosed
      have hopen := openSession_eq_ok.mpr ⟨hs, hclosed, openConnection_eq_ok.mpr ⟨hc, hstate⟩⟩
      rw [hopen]
      rfl

theorem ended_mem_closing (hw : w.Coherent) (t : SessionId) :
    .ended s ∈ w.closing t ↔ t = s ∧ w.isOpen s = true := by
  unfold closing
  cases hs : w.sessions[t]? with
  | none =>
      simp only [List.not_mem_nil, false_iff, not_and]
      rintro rfl
      simp [isOpen, openSession, hs, Except.isOk, Except.toBool]
  | some session =>
      have hopen := isOpen_iff_closed hw hs
      dsimp only
      split
      next hclosed =>
        refine iff_of_false List.not_mem_nil ?_
        rintro ⟨rfl, h⟩
        rw [hopen, hclosed] at h
        cases h
      next hclosed =>
        have hmem : .ended s ∈ returning t session ++ [.ended t] ↔ t = s := by
          simp [returning, eq_comm]
        rw [hmem]
        refine ⟨?_, And.left⟩
        rintro rfl
        exact ⟨rfl, by simp [hopen, hclosed]⟩

theorem isOk_openTransaction (s : SessionId) (w : Provider) :
    (w.openTransaction s).isOk = (w.isOpen s && w.isTransacted s) := by
  unfold openTransaction isOpen isTransacted
  cases hopen : w.openSession s with
  | error e => rfl
  | ok x =>
      obtain ⟨session, connection⟩ := x
      rw [(openSession_eq_ok.mp hopen).1]
      cases hmode : session.mode <;> simp [bind, Except.bind, hmode] <;> rfl

theorem mem_sessionsOf {c : ConnectionId} :
    s ∈ w.sessionsOf c ↔ w.sessions[s]?.any (·.connection == c) = true := by
  unfold sessionsOf
  rw [List.mem_filter, List.mem_range, and_iff_right_iff_imp]
  intro hs
  by_contra hlt
  simp [List.getElem?_eq_none (Nat.le_of_not_lt hlt)] at hs

theorem isOk_openConnection {c : ConnectionId} (hopen : w.isOpen s = true)
    (hs : w.sessions[s]?.any (·.connection == c) = true) : (w.openConnection c).isOk = true := by
  unfold isOpen at hopen
  cases hsession : w.openSession s with
  | error e => simp [hsession, Except.isOk, Except.toBool] at hopen
  | ok x =>
      obtain ⟨session, connection⟩ := x
      obtain ⟨hi, -, hc⟩ := openSession_eq_ok.mp hsession
      have hsame : session.connection = c := by simpa [hi] using hs
      rw [← hsame, hc]
      rfl

variable [Labels]

theorem ended_mem_events (hw : w.Coherent) :
    .ended s ∈ w.events op ↔ Step.ends s ⟨op, w⟩ = true := by
  have htransaction := isOk_openTransaction (w := w)
  cases op with
  | commit t =>
      simp only [events, Step.ends]
      cases h : w.openTransaction t with
      | error e =>
          have hopen : (w.isOpen t && w.isTransacted t) = false := by
            rw [← htransaction, h]
            rfl
          refine iff_of_false List.not_mem_nil ?_
          grind
      | ok x =>
          have hopen : (w.isOpen t && w.isTransacted t) = true := by
            rw [← htransaction, h]
            rfl
          have hmem : .ended s ∈ committing t x.1 ++ w.posts (.commit t) ↔ t = s := by
            simp [committing, posts, eq_comm]
          exact hmem.trans (by grind)
  | rollback t =>
      simp only [events, Step.ends]
      cases h : w.openTransaction t with
      | error e =>
          have hopen : (w.isOpen t && w.isTransacted t) = false := by
            rw [← htransaction, h]
            rfl
          refine iff_of_false List.not_mem_nil ?_
          grind
      | ok x =>
          have hopen : (w.isOpen t && w.isTransacted t) = true := by
            rw [← htransaction, h]
            rfl
          have hmem : .ended s ∈ .ended t :: returning t x.1 ↔ t = s := by
            simp [returning, eq_comm]
          exact hmem.trans (by grind)
  | closeSession t =>
      simp [events, Step.ends, ended_mem_closing hw, and_comm]
  | closeConnection c =>
      simp only [events, Step.ends]
      have hmem : .ended s ∈ (w.sessionsOf c).flatMap (w.closing ·) ↔
          w.isOpen s = true ∧ w.sessions[s]?.any (·.connection == c) = true := by
        simp only [List.mem_flatMap, ended_mem_closing hw, mem_sessionsOf]
        constructor
        · rintro ⟨t, ht, rfl, hopen⟩
          exact ⟨hopen, ht⟩
        · rintro ⟨hopen, hs⟩
          exact ⟨s, hs, rfl, hopen⟩
      split
      next hconnection => simp [hmem]
      next hconnection =>
        refine iff_of_false List.not_mem_nil fun h => ?_
        obtain ⟨hopen, hs⟩ := Bool.and_eq_true_iff.mp h
        exact hconnection (isOk_openConnection hopen hs)
  | _ =>
      refine iff_of_false (fun h => ?_) (by simp [Step.ends])
      cases mem_events h with
      | committed _ _ _ hop | rolledBack _ hop => cases hop
      | closed _ _ hop => obtain hop | ⟨c, hop, -⟩ := hop <;> cases hop
      | posted h => simp [posts] at h
      | kept _ _ _ he | attached _ _ he | removed _ _ he => cases he
      | received _ _ _ hkind | browsed _ _ _ hkind => cases hkind
      | acknowledged _ _ _ hkind | returned _ _ _ _ hkind => cases hkind

theorem kept_of_mem_events {d : Destination} {m : Message} (h : .kept s d m ∈ w.events op) :
    Step.kept s ⟨op, w⟩ = some ⟨s, d, m⟩ := by
  cases mem_events h with
  | kept y hy htransacted he =>
      obtain ⟨rfl, rfl, rfl⟩ := Event.kept.injEq .. ▸ he
      simp [Step.kept, hy, htransacted]
  | posted h => simp [posts] at h
  | committed i session connection hop hopen h => simp [committing] at h
  | received _ _ _ hkind | browsed _ _ _ hkind => cases hkind
  | acknowledged _ _ _ hkind | returned _ _ _ _ hkind => cases hkind
  | rolledBack _ _ _ he | closed _ he | attached _ _ he | removed _ _ he => cases he

theorem bufferedOf_step (hw : w.Coherent) :
    (w.step op).bufferedOf s =
      (if Step.ends s ⟨op, w⟩ then [] else w.bufferedOf s) ++
        ((Step.kept s ⟨op, w⟩).map fun y => (y.destination, y.message)).toList := by
  rw [(moves_step hw op).buffer s]
  cases hkept : Step.kept s ⟨op, w⟩ with
  | none =>
      rw [foldl_buffer_of_ended]
      · simp only [ended_mem_events hw]
        simp
      · intro d m hmem
        rw [kept_of_mem_events hmem] at hkept
        cases hkept
  | some y =>
      obtain ⟨hsubmission, rfl, htransacted⟩ := Step.kept_eq_some hkept
      cases op with
      | send p requested q m =>
          have hevents : w.events (.send p requested q m) =
              [.kept y.session y.destination y.message] := by
            simp only [events]
            dsimp only at hsubmission
            rw [hsubmission]
            simp [htransacted]
          rw [hevents]
          simp [Event.buffer, Step.ends]
      | _ => cases hsubmission

end Steps

/-! ## Runs -/

theorem bufferedOf_run [Labels] (s : SessionId) (ops : List Operation) :
    (run ops {}).bufferedOf s =
      (buffering s (trace ops {})).map fun y => (y.2.destination, y.2.message) := by
  induction ops using List.reverseRecOn with
  | nil => rfl
  | append_singleton ops op ih =>
      rw [trace_concat, buffering_concat, run_append, List.map_append]
      change ((run ops {}).step op).bufferedOf s = _
      rw [bufferedOf_step (coherent_run ops), ih]
      congr 1
      · split <;> rfl
      · cases Step.kept s ⟨op, run ops {}⟩ <;> rfl

end Provider

end Messaging
