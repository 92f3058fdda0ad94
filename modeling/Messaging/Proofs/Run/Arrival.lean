import Messaging.Proofs.Run.Custody
import Messaging.Proofs.Run.Routing

/-!
# Arrivals

What a store holds after an operation that takes nothing out of it: what it held before, and then
the publications of the operation that go to it, in order and each of them once.
-/

namespace Messaging

def Event.shelves (s : StoreId) : Event → Bool
  | .handedOut x _ => x.store == s
  | .putBack _ d => d.store == s
  | .settled t _ .expired => t == s
  | _ => false

def Operation.publishes : Operation → Bool
  | .send .. | .commit _ => true
  | _ => false

def Store.pushAll (posts : List (Message × ConnectionId)) (s : Store) : Store :=
  posts.foldl (fun s p => s.push p.1 p.2) s

theorem Store.pushAll_append (posts posts' : List (Message × ConnectionId)) (s : Store) :
    s.pushAll (posts ++ posts') = (s.pushAll posts).pushAll posts' :=
  List.foldl_append

theorem Store.pending_pushAll (posts : List (Message × ConnectionId)) (s : Store) :
    (s.pushAll posts).pending.map (·.message) = s.pending.map (·.message) ++ posts.map (·.1) := by
  induction posts using List.reverseRecOn with
  | nil => simp [pushAll]
  | append_singleton posts p ih =>
      rw [pushAll_append, List.map_append, ← List.append_assoc, ← ih]
      simp [pushAll, push]

def Broker.routesTo (s : StoreId) (p : Publication) (b : Broker) : Bool :=
  b.isLive p.destination &&
    if p.destination.isQueue then b.queue? p.destination == some s
    else b.attached.any fun x =>
      x.store == s && x.topic == p.destination && x.accepts p.message p.origin

theorem Broker.mem_routes {s : StoreId} {p : Publication} {b : Broker} :
    s ∈ b.routes p ↔ b.routesTo s p = true := by
  unfold Broker.routes Broker.routesTo
  cases b.isLive p.destination with
  | false => simp
  | true =>
      cases p.destination.isQueue with
      | false =>
          simp [Broker.targets, and_assoc, and_comm, and_left_comm]
      | true => simp

namespace Provider

/-! ## Moves -/

section Moves

variable {s : StoreId} {w w' : Provider} {es : List Event}

theorem Custody.replay (h : Custody s w es w') (hes : ∀ e ∈ es, e.shelves s = false) :
    w'.storeAt s = (w.storeAt s).pushAll (postsTo s es) ∧
      (w.outstanding s = [] → w'.outstanding s = []) := by
  have hshelves : ∀ {events : List Event}, es.filter (·.concerns s) = events →
      ∀ e ∈ events, e.shelves s = false := by
    rintro events rfl e he
    exact hes e (List.mem_filter.mp he).1
  rw [← postsTo_concerns]
  cases h with
  | quiet hstore hheld hes' =>
      rw [hes']
      exact ⟨hstore, fun hnil => List.Perm.nil_eq (hnil ▸ hheld) ▸ rfl⟩
  | posted m origin hstore hheld hes' =>
      rw [hes', hheld]
      refine ⟨?_, id⟩
      rw [hstore]
      simp [postsTo, Store.pushAll]
  | purged hstore hheld hes' =>
      have hnone : (w.storeAt s).pending.filter (·.message.isExpired w.now) = [] := by
        by_contra hsome
        obtain ⟨e, he⟩ := List.exists_mem_of_ne_nil _ hsome
        have hevent := hshelves hes' _ (List.mem_map_of_mem he)
        simp [Event.shelves] at hevent
      have hpurge : (w.storeAt s).purge w.now = w.storeAt s :=
        Store.purge_eq_self fun e he => by simpa using List.filter_eq_nil_iff.mp hnone e he
      rw [hes', hheld, hstore, hpurge, expirations, hnone]
      exact ⟨rfl, id⟩
  | received x session e _ _ _ _ hxs _ _ _ _ _ _ hes' =>
      have hevent := hshelves hes' (.handedOut x e) (by simp)
      simp [Event.shelves, hxs] at hevent
  | delivered x session e _ _ _ _ _ hxs _ _ _ _ _ hes' =>
      have hevent := hshelves hes' (.handedOut x e) (by simp)
      simp [Event.shelves, hxs] at hevent
  | settled ds cause hstore hheld hes' =>
      rw [hes', hstore, postsTo_map_settled]
      refine ⟨rfl, fun hnil => ?_⟩
      rw [hnil] at hheld
      exact (List.append_eq_nil_iff.mp hheld.nil_eq.symm).2
  | returned i session d hds _ _ _ _ hes' =>
      have hevent := hshelves hes' (.putBack i d) (by simp)
      simp [Event.shelves, hds] at hevent

theorem Moves.replay [Labels] (h : Moves w es w') (hw : w.Coherent)
    (hes : ∀ e ∈ es, e.shelves s = false) :
    w'.storeAt s = (w.storeAt s).pushAll (postsTo s es) ∧
      (w.outstanding s = [] → w'.outstanding s = []) := by
  induction h with
  | refl => exact ⟨rfl, id⟩
  | step hs hmove ih =>
      obtain ⟨hstore, hheld⟩ := ih fun e he => hes e (List.mem_append_left _ he)
      obtain ⟨hstore', hheld'⟩ := (hmove.custody (hs.coherent hw) s).replay
        fun e he => hes e (List.mem_append_right _ he)
      rw [postsTo_append, Store.pushAll_append, ← hstore]
      exact ⟨hstore', fun hnil => hheld' (hheld hnil)⟩

end Moves

/-! ## Publications -/

def Hears (s : StoreId) (p : Publication) (w : Provider) : Prop :=
  (w.brokerAt p.broker).isLive p.destination = true ∧
    ∃ x ∈ (w.brokerAt p.broker).attached, x.store = s ∧ x.topic = p.destination ∧
      Selector.admits x.selector p.message = true ∧ x.noLocal ≠ some p.origin

section Publications

variable {s : StoreId} {op : Operation} {w : Provider}

private theorem postsTo_routes {ss : List StoreId} (hss : ss.Nodup) (m : Message)
    (origin : ConnectionId) :
    postsTo s (ss.map fun t => .posted t m origin) = if s ∈ ss then [(m, origin)] else [] := by
  induction ss with
  | nil => rfl
  | cons t ss ih =>
      obtain ⟨ht, hss⟩ := List.nodup_cons.mp hss
      have hsplit : postsTo s ((t :: ss).map fun t => .posted t m origin) =
          (if t = s then [(m, origin)] else []) ++
            postsTo s (ss.map fun t => .posted t m origin) := by
        by_cases hts : t = s <;> simp [postsTo, hts]
      rw [hsplit, ih hss]
      by_cases hts : t = s
      · subst hts
        simp [ht]
      · simp [hts, Ne.symm hts]

def arrivals [Labels] (s : StoreId) (op : Operation) (w : Provider) :
    List (Message × ConnectionId) :=
  ((w.published op).filter fun p => ((w.step op).brokerAt p.broker).routesTo s p).map fun p =>
    (p.message, p.origin)

theorem nodup_routes {b : Broker} (hb : b.fed.Nodup) (p : Publication) : (b.routes p).Nodup := by
  unfold Broker.routes
  split
  · exact List.nodup_nil
  · split
    · cases b.queue? p.destination <;> simp
    · exact (List.nodup_append.mp hb).2.1.sublist (List.filter_sublist.map _)

variable [Labels]

theorem postsTo_posts (hw : w.Settled) : postsTo s (w.posts op) = w.arrivals s op := by
  have hroutes := fun p : Publication =>
    nodup_routes ((hw.step op).filed.directory p.broker).fed p
  unfold posts arrivals
  induction w.published op with
  | nil => rfl
  | cons p ps ih =>
      rw [List.flatMap_cons, postsTo_append, ih, postsTo_routes (hroutes p)]
      simp only [Broker.mem_routes, List.filter_cons]
      split <;> simp

private theorem posted_mem_posts {t : StoreId} {m : Message} {origin : ConnectionId}
    (h : .posted t m origin ∈ w.events op) : .posted t m origin ∈ w.posts op := by
  cases mem_events h with
  | posted h => exact h
  | committed i session connection hop hopen h => simp [committing] at h
  | received _ _ _ hkind | browsed _ _ _ hkind => cases hkind
  | acknowledged _ _ _ hkind | returned _ _ _ _ hkind => cases hkind
  | kept _ _ _ he | rolledBack _ _ _ he | closed _ he => cases he
  | attached _ _ he | removed _ _ he => cases he

omit [Labels] in
private theorem postsTo_eq_nil {es : List Event}
    (h : ∀ t m origin, .posted t m origin ∉ es) : postsTo s es = [] := by
  refine List.filterMap_eq_nil_iff.mpr fun e he => ?_
  cases e with
  | posted t m origin => exact absurd he (h t m origin)
  | _ => rfl

theorem postsTo_events (s : StoreId) (op : Operation) (w : Provider) :
    postsTo s (w.events op) = postsTo s (w.posts op) := by
  cases op with
  | send p requested q m =>
      simp only [events, posts, published]
      cases w.submission (.send p requested q m) with
      | none => rfl
      | some x =>
          dsimp only
          split <;> rfl
  | commit i =>
      simp only [events, posts, published]
      cases w.openTransaction i with
      | error e => rfl
      | ok x =>
          rw [postsTo_append, postsTo_eq_nil]
          · rfl
          · simp [committing]
  | _ => exact postsTo_eq_nil fun t m origin h => absurd (posted_mem_posts h) List.not_mem_nil

theorem not_shelves_of_publishes (hop : op.publishes = true) : ∀ e ∈ w.events op,
    e.shelves s = false := by
  have hposts : ∀ e ∈ w.posts op, e.shelves s = false := by
    simp only [posts, List.mem_flatMap, List.mem_map]
    rintro e ⟨p, -, t, -, rfl⟩
    rfl
  cases op with
  | send p requested q m =>
      simp only [events]
      cases w.submission (.send p requested q m) with
      | none => simp
      | some x =>
          dsimp only
          split
          · simp [Event.shelves]
          · exact hposts
  | commit i =>
      simp only [events]
      cases w.openTransaction i with
      | error e => simp
      | ok x =>
          intro e he
          rcases List.mem_append.mp he with he | he
          · rcases List.mem_append.mp he with he | he
            · obtain ⟨d, -, rfl⟩ := List.mem_map.mp he
              rfl
            · rw [List.mem_singleton.mp he]
              rfl
          · exact hposts e he
  | _ => cases hop

theorem extends_step (hw : w.Grounded) (hop : op.publishes = true) (b : BrokerId) :
    (w.brokerAt b).Extends ((w.step op).brokerAt b) := by
  cases op with
  | send p requested q m =>
      simp only [step, send]
      cases w.prepare p requested (w.qualityOf p q) m with
      | error e => exact .refl _
      | ok x =>
          obtain ⟨producer, d, m⟩ := x
          simp only [sendThrough, openSession_countSend]
          have hbrokers : (w.countSend p producer).brokers = w.brokers := by
            unfold countSend
            split <;> rfl
          have hcount : (w.brokerAt b).Extends ((w.countSend p producer).brokerAt b) := by
            rw [brokerAt, brokerAt, hbrokers]
            exact .refl _
          cases hopen : w.openSession producer.session with
          | error e => exact hcount
          | ok x =>
              obtain ⟨session, connection⟩ := x
              have hb := hbrokers ▸ hw.lt_of_openSession hopen
              simp only [check]
              split
              · exact hcount
              · rw [brokerAt_publish hb]
                exact hcount.trans (extends_ready d b)
  | commit i =>
      simp only [step, commit]
      cases hopen : w.openTransaction i with
      | error e => exact .refl _
      | ok x =>
          obtain ⟨session, connection⟩ := x
          have hb := hw.lt_of_openSession (openTransaction_eq_ok.mp hopen).1
          exact extends_publishAll (b := connection.broker) session.connection
            (w := w.updateSession i ({ · with buffered := [], delivered := [] })) hb
            session.buffered b
  | _ => cases hop

theorem routesTo_iff_hears (hw : w.Settled) (hop : op.publishes = true) {p : Publication}
    (htopic : p.destination.isQueue = false) (s : StoreId) :
    ((w.step op).brokerAt p.broker).routesTo s p = true ↔ w.Hears s p := by
  have hextends := extends_step hw.coherent.grounded hop p.broker
  unfold Broker.routesTo Hears
  rw [hextends.isLive, hextends.attached, htopic]
  simp [Subscription.accepts, and_assoc, and_comm, and_left_comm]

theorem storeAt_step (hw : w.Settled) (hes : ∀ e ∈ w.events op, e.shelves s = false) :
    (w.step op).storeAt s = (w.storeAt s).pushAll (w.arrivals s op) := by
  have hreplay := (moves_step hw.coherent op).replay hw.coherent hes
  rw [hreplay.1, postsTo_events, postsTo_posts hw]

end Publications

end Provider

end Messaging
