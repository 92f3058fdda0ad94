import Messaging.Proofs.Run.Lasting

/-!
# Numbers

A connection numbers its sessions, a session its producers and a producer its sends.  A number is
given once: what was made keeps it, and the counter it was taken from only goes up.  So the four
numbers of a send tell it from every other send of a run.
-/

namespace Messaging

/-! ## Counters -/

/-- What has a number in the part above it, and a counter for the parts below. -/
structure Counter where
  above : Nat
  number : Nat
  next : Nat
  deriving DecidableEq, Repr

structure Counter.Grows (x y : Counter) : Prop where
  above : y.above = x.above
  number : y.number = x.number
  next : x.next ≤ y.next

theorem Counter.Grows.refl (x : Counter) : x.Grows x := ⟨rfl, rfl, Nat.le_refl _⟩

def Counter.count (x : Counter) : Counter := { x with next := x.next + 1 }

theorem Counter.grows_count (x : Counter) : x.Grows x.count := ⟨rfl, rfl, Nat.le_succ _⟩

/-- The parts below some counters have numbers that were given, no two of one part the same. -/
structure Distinct (nexts : List Nat) (parts : List Counter) : Prop where
  below : ∀ x ∈ parts, ∃ n, nexts[x.above]? = some n ∧ x.number < n
  unique : (parts.map fun x => (x.above, x.number)).Nodup

namespace Distinct

variable {nexts : List Nat} {parts : List Counter}

theorem append (h : Distinct nexts parts) (tail : List Nat) : Distinct (nexts ++ tail) parts := by
  refine ⟨fun x hx => ?_, h.unique⟩
  obtain ⟨n, hn, hlt⟩ := h.below x hx
  have habove := (List.getElem?_eq_some_iff.mp hn).1
  exact ⟨n, (List.getElem?_append_left habove).trans hn, hlt⟩

theorem count (h : Distinct nexts parts) (i : Nat) :
    Distinct nexts (parts.modify i Counter.count) := by
  refine ⟨fun x hx => ?_, ?_⟩
  · rcases mem_of_mem_modify hx with hx | ⟨y, hy, rfl⟩
    · exact h.below x hx
    · exact h.below y (List.mem_of_getElem? hy)
  · have hkeys : (parts.modify i Counter.count).map (fun x => (x.above, x.number)) =
        parts.map fun x => (x.above, x.number) := map_modify_eq fun _ _ => rfl
    exact hkeys ▸ h.unique

theorem add (h : Distinct nexts parts) {i n : Nat} (hi : nexts[i]? = some n) :
    Distinct (nexts.modify i (· + 1)) (parts ++ [⟨i, n, 1⟩]) := by
  constructor
  · intro x hx
    rcases List.mem_append.mp hx with hx | hx
    · obtain ⟨m, hm, hlt⟩ := h.below x hx
      by_cases hix : i = x.above
      · refine ⟨m + 1, ?_, Nat.lt_succ_of_lt hlt⟩
        simp [hix, hm]
      · exact ⟨m, (List.getElem?_modify_ne _ _ hix).trans hm, hlt⟩
    · rw [List.mem_singleton.mp hx]
      exact ⟨n + 1, by simp [hi], Nat.lt_succ_self n⟩
  · rw [List.map_append, List.nodup_append]
    refine ⟨h.unique, by simp, ?_⟩
    intro a ha b hb heq
    obtain ⟨x, hx, rfl⟩ := List.mem_map.mp ha
    obtain ⟨m, hm, hlt⟩ := h.below x hx
    obtain rfl : b = (i, n) := by simpa using hb
    obtain ⟨rfl, rfl⟩ := Prod.mk.inj heq
    obtain rfl : m = x.number := Option.some.inj (hm.symm.trans hi)
    exact absurd hlt (Nat.lt_irrefl _)

theorem place_eq (h : Distinct nexts parts) {i j : Nat} {x y : Counter}
    (hi : parts[i]? = some x) (hj : parts[j]? = some y) (habove : x.above = y.above)
    (hnumber : x.number = y.number) : i = j :=
  place_eq_of_nodup h.unique hi hj (Prod.ext habove hnumber)

end Distinct

/-! ## Numbering -/

structure Numbering where
  connections : List Nat
  sessions : List Counter
  producers : List Counter
  deriving DecidableEq, Repr

structure Stamp where
  connection : ConnectionId
  session : Nat
  producer : Nat
  seq : Nat
  deriving DecidableEq, Repr

namespace Numbering

/-- What an operation does to the numbers, and what it stamps. -/
inductive Next : Numbering → Option Stamp → Numbering → Prop where
  | idle (n : Numbering) : Next n none n
  | connect (n : Numbering) : Next n none { n with connections := n.connections ++ [1] }
  | openSession (n : Numbering) {c k : Nat} (hc : n.connections[c]? = some k) :
      Next n none
        { n with
          connections := n.connections.modify c (· + 1)
          sessions := n.sessions ++ [⟨c, k, 1⟩] }
  | openProducer (n : Numbering) {s : Nat} {x : Counter} (hs : n.sessions[s]? = some x) :
      Next n none
        { n with
          sessions := n.sessions.modify s Counter.count
          producers := n.producers ++ [⟨s, x.next, 1⟩] }
  | stamp (n : Numbering) {p : Nat} {x y : Counter} (hp : n.producers[p]? = some x)
      (hs : n.sessions[x.above]? = some y) :
      Next n (some ⟨y.above, y.number, x.number, x.next⟩)
        { n with producers := n.producers.modify p Counter.count }

structure Sound (n : Numbering) : Prop where
  sessions : Distinct n.connections n.sessions
  producers : Distinct (n.sessions.map (·.next)) n.producers

def Used (n : Numbering) (k : Stamp) : Prop :=
  ∃ (p : ProducerId) (x y : Counter), n.producers[p]? = some x ∧
    n.sessions[x.above]? = some y ∧ k.connection = y.above ∧ k.session = y.number ∧
    k.producer = x.number ∧ k.seq < x.next

variable {n n' : Numbering} {o : Option Stamp}

theorem map_next_count (xs : List Counter) (i : Nat) :
    (xs.modify i Counter.count).map (·.next) = (xs.map (·.next)).modify i (· + 1) :=
  map_modify_comm fun _ _ => rfl

theorem Next.sound (h : Next n o n') (hn : n.Sound) : n'.Sound := by
  cases h with
  | idle => exact hn
  | connect => exact ⟨hn.sessions.append [1], hn.producers⟩
  | openSession hc =>
      refine ⟨hn.sessions.add hc, ?_⟩
      rw [List.map_append]
      exact hn.producers.append _
  | openProducer hs =>
      refine ⟨hn.sessions.count _, ?_⟩
      rw [map_next_count]
      exact hn.producers.add (by simp [hs])
  | stamp hp hs => exact ⟨hn.sessions, hn.producers.count _⟩

theorem Next.grows (h : Next n o n') :
    Succeeds Counter.Grows n.sessions n'.sessions ∧
      Succeeds Counter.Grows n.producers n'.producers := by
  cases h with
  | idle | connect => exact ⟨.of_eq .refl rfl, .of_eq .refl rfl⟩
  | openSession => exact ⟨.append .refl _, .of_eq .refl rfl⟩
  | openProducer => exact ⟨.modify .refl fun x _ => x.grows_count, .append .refl _⟩
  | stamp => exact ⟨.of_eq .refl rfl, .modify .refl fun x _ => x.grows_count⟩

theorem Next.used (h : Next n o n') {k : Stamp} (hk : n.Used k) : n'.Used k := by
  obtain ⟨hsessions, hproducers⟩ := h.grows
  obtain ⟨p, x, y, hp, hs, hconnection, hsession, hproducer, hseq⟩ := hk
  obtain ⟨x', hp', hx⟩ := hproducers p x hp
  obtain ⟨y', hs', hy⟩ := hsessions _ y hs
  refine ⟨p, x', y', hp', hx.above ▸ hs', ?_, ?_, ?_, Nat.lt_of_lt_of_le hseq hx.next⟩
  · rw [hconnection, hy.above]
  · rw [hsession, hy.number]
  · rw [hproducer, hx.number]

theorem Next.stamp_fresh {k : Stamp} (h : Next n (some k) n') (hn : n.Sound) :
    ¬ n.Used k ∧ n'.Used k := by
  cases h with
  | @stamp p x y hp hs =>
      constructor
      · rintro ⟨p', x', y', hp', hs', hconnection, hsession, hproducer, hseq⟩
        have habove := hn.sessions.place_eq hs hs' hconnection hsession
        obtain rfl := hn.producers.place_eq hp hp' habove hproducer
        obtain rfl : x = x' := Option.some.inj (hp.symm.trans hp')
        exact absurd hseq (Nat.lt_irrefl _)
      · exact ⟨p, x.count, y, by simp [hp], hs, rfl, rfl, rfl, Nat.lt_succ_self _⟩

/-- How far the counters can be when so many stamps were used. -/
structure Within (used : Nat) (n : Numbering) : Prop where
  connections : ∀ k ∈ n.connections, k ≤ n.sessions.length + 1
  sessions : ∀ k ∈ n.sessions.map (·.next), k ≤ n.producers.length + 1
  producers : ∀ k ∈ n.producers.map (·.next), k ≤ used + 1

theorem le_succ_of_mem_modify {l : List Nat} {b i : Nat} (h : ∀ k ∈ l, k ≤ b) :
    ∀ k ∈ l.modify i (· + 1), k ≤ b + 1 := by
  intro k hk
  rcases mem_of_mem_modify hk with hk | ⟨m, hm, rfl⟩
  · exact Nat.le_succ_of_le (h k hk)
  · exact Nat.succ_le_succ (h m (List.mem_of_getElem? hm))

theorem le_of_mem_snoc {l : List Nat} {b : Nat} (h : ∀ k ∈ l, k ≤ b + 1) :
    ∀ k ∈ l ++ [1], k ≤ b + 1 := by
  intro k hk
  rcases List.mem_append.mp hk with hk | hk
  · exact h k hk
  · rw [List.mem_singleton.mp hk]
    exact Nat.le_add_left 1 b

theorem Next.within (h : Next n o n') {used : Nat} (hn : n.Within used) :
    n'.Within (used + o.toList.length) := by
  cases h with
  | idle => exact hn
  | connect => exact ⟨le_of_mem_snoc hn.connections, hn.sessions, hn.producers⟩
  | openSession hc =>
      refine ⟨?_, ?_, hn.producers⟩
      · rw [List.length_append]
        exact le_succ_of_mem_modify hn.connections
      · rw [List.map_append]
        exact le_of_mem_snoc hn.sessions
  | openProducer hs =>
      refine ⟨?_, ?_, ?_⟩
      · rw [List.length_modify]
        exact hn.connections
      · rw [map_next_count, List.length_append]
        exact le_succ_of_mem_modify hn.sessions
      · rw [List.map_append]
        exact le_of_mem_snoc hn.producers
  | stamp hp hs =>
      refine ⟨hn.connections, ?_, ?_⟩
      · rw [List.length_modify]
        exact hn.sessions
      · rw [map_next_count]
        exact le_succ_of_mem_modify hn.producers

theorem Used.bounds {k : Stamp} (hk : n.Used k) (hn : n.Sound) {used : Nat}
    (hwithin : n.Within used) :
    k.connection < n.connections.length ∧ k.session ≤ n.sessions.length ∧
      k.producer ≤ n.producers.length ∧ k.seq ≤ used := by
  obtain ⟨p, x, y, hp, hs, hconnection, hsession, hproducer, hseq⟩ := hk
  have hx := List.mem_of_getElem? hp
  obtain ⟨next, hnext, hlt⟩ := hn.sessions.below y (List.mem_of_getElem? hs)
  obtain ⟨next', hnext', hlt'⟩ := hn.producers.below x hx
  have hsessions := hwithin.connections next (List.mem_of_getElem? hnext)
  have hproducers := hwithin.sessions next' (List.mem_of_getElem? hnext')
  have hsends := hwithin.producers x.next (List.mem_map_of_mem hx)
  refine ⟨?_, ?_, ?_, ?_⟩
  · rw [hconnection]
    exact (List.getElem?_eq_some_iff.mp hnext).1
  · omega
  · omega
  · omega

end Numbering

/-! ## The numbers of a provider -/

def Session.counter (x : Session) : Counter := ⟨x.connection, x.number, x.nextProducer⟩

def Producer.counter (x : Producer) : Counter := ⟨x.session, x.number, x.nextSeq⟩

namespace Provider

def numbering (w : Provider) : Numbering where
  connections := w.connections.map (·.nextSession)
  sessions := w.sessions.map Session.counter
  producers := w.producers.map Producer.counter

section Frames

variable {w : Provider}

theorem numbering_updateConnection {c : ConnectionId} {f : Connection → Connection}
    (hf : ∀ x, (f x).nextSession = x.nextSession) :
    (w.updateConnection c f).numbering = w.numbering := by
  have hnext : (w.connections.modify c f).map (·.nextSession) = w.connections.map (·.nextSession) :=
    map_modify_eq fun x _ => hf x
  simp [numbering, updateConnection, hnext]

theorem numbering_updateSession {s : SessionId} {f : Session → Session}
    (hf : ∀ x, (f x).counter = x.counter) : (w.updateSession s f).numbering = w.numbering := by
  have hcounter : (w.sessions.modify s f).map Session.counter = w.sessions.map Session.counter :=
    map_modify_eq fun x _ => hf x
  simp [numbering, updateSession, hcounter]

theorem numbering_updateProducer {p : ProducerId} {f : Producer → Producer}
    (hf : ∀ x, (f x).counter = x.counter) : (w.updateProducer p f).numbering = w.numbering := by
  have hcounter : (w.producers.modify p f).map Producer.counter =
      w.producers.map Producer.counter := map_modify_eq fun x _ => hf x
  simp [numbering, updateProducer, hcounter]

theorem numbering_check {α β : Type} {r : Except Error α} {f : α → Outcome β}
    (hf : ∀ a, (f a).2.numbering = w.numbering) :
    (check r w f).2.numbering = w.numbering := by
  cases r with
  | error e => rfl
  | ok a => exact hf a

theorem numbering_foldl {α : Type} {f : Provider → α → Provider}
    (hf : ∀ w a, (f w a).numbering = w.numbering) (l : List α) (w : Provider) :
    (l.foldl f w).numbering = w.numbering := by
  induction l generalizing w with
  | nil => rfl
  | cons a l ih => rw [List.foldl_cons, ih, hf]

end Frames

section Calls

variable (w : Provider)

theorem numbering_queueStore (b : BrokerId) (d : Destination) :
    (w.queueStore b d).2.numbering = w.numbering := by
  obtain ⟨brokers, stores, h⟩ := queueStore_frame (b := b) (w := w) d
  rw [h]
  rfl

theorem numbering_publish (b : BrokerId) (d : Destination) (m : Message) (origin : ConnectionId) :
    (w.publish b d m origin).2.numbering = w.numbering := by
  have hpush : ∀ ss v, (pushAll (sealed m) origin ss v).numbering = v.numbering :=
    numbering_foldl fun _ _ => rfl
  unfold publish
  dsimp only
  split
  · rfl
  · split
    · exact (hpush _ _).trans (numbering_queueStore w b d)
    · exact hpush _ w

theorem numbering_publishAll (b : BrokerId) (origin : ConnectionId)
    (sends : List (Destination × Message)) :
    (w.publishAll b origin sends).2.numbering = w.numbering := by
  induction sends generalizing w with
  | nil => rfl
  | cons x sends ih =>
      rw [publishAll_cons]
      exact (ih _).trans (numbering_publish w b x.1 x.2 origin)

theorem numbering_closeConsumer (c : ConsumerId) : (w.closeConsumer c).numbering = w.numbering := by
  obtain ⟨consumers, brokers, h⟩ := closeConsumer_eq c w
  rw [h]
  rfl

theorem numbering_redeliver (s : SessionId) : (w.redeliver s).numbering = w.numbering := by
  unfold redeliver
  cases w.sessions[s]? with
  | none => rfl
  | some x =>
      obtain ⟨stores, h⟩ := foldr_putBack_eq x.delivered
        (w.updateSession s ({ · with delivered := [] }))
      simp only [h]
      exact numbering_updateSession (w := w) fun _ => rfl

theorem numbering_closeSession (s : SessionId) : (w.closeSession s).numbering = w.numbering := by
  unfold closeSession
  cases w.sessions[s]? with
  | none => rfl
  | some x =>
      cases hx : x.closed with
      | true => simp [hx]
      | false =>
          have hconsumers := numbering_foldl numbering_closeConsumer
          simp only [hx, Bool.false_eq_true, if_false, numbering_redeliver, hconsumers]
          exact numbering_updateSession fun _ => rfl

theorem numbering_closeConnection (c : ConnectionId) :
    (w.closeConnection c).numbering = w.numbering := by
  unfold closeConnection
  cases w.connections[c]? with
  | none => rfl
  | some x =>
      by_cases hx : x.state = .closed
      · simp [hx]
      · have hsessions := numbering_foldl numbering_closeSession
        simp only [hx, if_false]
        refine (hsessions _ _).trans ?_
        exact numbering_updateConnection fun _ => rfl

theorem numbering_deliver (s : SessionId) (session : Session) (store : StoreId) (e : Envelope) :
    (w.deliver s session store e).2.numbering = w.numbering := by
  unfold deliver
  split
  · rfl
  · split
    · rfl
    · exact numbering_updateSession fun _ => rfl

theorem numbering_takeNext (x : Consumer) : (w.takeNext x).2.numbering = w.numbering := by
  have htake : (w.takeFrom x.store x.filter).2.numbering = w.numbering := by
    unfold takeFrom
    dsimp only
    split <;> rfl
  unfold takeNext
  cases w.sessions[x.session]? with
  | none => rfl
  | some session =>
      cases htaken : w.takeFrom x.store x.filter with
      | mk found next =>
          rw [htaken] at htake
          cases found with
          | none => exact htake
          | some e => exact (numbering_deliver next x.session session x.store e).trans htake

theorem numbering_pull (c : ConsumerId) : (w.pull c).2.numbering = w.numbering := by
  unfold pull
  split
  · rfl
  · split
    · exact numbering_takeNext w _
    · rfl

theorem numbering_acknowledge (m : Message) : (w.acknowledge m).2.numbering = w.numbering := by
  unfold acknowledge
  cases m.ack with
  | none => rfl
  | some token =>
      refine numbering_check fun (session, connection) => ?_
      dsimp only
      cases session.mode with
      | auto | dupsOk | transacted => rfl
      | client | individual => exact numbering_updateSession fun _ => rfl

theorem numbering_createConsumer (s : SessionId) (d : Destination) (selector : Option String)
    (noLocal : Bool) : (w.createConsumer s d selector noLocal).2.numbering = w.numbering := by
  refine numbering_check fun (session, connection) => numbering_check fun selector =>
    numbering_check fun _ => ?_
  dsimp only
  split
  · exact numbering_queueStore w connection.broker d
  · rfl

theorem numbering_createDurableConsumer (s : SessionId) (topic : Destination) (name : String)
    (selector : Option String) (noLocal : Bool) :
    (w.createDurableConsumer s topic name selector noLocal).2.numbering = w.numbering := by
  refine numbering_check fun (session, connection) => numbering_check fun selector => ?_
  dsimp only
  split
  · rfl
  · have hstore :
        (w.durableStore connection.broker ⟨connection.clientId, name⟩ topic selector).2.numbering =
          w.numbering := by
      unfold durableStore
      split
      · rfl
      · split
        · rfl
        · split <;> rfl
    cases hfound : w.durableStore connection.broker ⟨connection.clientId, name⟩ topic selector with
    | mk r next =>
        rw [hfound] at hstore
        cases r with
        | error e => exact hstore
        | ok store => exact hstore

theorem numbering_createBrowser (s : SessionId) (queue : Destination) (selector : Option String) :
    (w.createBrowser s queue selector).2.numbering = w.numbering := by
  refine numbering_check fun (session, connection) => numbering_check fun selector => ?_
  dsimp only
  split
  · rfl
  · exact numbering_check fun _ => numbering_queueStore w connection.broker queue

theorem numbering_browseNext (b : BrowserId) : (w.browseNext b).2.numbering = w.numbering := by
  refine numbering_check fun browser => ?_
  cases hfound : w.peek browser with
  | mk found next =>
      have hpeek : next.numbering = w.numbering := by
        rw [← show (w.peek browser).2 = next from congrArg Prod.snd hfound]
        rfl
      cases found <;> exact hpeek

theorem numbering_set (p : ProducerId) (x : ProducerSetting) :
    (w.set p x).numbering = w.numbering := by
  cases x with
  | deliveryMode | disableMessageId | disableTimestamp =>
      exact numbering_updateProducer fun _ => rfl
  | priority | timeToLive =>
      exact numbering_check fun _ => numbering_updateProducer fun _ => rfl

theorem numbering_sendThrough (s : SessionId) (d : Destination) (m : Message) :
    (w.sendThrough s d m).2.numbering = w.numbering := by
  refine numbering_check fun (session, connection) => ?_
  dsimp only
  split
  · exact numbering_updateSession fun _ => rfl
  · exact numbering_publish w connection.broker d m session.connection

theorem next_check {α β : Type} {w : Provider} {r : Except Error α} {f : α → Outcome β}
    (hf : ∀ a, Numbering.Next w.numbering none (f a).2.numbering) :
    Numbering.Next w.numbering none (check r w f).2.numbering := by
  cases r with
  | error e => exact .idle _
  | ok a => exact hf a

theorem numbering_connectWith [Labels] (f : ConnectionFactory) (username password : String)
    (clientId : Option String) :
    Numbering.Next w.numbering none (w.connectWith f username password clientId).2.numbering := by
  have hfind : (w.findBroker f.uri).2.numbering = w.numbering := by
    unfold findBroker
    split
    · rfl
    · split <;> rfl
  unfold connectWith
  cases hfound : w.findBroker f.uri with
  | mk r next =>
      rw [hfound] at hfind
      rw [← hfind]
      cases r with
      | error e => exact .idle _
      | ok b =>
          refine next_check fun _ => ?_
          change Numbering.Next (numbering { next with labels := next.labels + 1 }) none _
          refine next_check fun label => next_check fun _ => ?_
          have hconnected := Numbering.Next.connect next.numbering
          simpa [numbering, updateBroker] using hconnected

theorem numbering_createSession (c : ConnectionId) (mode : AckMode) :
    Numbering.Next w.numbering none (w.createSession c mode).2.numbering := by
  unfold createSession
  cases hopen : w.openConnection c with
  | error e => exact .idle _
  | ok x =>
      have hc : w.numbering.connections[c]? = some x.nextSession := by
        simp [numbering, (openConnection_eq_ok.mp hopen).1]
      have hnext : (w.connections.modify c fun y =>
          { y with clientIdFixed := true, nextSession := y.nextSession + 1 }).map (·.nextSession) =
            (w.connections.map (·.nextSession)).modify c (· + 1) :=
        map_modify_comm fun _ _ => rfl
      have hopened := Numbering.Next.openSession w.numbering hc
      simpa [numbering, check, hnext, Session.counter] using hopened

theorem numbering_createProducer (s : SessionId) (d : Option Destination) :
    Numbering.Next w.numbering none (w.createProducer s d).2.numbering := by
  unfold createProducer
  cases hopen : w.openSession s with
  | error e => exact .idle _
  | ok found =>
      obtain ⟨x, connection⟩ := found
      have hx := (openSession_eq_ok.mp hopen).1
      have hs : w.numbering.sessions[s]? = some x.counter := by simp [numbering, hx]
      have hcount : (w.sessions.modify s ({ · with nextProducer := x.nextProducer + 1 })).map
          Session.counter = (w.sessions.map Session.counter).modify s Counter.count := by
        refine map_modify_comm fun y hy => ?_
        obtain rfl : x = y := Option.some.inj (hx.symm.trans hy)
        rfl
      have hopened := Numbering.Next.openProducer w.numbering hs
      simpa [numbering, check, updateSession, hcount, Producer.counter, Session.counter]
        using hopened

end Calls

/-! ## Stamps -/

theorem prepare_stamps {p : ProducerId} {requested : Option Destination} {q : Quality}
    {m m' : Message} {w : Provider} {producer : Producer} {d : Destination}
    (h : w.prepare p requested q m = .ok (producer, d, m')) :
    w.producers[p]? = some producer ∧
      ∃ session connection, w.sessions[producer.session]? = some session ∧
        w.connections[session.connection]? = some connection ∧
        m' = stamp d q producer.config w.now
          (messageId connection.label session.number producer.number producer.nextSeq) m := by
  unfold prepare at h
  cases hp : w.producers[p]? with
  | none => simp [hp] at h
  | some x =>
      simp only [hp] at h
      split at h
      next => cases h
      next d' session connection hchecked hsession hconnection =>
        obtain ⟨rfl, rfl, rfl⟩ : x = producer ∧ d' = d ∧ _ = m' := by simpa using h
        refine ⟨rfl, session, connection, hsession, ?_, rfl⟩
        simpa [connectionOf, hsession] using hconnection
      next => cases h

end Provider

def Step.stamp? (x : Step) : Option Stamp :=
  match x.operation with
  | .send p requested q m =>
    match x.before.prepare p requested (x.before.qualityOf p q) m with
    | .error _ => none
    | .ok (producer, _, _) =>
      if producer.config.disableMessageId then none
      else
        x.before.sessions[producer.session]?.map fun session =>
          ⟨session.connection, session.number, producer.number, producer.nextSeq⟩
  | _ => none

namespace Provider

theorem numbering_send (p : ProducerId) (requested : Option Destination) (q : Option Quality)
    (m : Message) (w : Provider) :
    Numbering.Next w.numbering (Step.stamp? ⟨.send p requested q m, w⟩)
      (w.send p requested (w.qualityOf p q) m).2.numbering := by
  unfold send Step.stamp?
  dsimp only
  cases hprepare : w.prepare p requested (w.qualityOf p q) m with
  | error e => exact .idle _
  | ok prepared =>
      obtain ⟨producer, d, m'⟩ := prepared
      obtain ⟨hp, session, connection, hs, -, -⟩ := prepare_stamps hprepare
      simp only [numbering_sendThrough, countSend]
      cases producer.config.disableMessageId with
      | true => exact .idle _
      | false =>
          have hproducer : w.numbering.producers[p]? = some producer.counter := by
            simp [numbering, hp]
          have hsession : w.numbering.sessions[producer.counter.above]? = some session.counter := by
            simp [numbering, Producer.counter, hs]
          have hcount : (w.producers.modify p ({ · with nextSeq := producer.nextSeq + 1 })).map
              Producer.counter = (w.producers.map Producer.counter).modify p Counter.count := by
            refine map_modify_comm fun y hy => ?_
            obtain rfl : producer = y := Option.some.inj (hp.symm.trans hy)
            rfl
          have hstamped := Numbering.Next.stamp w.numbering hproducer hsession
          simpa [numbering, updateProducer, hcount, hs, Producer.counter, Session.counter]
            using hstamped

theorem numbering_step [Labels] {w : Provider} (hw : w.Coherent) (op : Operation) :
    Numbering.Next w.numbering (Step.stamp? ⟨op, w⟩) (w.step op).numbering := by
  have hidle : ∀ {v : Provider}, v.numbering = w.numbering →
      Numbering.Next w.numbering none v.numbering := fun h => h ▸ .idle _
  have hpull : ∀ op c, Operation.consumer? op = some c →
      Numbering.Next w.numbering none (w.step op).numbering :=
    fun op c hop => hidle (step_eq hw hop ▸ numbering_pull w c)
  cases op with
  | connect f username password clientId =>
      exact numbering_connectWith w f username password clientId
  | start | stop =>
      exact hidle (numbering_check fun _ => numbering_updateConnection fun _ => rfl)
  | setClientId =>
      refine hidle (numbering_check fun _ => ?_)
      split
      · rfl
      · exact numbering_check fun _ => numbering_updateConnection fun _ => rfl
  | closeConnection c => exact hidle (numbering_closeConnection w c)
  | shutdown | advance => exact hidle rfl
  | createSession c mode => exact numbering_createSession w c mode
  | createTemporaryQueue | createTemporaryTopic =>
      exact hidle (numbering_check fun _ => numbering_updateConnection fun _ => rfl)
  | acknowledge m => exact hidle (numbering_acknowledge w m)
  | commit s =>
      refine hidle (numbering_check fun (session, connection) => ?_)
      refine (numbering_publishAll _ _ _ _).trans ?_
      exact numbering_updateSession fun _ => rfl
  | rollback s =>
      refine hidle (numbering_check fun _ => ?_)
      refine (numbering_redeliver _ s).trans ?_
      exact numbering_updateSession fun _ => rfl
  | recover s =>
      refine hidle (numbering_check fun (session, connection) => ?_)
      dsimp only
      split
      · rfl
      · exact numbering_redeliver w s
  | unsubscribe s name =>
      refine hidle (numbering_check fun (session, connection) => ?_)
      dsimp only
      split
      · rfl
      · split <;> rfl
  | closeSession s => exact hidle (numbering_closeSession w s)
  | createProducer s d => exact numbering_createProducer w s d
  | configure p x => exact hidle (numbering_set w p x)
  | closeProducer p => exact hidle (numbering_updateProducer fun _ => rfl)
  | send p requested q m => exact numbering_send p requested q m w
  | createConsumer s d selector noLocal =>
      exact hidle (numbering_createConsumer w s d selector noLocal)
  | createDurableConsumer s topic name selector noLocal =>
      exact hidle (numbering_createDurableConsumer w s topic name selector noLocal)
  | closeConsumer c => exact hidle (numbering_closeConsumer w c)
  | receiveNow c => exact hpull (.receiveNow c) c rfl
  | receive c => exact hpull (.receive c) c rfl
  | poll c => exact hpull (.poll c) c rfl
  | createBrowser s queue selector => exact hidle (numbering_createBrowser w s queue selector)
  | hasMore b => exact hidle (numbering_check fun _ => rfl)
  | browseNext b => exact hidle (numbering_browseNext w b)
  | closeBrowser b => exact hidle rfl

end Provider

end Messaging
