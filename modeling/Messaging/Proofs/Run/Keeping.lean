import Messaging.Proofs.Run.Holding

/-!
# Outstanding deliveries

A session holds a delivery from the step that hands it out, until a step covers it by an
acknowledgement or a commit, or makes the session put back all that it holds.  So what a session
holds can be read off the steps of the run.
-/

namespace Messaging

def Handing.delivery (h : Handing) : Delivery :=
  ⟨h.session.nextTag, h.consumer.store, h.envelope⟩

namespace Step

def adds (i : SessionId) (x : Step) : Option Delivery :=
  (x.handing.filter fun h => h.consumer.session == i && h.session.mode.isTracked).map (·.delivery)

def covers (i : SessionId) (d : Delivery) (x : Step) : Bool :=
  x.before.isOpen i &&
    match x.operation with
    | .acknowledge m => m.ack.any fun token =>
        token.session == i && x.before.sessions[i]?.any (Provider.covers ·.mode token.tag d)
    | .commit t => t == i && x.before.isTransacted i
    | _ => false

def drops (i : SessionId) (d : Delivery) (x : Step) : Bool := x.recalls i || x.covers i d

theorem adds_eq_some {i : SessionId} {d : Delivery} {x : Step} (hx : x.adds i = some d) :
    ∃ h, x.handing = some h ∧ h.consumer.session = i ∧ h.session.mode.isTracked = true ∧
      h.delivery = d := by
  obtain ⟨h, hfilter, hd⟩ := Option.map_eq_some_iff.mp hx
  obtain ⟨hh, hmine⟩ := Option.filter_eq_some_iff.mp hfilter
  obtain ⟨hi, htracked⟩ := Bool.and_eq_true_iff.mp hmine
  exact ⟨h, hh, by simpa using hi, htracked, hd⟩

theorem adds_of_handing {h : Handing} {x : Step} (hh : x.handing = some h)
    (htracked : h.session.mode.isTracked = true) :
    x.adds h.consumer.session = some h.delivery := by
  simp [adds, hh, htracked]

end Step

/-- The deliveries that some steps hand out in a session and that no later one of them drops. -/
def keeping (i : SessionId) : List Step → List Delivery
  | [] => []
  | x :: xs => ((x.adds i).filter fun d => !xs.any (·.drops i d)).toList ++ keeping i xs

section Keeping

variable (i : SessionId)

theorem keeping_concat (xs : List Step) (x : Step) :
    keeping i (xs ++ [x]) =
      (keeping i xs).filter (fun d => !x.drops i d) ++ (x.adds i).toList := by
  induction xs with
  | nil => cases h : x.adds i <;> simp [keeping, h]
  | cons y ys ih =>
      rw [List.cons_append, keeping, ih, keeping, List.filter_append, List.append_assoc]
      congr 1
      cases y.adds i with
      | none => rfl
      | some d =>
          simp only [Option.filter_some, List.any_append, List.any_cons, List.any_nil,
            Bool.or_false]
          cases hys : ys.any (·.drops i d) <;> cases hx : x.drops i d <;> simp [hx]

theorem keeping_sublist (xs : List Step) : (keeping i xs).Sublist (xs.filterMap (·.adds i)) := by
  induction xs with
  | nil => exact .slnil
  | cons x xs ih =>
      rw [keeping, List.filterMap_cons]
      cases x.adds i with
      | none => exact ih
      | some d =>
          rw [Option.filter_some]
          split
          · exact ih.cons_cons d
          · exact ih.cons d

end Keeping

def Event.takes (i : SessionId) : Event → Bool
  | .handedOut x _ => x.session == i
  | .settled _ _ (.acknowledged t) | .settled _ _ (.committed t) => t == i
  | _ => false

def returnedBy (i : SessionId) (es : List Event) : List Delivery :=
  es.filterMap fun
    | .putBack t d => if t = i then some d else none
    | _ => none

theorem returnedBy_append (i : SessionId) (es es' : List Event) :
    returnedBy i (es ++ es') = returnedBy i es ++ returnedBy i es' :=
  List.filterMap_append

theorem mem_returnedBy {i : SessionId} {d : Delivery} {es : List Event} :
    d ∈ returnedBy i es ↔ .putBack i d ∈ es := by
  unfold returnedBy
  rw [List.mem_filterMap]
  constructor
  · rintro ⟨e, he, hd⟩
    cases e with
    | putBack t d' =>
        dsimp only at hd
        split at hd
        next ht =>
          obtain rfl := Option.some.inj hd
          exact ht ▸ he
        next => cases hd
    | _ => cases hd
  · exact fun he => ⟨_, he, if_pos rfl⟩

theorem returnedBy_eq_nil {i : SessionId} {es : List Event} (h : ∀ d, .putBack i d ∉ es) :
    returnedBy i es = [] :=
  List.eq_nil_iff_forall_not_mem.mpr fun d hd => h d (mem_returnedBy.mp hd)

namespace Provider

/-! ## Moves -/

variable [Labels]

section Moves

variable {i : SessionId} {w w' : Provider} {es : List Event}

omit [Labels] in
theorem deliveriesOf_congr (h : w'.sessions = w.sessions) :
    w'.deliveriesOf i = w.deliveriesOf i := by
  rw [deliveriesOf, deliveriesOf, h]

theorem Move.returned (h : Move w es w') (hes : ∀ e ∈ es, e.takes i = false) :
    w.deliveriesOf i = w'.deliveriesOf i ++ (returnedBy i es).reverse := by
  have hquiet : (∀ d, .putBack i d ∉ es) → w'.deliveriesOf i = w.deliveriesOf i →
      w.deliveriesOf i = w'.deliveriesOf i ++ (returnedBy i es).reverse := by
    intro hnone hsame
    rw [returnedBy_eq_nil hnone, hsame]
    simp
  cases h with
  | idle | shutdown | startBroker | connect | useConnection | setClientId | addTemporary |
      addQueue | post | consume | subscribe | retireConnection | unsubscribe =>
      exact hquiet (by simp) (deliveriesOf_congr rfl)
  | openSession c x number mode =>
      refine hquiet (by simp) ?_
      unfold deliveriesOf
      by_cases hi : i < w.sessions.length
      · rw [List.getElem?_append_left hi]
      · have hi := Nat.le_of_not_lt hi
        rw [List.getElem?_append_right hi, List.getElem?_eq_none hi]
        cases i - w.sessions.length <;> rfl
  | numberProducer | keep | forget | retireSession =>
      exact hquiet (by simp) (deliveriesOf_of_delivered fun _ => rfl)
  | attach t session connection topic name text selector noLocal store next _ _ _ hstore =>
      obtain ⟨stores, rfl⟩ := durableStore_frame hstore
      exact hquiet (by simp) (deliveriesOf_congr rfl)
  | closeConsumer c x =>
      obtain ⟨brokers, heq⟩ := releaseSource_frame c x w
      exact hquiet (by simp) (deliveriesOf_congr (by rw [heq]))
  | purge t => exact hquiet (by simp [expirations]) (deliveriesOf_congr rfl)
  | handOut c x session connection e rest _ _ hsession =>
      obtain ⟨hs, hclosed, -⟩ := openSession_eq_ok.mp hsession
      have hne : x.session ≠ i := by simpa [Event.takes] using hes _ List.mem_cons_self
      refine hquiet (by unfold receipt; grind) ?_
      rw [deliver_of_open hclosed]
      split
      · rw [deliveriesOf_updateSession (w := w.updateStore x.store fun _ => rest) hs, if_neg hne]
        rfl
      · rfl
  | acknowledge t session connection tag hopen =>
      have ht := (openSession_eq_ok.mp hopen).1
      refine hquiet (by simp) ?_
      rw [deliveriesOf_updateSession ht]
      split
      next hti =>
        subst hti
        rw [deliveriesOf_eq ht]
        refine List.filter_eq_self.mpr fun d hd => ?_
        by_contra hcovered
        have hmem := List.mem_filter.mpr ⟨hd, by simpa using hcovered⟩
        have htakes := hes _ (List.mem_map_of_mem hmem)
        simp [Event.takes] at htakes
      next => rfl
  | commit t session connection hopen =>
      have ht := (openSession_eq_ok.mp (openTransaction_eq_ok.mp hopen).1).1
      refine hquiet (by simp [committing]) ?_
      rw [deliveriesOf_updateSession ht]
      split
      next hti =>
        subst hti
        rw [deliveriesOf_eq ht]
        refine (List.eq_nil_iff_forall_not_mem.mpr fun d hd => ?_).symm
        have htakes := hes _ (List.mem_append_left _ (List.mem_map_of_mem hd))
        simp [Event.takes] at htakes
      next => rfl
  | giveBack t session older d ht hd =>
      change _ = (w.updateSession t ({ · with delivered := older })).deliveriesOf i ++ _
      rw [deliveriesOf_updateSession ht]
      by_cases hti : t = i
      · subst hti
        simp [deliveriesOf_eq ht, hd, returnedBy]
      · simp [hti, returnedBy]

theorem Moves.returned (h : Moves w es w') (hes : ∀ e ∈ es, e.takes i = false) :
    w.deliveriesOf i = w'.deliveriesOf i ++ (returnedBy i es).reverse := by
  induction h with
  | refl => simp [returnedBy]
  | step _ hmove ih =>
      rw [ih fun e he => hes e (List.mem_append_left _ he),
        hmove.returned fun e he => hes e (List.mem_append_right _ he), returnedBy_append]
      simp

end Moves

/-! ## Operations -/

section Steps

variable {op : Operation} {w : Provider} {i : SessionId}

omit [Labels] in
theorem not_takes_of_receiving {c : ConsumerId} (hop : op.consumer? = some c)
    (hnone : w.handing op = none) : ∀ e ∈ w.receiving c, e.takes i = false := by
  intro e he
  obtain ⟨x, session, hx, hopen, hstarted, hs, he | ⟨v, rest, htake, -⟩⟩ := mem_receiving he
  · obtain ⟨v, -, rfl⟩ := List.mem_map.mp he
    rfl
  · rw [handing_of_asked hop hx hopen hstarted hs, htake] at hnone
    cases hnone

theorem not_takes (hask : op.consumer? = none) (hack : ∀ m, op ≠ .acknowledge m)
    (hcommit : ∀ s, op ≠ .commit s) : ∀ e ∈ w.events op, e.takes i = false := by
  intro e he
  cases mem_events he with
  | posted h =>
      obtain ⟨p, -, h⟩ := List.mem_flatMap.mp h
      obtain ⟨s, -, rfl⟩ := List.mem_map.mp h
      rfl
  | received c hop => simp [hask] at hop
  | browsed b hop h =>
      unfold browsing at h
      split at h
      next =>
        obtain ⟨v, -, rfl⟩ := List.mem_map.mp h
        rfl
      next => cases h
  | acknowledged m hop => exact absurd hop (hack m)
  | committed s _ _ hop => exact absurd hop (hcommit s)
  | returned s session hs h =>
      obtain ⟨d, -, rfl⟩ := List.mem_map.mp h
      rfl
  | kept _ _ _ he | rolledBack _ _ _ he | closed _ he | attached _ _ he | removed _ _ he =>
      subst he
      rfl

theorem deliveriesOf_recall (hrecalls : Step.recalls i ⟨op, w⟩ = true) :
    (w.step op).deliveriesOf i = [] := by
  obtain ⟨hopen, hop⟩ := Bool.and_eq_true_iff.mp hrecalls
  unfold isOpen at hopen
  cases hsession : w.openSession i with
  | error e => simp [hsession, Except.isOk, Except.toBool] at hopen
  | ok x =>
      obtain ⟨session, connection⟩ := x
      obtain ⟨hi, hclosed, hconnection⟩ := openSession_eq_ok.mp hsession
      have hshut : session.shut.delivered = [] := by simp [Session.shut, hclosed]
      have hback : ∀ {v : Provider}, (v.redeliver i).deliveriesOf i = [] := by
        intro v
        rw [deliveriesOf, sessions_redeliver, List.getElem?_modify_eq]
        cases v.sessions[i]? <;> rfl
      cases op with
      | recover t =>
          obtain ⟨rfl, hmode⟩ : t = i ∧ session.mode ≠ .transacted := by
            simpa [isTransacted, hi] using hop
          have hstep : w.step (.recover t) = w.redeliver t := by
            simp [step, recover, check, hsession, hmode]
          rw [hstep, hback]
      | rollback t =>
          obtain ⟨rfl, hmode⟩ : t = i ∧ session.mode = .transacted := by
            simpa [isTransacted, hi] using hop
          have hstep : w.step (.rollback t) =
              (w.updateSession t ({ · with buffered := [] })).redeliver t := by
            simp [step, rollback, check, openTransaction_eq_ok.mpr ⟨hsession, hmode⟩]
          rw [hstep, hback]
      | closeSession t =>
          obtain rfl : t = i := by simpa using hop
          have hstep : (w.step (.closeSession t)).sessions[t]? = some session.shut := by
            change (w.closeSession t).sessions[t]? = _
            rw [sessions_closeSession, List.getElem?_modify_eq, hi]
            rfl
          rw [deliveriesOf_eq hstep, hshut]
      | closeConnection c =>
          have hc : session.connection = c := by simpa [hi] using hop
          have hstep : (w.step (.closeConnection c)).sessions[i]? = some session.shut := by
            change (w.closeConnection c).sessions[i]? = _
            rw [closeConnection_eq (hc ▸ hconnection)]
            change ((w.sessionsOf c).foldl _ w).sessions[i]? = _
            rw [sessions_foldl_closeSession, getElem?_foldl_modify Session.shut_shut,
              if_pos (mem_sessionsOf.mpr hop), hi]
            rfl
          rw [deliveriesOf_eq hstep, hshut]
      | _ => cases hop

omit [Labels] in
theorem returns_of_recalls (h : Step.recalls i ⟨op, w⟩ = true) : op.returns = true := by
  have hop := (Bool.and_eq_true_iff.mp h).2
  cases op with
  | recover | rollback | closeSession | closeConnection => rfl
  | _ => cases hop

/-- At the steps that recall it a session puts back what it holds, the newest delivery first. -/
theorem returnedBy_events (hw : w.Coherent) (op : Operation) (i : SessionId) :
    returnedBy i (w.events op) =
      if Step.recalls i ⟨op, w⟩ then (w.deliveriesOf i).reverse else [] := by
  split
  next hrecalls =>
    have hop := returns_of_recalls hrecalls
    have htakes : ∀ e ∈ w.events op, e.takes i = false :=
      not_takes (by cases op <;> cases hop <;> rfl) (by rintro m rfl; cases hop)
        (by rintro s rfl; cases hop)
    have hmoves := (moves_step hw op).returned htakes
    rw [deliveriesOf_recall hrecalls, List.nil_append] at hmoves
    rw [hmoves, List.reverse_reverse]
  next hrecalls =>
    refine returnedBy_eq_nil fun d hd => hrecalls ?_
    exact ((putBack_mem_events hw).mp hd).1

theorem deliveriesOf_of_quiet (hw : w.Coherent) (hrecalls : Step.recalls i ⟨op, w⟩ = false)
    (htakes : ∀ e ∈ w.events op, e.takes i = false) :
    (w.step op).deliveriesOf i = w.deliveriesOf i := by
  have hmoves := (moves_step hw op).returned htakes
  rw [returnedBy_events hw, hrecalls] at hmoves
  simpa using hmoves.symm

omit [Labels] in
theorem acknowledge_eq {m : Message} {token : AckToken} {session : Session}
    {connection : Connection} (hm : m.ack = some token)
    (hopen : w.openSession token.session = .ok (session, connection)) :
    w.acknowledge m =
      (.ok (), w.updateSession token.session fun x =>
        { x with delivered := x.delivered.filter fun d => !covers session.mode token.tag d }) := by
  have hsame :
      w.updateSession token.session (fun x => { x with delivered := x.delivered }) = w := by
    unfold updateSession
    rw [modify_eq_self fun _ _ => rfl]
  unfold acknowledge
  simp only [hm, check, hopen]
  cases session.mode with
  | client | individual => simp [covers, bne]
  | auto | dupsOk | transacted => simp [covers, hsame]

theorem deliveriesOf_acknowledge (m : Message) :
    (w.step (.acknowledge m)).deliveriesOf i =
      (w.deliveriesOf i).filter fun d => !Step.drops i d ⟨.acknowledge m, w⟩ := by
  have hrecalls : Step.recalls i ⟨.acknowledge m, w⟩ = false := by simp [Step.recalls]
  have hkept : (∀ d, Step.covers i d ⟨.acknowledge m, w⟩ = false) →
      ((w.deliveriesOf i).filter fun d => !Step.drops i d ⟨.acknowledge m, w⟩) =
        w.deliveriesOf i := by
    intro hcovers
    exact List.filter_eq_self.mpr fun d _ => by simp [Step.drops, hrecalls, hcovers d]
  change (w.acknowledge m).2.deliveriesOf i = _
  cases hm : m.ack with
  | none =>
      rw [hkept fun d => by simp [Step.covers, hm]]
      simp [acknowledge, hm]
  | some token =>
      cases hopen : w.openSession token.session with
      | error e =>
          have hclosed : w.isOpen token.session = false := by simp [isOpen, hopen]; rfl
          rw [hkept fun d => by simp [Step.covers, hm]; grind]
          simp [acknowledge, hm, check, hopen]
      | ok x =>
          obtain ⟨session, connection⟩ := x
          have hs := (openSession_eq_ok.mp hopen).1
          have hisOpen : w.isOpen token.session = true := by simp [isOpen, hopen]; rfl
          rw [acknowledge_eq hm hopen, deliveriesOf_updateSession hs]
          by_cases hi : token.session = i
          · subst hi
            simp [Step.drops, hrecalls, Step.covers, hm, hs, hisOpen, deliveriesOf_eq hs]
          · rw [if_neg hi, hkept fun d => by simp [Step.covers, hm, hi]]

theorem deliveriesOf_commit (hw : w.Coherent) (t : SessionId) :
    (w.step (.commit t)).deliveriesOf i =
      (w.deliveriesOf i).filter fun d => !Step.drops i d ⟨.commit t, w⟩ := by
  have hrecalls : Step.recalls i ⟨.commit t, w⟩ = false := by simp [Step.recalls]
  have hdrops : ∀ d, Step.drops i d ⟨.commit t, w⟩ =
      (w.isOpen i && (t == i && w.isTransacted i)) := by
    intro d
    rw [Step.drops, hrecalls, Bool.false_or]
    rfl
  have htransaction := isOk_openTransaction t w
  simp only [hdrops]
  change (w.commit t).2.deliveriesOf i = _
  unfold commit
  cases hopen : w.openTransaction t with
  | error e =>
      rw [hopen] at htransaction
      have hclosed : (w.isOpen t && w.isTransacted t) = false := htransaction.symm
      refine (List.filter_eq_self.mpr fun d _ => ?_).symm
      grind
  | ok x =>
      obtain ⟨session, connection⟩ := x
      rw [hopen] at htransaction
      have hboth : (w.isOpen t && w.isTransacted t) = true := htransaction.symm
      have hsession := (openTransaction_eq_ok.mp hopen).1
      have hsessions := sessions_publishAll session.connection
        (w := w.updateSession t ({ · with buffered := [], delivered := [] }))
        (hw.grounded.lt_of_openSession hsession) session.buffered
      refine (deliveriesOf_congr hsessions).trans ?_
      rw [deliveriesOf_updateSession (openSession_eq_ok.mp hsession).1]
      by_cases hi : t = i
      · subst hi
        obtain ⟨hisOpen, htransacted⟩ := Bool.and_eq_true_iff.mp hboth
        simp [hisOpen, htransacted]
      · have hother : (t == i) = false := by simpa using hi
        simp [hi, hother]

theorem deliveriesOf_receiving {c : ConsumerId} (hw : w.Coherent) (hop : op.consumer? = some c) :
    (w.step op).deliveriesOf i = w.deliveriesOf i ++ (Step.adds i ⟨op, w⟩).toList := by
  cases hh : w.handing op with
  | none =>
      have hevents : w.events op = w.receiving c := by
        cases op <;> cases hop <;> rfl
      have hrecalls : Step.recalls i ⟨op, w⟩ = false := by
        cases op <;> cases hop <;> simp [Step.recalls]
      have hadds : Step.adds i ⟨op, w⟩ = none := by simp [Step.adds, Step.handing, hh]
      rw [deliveriesOf_of_quiet hw hrecalls (hevents ▸ not_takes_of_receiving hop hh), hadds]
      simp
  | some h =>
      have hhanded := handed_of_handing hw hh
      have hadds : Step.adds i ⟨op, w⟩ =
          if h.consumer.session = i ∧ h.session.mode.isTracked = true then some h.delivery
          else none := by
        simp [Step.adds, Step.handing, hh, Option.filter_some]
      have hs := hhanded.session_eq
      cases htracked : h.session.mode.isTracked with
      | false =>
          have hheld := hhanded.held
          simp only [htracked] at hheld
          rw [deliveriesOf_congr hheld, hadds]
          simp [htracked]
      | true =>
          have hheld := hhanded.held
          rw [if_pos htracked] at hheld
          rw [deliveriesOf, hheld, hadds]
          by_cases hi : h.consumer.session = i
          · subst hi
            simp [hs, htracked, deliveriesOf, Handing.delivery]
          · simp [hi, deliveriesOf]

theorem deliveriesOf_step (hw : w.Coherent) (op : Operation) (i : SessionId) :
    (w.step op).deliveriesOf i =
      (w.deliveriesOf i).filter (fun d => !Step.drops i d ⟨op, w⟩) ++
        (Step.adds i ⟨op, w⟩).toList := by
  have hadds : op.consumer? = none → Step.adds i ⟨op, w⟩ = none := by
    intro hop
    simp [Step.adds, Step.handing, handing, hop]
  have hkept : Step.recalls i ⟨op, w⟩ = false → (∀ d, Step.covers i d ⟨op, w⟩ = false) →
      (w.deliveriesOf i).filter (fun d => !Step.drops i d ⟨op, w⟩) = w.deliveriesOf i := by
    intro hrecalls hcovers
    exact List.filter_eq_self.mpr fun d _ => by simp [Step.drops, hrecalls, hcovers d]
  cases hop : op.consumer? with
  | some c =>
      rw [deliveriesOf_receiving hw hop, hkept]
      · cases op <;> cases hop <;> simp [Step.recalls]
      · intro d
        cases op <;> cases hop <;> simp [Step.covers]
  | none =>
      rw [hadds hop, Option.toList_none, List.append_nil]
      by_cases hack : ∃ m, op = .acknowledge m
      · obtain ⟨m, rfl⟩ := hack
        exact deliveriesOf_acknowledge m
      by_cases hcommit : ∃ s, op = .commit s
      · obtain ⟨s, rfl⟩ := hcommit
        exact deliveriesOf_commit hw s
      cases hrecalls : Step.recalls i ⟨op, w⟩ with
      | true =>
          rw [deliveriesOf_recall hrecalls]
          simp [Step.drops, hrecalls]
      | false =>
          rw [hkept hrecalls]
          · refine deliveriesOf_of_quiet hw hrecalls (not_takes hop ?_ ?_)
            · exact fun m h => hack ⟨m, h⟩
            · exact fun s h => hcommit ⟨s, h⟩
          · intro d
            cases op with
            | acknowledge m => exact absurd ⟨m, rfl⟩ hack
            | commit s => exact absurd ⟨s, rfl⟩ hcommit
            | _ => simp [Step.covers]

end Steps

/-! ## Runs -/

theorem deliveriesOf_run (i : SessionId) (ops : List Operation) :
    (run ops {}).deliveriesOf i = keeping i (trace ops {}) := by
  induction ops using List.reverseRecOn with
  | nil => rfl
  | append_singleton ops op ih =>
      rw [trace_concat, keeping_concat, ← ih, run_append]
      exact deliveriesOf_step (coherent_run ops) op i

theorem rising_adds (i : SessionId) (ops : List Operation) :
    (((trace ops {}).filterMap (·.adds i)).map (·.tag)).Pairwise (· < ·) := by
  induction ops using List.reverseRecOn with
  | nil => exact .nil
  | append_singleton ops op ih =>
      rw [trace_concat, List.filterMap_append, List.map_append, List.pairwise_append]
      refine ⟨ih, by cases h : Step.adds i ⟨op, run ops {}⟩ <;> simp [h], ?_⟩
      intro n hn k hk
      obtain ⟨d, hd, rfl⟩ := List.mem_map.mp hn
      obtain ⟨x, hx, hadds⟩ := List.mem_filterMap.mp hd
      obtain ⟨g, hg, rfl, htracked, rfl⟩ := Step.adds_eq_some hadds
      obtain ⟨e, he, rfl⟩ := List.mem_map.mp hk
      obtain ⟨y, hy, hlast⟩ := List.mem_filterMap.mp he
      obtain rfl := List.mem_singleton.mp hy
      obtain ⟨h, hh, hsame, -, rfl⟩ := Step.adds_eq_some hlast
      have hs := (handed_of_handing (coherent_run ops) hh).session_eq
      exact nextTag_lt hx hg htracked (hsame ▸ hs)

theorem eq_of_tag {ops : List Operation} {i : SessionId} {x y : Step} {d e : Delivery}
    (hx : x ∈ trace ops {}) (hd : x.adds i = some d) (hy : y ∈ trace ops {})
    (he : y.adds i = some e) (htag : d.tag = e.tag) : d = e := by
  have hnodup := (rising_adds i ops).imp Nat.ne_of_lt
  exact List.inj_on_of_nodup_map hnodup (List.mem_filterMap.mpr ⟨x, hx, hd⟩)
    (List.mem_filterMap.mpr ⟨y, hy, he⟩) htag

theorem nodup_keeping (i : SessionId) (ops : List Operation) :
    (keeping i (trace ops {})).Nodup := by
  have hnodup := (rising_adds i ops).imp Nat.ne_of_lt
  exact (List.Nodup.of_map _ hnodup).sublist (keeping_sublist i _)

omit [Labels] in
theorem exists_adds_of_mem_keeping {i : SessionId} {xs : List Step} {d : Delivery}
    (hd : d ∈ keeping i xs) : ∃ x ∈ xs, x.adds i = some d :=
  List.mem_filterMap.mp ((keeping_sublist i xs).subset hd)

end Provider

end Messaging
