import Mathlib.Data.List.Sort
import Messaging.Proofs.Run.Holding

/-!
# Order of arrival

A store of which one session at most holds anything keeps its messages in the order in which they
arrived: first those that the session holds, then those that wait.  So what the session puts back
it gets again in the same order and before anything newer, and a consumer of a store from which no
message is put back gets the messages in the order of their arrival.
-/

namespace Messaging

/-- Of the sessions that track deliveries, a step lets one at most get anything out of a store. -/
def Step.Sole (t : SessionId) (s : StoreId) (x : Step) : Prop :=
  ∀ h ∈ x.handing, h.consumer.store = s → h.session.mode.isTracked = true →
    h.consumer.session = t ∧ h.consumer.filter = none

instance (t : SessionId) (s : StoreId) (x : Step) : Decidable (x.Sole t s) := by
  unfold Step.Sole
  infer_instance

def Step.serves (t : SessionId) (s : StoreId) (x : Step) : Bool :=
  x.handing.any fun h => h.consumer.session == t && h.consumer.store == s

def Step.asksWith (c : ConsumerId) (x : Step) : Bool := x.operation.consumer? == some c

def numbers (who : Step → Bool) (xs : List Step) : List Nat :=
  (xs.filter who).filterMap fun x => x.handing.map (·.envelope.seq)

namespace Provider

/-- The numbers of what a session holds of a store and then of what waits there. -/
def lineup (t : SessionId) (s : StoreId) (w : Provider) : List Nat :=
  (w.heldBy t s).map (·.envelope.seq) ++ (w.storeAt s).pending.map (·.seq)

structure Ordered (t : SessionId) (s : StoreId) (w : Provider) : Prop where
  increasing : (w.lineup t s).Pairwise (· < ·)
  bounded : ∀ n ∈ w.lineup t s, n < (w.storeAt s).nextSeq
  others : ∀ i, i ≠ t → w.heldBy i s = []

/-- All that a later provider has in line was there before or came in since. -/
structure Follows (t : SessionId) (s : StoreId) (w w' : Provider) : Prop where
  ordered : w'.Ordered t s
  lineup : ∀ n ∈ w'.lineup t s, n ∈ w.lineup t s ∨ (w.storeAt s).nextSeq ≤ n
  nextSeq : (w.storeAt s).nextSeq ≤ (w'.storeAt s).nextSeq

section Moves

variable {t : SessionId} {s : StoreId} {w w' w'' : Provider} {es : List Event}

theorem Follows.refl (h : w.Ordered t s) : Follows t s w w :=
  ⟨h, fun _ hn => .inl hn, Nat.le_refl _⟩

theorem Follows.trans (h : Follows t s w w') (h' : Follows t s w' w'') : Follows t s w w'' := by
  refine ⟨h'.ordered, fun n hn => ?_, Nat.le_trans h.nextSeq h'.nextSeq⟩
  rcases h'.lineup n hn with hn | hn
  · exact h.lineup n hn
  · exact .inr (Nat.le_trans h.nextSeq hn)

theorem Ordered.others_of_holding {i : SessionId} (ho : w.Ordered t s) (hit : i ≠ t)
    (h : Holding i s w es w')
    (hsole : ∀ x e session, .handedOut x e ∈ es → x.store = s →
      w.sessions[x.session]? = some session → session.mode.isTracked = true →
        x.session = t ∧ x.filter = none) : w'.heldBy i s = [] := by
  have hnone := ho.others i hit
  cases h with
  | thinned hheld => exact List.sublist_nil.mp (hnone ▸ hheld)
  | posted m origin hheld => rw [hheld, hnone]
  | delivered x session e before after tag hxi hxs hsession hmode _ _ _ _ hes =>
      exact absurd (hxi.symm.trans (hsole x e session hes hxs (hxi ▸ hsession) hmode).1) hit
  | returned d hheld => simp [hheld] at hnone
  | elsewhere j d hji hd hheld => rw [hheld, hnone]

theorem Ordered.follows (ho : w.Ordered t s) (h : ∀ i, Holding i s w es w')
    (hsole : ∀ x e session, .handedOut x e ∈ es → x.store = s →
      w.sessions[x.session]? = some session → session.mode.isTracked = true →
        x.session = t ∧ x.filter = none) : Follows t s w w' := by
  have hothers := fun i hit => ho.others_of_holding hit (h i) hsole
  have hkept : (w'.lineup t s).Sublist (w.lineup t s) →
      (w'.storeAt s).nextSeq = (w.storeAt s).nextSeq → Follows t s w w' := by
    intro hsub hnext
    refine ⟨⟨ho.increasing.sublist hsub, fun n hn => ?_, hothers⟩, fun n hn => ?_, ?_⟩
    · exact hnext ▸ ho.bounded n (hsub.subset hn)
    · exact .inl (hsub.subset hn)
    · exact Nat.le_of_eq hnext.symm
  cases h t with
  | thinned hheld hpending hnext =>
      exact hkept ((hheld.map _).append (hpending.map _)) hnext
  | posted m origin hheld hstore =>
      have hline : w'.lineup t s = w.lineup t s ++ [(w.storeAt s).nextSeq] := by
        simp [lineup, hheld, hstore, Store.push]
      have hnext : (w'.storeAt s).nextSeq = (w.storeAt s).nextSeq + 1 := by
        rw [hstore]
        rfl
      refine ⟨⟨?_, fun n hn => ?_, hothers⟩, fun n hn => ?_, by omega⟩
      · rw [hline]
        refine List.pairwise_append.mpr ⟨ho.increasing, List.pairwise_singleton _ _, ?_⟩
        intro n hn m hm
        exact List.mem_singleton.mp hm ▸ ho.bounded n hn
      · rw [hline] at hn
        rcases List.mem_append.mp hn with hn | hn
        · have hlt := ho.bounded n hn
          omega
        · have heq := List.mem_singleton.mp hn
          omega
      · rw [hline] at hn
        refine (List.mem_append.mp hn).imp_right fun hn => ?_
        exact Nat.le_of_eq (List.mem_singleton.mp hn).symm
  | delivered x session e before after tag hxt hxs hsession hmode hbefore hpending hstore hheld
      hes =>
      -- without a selector it is the first one that is handed out
      have hfilter := (hsole x e session hes hxs (hxt ▸ hsession) hmode).2
      obtain rfl : before = [] := by
        refine List.eq_nil_iff_forall_not_mem.mpr fun y hy => ?_
        have hadmits := hbefore y hy
        simp [hfilter, Selector.admits] at hadmits
      have hline : w'.lineup t s = w.lineup t s := by simp [lineup, hheld, hstore, hpending]
      exact hkept (by rw [hline]) (by rw [hstore])
  | returned d hheld hstore =>
      have hline : w'.lineup t s = w.lineup t s := by simp [lineup, hheld, hstore, Store.putBack]
      exact hkept (by rw [hline]) (by rw [hstore]; rfl)
  | elsewhere i d hit hd => simp [ho.others i hit] at hd

theorem Moves.follows [Labels] (h : Moves w es w') (hw : w.Coherent) (ho : w.Ordered t s)
    (hsole : ∀ x e, .handedOut x e ∈ es → ∃ session, w.sessions[x.session]? = some session ∧
      (x.store = s → session.mode.isTracked = true → x.session = t ∧ x.filter = none)) :
    Follows t s w w' := by
  induction h with
  | refl => exact .refl ho
  | step hs hmove ih =>
      have hbefore := ih fun x e he => hsole x e (List.mem_append_left _ he)
      refine hbefore.trans (hbefore.ordered.follows
        (fun i => hmove.holding (hs.coherent hw) i s) fun x e session he hxs hi hmode => ?_)
      -- the session has the mode that it had at first
      obtain ⟨first, hfirst, hx⟩ := hsole x e (List.mem_append_right _ he)
      obtain ⟨y, hy, hcontinues⟩ := hs.lasts.sessions _ _ hfirst
      obtain rfl := Option.some.inj (hi.symm.trans hy)
      exact hx hxs (hcontinues.mode ▸ hmode)

end Moves

/-! ## Runs -/

section Runs

variable [Labels]
variable {t : SessionId} {s : StoreId} {w : Provider}

theorem follows_step {op : Operation} (hw : w.Coherent) (ho : w.Ordered t s)
    (hsole : Step.Sole t s ⟨op, w⟩) : Follows t s w (w.step op) := by
  refine (moves_step hw op).follows hw ho fun x e he => ?_
  obtain ⟨session, hh⟩ := handing_of_handedOut he
  exact ⟨session, (handed_of_handing hw hh).session_eq, fun hxs hmode => hsole _ hh hxs hmode⟩

theorem follows_run {ops : List Operation} (hw : w.Coherent) (ho : w.Ordered t s)
    (hsole : ∀ x ∈ w.trace ops, x.Sole t s) : Follows t s w (w.run ops) := by
  induction ops generalizing w with
  | nil => exact .refl ho
  | cons op ops ih =>
      have hfirst := follows_step hw ho (hsole _ List.mem_cons_self)
      have hrest := ih (hw.step op) hfirst.ordered
        fun x hx => hsole x (List.mem_cons_of_mem _ hx)
      exact hfirst.trans hrest

omit [Labels] in
theorem Ordered.init (t : SessionId) (s : StoreId) : Ordered t s {} := by
  constructor <;> simp [lineup, heldBy, deliveriesOf, storeAt]

theorem ordered_run {ops : List Operation} (hsole : ∀ x ∈ trace ops {}, x.Sole t s) :
    (run ops {}).Ordered t s :=
  (follows_run .init (.init t s) hsole).ordered

end Runs

/-! ## What is handed out in order -/

/-- What waits for a filter in a store came in after the message with a number. -/
structure Passed (filter : Option Selector) (n : Nat) (s : StoreId) (w : Provider) : Prop where
  waiting : ∀ e ∈ (w.storeAt s).pending, Selector.admits filter e.message = true → n < e.seq
  next : n < (w.storeAt s).nextSeq

section Passing

variable {t : SessionId} {s : StoreId} {filter : Option Selector} {n : Nat}
  {w w' : Provider} {es : List Event} {op : Operation} {h : Handing}

theorem store_of_mem_heldBy {i : SessionId} {d : Delivery} (hd : d ∈ w.heldBy i s) :
    d.store = s ∧ d ∈ w.deliveriesOf i := by
  obtain ⟨hd, hs⟩ := List.mem_filter.mp hd
  exact ⟨by simpa using hs, hd⟩

theorem Passed.of_holding (hp : w.Passed filter n s) (hold : Holding t s w es w')
    (hes : ∀ i d, .putBack i d ∈ es → d.store ≠ s) : w'.Passed filter n s := by
  cases hold with
  | thinned _ hpending hnext =>
      exact ⟨fun e he => hp.waiting e (hpending.subset he), hnext ▸ hp.next⟩
  | posted m origin _ hstore =>
      constructor <;> rw [hstore]
      · intro e he hadmits
        rcases List.mem_append.mp he with he | he
        · exact hp.waiting e he hadmits
        · rw [List.mem_singleton.mp he]
          exact hp.next
      · exact Nat.lt_succ_of_lt hp.next
  | delivered x session e before after _ _ _ _ _ _ hpending hstore =>
      constructor <;> rw [hstore]
      · intro v hv
        refine hp.waiting v ?_
        rw [hpending]
        grind
      · exact hp.next
  | returned d hheld _ hevent =>
      exact absurd (store_of_mem_heldBy (w := w) (by rw [hheld]; simp)).1 (hes t d hevent)
  | elsewhere i d _ hd _ _ hevent => exact absurd (store_of_mem_heldBy hd).1 (hes i d hevent)

variable [Labels]

theorem Passed.of_moves (hp : w.Passed filter n s) (hm : Moves w es w') (hw : w.Coherent)
    (hes : ∀ i d, .putBack i d ∈ es → d.store ≠ s) : w'.Passed filter n s := by
  induction hm with
  | refl => exact hp
  | step hs hmove ih =>
      have hbefore := ih fun i d he => hes i d (List.mem_append_left _ he)
      exact hbefore.of_holding (hmove.holding (hs.coherent hw) 0 s)
        fun i d he => hes i d (List.mem_append_right _ he)

theorem Passed.of_handed (ho : w.Ordered t s) (hh : w.Handed op h) (hs : h.consumer.store = s) :
    (w.step op).Passed h.consumer.filter h.envelope.seq s := by
  obtain ⟨before, after, hpending, hbefore, hstore⟩ := hh.first
  rw [hs] at hpending hstore
  have hsorted : (before ++ h.envelope :: after).Pairwise fun e e' => e.seq < e'.seq := by
    have hline := (List.pairwise_append.mp ho.increasing).2.1
    exact hpending ▸ (List.pairwise_map.mp hline).filter _
  constructor <;> rw [hstore]
  · intro e he hadmits
    rcases List.mem_append.mp he with he | he
    · rw [hbefore e he] at hadmits
      cases hadmits
    · have hafter := (List.pairwise_append.mp hsorted).2.1
      exact (List.pairwise_cons.mp hafter).1 e he
  · refine ho.bounded _ (List.mem_append_right _ (List.mem_map_of_mem ?_))
    exact hs ▸ hh.live.1

theorem Passed.lt (hp : w.Passed filter n s) (hh : w.Handed op h) (hs : h.consumer.store = s)
    (hfilter : h.consumer.filter = filter) : n < h.envelope.seq :=
  hp.waiting _ (hs ▸ hh.live.1) (hfilter ▸ hh.admitted)

omit [Labels] in
theorem numbers_cons (who : Step → Bool) (x : Step) (xs : List Step) :
    numbers who (x :: xs) =
      (if who x then x.handing.map (·.envelope.seq) else none).toList ++ numbers who xs := by
  unfold numbers
  by_cases hx : who x = true
  · cases hh : x.handing <;> simp [hx, hh]
  · simp [hx]

theorem Passed.lt_numbers {who : Step → Bool} {ops : List Operation} (hp : w.Passed filter n s)
    (hw : w.Coherent)
    (hquiet : ∀ x ∈ w.trace ops, ∀ i d, .putBack i d ∈ x.before.events x.operation → d.store ≠ s)
    (hwho : ∀ x ∈ w.trace ops, who x = true → ∀ h ∈ x.handing,
      h.consumer.store = s ∧ h.consumer.filter = filter) :
    ∀ m ∈ numbers who (w.trace ops), n < m := by
  induction ops generalizing w with
  | nil => simp [trace, numbers]
  | cons op ops ih =>
      have hnext := hp.of_moves (moves_step hw op) hw (hquiet _ List.mem_cons_self)
      have hrest := ih hnext (hw.step op)
        (fun x hx => hquiet x (List.mem_cons_of_mem _ hx))
        fun x hx => hwho x (List.mem_cons_of_mem _ hx)
      intro m hm
      rw [trace, numbers_cons] at hm
      rcases List.mem_append.mp hm with hm | hm
      · have hm := Option.mem_toList.mp hm
        split at hm
        next hx =>
          obtain ⟨h, hh, rfl⟩ := Option.map_eq_some_iff.mp hm
          obtain ⟨hs, hfilter⟩ := hwho _ List.mem_cons_self hx h hh
          exact hp.lt (handed_of_handing hw hh) hs hfilter
        next => cases hm
      · exact hrest m hm

theorem increasing_numbers {who : Step → Bool} {ops : List Operation} (hw : w.Coherent)
    (ho : w.Ordered t s) (hsole : ∀ x ∈ w.trace ops, x.Sole t s)
    (hquiet : ∀ x ∈ w.trace ops, ∀ i d, .putBack i d ∈ x.before.events x.operation → d.store ≠ s)
    (hwho : ∀ x ∈ w.trace ops, who x = true → ∀ h ∈ x.handing,
      h.consumer.store = s ∧ h.consumer.filter = filter) :
    (numbers who (w.trace ops)).Pairwise (· < ·) := by
  induction ops generalizing w with
  | nil => simp [trace, numbers]
  | cons op ops ih =>
      have hordered := (follows_step hw ho (hsole _ List.mem_cons_self)).ordered
      have hquiet' := fun x hx => hquiet x (List.mem_cons_of_mem _ hx)
      have hwho' := fun x hx => hwho x (List.mem_cons_of_mem _ hx)
      have hrest := ih (hw.step op) hordered
        (fun x hx => hsole x (List.mem_cons_of_mem _ hx)) hquiet' hwho'
      rw [trace, numbers_cons]
      split
      next hx =>
        cases hh : Step.handing ⟨op, w⟩ with
        | none => exact hrest
        | some h =>
            obtain ⟨hs, rfl⟩ := hwho _ List.mem_cons_self hx h hh
            have hpassed := Passed.of_handed ho (handed_of_handing hw hh) hs
            refine List.pairwise_cons.mpr ⟨?_, hrest⟩
            exact hpassed.lt_numbers (hw.step op) hquiet' hwho'
      next => exact hrest

end Passing

/-! ## What is put back -/

theorem storeAt_foldr_putBack (s : StoreId) {ds : List Delivery} {w : Provider}
    (hds : ∀ d ∈ ds, d.store < w.stores.length) :
    ((ds.foldr putBack w).storeAt s).pending =
      ((ds.filter (·.store == s)).map fun d =>
        { d.envelope with message := d.envelope.message.markRedelivered }) ++
          (w.storeAt s).pending := by
  have hlength : ∀ ds : List Delivery,
      (ds.foldr putBack w).stores.length = w.stores.length := by
    intro ds
    induction ds with
    | nil => rfl
    | cons d ds ih => simp [putBack, updateStore, ih]
  induction ds with
  | nil => rfl
  | cons d ds ih =>
      have hd : d.store < (ds.foldr putBack w).stores.length := by
        rw [hlength]
        exact hds d List.mem_cons_self
      have hrest := ih fun d hd => hds d (List.mem_cons_of_mem _ hd)
      rw [List.foldr_cons, storeAt_putBack hd]
      by_cases hs : d.store = s
      · simp [hs, Store.putBack, hrest]
      · simp [hs, hrest]

/-- After a recovery or a rollback all that a session held is back at the head, oldest first. -/
theorem pending_recall [Labels] {t : SessionId} {op : Operation} {w : Provider} (hw : w.Grounded)
    (hop : op = .recover t ∨ op = .rollback t) (hrecalls : Step.recalls t ⟨op, w⟩ = true)
    (s : StoreId) :
    ((w.step op).storeAt s).pending =
      ((w.heldBy t s).map fun d =>
        { d.envelope with message := d.envelope.message.markRedelivered }) ++
          (w.storeAt s).pending := by
  obtain ⟨hopen, hmode⟩ := Bool.and_eq_true_iff.mp hrecalls
  unfold isOpen at hopen
  cases hsession : w.openSession t with
  | error e => simp [hsession, Except.isOk, Except.toBool] at hopen
  | ok x =>
      obtain ⟨session, connection⟩ := x
      have hi := (openSession_eq_ok.mp hsession).1
      have hlt := hw.delivered session (List.mem_of_getElem? hi)
      rw [heldBy, deliveriesOf_eq hi]
      rcases hop with rfl | rfl
      · have htransacted : session.mode ≠ .transacted := by simpa [isTransacted, hi] using hmode
        have hstep : w.step (.recover t) = w.redeliver t := by
          simp [step, recover, check, hsession, htransacted]
        rw [hstep, redeliver_eq hi]
        exact storeAt_foldr_putBack s hlt
      · have htransacted : session.mode = .transacted := by simpa [isTransacted, hi] using hmode
        have hstep : w.step (.rollback t) =
            (w.updateSession t ({ · with buffered := [] })).redeliver t := by
          simp [step, rollback, check, openTransaction_eq_ok.mpr ⟨hsession, htransacted⟩]
        have hforgotten : (w.updateSession t ({ · with buffered := [] })).sessions[t]? =
            some { session with buffered := [] } := by
          simp [updateSession, hi]
        rw [hstep, redeliver_eq hforgotten]
        exact storeAt_foldr_putBack s hlt

/-! ## Runs in order -/

private theorem split_of_rising {l m : List Nat} (hl : l.Pairwise (· < ·))
    (hm : m.Pairwise (· < ·)) (h : ∀ n ∈ l, n ∈ m ∨ ∀ k ∈ m, k < n) :
    ∃ again newer, l = again ++ newer ∧ again.Sublist m ∧ ∀ n ∈ newer, ∀ k ∈ m, k < n := by
  have hsplit : ∃ again newer, l = again ++ newer ∧ again ⊆ m ∧ ∀ n ∈ newer, ∀ k ∈ m, k < n := by
    induction l with
    | nil => exact ⟨[], [], rfl, List.nil_subset _, by simp⟩
    | cons n l ih =>
        obtain ⟨hn, hl⟩ := List.pairwise_cons.mp hl
        rcases h n List.mem_cons_self with hmem | habove
        · obtain ⟨again, newer, rfl, hagain, hnewer⟩ := ih hl fun k hk =>
            h k (List.mem_cons_of_mem _ hk)
          exact ⟨n :: again, newer, rfl, List.cons_subset.mpr ⟨hmem, hagain⟩, hnewer⟩
        · refine ⟨[], n :: l, rfl, List.nil_subset _, fun k hk j hj => ?_⟩
          rcases List.mem_cons.mp hk with rfl | hk
          · exact habove j hj
          · exact Nat.lt_trans (habove j hj) (hn k hk)
  obtain ⟨again, newer, rfl, hagain, hnewer⟩ := hsplit
  have hrising := (List.pairwise_append.mp hl).1
  have hnodup : again.Nodup := hrising.imp Nat.ne_of_lt
  refine ⟨again, newer, rfl, ?_, hnewer⟩
  exact List.sublist_of_subperm_of_pairwise (List.subperm_of_subset hnodup hagain) hrising hm

/-- What was held is handed out again in its order, and before anything else. -/
def Resumes (held : List Delivery) (ns : List Nat) : Prop :=
  ∃ again newer, ns = again ++ newer ∧ again.Sublist (held.map (·.envelope.seq)) ∧
    ∀ n ∈ newer, ∀ d ∈ held, d.envelope.seq < n

section Recalls

variable {t : SessionId} {s : StoreId} {w w' : Provider}

theorem Follows.held_or_above (h : Follows t s w w') (ho : w.Ordered t s) {n : Nat}
    (hn : n ∈ w'.lineup t s) :
    n ∈ (w.heldBy t s).map (·.envelope.seq) ∨
      ∀ k ∈ (w.heldBy t s).map (·.envelope.seq), k < n := by
  rcases h.lineup n hn with hn | hn
  · refine (List.mem_append.mp hn).imp_right fun hn k hk => ?_
    exact (List.pairwise_append.mp ho.increasing).2.2 k hk n hn
  · exact .inr fun k hk => Nat.lt_of_lt_of_le (ho.bounded k (List.mem_append_left _ hk)) hn

theorem mem_numbers {who : Step → Bool} {xs : List Step} {n : Nat} (hn : n ∈ numbers who xs) :
    ∃ x ∈ xs, who x = true ∧ ∃ h, x.handing = some h ∧ h.envelope.seq = n := by
  obtain ⟨x, hx, hn⟩ := List.mem_filterMap.mp hn
  obtain ⟨hx, hwho⟩ := List.mem_filter.mp hx
  exact ⟨x, hx, hwho, Option.map_eq_some_iff.mp hn⟩

variable [Labels]

theorem mem_trace_run {ops : List Operation} {x : Step} (hx : x ∈ w.trace ops) :
    ∃ first second, ops = first ++ second ∧ x.before = w.run first ∧
      ∀ y ∈ w.trace first, y ∈ w.trace ops := by
  obtain ⟨first, second, rfl, hbefore⟩ := exists_of_mem_trace hx
  refine ⟨first, x.operation :: second, rfl, hbefore, fun y hy => ?_⟩
  rw [trace_append]
  exact List.mem_append_left _ hy

theorem Ordered.resumes (hw : w.Coherent) (ho : w.Ordered t s) {op : Operation}
    {later : List Operation} (htracked : w.sessions[t]?.any (·.mode.isTracked) = true)
    (hsole : ∀ x ∈ w.trace (op :: later), x.Sole t s)
    (hrecalls : ∀ x ∈ (w.step op).trace later, x.recalls t = false) :
    Resumes (w.heldBy t s) (numbers (·.serves t s) ((w.step op).trace later)) := by
  have hfirst := follows_step hw ho (hsole _ List.mem_cons_self)
  have hsole' := fun x hx => hsole x (List.mem_cons_of_mem _ hx)
  have hstate : ∀ x ∈ (w.step op).trace later,
      x.before.Coherent ∧ Follows t s w x.before ∧ w.Lasts x.before := by
    intro x hx
    obtain ⟨before, -, -, hbefore, hearlier⟩ := mem_trace_run hx
    have hrest := follows_run (hw.step op) hfirst.ordered fun y hy => hsole' y (hearlier y hy)
    rw [hbefore]
    exact ⟨(hw.step op).run before, hfirst.trans hrest,
      (lasts_step hw op).trans (lasts_run (hw.step op) before)⟩
  have hserves : ∀ x ∈ (w.step op).trace later, x.serves t s = true → ∀ h ∈ x.handing,
      h.consumer.store = s ∧ h.consumer.filter = none := by
    intro x hx hserves h hh
    obtain ⟨hcoherent, -, hlasts⟩ := hstate x hx
    obtain ⟨hsession, hstore⟩ : h.consumer.session = t ∧ h.consumer.store = s := by
      simpa [Step.serves, Option.mem_def.mp hh] using hserves
    obtain ⟨session, hi, hmode⟩ : ∃ session, w.sessions[t]? = some session ∧
        session.mode.isTracked = true := by simpa [Option.any_eq_true] using htracked
    obtain ⟨y, hy, hcontinues⟩ := hlasts.sessions _ _ hi
    have hh' := (handed_of_handing hcoherent hh).session_eq
    rw [hsession, hy] at hh'
    obtain rfl := Option.some.inj hh'
    exact ⟨hstore, (hsole' x hx h hh hstore (hcontinues.mode ▸ hmode)).2⟩
  have hsplit := split_of_rising (m := (w.heldBy t s).map (·.envelope.seq))
    (increasing_numbers (hw.step op) hfirst.ordered hsole' ?_ hserves)
    (List.pairwise_append.mp ho.increasing).1 ?_
  · obtain ⟨again, newer, hns, hagain, hnewer⟩ := hsplit
    exact ⟨again, newer, hns, hagain, fun n hn d hd => hnewer n hn _ (List.mem_map_of_mem hd)⟩
  · intro x hx i d hd hds
    obtain ⟨hcoherent, hfollows, -⟩ := hstate x hx
    obtain ⟨hrecall, hd⟩ := (putBack_mem_events hcoherent).mp hd
    have hheld : d ∈ x.before.heldBy i s := List.mem_filter.mpr ⟨hd, by simpa using hds⟩
    have hit : i = t := by
      by_contra hit
      simp [hfollows.ordered.others i hit] at hheld
    rw [hit, hrecalls x hx] at hrecall
    cases hrecall
  · intro n hn
    obtain ⟨x, hx, hwho, h, hh, rfl⟩ := mem_numbers hn
    obtain ⟨hcoherent, hfollows, -⟩ := hstate x hx
    have hlive := (handed_of_handing hcoherent hh).live.1
    rw [(hserves x hx hwho h hh).1] at hlive
    exact hfollows.held_or_above ho (List.mem_append_right _ (List.mem_map_of_mem hlive))

end Recalls

theorem increasing_of_untracked [Labels] {ops : List Operation} {s : StoreId}
    (huntracked : ∀ x ∈ trace ops {}, ∀ h ∈ x.handing, h.consumer.store = s →
      h.session.mode.isTracked = false) {c : ConsumerId} {x : Consumer}
    (hx : (run ops {}).consumers[c]? = some x) (hxs : x.store = s) :
    (numbers (·.asksWith c) (trace ops {})).Pairwise (· < ·) := by
  have hsole : ∀ t, ∀ y ∈ trace ops {}, y.Sole t s := by
    intro t y hy h hh hs hmode
    simp [huntracked y hy h hh hs] at hmode
  have hreads : ∀ y ∈ trace ops {}, y.asksWith c = true → ∀ h ∈ y.handing,
      h.consumer.store = s ∧ h.consumer.filter = x.filter := by
    intro y hy hasks h hh
    obtain ⟨first, second, rfl, hbefore⟩ := exists_of_mem_trace hy
    rw [Step.handing, hbefore] at hh
    obtain ⟨c', hop, hc⟩ := (handed_of_handing (coherent_run first) hh).asked
    obtain rfl : c' = c := by simpa [Step.asksWith, hop] using hasks
    obtain ⟨z, hz, hcontinues⟩ :=
      (lasts_run (coherent_run first) (y.operation :: second)).consumers c' _ hc
    rw [run_append, hz] at hx
    obtain rfl := Option.some.inj hx
    unfold Consumer.Continues at hcontinues
    rw [hcontinues] at hxs ⊢
    exact ⟨hxs, rfl⟩
  refine increasing_numbers (t := 0) .init (.init 0 s) (hsole 0) ?_ hreads
  intro y hy i d hd hds
  obtain ⟨first, -, -, hbefore, hearlier⟩ := mem_trace_run hy
  rw [hbefore] at hd
  have hd := ((putBack_mem_events (coherent_run first)).mp hd).2
  have hheld : d ∈ (run first {}).heldBy i s := List.mem_filter.mpr ⟨hd, by simpa using hds⟩
  -- any other session may be the one that holds something
  have hordered := ordered_run (t := i + 1) fun z hz => hsole (i + 1) z (hearlier z hz)
  simp [hordered.others i (Nat.ne_of_lt (Nat.lt_succ_self i))] at hheld

/--
In every run in which one tracked session at most gets messages out of a store, and without
selectors, the store keeps its messages in the order of arrival, also when they are put back.
-/
theorem arrival_order [Labels] (ops : List Operation) (s : StoreId) :
    (∀ t, (∀ x ∈ trace ops {}, x.Sole t s) →
      (run ops {}).Ordered t s ∧
      ∀ first op later, ops = first ++ op :: later → (op = .recover t ∨ op = .rollback t) →
        Step.recalls t ⟨op, run first {}⟩ = true →
        (run first {}).sessions[t]?.any (·.mode.isTracked) = true →
        (((run first {}).step op).storeAt s).pending =
            (((run first {}).heldBy t s).map fun d =>
              { d.envelope with message := d.envelope.message.markRedelivered }) ++
                ((run first {}).storeAt s).pending ∧
          ((∀ x ∈ ((run first {}).step op).trace later, x.recalls t = false) →
            Resumes ((run first {}).heldBy t s)
              (numbers (·.serves t s) (((run first {}).step op).trace later)))) ∧
    ((∀ x ∈ trace ops {}, ∀ h ∈ x.handing, h.consumer.store = s →
        h.session.mode.isTracked = false) →
      ∀ c x, (run ops {}).consumers[c]? = some x → x.store = s →
        (numbers (·.asksWith c) (trace ops {})).Pairwise (· < ·)) := by
  refine ⟨fun t hsole => ⟨ordered_run hsole, ?_⟩, ?_⟩
  · rintro first op later rfl hop hrecalls htracked
    have hw := coherent_run first
    rw [trace_append] at hsole
    have hordered := ordered_run fun x hx => hsole x (List.mem_append_left _ hx)
    exact ⟨pending_recall hw.grounded hop hrecalls s, hordered.resumes hw htracked
      fun x hx => hsole x (List.mem_append_right _ hx)⟩
  · exact fun huntracked c x hx hxs => increasing_of_untracked huntracked hx hxs

def sharedQueue : List Operation :=
  [.connect ⟨{ text := "vm://local", broker := "local" }, "", ""⟩ "" "" none, .start 0,
    .createSession 0 .client, .createConsumer 0 ⟨.queue, "jobs"⟩ none false,
    .createConsumer 0 ⟨.queue, "jobs"⟩ none false, .createSession 0 .auto,
    .createConsumer 1 ⟨.queue, "jobs"⟩ (some "JMSPriority = 9") false,
    .createProducer 0 (some ⟨.queue, "jobs"⟩),
    .send 0 none none (.ofText "one"),
    .send 0 none (some ⟨.persistent, 9, 0⟩) (.ofText "two"),
    .send 0 none none (.ofText "three"),
    .send 0 none (some ⟨.persistent, 9, 0⟩) (.ofText "four")]

def firstReading : List Operation := sharedQueue ++ [.receiveNow 0, .receiveNow 2, .receiveNow 1]

def secondReading : List Operation := [.receiveNow 1, .receiveNow 0, .receiveNow 0]

theorem arrival_order_sharedQueue :
    ((run firstReading {}).lineup 0 0 = [0, 2, 3] ∧ (run firstReading {}).Ordered 0 0) ∧
    (((run firstReading {}).heldBy 0 0).map (·.envelope.seq) = [0, 2] ∧
      Resumes ((run firstReading {}).heldBy 0 0)
        (numbers (·.serves 0 0) (((run firstReading {}).step (.recover 0)).trace secondReading))) ∧
    (numbers (·.asksWith 2) (trace (sharedQueue ++ [.receiveNow 2, .receiveNow 2]) {})).Pairwise
      (· < ·) := by
  have hsole : ∀ x ∈ trace (firstReading ++ .recover 0 :: secondReading) {}, x.Sole 0 0 := by
    decide +kernel
  have hrecalls : ∀ x ∈ ((run firstReading {}).step (.recover 0)).trace secondReading,
      x.recalls 0 = false := by decide +kernel
  have huntracked : ∀ x ∈ trace (sharedQueue ++ [.receiveNow 2, .receiveNow 2]) {},
      ∀ h ∈ x.handing, h.consumer.store = 0 → h.session.mode.isTracked = false := by
    decide +kernel
  have hfirst : ∀ x ∈ trace firstReading {}, x.Sole 0 0 := by
    intro x hx
    refine hsole x ?_
    rw [trace_append]
    exact List.mem_append_left _ hx
  refine ⟨⟨by decide +kernel, ((arrival_order firstReading 0).1 0 hfirst).1⟩,
    ⟨by decide +kernel, ?_⟩, ?_⟩
  · exact (((arrival_order _ 0).1 0 hsole).2 firstReading (.recover 0) secondReading rfl
      (.inl rfl) (by decide +kernel) (by decide +kernel)).2 hrecalls
  · have hconsumer : (run (sharedQueue ++ [.receiveNow 2, .receiveNow 2]) {}).consumers[2]?.map
        (·.store) = some 0 := by decide +kernel
    obtain ⟨x, hx, hxs⟩ := Option.map_eq_some_iff.mp hconsumer
    exact (arrival_order _ 0).2 huntracked 2 x hx hxs

end Provider

end Messaging
