import Messaging.Proofs.Run.Refinement

/-!
# What never changes

Sessions and consumers stay in their places.  A session keeps its connection and its mode, and
numbers its deliveries upwards; of a consumer nothing changes but that it is closed.
-/

namespace Messaging

def Succeeds {α : Type} (r : α → α → Prop) (l l' : List α) : Prop :=
  ∀ (i : Nat) (x : α), l[i]? = some x → ∃ y, l'[i]? = some y ∧ r x y

namespace Succeeds

variable {α : Type} {r : α → α → Prop} {l l' l'' : List α}

theorem of_eq (hr : ∀ x, r x x) (h : l' = l) : Succeeds r l l' := by
  subst h
  exact fun i x hx => ⟨x, hx, hr x⟩

theorem trans (hr : ∀ {x y z}, r x y → r y z → r x z) (h : Succeeds r l l')
    (h' : Succeeds r l' l'') : Succeeds r l l'' := by
  intro i x hx
  obtain ⟨y, hy, hxy⟩ := h i x hx
  obtain ⟨z, hz, hyz⟩ := h' i y hy
  exact ⟨z, hz, hr hxy hyz⟩

theorem append (hr : ∀ x, r x x) (tail : List α) : Succeeds r l (l ++ tail) := by
  intro i x hx
  have hlt := (List.getElem?_eq_some_iff.mp hx).1
  exact ⟨x, (List.getElem?_append_left hlt).trans hx, hr x⟩

theorem modify (hr : ∀ x, r x x) {i : Nat} {f : α → α} (hf : ∀ x, l[i]? = some x → r x (f x)) :
    Succeeds r l (l.modify i f) := by
  intro j x hx
  by_cases hij : i = j
  · subst hij
    exact ⟨f x, by simp [hx], hf x hx⟩
  · exact ⟨x, by rw [List.getElem?_modify_ne _ _ hij, hx], hr x⟩

end Succeeds

structure Session.Continues (x y : Session) : Prop where
  connection : y.connection = x.connection
  mode : y.mode = x.mode
  nextTag : x.nextTag ≤ y.nextTag

theorem Session.Continues.refl (x : Session) : x.Continues x := ⟨rfl, rfl, Nat.le_refl _⟩

theorem Session.Continues.trans {x y z : Session} (h : x.Continues y) (h' : y.Continues z) :
    x.Continues z :=
  ⟨h'.connection.trans h.connection, h'.mode.trans h.mode, Nat.le_trans h.nextTag h'.nextTag⟩

def Consumer.Continues (x y : Consumer) : Prop := y = { x with closed := y.closed }

theorem Consumer.Continues.refl (x : Consumer) : x.Continues x := rfl

theorem Consumer.Continues.trans {x y z : Consumer} (h : x.Continues y) (h' : y.Continues z) :
    x.Continues z := by
  unfold Consumer.Continues at h h' ⊢
  rw [h', h]

namespace Provider

structure Lasts (w w' : Provider) : Prop where
  sessions : Succeeds Session.Continues w.sessions w'.sessions
  consumers : Succeeds Consumer.Continues w.consumers w'.consumers

namespace Lasts

variable {w w' w'' : Provider}

theorem same (hsessions : w'.sessions = w.sessions) (hconsumers : w'.consumers = w.consumers) :
    w.Lasts w' :=
  ⟨.of_eq .refl hsessions, .of_eq .refl hconsumers⟩

theorem refl (w : Provider) : w.Lasts w := same rfl rfl

theorem trans (h : w.Lasts w') (h' : w'.Lasts w'') : w.Lasts w'' :=
  ⟨h.sessions.trans Session.Continues.trans h'.sessions,
    h.consumers.trans Consumer.Continues.trans h'.consumers⟩

theorem updateSession {i : SessionId} {f : Session → Session}
    (hf : ∀ x, w.sessions[i]? = some x → x.Continues (f x)) : w.Lasts (w.updateSession i f) :=
  ⟨.modify .refl hf, .of_eq .refl rfl⟩

end Lasts

/-! ## Moves and runs -/

variable [Labels]

theorem Move.lasts {w w' : Provider} {es : List Event} (h : Move w es w') : w.Lasts w' := by
  cases h with
  | idle | shutdown | startBroker | connect | useConnection | setClientId | addTemporary |
      addQueue | post | purge | retireConnection | unsubscribe => exact .same rfl rfl
  | openSession => exact ⟨.append .refl _, .of_eq .refl rfl⟩
  | numberProducer | keep | acknowledge | commit | forget | retireSession =>
      exact .updateSession fun _ _ => ⟨rfl, rfl, Nat.le_refl _⟩
  | giveBack i session older d =>
      exact (Lasts.updateSession (f := ({ · with delivered := older })) fun _ _ =>
        ⟨rfl, rfl, Nat.le_refl _⟩).trans (.same rfl rfl)
  | consume | subscribe => exact ⟨.of_eq .refl rfl, .append .refl _⟩
  | attach i session connection topic name text selector noLocal store next _ _ _ hstore =>
      obtain ⟨stores, rfl⟩ := durableStore_frame hstore
      exact ⟨.of_eq .refl rfl, .append .refl _⟩
  | closeConsumer c x =>
      obtain ⟨brokers, heq⟩ := releaseSource_frame c x w
      rw [heq]
      exact ⟨.of_eq .refl rfl, .modify .refl fun _ _ => rfl⟩
  | handOut c x session connection e rest _ _ hsession =>
      obtain ⟨hi, hclosed, -⟩ := openSession_eq_ok.mp hsession
      rw [deliver_of_open hclosed]
      split
      · refine ⟨.modify .refl fun y hy => ?_, .of_eq .refl rfl⟩
        obtain rfl : session = y := Option.some.inj (hi.symm.trans hy)
        exact ⟨rfl, rfl, Nat.le_succ _⟩
      · exact .same rfl rfl

theorem Moves.lasts {w w' : Provider} {es : List Event} (h : Moves w es w') : w.Lasts w' := by
  induction h with
  | refl => exact .refl _
  | step _ hmove ih => exact ih.trans hmove.lasts

theorem Move.stores_le {w w' : Provider} {es : List Event} (h : Move w es w') :
    w.stores.length ≤ w'.stores.length := by
  cases h with
  | idle | shutdown | startBroker | connect | useConnection | setClientId | openSession |
      addTemporary | numberProducer | keep | consume | acknowledge | commit | forget |
      retireSession | retireConnection | unsubscribe => exact Nat.le_refl _
  | addQueue | subscribe => simp [addStore, Provider.subscribe, addConsumer, updateBroker]
  | post | purge | giveBack => simp [updateStore, putBack, updateSession]
  | attach i session connection topic name text selector noLocal store next _ _ _ hstore =>
      rcases durableStore_eq_ok hstore with ⟨-, rfl, -⟩ | ⟨rfl, -⟩ <;>
        simp [addStore, addConsumer, updateBroker]
  | closeConsumer c x =>
      obtain ⟨brokers, heq⟩ := releaseSource_frame c x w
      exact Nat.le_of_eq (by rw [heq])
  | handOut c x session connection e rest _ _ hsession =>
      rw [deliver_of_open (openSession_eq_ok.mp hsession).2.1]
      split <;> simp [updateStore, updateSession]

theorem Coherent.step {w : Provider} (hw : w.Coherent) (op : Operation) : (w.step op).Coherent :=
  (moves_step hw op).coherent hw

theorem Coherent.run {w : Provider} (hw : w.Coherent) (ops : List Operation) :
    (w.run ops).Coherent := by
  induction ops generalizing w with
  | nil => exact hw
  | cons op ops ih => exact ih (hw.step op)

theorem lasts_step {w : Provider} (hw : w.Coherent) (op : Operation) : w.Lasts (w.step op) :=
  (moves_step hw op).lasts

theorem lasts_run {w : Provider} (hw : w.Coherent) (ops : List Operation) :
    w.Lasts (w.run ops) := by
  induction ops generalizing w with
  | nil => exact .refl w
  | cons op ops ih => exact (lasts_step hw op).trans (ih (hw.step op))

end Provider

end Messaging
