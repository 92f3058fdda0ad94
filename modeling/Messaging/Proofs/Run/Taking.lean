import Messaging.Proofs.Run.Arrival

/-!
# Taking messages out of stores

A consumer that asks for a message is the only one that takes messages out of a store from which
no message is outstanding and where none expires.
-/

namespace Messaging.Provider

variable {w : Provider} {op : Operation} {s : StoreId}

theorem published_of_not_publishes (h : op.publishes = false) : w.published op = [] := by
  cases op with
  | send p requested q m => cases h
  | commit s => cases h
  | _ => rfl

theorem publishes_of_consumer? {c : ConsumerId} (h : op.consumer? = some c) :
    op.publishes = false := by
  cases op with
  | receiveNow i | receive i | poll i => rfl
  | _ => cases h

/-- An operation that asks for a message out of a store, and can get one. -/
def TakesFrom (s : StoreId) (op : Operation) (w : Provider) : Prop :=
  ∃ c x, op.consumer? = some c ∧ w.consumers[c]? = some x ∧ x.closed = false ∧
    w.isStarted x.session = true ∧ x.store = s

theorem takeNext_first {x : Consumer} {session : Session}
    (hs : w.sessions[x.session]? = some session) (hopen : session.closed = false)
    (hmode : session.mode.isTracked = false) (hfilter : x.filter = none)
    (hlt : x.store < w.stores.length)
    (hlasting : ∀ e ∈ (w.storeAt x.store).pending, e.message.isExpired w.now = false) :
    (w.takeNext x).1.toList ++
        ((w.takeNext x).2.storeAt x.store).pending.map (·.message) =
      (w.storeAt x.store).pending.map (·.message) ∧
      (w.takeNext x).2.sessions = w.sessions := by
  have hpurge := Store.purge_eq_self hlasting
  unfold takeNext takeFrom
  simp only [hs, hpurge, hfilter, Store.take]
  cases hpending : (w.storeAt x.store).pending with
  | nil =>
      refine ⟨?_, rfl⟩
      simp [storeAt_updateStore, hlt, hpending]
  | cons e rest =>
      refine ⟨?_, by simp [deliver, hopen, hmode, Selector.admits, updateStore]⟩
      simp [deliver, hopen, hmode, Selector.admits, storeAt_updateStore, hlt]

theorem not_shelves [Labels] (hheld : w.outstanding s = [])
    (hlasting : ∀ e ∈ (w.storeAt s).pending, e.message.isExpired w.now = false)
    (htakes : ¬ w.TakesFrom s op) : ∀ e ∈ w.events op, e.shelves s = false := by
  have hexpirations : ∀ t, ∀ e ∈ w.expirations t, e.shelves s = false := by
    intro t e he
    obtain ⟨v, hv, rfl⟩ := List.mem_map.mp he
    obtain ⟨hv, hexpired⟩ := List.mem_filter.mp hv
    by_cases hts : t = s
    · subst hts
      rw [hlasting v hv] at hexpired
      cases hexpired
    · simp [Event.shelves, hts]
  intro e he
  cases mem_events he with
  | received c hop h _ =>
      obtain ⟨x, session, hx, hopen, hstarted, -, h⟩ := mem_receiving h
      have hother : x.store ≠ s := fun hxs => htakes ⟨c, x, hop, hx, hopen, hstarted, hxs⟩
      rcases h with h | ⟨v, rest, -, h⟩
      · exact hexpirations _ e h
      · unfold receipt at h
        rcases List.mem_cons.mp h with rfl | h
        · simpa [Event.shelves] using hother
        · split at h
          next => simp at h
          next =>
            rw [List.mem_singleton.mp h]
            rfl
  | browsed b _ h _ =>
      unfold browsing at h
      split at h
      next => exact hexpirations _ e h
      next => simp at h
  | returned i session hi h _ =>
      obtain ⟨d, hd, rfl⟩ := List.mem_map.mp h
      have hd := List.mem_reverse.mp hd
      by_contra hds
      have hmem : d ∈ w.outstanding s :=
        List.mem_flatMap.mpr ⟨session, List.mem_of_getElem? hi,
          List.mem_filter.mpr ⟨hd, by simpa [Event.shelves] using hds⟩⟩
      rw [hheld] at hmem
      cases hmem
  | acknowledged m _ h _ =>
      unfold acknowledging at h
      split at h
      next => simp at h
      next =>
        split at h
        next =>
          obtain ⟨d, -, rfl⟩ := List.mem_map.mp h
          rfl
        next => simp at h
  | committed i session connection _ _ h =>
      rcases List.mem_append.mp h with h | h
      · obtain ⟨d, -, rfl⟩ := List.mem_map.mp h
        rfl
      · rw [List.mem_singleton.mp h]
        rfl
  | posted h =>
      obtain ⟨p, -, h⟩ := List.mem_flatMap.mp h
      obtain ⟨t, -, rfl⟩ := List.mem_map.mp h
      rfl
  | kept _ _ _ he | rolledBack _ _ _ he | closed _ he | attached _ _ he | removed _ _ he =>
      rw [he]
      rfl

end Messaging.Provider
