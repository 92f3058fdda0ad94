import Messaging.Broker.Basic
import Messaging.Proofs.Place

/-!
# Subscriptions of a broker

What the operations on durable subscriptions do to the lists of a broker.
-/

namespace Messaging.Broker

/-! ## Looking up -/

theorem durable?_mem {key : DurableKey} {b : Broker} {d : Durable} (h : b.durable? key = some d) :
    d ∈ b.durables ∧ d.key = key :=
  ⟨List.mem_of_find?_eq_some h, by simpa using List.find?_some h⟩

theorem durable?_eq_none {key : DurableKey} {b : Broker} :
    b.durable? key = none ↔ ∀ d ∈ b.durables, d.key ≠ key := by
  simp [durable?]

theorem durable?_of_mem {b : Broker} {d : Durable} (hkeys : (b.durables.map (·.key)).Nodup)
    (hd : d ∈ b.durables) : b.durable? d.key = some d := by
  cases h : b.durable? d.key with
  | none => exact absurd rfl (durable?_eq_none.mp h d hd)
  | some d' =>
      obtain ⟨hd', hkey⟩ := durable?_mem h
      rw [List.inj_on_of_nodup_map hkeys hd' hd hkey]

theorem queue?_mem {d : Destination} {b : Broker} {s : StoreId} (h : b.queue? d = some s) :
    (d, s) ∈ b.queues := by
  obtain ⟨before, after, hqueues, -⟩ := List.lookup_eq_some_iff.mp h
  simp [hqueues]

theorem isLive_iff {d : Destination} {b : Broker} :
    b.isLive d = true ↔ (d.isTemporary = true → ∃ c, (d, c) ∈ b.temporaries) := by
  have howner : (b.owner? d).isSome = true ↔ ∃ c, (d, c) ∈ b.temporaries := by
    unfold owner?
    constructor
    · intro h
      obtain ⟨c, hc⟩ := Option.isSome_iff_exists.mp h
      obtain ⟨before, after, htemporaries, -⟩ := List.lookup_eq_some_iff.mp hc
      exact ⟨c, by simp [htemporaries]⟩
    · rintro ⟨c, hc⟩
      rw [Option.isSome_iff_ne_none]
      intro hnone
      simpa using List.lookup_eq_none_iff.mp hnone _ hc
  rw [isLive, Bool.or_eq_true_iff, howner]
  cases d.isTemporary <;> simp

theorem isLive_congr {b b' : Broker} (h : b'.temporaries = b.temporaries) (d : Destination) :
    b'.isLive d = b.isLive d := by
  simp [isLive, owner?, h]

/-! ## Frames -/

section Frames

variable (d : Durable) (noLocal : Option ConnectionId) (key : DurableKey) (b : Broker)

@[simp] theorem durables_activate :
    (b.activate d noLocal).durables = d :: b.durables.filter (·.key != d.key) := by
  unfold activate
  cases b.durable? d.key <;> rfl

@[simp] theorem queues_activate : (b.activate d noLocal).queues = b.queues := by
  unfold activate
  cases b.durable? d.key <;> rfl

@[simp] theorem temporaries_activate : (b.activate d noLocal).temporaries = b.temporaries := by
  unfold activate
  cases b.durable? d.key <;> rfl

theorem clientIds_activate : (b.activate d noLocal).clientIds = b.clientIds := by
  unfold activate
  cases b.durable? d.key <;> rfl

@[simp] theorem queues_deactivate : (b.deactivate key).queues = b.queues := by
  unfold deactivate
  cases b.durable? key with
  | none => rfl
  | some d => cases hd : d.noLocal <;> simp [hd, putDurable, detach, attach]

@[simp] theorem temporaries_deactivate : (b.deactivate key).temporaries = b.temporaries := by
  unfold deactivate
  cases b.durable? key with
  | none => rfl
  | some d => cases hd : d.noLocal <;> simp [hd, putDurable, detach, attach]

theorem clientIds_deactivate : (b.deactivate key).clientIds = b.clientIds := by
  unfold deactivate
  cases b.durable? key with
  | none => rfl
  | some d => cases hd : d.noLocal <;> simp [hd, putDurable, detach, attach]

theorem durables_deactivate {d : Durable} (hd : b.durable? key = some d) :
    (b.deactivate key).durables =
      { d with active := false } :: b.durables.filter (·.key != key) := by
  obtain ⟨-, rfl⟩ := durable?_mem hd
  cases h : d.noLocal <;> simp [deactivate, hd, h, putDurable, detach, attach]

theorem attached_deactivate {d : Durable} (hd : b.durable? key = some d) :
    (b.deactivate key).attached =
      if d.noLocal then
        b.attached.filter (·.store != d.store) ++ [⟨d.topic, d.store, d.selector, none⟩]
      else b.attached := by
  cases h : d.noLocal <;> simp [deactivate, hd, h, putDurable, detach, attach]

theorem attached_activate_of_none (h : b.durable? d.key = none) :
    (b.activate d noLocal).attached = b.attached ++ [⟨d.topic, d.store, d.selector, noLocal⟩] := by
  simp [activate, h, attach, putDurable]

theorem attached_activate_of_some {old : Durable} (h : b.durable? d.key = some old) :
    (b.activate d noLocal).attached =
      b.attached.filter (·.store != old.store) ++
        [⟨d.topic, d.store, d.selector, noLocal⟩] := by
  simp [activate, h, attach, putDurable, detach]

end Frames

/-! ## Replacing durable subscriptions -/

theorem durable?_putDurable (d : Durable) (key : DurableKey) (b : Broker) :
    (b.putDurable d).durable? key = if d.key = key then some d else b.durable? key := by
  unfold putDurable durable?
  by_cases hkey : d.key = key
  · rw [List.find?_cons_of_pos (by simpa using hkey), if_pos hkey]
  · rw [List.find?_cons_of_neg (by simpa using hkey), if_neg hkey, List.find?_filter]
    congr 1
    funext d'
    by_cases hd' : d'.key = key <;> simp [hd', Ne.symm hkey]

theorem durable?_removeDurable {key key' : DurableKey} (hkey : key' ≠ key) (b : Broker) :
    (b.removeDurable key').durable? key = b.durable? key := by
  unfold removeDurable durable?
  rw [List.find?_filter]
  congr 1
  funext d
  by_cases hd : d.key = key <;> simp [hd, Ne.symm hkey]

theorem durable?_activate (d : Durable) (noLocal : Option ConnectionId) (key : DurableKey)
    (b : Broker) :
    (b.activate d noLocal).durable? key = if d.key = key then some d else b.durable? key := by
  rw [← durable?_putDurable]
  unfold activate
  cases b.durable? d.key <;> rfl

theorem durable?_deactivate (key key' : DurableKey) (b : Broker) :
    (b.deactivate key').durable? key =
      if key' = key then (b.durable? key).map ({ · with active := false })
      else b.durable? key := by
  cases hd : b.durable? key' with
  | none =>
      have hsame : b.deactivate key' = b := by simp [deactivate, hd]
      rw [hsame]
      by_cases hkey : key' = key
      · rw [← hkey, hd, if_pos rfl]
        rfl
      · rw [if_neg hkey]
  | some d =>
      have hput : (b.deactivate key').durable? key =
          (b.putDurable { d with active := false }).durable? key := by
        unfold durable?
        rw [durables_deactivate key' b hd, ← (durable?_mem hd).2]
        rfl
      rw [hput, durable?_putDurable]
      obtain ⟨-, rfl⟩ := durable?_mem hd
      by_cases hkey : d.key = key
      · rw [if_pos hkey, if_pos hkey, ← hkey, hd]
        rfl
      · rw [if_neg hkey, if_neg hkey]

/-! ## Members -/

theorem mem_attached_activate {d : Durable} {noLocal : Option ConnectionId} {b : Broker}
    {x : Subscription} (h : x ∈ (b.activate d noLocal).attached) :
    x ∈ b.attached ∨ x = ⟨d.topic, d.store, d.selector, noLocal⟩ := by
  cases hd : b.durable? d.key with
  | none => simpa [attached_activate_of_none d noLocal b hd] using h
  | some old =>
      rw [attached_activate_of_some d noLocal b hd] at h
      rcases List.mem_append.mp h with h | h
      · exact .inl (List.mem_filter.mp h).1
      · exact .inr (List.mem_singleton.mp h)

theorem mem_durables_deactivate {key : DurableKey} {b : Broker} {x : Durable}
    (h : x ∈ (b.deactivate key).durables) :
    x ∈ b.durables ∨ ∃ d ∈ b.durables, x = { d with active := false } := by
  cases hd : b.durable? key with
  | none => exact .inl (by simpa [deactivate, hd] using h)
  | some d =>
      rw [durables_deactivate key b hd] at h
      rcases List.mem_cons.mp h with rfl | h
      · exact .inr ⟨d, (durable?_mem hd).1, rfl⟩
      · exact .inl (List.mem_filter.mp h).1

theorem mem_attached_deactivate {key : DurableKey} {b : Broker} {x : Subscription}
    (h : x ∈ (b.deactivate key).attached) :
    x ∈ b.attached ∨ ∃ d ∈ b.durables, x = ⟨d.topic, d.store, d.selector, none⟩ := by
  cases hd : b.durable? key with
  | none => exact .inl (by simpa [deactivate, hd] using h)
  | some d =>
      rw [attached_deactivate key b hd] at h
      split at h
      next =>
        rcases List.mem_append.mp h with h | h
        · exact .inl (List.mem_filter.mp h).1
        · exact .inr ⟨d, (durable?_mem hd).1, List.mem_singleton.mp h⟩
      next => exact .inl h

end Messaging.Broker
