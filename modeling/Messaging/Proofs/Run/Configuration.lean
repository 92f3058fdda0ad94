import Messaging.Proofs.Run.Users

/-!
# What producers are set to

A producer is set to something else only by a setting of its own, and only to what is allowed.  So
in every run it gives its messages the time to live that it was set to last.
-/

namespace Messaging

/-- The time to live that a step sets a producer to, if the producer is there and may have it. -/
def Step.lifeSet? (p : ProducerId) (x : Step) : Option Int64 :=
  match x.operation with
  | .configure i (.timeToLive millis) =>
      if i = p ∧ p < x.before.producers.length ∧ 0 ≤ millis then some millis else none
  | _ => none

def lifeSet (p : ProducerId) (xs : List Step) : Int64 :=
  (xs.filterMap (Step.lifeSet? p)).getLast?.getD 0

theorem lifeSet_concat (p : ProducerId) (xs : List Step) (x : Step) :
    lifeSet p (xs ++ [x]) = (x.lifeSet? p).getD (lifeSet p xs) := by
  cases h : x.lifeSet? p <;> simp [lifeSet, h]

namespace Provider

section Configurations

variable {w w' : Provider} {p : ProducerId}

theorem configOf_of_producers (h : w'.producers = w.producers) : w'.configOf p = w.configOf p := by
  rw [configOf, configOf, h]

theorem configOf_check {α β : Type} {r : Except Error α} {f : α → Outcome β}
    (hf : ∀ a, (f a).2.configOf p = w.configOf p) : (check r w f).2.configOf p = w.configOf p :=
  check_elim (P := fun o => o.2.configOf p = w.configOf p) (fun _ => rfl) hf

theorem configOf_updateProducer {i : ProducerId} {f : Producer → Producer}
    (hf : ∀ x, (f x).config = x.config) : (w.updateProducer i f).configOf p = w.configOf p := by
  unfold configOf updateProducer
  by_cases hi : i = p
  · subst hi
    cases h : w.producers[i]? <;> simp [h, hf]
  · rw [List.getElem?_modify_ne f _ hi]

theorem configOf_configure (i : ProducerId) (f : ProducerConfig → ProducerConfig) :
    (w.configure i f).configOf p =
      if i = p ∧ p < w.producers.length then f (w.configOf p) else w.configOf p := by
  unfold configure configOf updateProducer
  by_cases hi : i = p
  · subst hi
    by_cases hlt : i < w.producers.length <;> simp [hlt]
  · rw [List.getElem?_modify_ne _ _ hi, if_neg fun h => hi h.1]

theorem timeToLive_configure {i : ProducerId} {f : ProducerConfig → ProducerConfig}
    (hf : ∀ c, (f c).timeToLive = c.timeToLive) :
    ((w.configure i f).configOf p).timeToLive = (w.configOf p).timeToLive := by
  rw [configOf_configure]
  split
  · exact hf _
  · rfl

/-! ## Operations -/

theorem configOf_createProducer (s : SessionId) (d : Option Destination) :
    (w.createProducer s d).2.configOf p = w.configOf p := by
  refine configOf_check fun (session, connection) => ?_
  unfold configOf updateSession
  rcases Nat.lt_trichotomy p w.producers.length with hlt | rfl | hlt
  · rw [List.getElem?_append_left hlt]
  · simp
  · rw [List.getElem?_eq_none (by simp; omega), List.getElem?_eq_none (Nat.le_of_lt hlt)]

theorem configOf_send (i : ProducerId) (requested : Option Destination) (q : Quality)
    (m : Message) : (w.send i requested q m).2.configOf p = w.configOf p := by
  unfold send
  cases w.prepare i requested q m with
  | error e => rfl
  | ok x =>
      obtain ⟨producer, d, m⟩ := x
      have hcount : (w.countSend i producer).configOf p = w.configOf p := by
        unfold countSend
        split
        · rfl
        · exact configOf_updateProducer fun _ => rfl
      have hspares := spares_sendThrough producer.session d m (w.countSend i producer)
      exact (configOf_of_producers hspares.producers).trans hcount

theorem configOf_createBrowser (s : SessionId) (queue : Destination) (selector : Option String) :
    (w.createBrowser s queue selector).2.configOf p = w.configOf p := by
  refine configOf_check fun (session, connection) => configOf_check fun selector => ?_
  dsimp only
  split
  · rfl
  · exact configOf_check fun _ =>
      configOf_of_producers (spares_queueStore w connection.broker queue).producers

theorem configOf_browseNext (b : BrowserId) :
    (w.browseNext b).2.configOf p = w.configOf p := by
  refine configOf_check fun browser => ?_
  have hpeek := (spares_peek browser w).producers
  rcases hfound : w.peek browser with ⟨_ | e, next⟩ <;> rw [hfound] at hpeek <;>
    exact configOf_of_producers hpeek

theorem timeToLive_setTimeToLive (i : ProducerId) (millis : Int64) :
    ((w.setTimeToLive i millis).2.configOf p).timeToLive =
      if i = p ∧ p < w.producers.length ∧ 0 ≤ millis then millis
      else (w.configOf p).timeToLive := by
  unfold setTimeToLive checkTimeToLive
  by_cases hneg : millis < 0
  · have hnot : ¬ 0 ≤ millis := by simpa using hneg
    simp [hneg, hnot, check]
  · have hle : 0 ≤ millis := by simpa using hneg
    simp only [hneg, if_false, check, configOf_configure, hle, and_true]
    split <;> rfl

variable [Labels]

theorem configOf_step (hw : w.Coherent) {op : Operation} (hop : ∀ i x, op ≠ .configure i x) :
    (w.step op).configOf p = w.configOf p := by
  cases huser : op.ofUser with
  | false => exact configOf_of_producers (spares_step hw huser).producers
  | true =>
      cases op with
      | createProducer s d => exact configOf_createProducer s d
      | configure i x => exact absurd rfl (hop i x)
      | closeProducer i => exact configOf_updateProducer fun _ => rfl
      | send i requested q m => exact configOf_send i requested _ m
      | createBrowser s queue selector => exact configOf_createBrowser s queue selector
      | browseNext b => exact configOf_browseNext b
      | closeBrowser b => exact configOf_of_producers rfl
      | _ => cases huser

theorem timeToLive_step (hw : w.Coherent) (op : Operation) :
    ((w.step op).configOf p).timeToLive =
      (Step.lifeSet? p ⟨op, w⟩).getD (w.configOf p).timeToLive := by
  cases op with
  | configure i x =>
      cases x with
      | deliveryMode | disableMessageId | disableTimestamp =>
          exact timeToLive_configure fun _ => rfl
      | priority n =>
          exact check_elim (P := fun o : Outcome Unit =>
            (o.2.configOf p).timeToLive = (w.configOf p).timeToLive) (fun _ => rfl)
              fun _ => timeToLive_configure fun _ => rfl
      | timeToLive millis =>
          refine (timeToLive_setTimeToLive i millis).trans ?_
          simp only [Step.lifeSet?]
          split <;> rfl
  | _ =>
      rw [configOf_step hw (by simp)]
      rfl

theorem timeToLive_run (p : ProducerId) (ops : List Operation) :
    ((run ops {}).configOf p).timeToLive = lifeSet p (trace ops {}) := by
  induction ops using List.reverseRecOn with
  | nil => rfl
  | append_singleton ops op ih =>
      rw [trace_concat, lifeSet_concat, ← ih, run_append]
      exact timeToLive_step (coherent_run ops) op

end Configurations

end Provider

end Messaging
