import Messaging.Proofs.Run.Handing
import Messaging.Proofs.Transaction

/-!
# Where messages come from

Stores number what is put into them, so the number of a message tells which send of the run it
comes from, wherever the message is.
-/

namespace Messaging

def Step.sent (x : Step) : Option Message :=
  match x.operation with
  | .send p requested q m =>
      some (x.before.send p requested (x.before.qualityOf p q) m).1.message
  | _ => none

def arrival [Labels] (s : StoreId) (seq : Nat) (xs : List Step) : Option Posting :=
  ((ledger xs).filter (·.store == s))[seq]?

theorem mem_ledger_of_arrival [Labels] {s : StoreId} {seq : Nat} {xs : List Step} {p : Posting}
    (h : arrival s seq xs = some p) : p ∈ ledger xs ∧ p.store = s := by
  obtain ⟨hp, hs⟩ := List.mem_filter.mp (List.mem_of_getElem? h)
  exact ⟨hp, by simpa using hs⟩

theorem Provider.prepare_of_submission {op : Operation} {w : Provider} {y : Submission}
    (h : w.submission op = some y) :
    ∃ p requested q m producer, op = .send p requested q m ∧
      w.prepare p requested (w.qualityOf p q) m = .ok (producer, y.destination, y.message) := by
  cases op with
  | send p requested q m =>
      unfold Provider.submission at h
      dsimp only at h
      cases hprepare : w.prepare p requested (w.qualityOf p q) m with
      | error e => simp [hprepare] at h
      | ok prepared =>
          simp only [hprepare] at h
          split at h
          next =>
            cases h
            exact ⟨p, requested, q, m, prepared.1, rfl, hprepare⟩
          next => cases h
  | _ => cases h

theorem Step.sent_of_submission {x : Step} {y : Submission}
    (h : x.before.submission x.operation = some y) : x.sent = some y.message := by
  obtain ⟨p, requested, q, m, producer, hop, hprepare⟩ := Provider.prepare_of_submission h
  rw [Step.sent, hop]
  simp [Provider.send, hprepare]

variable [Labels]

theorem submission_of_mem_ledger {xs : List Step} {p : Posting} (hp : p ∈ ledger xs) :
    ∃ x y, xs[p.send]? = some x ∧ x.before.submission x.operation = some y ∧
      p.message = Provider.sealed y.message := by
  obtain ⟨z, hz, hp⟩ := mem_ledger.mp hp
  have hlt := (List.getElem?_eq_some_iff.mp hz).1
  obtain ⟨-, y, hy, q, hq, -, hmessage, -⟩ := Step.mem_postings.mp hp
  have hsealed : q.message = Provider.sealed y.message := by
    unfold Step.publication Provider.publications at hq
    split at hq
    next => rw [List.mem_singleton.mp hq]
    next => cases hq
  rw [hsealed] at hmessage
  rcases Step.mem_releases hy with ⟨hsubmission, -, hsend⟩ | ⟨-, -, hbuffering⟩
  · rw [List.length_take_of_le (Nat.le_of_lt hlt)] at hsend
    exact ⟨z, y, hsend ▸ hz, hsubmission, hmessage⟩
  · obtain ⟨⟨x, hx, hkept⟩, -⟩ := mem_buffering.mp hbuffering
    rw [List.getElem?_take] at hx
    split at hx
    next => exact ⟨x, y, hx, (Step.kept_eq_some hkept).1, hmessage⟩
    next => cases hx

theorem sent_of_mem_ledger {xs : List Step} {p : Posting} (hp : p ∈ ledger xs) :
    ∃ x sent, xs[p.send]? = some x ∧ x.sent = some sent ∧ p.message = Provider.sealed sent := by
  obtain ⟨x, y, hx, hy, hmessage⟩ := submission_of_mem_ledger hp
  exact ⟨x, y.message, hx, Step.sent_of_submission hy, hmessage⟩

namespace Provider

theorem arrival_of_copies {s : StoreId} {ops : List Operation} {e : Envelope} {m : Message}
    (h : (postsTo s (log ops {}))[e.seq]? = some (m, e.origin)) :
    ∃ p, arrival s e.seq (trace ops {}) = some p ∧ p.message = m ∧ p.origin = e.origin := by
  rw [postsTo_log, inbound, List.getElem?_map] at h
  obtain ⟨p, hp, heq⟩ := Option.map_eq_some_iff.mp h
  obtain ⟨rfl, horigin⟩ := Prod.mk.inj heq
  exact ⟨p, hp, rfl, horigin⟩

theorem mem_postsTo_of_arrival {s : StoreId} {ops : List Operation} {seq : Nat} {p : Posting}
    (h : arrival s seq (trace ops {}) = some p) :
    (p.message, p.origin) ∈ postsTo s (log ops {}) := by
  rw [arrival] at h
  refine List.mem_of_getElem? (i := seq) ?_
  rw [postsTo_log, inbound, List.getElem?_map, h]
  rfl

theorem arrival_of_mem_custody {s : StoreId} {ops : List Operation} {e : Envelope}
    (he : e ∈ (run ops {}).custody s) :
    ∃ p, arrival s e.seq (trace ops {}) = some p ∧ p.origin = e.origin ∧
      (e.message = p.message ∨ e.message = p.message.markRedelivered) := by
  obtain ⟨m, hm, hcopy⟩ := (conserved_run s ops).copies e he
  obtain ⟨p, hp, rfl, horigin⟩ := arrival_of_copies hm
  exact ⟨p, hp, horigin, hcopy⟩

end Provider

end Messaging
