import Messaging.Proofs.Run.Buffer
import Messaging.Proofs.Run.Handing

/-!
# Putting back

A session puts back all that it holds when it recovers, rolls back or is closed.  What it holds it
got from an earlier step of the run.
-/

namespace Messaging

def Operation.returns : Operation → Bool
  | .recover _ | .rollback _ | .closeSession _ | .closeConnection _ => true
  | _ => false

def Step.recalls (i : SessionId) (x : Step) : Bool :=
  x.before.isOpen i &&
    match x.operation with
    | .recover t => t == i && !x.before.isTransacted i
    | .rollback t => t == i && x.before.isTransacted i
    | .closeSession t => t == i
    | .closeConnection c => x.before.sessions[i]?.any (·.connection == c)
    | _ => false

namespace Provider

def deliveriesOf (i : SessionId) (w : Provider) : List Delivery :=
  (w.sessions[i]?.map (·.delivered)).getD []

section Events

variable {op : Operation} {w : Provider} {i : SessionId} {d : Delivery}

theorem mem_returning {t : SessionId} {session : Session} (hs : w.sessions[t]? = some session) :
    .putBack i d ∈ returning t session ↔ t = i ∧ d ∈ w.deliveriesOf i := by
  unfold returning deliveriesOf
  simp only [List.mem_map, List.mem_reverse, Event.putBack.injEq]
  constructor
  · rintro ⟨d', hd, rfl, rfl⟩
    exact ⟨rfl, by simpa [hs] using hd⟩
  · rintro ⟨rfl, hd⟩
    exact ⟨d, by simpa [hs] using hd, rfl, rfl⟩

theorem putBack_mem_closing (hw : w.Coherent) (t : SessionId) :
    .putBack i d ∈ w.closing t ↔ t = i ∧ w.isOpen i = true ∧ d ∈ w.deliveriesOf i := by
  unfold closing
  cases hs : w.sessions[t]? with
  | none =>
      refine iff_of_false List.not_mem_nil ?_
      rintro ⟨rfl, hopen, -⟩
      simp [isOpen, openSession, hs, Except.isOk, Except.toBool] at hopen
  | some session =>
      have hopen := isOpen_iff_closed hw hs
      dsimp only
      split
      next hclosed =>
        refine iff_of_false List.not_mem_nil ?_
        rintro ⟨rfl, h, -⟩
        rw [hopen, hclosed] at h
        cases h
      next hclosed =>
        have hmem : .putBack i d ∈ returning t session ++ [.ended t] ↔
            t = i ∧ d ∈ w.deliveriesOf i := by
          simp [mem_returning hs]
        rw [hmem]
        refine ⟨?_, fun h => ⟨h.1, h.2.2⟩⟩
        rintro ⟨rfl, hd⟩
        exact ⟨rfl, by simp [hopen, hclosed], hd⟩

variable [Labels]

theorem putBack_not_mem_events (hop : op.returns = false) : .putBack i d ∉ w.events op := by
  have hposts : .putBack i d ∉ w.posts op := by simp [posts]
  have hexpirations : ∀ s, .putBack i d ∉ w.expirations s := by simp [expirations]
  have hreceiving : ∀ c, .putBack i d ∉ w.receiving c := by
    intro c h
    obtain ⟨x, session, -, -, -, -, h | ⟨e, rest, -, h⟩⟩ := mem_receiving h
    · exact hexpirations _ h
    · unfold receipt at h
      grind
  have hbrowsing : ∀ b, .putBack i d ∉ w.browsing b := by
    intro b h
    unfold browsing at h
    grind
  intro h
  cases op with
  | recover | rollback | closeSession | closeConnection => cases hop
  | receiveNow c | receive c | poll c => exact hreceiving c h
  | hasMore b | browseNext b => exact hbrowsing b h
  | acknowledge m =>
      simp only [events, acknowledging] at h
      grind
  | send | commit | createDurableConsumer | unsubscribe =>
      simp only [events, committing] at h
      grind
  | _ => cases h

theorem putBack_mem_events (hw : w.Coherent) :
    .putBack i d ∈ w.events op ↔ Step.recalls i ⟨op, w⟩ = true ∧ d ∈ w.deliveriesOf i := by
  cases op with
  | recover t =>
      simp only [events, Step.recalls]
      cases h : w.openSession t with
      | error e =>
          have hopen : w.isOpen t = false := by
            unfold isOpen
            rw [h]
            rfl
          refine iff_of_false List.not_mem_nil ?_
          grind
      | ok x =>
          obtain ⟨session, connection⟩ := x
          have hs := (openSession_eq_ok.mp h).1
          have hopen : w.isOpen t = true := by
            unfold isOpen
            rw [h]
            rfl
          have htransacted : w.isTransacted t = (session.mode == .transacted) := by
            simp [isTransacted, hs]
          dsimp only
          split
          next hmode =>
            refine iff_of_false List.not_mem_nil ?_
            grind
          next hmode =>
            rw [mem_returning hs]
            grind
  | rollback t =>
      simp only [events, Step.recalls]
      have htransaction := isOk_openTransaction t w
      cases h : w.openTransaction t with
      | error e =>
          rw [h] at htransaction
          refine iff_of_false List.not_mem_nil ?_
          have hnone : (w.isOpen t && w.isTransacted t) = false := htransaction.symm
          grind
      | ok x =>
          rw [h] at htransaction
          have hs := (openSession_eq_ok.mp (openTransaction_eq_ok.mp h).1).1
          have hboth : (w.isOpen t && w.isTransacted t) = true := htransaction.symm
          have hmem : .putBack i d ∈ .ended t :: returning t x.1 ↔
              t = i ∧ d ∈ w.deliveriesOf i := by
            simp [mem_returning hs]
          exact hmem.trans (by grind)
  | closeSession t =>
      simp [events, Step.recalls, putBack_mem_closing hw, and_assoc, and_left_comm]
  | closeConnection c =>
      simp only [events, Step.recalls]
      have hmem : .putBack i d ∈ (w.sessionsOf c).flatMap (w.closing ·) ↔
          (w.isOpen i = true ∧ w.sessions[i]?.any (·.connection == c) = true) ∧
            d ∈ w.deliveriesOf i := by
        simp only [List.mem_flatMap, putBack_mem_closing hw, mem_sessionsOf]
        constructor
        · rintro ⟨t, ht, rfl, hopen, hd⟩
          exact ⟨⟨hopen, ht⟩, hd⟩
        · rintro ⟨⟨hopen, hs⟩, hd⟩
          exact ⟨i, hs, rfl, hopen, hd⟩
      split
      next => simp [hmem]
      next hconnection =>
        refine iff_of_false List.not_mem_nil fun h => ?_
        obtain ⟨hopen, hs⟩ := Bool.and_eq_true_iff.mp h.1
        exact hconnection (isOk_openConnection hopen hs)
  | _ =>
      refine iff_of_false ?_ (by simp [Step.recalls])
      exact putBack_not_mem_events rfl

end Events

end Provider

end Messaging
