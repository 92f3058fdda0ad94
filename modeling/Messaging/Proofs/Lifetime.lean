import Messaging.Proofs.Fidelity
import Messaging.Proofs.Run.Configuration

/-!
# Lifetime

A message may live for a time that its send says, or that its producer was set to, counted from the
send.  When that time is over nobody gets the message any more, and before it is over no reading
drops the message, however the message came to its store and however often it came back.
-/

namespace Messaging

/-! ## Deadlines -/

/-- The instant from which on a message is expired that lives for some time, if it ever expires. -/
def expiry? (now life : Int64) : Option Int :=
  if 0 < life then some (min (now.toInt + life.toInt) Int64.maxValue.toInt) else none

def Step.expiry? (x : Step) : Option Int :=
  match x.operation with
  | .send p _ q _ => Messaging.expiry? x.before.now (x.before.qualityOf p q).timeToLive
  | _ => none

def Step.Expired (x : Step) (now : Int64) : Prop := ∃ n, x.expiry? = some n ∧ n ≤ now.toInt

/-- The send that the message with a number in a store comes from. -/
def sending [Labels] (s : StoreId) (seq : Nat) (xs : List Step) : Option Step :=
  (arrival s seq xs).bind fun p => xs[p.send]?

def Unexpired [Labels] (xs : List Step) (s : StoreId) (seq : Nat) (m : Message)
    (now : Int64) : Prop :=
  ∃ x sent, sending s seq xs = some x ∧ x.sent = some sent ∧ m.Mirrors sent ∧ ¬ x.Expired now

theorem Unexpired.withAck [Labels] {xs : List Step} {s : StoreId} {seq : Nat} {m : Message}
    {now : Int64} (h : Unexpired xs s seq m now) (ack : Option AckToken) :
    Unexpired xs s seq { m with ack := ack } now := by
  obtain ⟨x, sent, hx, hsent, hmirrors, hover⟩ := h
  exact ⟨x, sent, hx, hsent, hmirrors.withAck ack, hover⟩

namespace Provider

theorem now_nonneg (w : Provider) : 0 ≤ w.now.toInt := by
  unfold now
  split
  next => decide
  next h => simpa [Int64.lt_iff_toInt_lt] using h

/-- A deadline that lies beyond the last instant is the last instant. -/
theorem toInt_deadline {now timeToLive : Int64} (hnow : 0 ≤ now.toInt) (h : 0 < timeToLive) :
    (deadline now timeToLive).toInt =
      min (now.toInt + timeToLive.toInt) Int64.maxValue.toInt := by
  have hlife : 0 < timeToLive.toInt := by simpa [Int64.lt_iff_toInt_lt] using h
  have hmin : Int64.minValue.toInt ≤ now.toInt + timeToLive.toInt := by
    have hneg : Int64.minValue.toInt < 0 := by decide
    omega
  rw [deadline, if_pos h]
  by_cases hle : now.toInt + timeToLive.toInt ≤ Int64.maxValue.toInt
  · rw [Int.min_eq_left hle, Int64.toInt_ofIntClamp hmin hle]
  · rw [Int.min_eq_right (by omega), Int64.ofIntClamp, dif_pos hmin, dif_neg hle]

theorem isExpired_iff {m sent : Message} {x : Step} {p : ProducerId} {d : Option Destination}
    {q : Option Quality} (hop : x.operation = .send p d q sent)
    (hm : m.headers.expiration = deadline x.before.now (x.before.qualityOf p q).timeToLive)
    (now : Int64) : m.isExpired now = true ↔ x.Expired now := by
  simp only [Message.isExpired, hm, Step.Expired, Step.expiry?, Messaging.expiry?, hop]
  generalize (x.before.qualityOf p q).timeToLive = life
  by_cases h : 0 < life
  · have hdeadline := toInt_deadline (now_nonneg x.before) h
    have hne : deadline x.before.now life ≠ 0 := by
      intro hzero
      have hmax : 0 < Int64.maxValue.toInt := by decide
      have hlife : 0 < life.toInt := by simpa [Int64.lt_iff_toInt_lt] using h
      have hnow := now_nonneg x.before
      rw [hzero, Int64.toInt_zero] at hdeadline
      omega
    simp [h, hne, Int64.le_iff_toInt_le, hdeadline]
  · simp [deadline, h]

/-! ## Sends -/

section Sends

variable {p : ProducerId} {requested : Option Destination} {q : Quality} {m : Message}
  {w : Provider}

theorem send_of_not_allowed (hq : ¬ q.Allowed) :
    ∃ e, w.send p requested q m = (⟨.error e, m⟩, w) := by
  unfold send
  cases h : w.prepare p requested q m with
  | error e => exact ⟨e, rfl⟩
  | ok x =>
      obtain ⟨-, -, -, hallowed, -⟩ := prepare_eq_ok h
      exact absurd hallowed hq

theorem deadline_of_submission {x : Step} {y : Submission}
    (h : x.before.submission x.operation = some y) :
    ∃ p requested q m, x.operation = .send p requested q m ∧
      y.message.headers.expiration = deadline x.before.now (x.before.qualityOf p q).timeToLive := by
  obtain ⟨p, requested, q, m, producer, hop, hprepare⟩ := prepare_of_submission h
  obtain ⟨-, -, -, -, id, hstamped⟩ := prepare_eq_ok hprepare
  refine ⟨p, requested, q, m, hop, ?_⟩
  rw [hstamped]
  rfl

end Sends

/-! ## Runs -/

section AnyLabels

variable [Labels]

section Runs

variable {ops : List Operation} {op : Operation} {s : StoreId} {e : Envelope}

theorem sending_of_mem_custody (he : e ∈ (run ops {}).custody s) :
    ∃ x sent, sending s e.seq (trace ops {}) = some x ∧ x.sent = some sent ∧
      e.message.Mirrors sent ∧ ∀ now, e.message.isExpired now = true ↔ x.Expired now := by
  obtain ⟨⟨p, x, sent, hp, hx, hsent, hmirrors⟩, -⟩ := copied_of_mem_custody he
  obtain ⟨x', y, hx', hy, -⟩ := submission_of_mem_ledger (mem_ledger_of_arrival hp).1
  obtain rfl : x = x' := Option.some.inj (hx.symm.trans hx')
  obtain rfl : sent = y.message := Option.some.inj (hsent.symm.trans (Step.sent_of_submission hy))
  obtain ⟨producer, requested, q, m, hop, hdeadline⟩ := deadline_of_submission hy
  have hexpiration : e.message.headers.expiration = y.message.headers.expiration :=
    congrArg (·.expiration) hmirrors.headers
  refine ⟨x, y.message, ?_, hsent, hmirrors, isExpired_iff hop (hexpiration.trans hdeadline)⟩
  rw [sending, hp]
  exact hx

theorem unexpired_of_pending (he : e ∈ ((run ops {}).storeAt s).pending)
    (hlive : e.message.isExpired (run ops {}).now = false) :
    Unexpired (trace ops {}) s e.seq e.message (run ops {}).now := by
  obtain ⟨x, sent, hx, hsent, hmirrors, hexpired⟩ :=
    sending_of_mem_custody (List.mem_append_left _ he)
  refine ⟨x, sent, hx, hsent, hmirrors, fun hover => ?_⟩
  rw [(hexpired _).mpr hover] at hlive
  cases hlive

omit [Labels] in
theorem exists_settled_of_mem {seq : Nat} {es : List Event} (h : seq ∈ settledIn s es) :
    ∃ cause, .settled s seq cause ∈ es := by
  obtain ⟨x, hx, hseq⟩ := List.mem_filterMap.mp h
  cases x with
  | settled t n cause =>
      obtain ⟨rfl, rfl⟩ : t = s ∧ n = seq := by simpa using hseq
      exact ⟨cause, hx⟩
  | _ => cases hseq

theorem settled_of_lost (he : e ∈ (run ops {}).custody s)
    (hlost : ∀ v ∈ ((run ops {}).step op).custody s, v.seq ≠ e.seq) :
    ∃ cause, (Step.mk op (run ops {})).Settles s e.seq cause := by
  have hbefore := (conserved_run s ops).places
  have hafter := (conserved_run s (ops ++ [op])).places
  rw [log_concat, postsTo_append, settledIn_append, run_append] at hafter
  have hseq : e.seq ∈ ((run ops {}).custody s).map (·.seq) := List.mem_map_of_mem he
  -- a number that was given out is in one place before the step and in one place after it
  have hgiven : e.seq < (postsTo s (log ops {})).length :=
    List.mem_range.mp (hbefore.mem_iff.mp (List.mem_append_left _ hseq))
  have hkept : e.seq ∈ List.range (postsTo s (log ops {}) ++
      postsTo s ((run ops {}).events op)).length :=
    List.mem_range.mpr (by rw [List.length_append]; omega)
  have hnodup := (conserved_run s ops).nodup
  rcases List.mem_append.mp (hafter.mem_iff.mpr hkept) with hheld | hsettled
  · obtain ⟨v, hv, heq⟩ := List.mem_map.mp hheld
    exact absurd heq (hlost v hv)
  rcases List.mem_append.mp hsettled with hold | hnew
  · exact absurd rfl ((List.nodup_append.mp hnodup).2.2 _ hseq _ hold)
  · obtain ⟨cause, hcause⟩ := exists_settled_of_mem hnew
    exact ⟨cause, settles_of_events (coherent_run ops) hcause⟩

theorem expired_of_settles {seq : Nat} (h : (Step.mk op (run ops {})).Settles s seq .expired) :
    ∃ x, sending s seq (trace ops {}) = some x ∧ x.Expired (run ops {}).now := by
  obtain ⟨-, v, hv, rfl, hne, hle⟩ := h
  obtain ⟨x, -, hx, -, -, hexpired⟩ := sending_of_mem_custody (List.mem_append_left _ hv)
  refine ⟨x, hx, (hexpired _).mp ?_⟩
  simpa [Message.isExpired] using ⟨hne, hle⟩

end Runs

structure Lifetimes (ops : List Operation) : Prop where
  received : ∀ op m, (run ops {}).received op = some m →
    ∃ h, (run ops {}).handing op = some h ∧
      Unexpired (trace ops {}) h.consumer.store h.envelope.seq m (run ops {}).now
  browsed : ∀ b m, ((run ops {}).browseNext b).1 = .ok (some m) →
    ∃ browser e, (run ops {}).openBrowser b = .ok browser ∧
      e ∈ ((run ops {}).storeAt browser.store).pending ∧ m = e.message ∧
      Unexpired (trace ops {}) browser.store e.seq m (run ops {}).now
  /-- A message that is lost was settled, and as expired only when the time of its send is over. -/
  lost : ∀ op s, ∀ e ∈ (run ops {}).custody s,
    (∀ v ∈ ((run ops {}).step op).custody s, v.seq ≠ e.seq) →
      ∃ cause, (Step.mk op (run ops {})).Settles s e.seq cause ∧
        (cause = .expired →
          ∃ x, sending s e.seq (trace ops {}) = some x ∧ x.Expired (run ops {}).now)
  /-- A send that asks for nothing gives the time to live that its producer was set to last. -/
  setting : ∀ p requested m, Step.expiry? ⟨.send p requested none m, run ops {}⟩ =
    expiry? (run ops {}).now (lifeSet p (trace ops {}))
  accepted : ∀ p millis, 0 ≤ millis → ((run ops {}).setTimeToLive p millis).1 = .ok ()
  refused : ∀ p requested q m, ¬ q.Allowed →
    ∃ e, (run ops {}).send p requested q m = (⟨.error e, m⟩, run ops {})
  priority : ∀ p n, ¬ (0 ≤ n ∧ n ≤ 9) →
    (run ops {}).setPriority p n = (.error (.badPriority n), run ops {})
  timeToLive : ∀ p millis, millis < 0 →
    (run ops {}).setTimeToLive p millis = (.error (.badTimeToLive millis), run ops {})

end AnyLabels

/--
A transaction sends two messages, one for the time that its producer was set to and one for as long
as can be; time goes on.
-/
def briefAndLasting : List Operation :=
  [.connect ⟨{ text := "vm://local", broker := "local" }, "", ""⟩ "" "" none, .start 0,
    .createSession 0 .transacted, .createProducer 0 (some ⟨.queue, "jobs"⟩),
    .configure 0 (.timeToLive 10), .configure 0 (.timeToLive (-1)),
    .send 0 none none (.ofText "brief"), .advance 5,
    .send 0 none (some ⟨.persistent, 4, Int64.maxValue⟩) (.ofText "lasting"), .commit 0,
    .createSession 0 .auto, .createConsumer 1 ⟨.queue, "jobs"⟩ none false,
    .createBrowser 1 ⟨.queue, "jobs"⟩ none, .advance 4]

def tooLate : List Operation := briefAndLasting ++ [.advance 1]

end Provider

end Messaging
