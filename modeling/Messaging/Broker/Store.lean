import Messaging.Selector

/-!
# Stores of messages

The messages that wait on a queue or in a subscription, oldest first.  A message that comes in is
numbered in order of arrival; one that comes back keeps its number and goes to the head.  Expired
messages are dropped when the store is read.
-/

namespace Messaging

structure Envelope where
  /-- The place in the order of arrival. -/
  seq : Nat
  message : Message
  origin : Nat
  deriving DecidableEq, Repr

structure Store where
  pending : List Envelope := []
  nextSeq : Nat := 0
  deriving DecidableEq, Repr

namespace Store

def push (m : Message) (origin : Nat) (s : Store) : Store :=
  { pending := s.pending ++ [⟨s.nextSeq, m, origin⟩], nextSeq := s.nextSeq + 1 }

def putBack (e : Envelope) (s : Store) : Store := { s with pending := e :: s.pending }

def purge (now : Int64) (s : Store) : Store :=
  { s with pending := s.pending.filter fun e => !e.message.isExpired now }

def take (filter : Option Selector) (s : Store) : Option (Envelope × Store) :=
  (s.pending.find? fun e => Selector.admits filter e.message).map fun e =>
    (e, { s with pending := s.pending.eraseP fun e => Selector.admits filter e.message })

def findUnseen (filter : Option Selector) (seen : List Nat) (s : Store) : Option Envelope :=
  s.pending.find? fun e => !seen.contains e.seq && Selector.admits filter e.message

/-! ## What is left to see -/

def unseen (seen : List Nat) (s : Store) : Nat :=
  (s.pending.filter fun e => !seen.contains e.seq).length

theorem unseen_purge_le (seen : List Nat) (now : Int64) (s : Store) :
    (s.purge now).unseen seen ≤ s.unseen seen :=
  (List.filter_sublist.filter _).length_le

theorem unseen_lt_of_findUnseen {filter : Option Selector} {seen : List Nat} {s : Store}
    {e : Envelope} (h : s.findUnseen filter seen = some e) :
    s.unseen (e.seq :: seen) < s.unseen seen := by
  have hfound := List.find?_some h
  rw [Bool.and_eq_true] at hfound
  have hmem : e ∈ s.pending.filter fun e => !seen.contains e.seq :=
    List.mem_filter.mpr ⟨List.mem_of_find?_eq_some h, hfound.1⟩
  have hrest : (s.pending.filter fun x => !(e.seq :: seen).contains x.seq) =
      (s.pending.filter fun x => !seen.contains x.seq).filter fun x => x.seq != e.seq := by
    rw [List.filter_filter]
    refine List.filter_congr fun x _ => ?_
    rw [List.contains_cons, Bool.not_or]
    rfl
  rw [unseen, unseen, hrest]
  exact List.length_filter_lt_length_iff_exists.mpr ⟨e, hmem, by simp⟩

end Store

end Messaging
