import Messaging.Error
import Messaging.Proofs.Outcome

/-!
# Bodies in memory

A call on a body in memory changes it on the way, and what it changed before it fails is not taken
back for it.  A call on a body as a value returns no body when it fails.  The two agree when a call
in memory takes back itself what it did before it fails; then they agree along any sequence of
calls.
-/

namespace Messaging.Memory

inductive Halt where
  | failed (e : Error)
  | outOfRange
  deriving DecidableEq, Repr

variable {κ σ β ε α : Type}

/-! ## Sequences of calls -/

section Sequence

variable (call : κ → σ → Except ε α × σ)

def after (calls : List κ) (s : σ) : σ := calls.foldl (fun s c => (call c s).2) s

def outcomes : List κ → σ → List (Except ε α)
  | [], _ => []
  | c :: cs, s => (call c s).1 :: outcomes cs (call c s).2

def answered : List κ → σ → List (κ × α)
  | [], _ => []
  | c :: cs, s =>
    match (call c s).1 with
    | .ok a => (c, a) :: answered cs (call c s).2
    | .error _ => answered cs (call c s).2

@[simp] theorem after_nil (s : σ) : after call [] s = s := rfl

@[simp] theorem after_cons (c : κ) (cs : List κ) (s : σ) :
    after call (c :: cs) s = after call cs (call c s).2 := rfl

theorem after_append (first second : List κ) (s : σ) :
    after call (first ++ second) s = after call second (after call first s) := by
  simp [after]

theorem outcomes_append (first second : List κ) (s : σ) :
    outcomes call (first ++ second) s =
      outcomes call first s ++ outcomes call second (after call first s) := by
  induction first generalizing s with
  | nil => simp [outcomes]
  | cons c cs ih => simp [outcomes, ih]

theorem after_keeps_of_mem {P : σ → Prop} {calls : List κ}
    (hcall : ∀ c ∈ calls, ∀ s, P s → P (call c s).2) {s : σ} (hs : P s) :
    P (after call calls s) := by
  induction calls generalizing s with
  | nil => exact hs
  | cons c cs ih =>
      rw [after_cons]
      apply ih
      · exact fun d hd => hcall d (List.mem_cons_of_mem c hd)
      · exact hcall c List.mem_cons_self s hs

theorem after_keeps {P : σ → Prop} (hcall : ∀ c s, P s → P (call c s).2) {s : σ} (hs : P s)
    (calls : List κ) : P (after call calls s) := by
  apply after_keeps_of_mem call _ hs
  exact fun c _ => hcall c

end Sequence

/-! ## Blocks -/

section Blocks

variable {call : κ → σ → Except ε α × σ} {block : Nat → κ} {answer : Option (List UInt8) → α}
  {Left : List UInt8 → σ → Prop} {last : σ}

def inBlocks (block : Nat → κ) (sizes : Nat → Nat) (count : Nat) : List κ :=
  (List.range count).map fun i => block (sizes i)

theorem inBlocks_succ (block : Nat → κ) (sizes : Nat → Nat) (count : Nat) :
    inBlocks block sizes (count + 1) =
      block (sizes 0) :: inBlocks block (fun i => sizes (i + 1)) count := by
  simp [inBlocks, List.range_succ_eq_map]

/-- How calls for blocks use up what is left of a content, and what comes behind its end. -/
structure UsesUp (call : κ → σ → Except ε α × σ) (block : Nat → κ)
    (answer : Option (List UInt8) → α) (Left : List UInt8 → σ → Prop) (last : σ) : Prop where
  next : ∀ size rest s, rest ≠ [] → Left rest s → ∃ s',
    call (block size) s = (.ok (answer (some (rest.take size))), s') ∧ Left (rest.drop size) s'
  done : ∀ size s, Left [] s → call (block size) s = (.ok (answer none), last)

theorem UsesUp.blocks (h : UsesUp call block answer Left last) {sizes : Nat → Nat}
    (hsizes : ∀ i, 0 < sizes i) {rest : List UInt8} {s : σ} (hs : Left rest s) :
    ∃ blocks : List (List UInt8), blocks.flatten = rest ∧
      outcomes call (inBlocks block sizes (blocks.length + 1)) s =
        blocks.map (fun found => .ok (answer (some found))) ++ [.ok (answer none)] ∧
      after call (inBlocks block sizes (blocks.length + 1)) s = last := by
  induction hlength : rest.length using Nat.strongRecOn generalizing sizes rest s with
  | ind n ih =>
      by_cases hrest : rest = []
      · subst hrest
        have hdone := h.done (sizes 0) s hs
        exact ⟨[], rfl, by simp [inBlocks, outcomes, hdone], by simp [inBlocks, hdone]⟩
      · -- The block has a byte, so less is left behind it.
        have hshort : (rest.drop (sizes 0)).length < n := by
          have hbyte := List.length_pos_iff.mpr hrest
          have hsize := hsizes 0
          rw [List.length_drop]
          omega
        obtain ⟨s', hnext, hleft⟩ := h.next (sizes 0) rest s hrest hs
        obtain ⟨blocks, hflat, houtcomes, hafter⟩ :=
          ih _ hshort (fun i => hsizes (i + 1)) hleft rfl
        refine ⟨rest.take (sizes 0) :: blocks, ?_, ?_, ?_⟩
        · rw [List.flatten_cons, hflat, List.take_append_drop]
        · rw [List.length_cons, inBlocks_succ, outcomes, hnext, houtcomes, List.map_cons,
            List.cons_append]
        · rw [List.length_cons, inBlocks_succ, after_cons, hnext, hafter]

end Blocks

/-! ## Agreement -/

/-- A call on a body as a value; when it fails the caller still has the body. -/
def keeping (f : β → Except Error (α × β)) (b : β) : Except Error α × β :=
  match f b with
  | .ok (a, b') => (.ok a, b')
  | .error e => (.error e, b)

theorem keeping_of_ok {f : β → Except Error (α × β)} {b b' : β} {a : α} (h : f b = .ok (a, b')) :
    keeping f b = (.ok a, b') := by
  simp [keeping, h]

theorem keeping_of_error {f : β → Except Error (α × β)} {b : β} {e : Error}
    (h : f b = .error e) : keeping f b = (.error e, b) := by
  simp [keeping, h]

/-- What each call that succeeds adds to an account of the answers, a run of calls adds. -/
theorem answered_keeps {model : κ → β → Except Error (α × β)} {P : List (κ × α) → β → Prop}
    {calls : List κ}
    (hcall : ∀ c ∈ calls, ∀ found b a b', P found b → model c b = .ok (a, b') →
      P (found ++ [(c, a)]) b')
    {found : List (κ × α)} {b : β} (hb : P found b) :
    P (found ++ answered (fun c => keeping (model c)) calls b)
      (after (fun c => keeping (model c)) calls b) := by
  induction calls generalizing found b with
  | nil => simpa [answered] using hb
  | cons c cs ih =>
      obtain ⟨hfirst, hrest⟩ := List.forall_mem_cons.mp hcall
      rw [answered, after_cons]
      cases hmodel : model c b with
      | error e =>
          rw [keeping_of_error hmodel]
          exact ih hrest hb
      | ok result =>
          obtain ⟨a, b'⟩ := result
          rw [keeping_of_ok hmodel]
          simpa using ih hrest (hfirst found b a b' hb hmodel)

/-- A call in memory ends as the call on the body ends, and then the same body is in memory. -/
def Agrees (layout : β → σ) (call : σ → Except Halt α × σ) (f : β → Except Error (α × β)) : Prop :=
  ∀ b, call (layout b) = ((keeping f b).1.mapError .failed, layout (keeping f b).2)

section Agreement

variable {layout : β → σ} {call : κ → σ → Except Halt α × σ} {model : κ → β → Except Error (α × β)}

theorem Agrees.of_error {call : σ → Except Halt α × σ} {f : β → Except Error (α × β)} {b : β}
    {h : Halt} (hagrees : Agrees layout call f) (hhalt : (call (layout b)).1 = .error h) :
    h ≠ .outOfRange ∧ (call (layout b)).2 = layout b := by
  rw [hagrees b] at hhalt ⊢
  cases hf : f b with
  | ok r => simp [keeping, hf] at hhalt
  | error e =>
      simp only [keeping, hf, mapError_error, Except.error.injEq] at hhalt ⊢
      subst hhalt
      simp

theorem Agrees.map {γ : Type} {call : σ → Except Halt α × σ} {f : β → Except Error (α × β)}
    (h : Agrees layout call f) (g : α → γ) :
    Agrees layout (fun s => Prod.map (Except.map g) id (call s))
      (fun b => (f b).map (Prod.map g id)) := by
  intro b
  simp only [h b]
  cases hf : f b <;> simp [keeping, hf, Except.map]

variable (hagrees : ∀ c, Agrees layout (call c) (model c))

include hagrees

theorem after_layout (calls : List κ) (b : β) :
    after call calls (layout b) = layout (after (fun c => keeping (model c)) calls b) := by
  induction calls generalizing b with
  | nil => rfl
  | cons c cs ih => simp [hagrees c b, ih]

theorem outcomes_layout (calls : List κ) (b : β) :
    outcomes call calls (layout b) =
      (outcomes (fun c => keeping (model c)) calls b).map (·.mapError .failed) := by
  induction calls generalizing b with
  | nil => rfl
  | cons c cs ih => simp [outcomes, hagrees c b, ih]

theorem answered_layout (calls : List κ) (b : β) :
    answered call calls (layout b) = answered (fun c => keeping (model c)) calls b := by
  induction calls generalizing b with
  | nil => rfl
  | cons c cs ih =>
      simp only [answered, hagrees c b, ih]
      cases (keeping (model c) b).1 <;> rfl

end Agreement

end Messaging.Memory
