/-!
# Outcomes in sequence

What a sequence of calls that can fail gives, from what each of the calls gives.
-/

namespace Messaging

variable {ε α β : Type}

theorem bind_eq_ok {x : Except ε α} {f : α → Except ε β} {b : β} :
    (x >>= f) = .ok b ↔ ∃ a, x = .ok a ∧ f a = .ok b := by
  cases x with
  | error e => simp [bind, Except.bind]
  | ok a => simp [bind, Except.bind]

theorem map_eq_ok {x : Except ε α} {f : α → β} {b : β} :
    x.map f = .ok b ↔ ∃ a, x = .ok a ∧ f a = b := by
  cases x with
  | error e => simp [Except.map]
  | ok a => simp [Except.map]

theorem map_map {γ : Type} (x : Except ε α) (f : α → β) (g : β → γ) :
    (x.map f).map g = x.map (g ∘ f) := by
  cases x <;> rfl

@[simp] theorem ok_bind (a : α) (f : α → Except ε β) : (Except.ok a >>= f) = f a := rfl

@[simp] theorem error_bind (e : ε) (f : α → Except ε β) : (Except.error e >>= f) = .error e := rfl

@[simp] theorem mapError_ok {ε' : Type} (a : α) (f : ε → ε') :
    (Except.ok a).mapError f = .ok a := rfl

@[simp] theorem mapError_error {ε' : Type} (e : ε) (f : ε → ε') :
    (Except.error e : Except ε α).mapError f = .error (f e) := rfl

/-! ## Errors that do not occur -/

def Avoids (sort : ε → Bool) (x : Except ε α) : Prop := ∀ e, x = .error e → sort e = false

section Avoids

variable {sort : ε → Bool}

@[simp] theorem avoids_ok (a : α) : Avoids sort (.ok a : Except ε α) := by
  rintro e ⟨⟩

@[simp] theorem avoids_error {e : ε} : Avoids sort (.error e : Except ε α) ↔ sort e = false := by
  simp [Avoids]

theorem Avoids.bind {x : Except ε α} {f : α → Except ε β} (hx : Avoids sort x)
    (hf : ∀ a, Avoids sort (f a)) : Avoids sort (x >>= f) := by
  cases x with
  | error e => exact avoids_error.mpr (avoids_error.mp hx)
  | ok a => exact hf a

@[simp] theorem avoids_map {x : Except ε α} {f : α → β} :
    Avoids sort (x.map f) ↔ Avoids sort x := by
  cases x <;> simp [Except.map]

end Avoids

end Messaging
