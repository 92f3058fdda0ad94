/-!
# Generated names

The label and the number that a generated name is made of can be read back from it.
-/

namespace Messaging.Provider

private theorem append_cons_inj {α : Type} {a : α} {l l' r r' : List α} (hr : a ∉ r)
    (hr' : a ∉ r') (h : l ++ a :: r = l' ++ a :: r') : l = l' ∧ r = r' := by
  rcases List.append_eq_append_iff.mp h with ⟨t, rfl, ht⟩ | ⟨t, rfl, ht⟩
  · cases t with
    | nil => simpa using ht
    | cons b t =>
        obtain ⟨rfl, rfl⟩ := List.cons_eq_cons.mp ht
        simp at hr
  · cases t with
    | nil => simpa [eq_comm] using ht
    | cons b t =>
        obtain ⟨rfl, rfl⟩ := List.cons_eq_cons.mp ht
        simp at hr'

private theorem colon_not_mem_toString (n : Nat) : ':' ∉ (toString n).toList := by
  rw [Nat.toString_eq_repr, Nat.toList_repr]
  intro h
  have hdigit := Nat.isDigit_of_mem_toDigits (by decide) (by decide) h
  simp at hdigit

theorem temporaryName_inj {l k : String} {n m : Nat} (h : s!"{l}:{n}" = s!"{k}:{m}") :
    l = k ∧ n = m := by
  have hlist := congrArg String.toList h
  have hsplit : l.toList ++ ':' :: (toString n).toList =
      k.toList ++ ':' :: (toString m).toList := by
    simpa [toString] using hlist
  obtain ⟨hl, hn⟩ :=
    append_cons_inj (colon_not_mem_toString n) (colon_not_mem_toString m) hsplit
  refine ⟨String.toList_injective hl, ?_⟩
  have hvalue := congrArg (fun ds => Nat.ofDigitChars 10 ds 0) hn
  simpa using hvalue

end Messaging.Provider
