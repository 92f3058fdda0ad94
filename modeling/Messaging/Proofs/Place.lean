import Mathlib.Data.List.Basic
import Mathlib.Data.List.Nodup
import Mathlib.Data.List.Perm.Basic

/-!
# Lists changed in one place

Everything in a provider is known by its place in a list.  What holds of the members of a list
after one of them changed, and how the others are counted.
-/

namespace Messaging

variable {α β : Type}

theorem mem_of_mem_modify {f : α → α} {i : Nat} {l : List α} {x : α}
    (h : x ∈ l.modify i f) : x ∈ l ∨ ∃ y, l[i]? = some y ∧ x = f y := by
  obtain ⟨j, hj⟩ := List.mem_iff_getElem?.mp h
  by_cases hij : i = j
  · subst hij
    rw [List.getElem?_modify_eq] at hj
    obtain ⟨y, hy, rfl⟩ := Option.map_eq_some_iff.mp hj
    exact .inr ⟨y, hy, rfl⟩
  · rw [List.getElem?_modify_ne f l hij] at hj
    exact .inl (List.mem_of_getElem? hj)

theorem modify_congr {f g : α → α} {i : Nat} {l : List α}
    (h : ∀ x, l[i]? = some x → f x = g x) : l.modify i f = l.modify i g := by
  apply List.ext_getElem?
  intro j
  rw [List.getElem?_modify, List.getElem?_modify]
  by_cases hij : i = j
  · subst hij
    cases hx : l[i]? with
    | none => rfl
    | some x => simp [h x hx]
  · simp [hij]

theorem modify_eq_self {f : α → α} {i : Nat} {l : List α} (h : ∀ x, l[i]? = some x → f x = x) :
    l.modify i f = l :=
  (modify_congr (g := id) h).trans (List.modify_id i l)

theorem map_modify_eq {f : α → α} {g : α → β} {i : Nat} {l : List α}
    (h : ∀ x, l[i]? = some x → g (f x) = g x) : (l.modify i f).map g = l.map g := by
  apply List.ext_getElem?
  intro j
  rw [List.getElem?_map, List.getElem?_map, List.getElem?_modify]
  by_cases hij : i = j
  · subst hij
    cases hx : l[i]? with
    | none => rfl
    | some x => simp [h x hx]
  · simp [hij]

theorem map_modify_comm {f : α → α} {g : α → β} {h : β → β} {i : Nat} {l : List α}
    (hcomm : ∀ x, l[i]? = some x → g (f x) = h (g x)) :
    (l.modify i f).map g = (l.map g).modify i h := by
  apply List.ext_getElem?
  intro j
  simp only [List.getElem?_map, List.getElem?_modify]
  by_cases hij : i = j
  · subst hij
    cases hx : l[i]? with
    | none => rfl
    | some x => simp [hcomm x hx]
  · cases l[j]? <;> simp [hij]

theorem place_eq_of_nodup {f : α → β} {l : List α} {i j : Nat} {x y : α}
    (hl : (l.map f).Nodup) (hi : l[i]? = some x) (hj : l[j]? = some y) (hxy : f x = f y) :
    i = j := by
  have hlt : i < (l.map f).length := by
    simpa using (List.getElem?_eq_some_iff.mp hi).1
  refine (List.getElem?_inj hlt hl).mp ?_
  rw [List.getElem?_map, List.getElem?_map, hi, hj]
  exact congrArg some hxy

theorem perm_cons_eraseIdx {l : List α} {i : Nat} {x : α} (h : l[i]? = some x) :
    l.Perm (x :: l.eraseIdx i) := by
  obtain ⟨hi, rfl⟩ := List.getElem?_eq_some_iff.mp h
  exact (List.getElem_cons_eraseIdx_perm hi).symm

theorem modify_perm_cons_eraseIdx {l : List α} {i : Nat} {x : α} (h : l[i]? = some x)
    (f : α → α) : (l.modify i f).Perm (f x :: l.eraseIdx i) := by
  obtain ⟨hi, rfl⟩ := List.getElem?_eq_some_iff.mp h
  rw [List.modify_eq_set_get f hi]
  exact List.set_perm_cons_eraseIdx hi _

theorem filter_ne_perm [DecidableEq β] {f : α → β} {l r : List α} {x : α}
    (h : l.Perm (x :: r)) (hkeys : (l.map f).Nodup) :
    (l.filter fun y => f y != f x).Perm r := by
  have hnodup : ((x :: r).map f).Nodup := (h.map f).nodup_iff.mp hkeys
  have hfresh : ∀ y ∈ r, f y ≠ f x := by
    intro y hy heq
    have hx := (List.nodup_cons.mp hnodup).1
    exact hx (List.mem_map.mpr ⟨y, hy, heq⟩)
  refine (h.filter _).trans ?_
  rw [List.filter_cons_of_neg (by simp), List.filter_eq_self.mpr]
  intro y hy
  simpa using hfresh y hy

theorem perm_cons_filter_ne [DecidableEq β] {f : α → β} {l : List α} {x : α}
    (hkeys : (l.map f).Nodup) (hx : x ∈ l) :
    l.Perm (x :: l.filter fun y => f y != f x) := by
  obtain ⟨i, hi⟩ := List.mem_iff_getElem?.mp hx
  have hperm := perm_cons_eraseIdx hi
  exact hperm.trans ((filter_ne_perm hperm hkeys).symm.cons x)

theorem place_eq_of_nodup_filterMap {f : α → Option β} {l : List α} {i j : Nat} {x y : α} {z : β}
    (h : (l.filterMap f).Nodup) (hi : l[i]? = some x) (hj : l[j]? = some y) (hx : f x = some z)
    (hy : f y = some z) : i = j := by
  obtain ⟨hlt, rfl⟩ := List.getElem?_eq_some_iff.mp hi
  obtain ⟨hlt', rfl⟩ := List.getElem?_eq_some_iff.mp hj
  have hpairwise := List.pairwise_iff_getElem.mp (List.pairwise_filterMap.mp h)
  rcases Nat.lt_trichotomy i j with hij | hij | hij
  · exact absurd rfl (hpairwise i j hlt hlt' hij z hx z hy)
  · exact hij
  · exact absurd rfl (hpairwise j i hlt' hlt hij z hy z hx)

theorem eq_of_nodup_filterMap {f : α → Option β} {l : List α} (h : (l.filterMap f).Nodup)
    {x y : α} {z : β} (hx : x ∈ l) (hy : y ∈ l) (hfx : f x = some z) (hfy : f y = some z) :
    x = y := by
  obtain ⟨i, hi⟩ := List.mem_iff_getElem?.mp hx
  obtain ⟨j, hj⟩ := List.mem_iff_getElem?.mp hy
  obtain rfl := place_eq_of_nodup_filterMap h hi hj hfx hfy
  exact Option.some.inj (hi.symm.trans hj)

/-! ## Several places -/

theorem getElem?_foldl_modify {f : α → α} (hf : ∀ x, f (f x) = f x) (places : List Nat)
    (l : List α) (j : Nat) :
    (places.foldl (fun l i => l.modify i f) l)[j]? =
      if j ∈ places then l[j]?.map f else l[j]? := by
  induction places generalizing l with
  | nil => simp
  | cons i places ih =>
      rw [List.foldl_cons, ih, List.getElem?_modify]
      by_cases hij : i = j
      · subst hij
        simp [Function.comp_def, hf]
      · simp [hij, Ne.symm hij]

end Messaging
