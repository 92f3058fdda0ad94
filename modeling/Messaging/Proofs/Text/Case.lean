import Messaging.Text.Class
import Mathlib.Data.List.Forall2

/-!
# Words in any case

A text equals a word of small letters, case apart, when it is that word with some of the letters
written as capitals.
-/

namespace Messaging.Text

/-- A word of small letters, each of which may be written as its capital. -/
def InAnyCase (word value : String) : Prop :=
  List.Forall₂ (fun c d => d = c ∨ d = c.toUpper) word.toList value.toList

theorem isLower_iff {c : Char} : c.isLower = true ↔ 97 ≤ c.toNat ∧ c.toNat ≤ 122 := by
  change (decide (97 ≤ c.val) && decide (c.val ≤ 122)) = true ↔ _
  rw [Bool.and_eq_true, decide_eq_true_iff, decide_eq_true_iff]
  exact Iff.rfl

theorem toNat_toLower (d : Char) :
    d.toLower.toNat = if 65 ≤ d.toNat ∧ d.toNat ≤ 90 then d.toNat + 32 else d.toNat := by
  split
  next h =>
    have hsmall : d.toLower = _ := dif_pos h
    have hbound : d.val.toNat ≤ 90 := h.2
    rw [hsmall]
    change (d.val + 32).toNat = d.val.toNat + 32
    rw [UInt32.toNat_add]
    change (d.val.toNat + 32) % 4294967296 = d.val.toNat + 32
    omega
  next h =>
    have hkept : d.toLower = d := dif_neg h
    rw [hkept]

theorem toNat_toUpper {c : Char} (hc : c.isLower = true) : c.toUpper.toNat = c.toNat - 32 := by
  have hbounds : 97 ≤ c.val.toNat ∧ c.val.toNat ≤ 122 := isLower_iff.mp hc
  have hcapital : c.toUpper = _ := dif_pos hbounds
  rw [hcapital]
  -- The capitals come before the small letters, so what is added wraps around.
  change (c.val + (65 - 97)).toNat = c.val.toNat - 32
  rw [UInt32.toNat_add]
  change (c.val.toNat + 4294967264) % 4294967296 = c.val.toNat - 32
  omega

theorem toLower_eq_iff {c d : Char} (hc : c.isLower = true) :
    d.toLower = c ↔ d = c ∨ d = c.toUpper := by
  have hbounds := isLower_iff.mp hc
  rw [← Char.toNat_inj, ← Char.toNat_inj, ← Char.toNat_inj, toNat_toLower, toNat_toUpper hc]
  split <;> omega

theorem toLower_of_isLower {c : Char} (hc : c.isLower = true) : c.toLower = c :=
  (toLower_eq_iff hc).mpr (.inl rfl)

theorem map_toLower_eq_iff {word value : List Char} (hword : ∀ c ∈ word, c.isLower = true) :
    value.map Char.toLower = word.map Char.toLower ↔
      List.Forall₂ (fun c d => d = c ∨ d = c.toUpper) word value := by
  induction word generalizing value with
  | nil => simp
  | cons c word ih =>
      have hc := hword c List.mem_cons_self
      have hrest : ∀ d ∈ word, d.isLower = true := fun d hd =>
        hword d (List.mem_cons_of_mem _ hd)
      cases value with
      | nil => simp
      | cons d value => simp [toLower_of_isLower hc, toLower_eq_iff hc, ih hrest]

theorem sameIgnoringCase_iff {word value : String} (hword : word.toList.all Char.isLower = true) :
    sameIgnoringCase value word = true ↔ InAnyCase word value := by
  rw [sameIgnoringCase, beq_iff_eq, map_toLower_eq_iff (List.all_eq_true.mp hword), InAnyCase]

end Messaging.Text
