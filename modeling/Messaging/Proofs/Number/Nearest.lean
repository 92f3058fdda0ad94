import Messaging.Number.Binary
import Mathlib.Algebra.Group.Int.Defs
import Mathlib.Algebra.Group.Nat.Defs
import Mathlib.Data.Int.Order.Basic

/-!
# The double nearest to a long

A double has 53 significant bits, so the longs near the ends of their range share the nearest double
with their neighbours: the double of the least long is that of the 512 longs after it as well.
-/

namespace Messaging.Number

namespace Format

/-! ## Significands -/

/-- A number without the bits below a power of two. -/
def whole (n : Nat) (exponent : Int) : Nat := (scale n 1 exponent).1 / (scale n 1 exponent).2

theorem whole_ofNat (n j : Nat) : whole n j = n / 2 ^ j := by
  simp [whole, scale]

theorem whole_neg (n j : Nat) : whole n (-j) = n * 2 ^ j := by
  cases j with
  | zero => simp [whole, scale]
  | succ j =>
      have hexponent : (-(j + 1 : Nat) : Int) = .negSucc j := rfl
      rw [hexponent]
      simp [whole, scale]

theorem whole_bounds {n : Nat} (hn : n ≠ 0) (k : Nat) :
    2 ^ k ≤ whole n (n.log2 - k) ∧ whole n (n.log2 - k) < 2 ^ (k + 1) := by
  have hlow := Nat.log2_self_le hn
  have hhigh := Nat.lt_log2_self (n := n)
  rcases Nat.le_total k n.log2 with hk | hk
  · obtain ⟨j, hj⟩ := Nat.exists_eq_add_of_le hk
    have hexponent : (n.log2 - k : Int) = j := by omega
    rw [hexponent, whole_ofNat, Nat.le_div_iff_mul_le (Nat.two_pow_pos j),
      Nat.div_lt_iff_lt_mul (Nat.two_pow_pos j), ← Nat.pow_add, ← Nat.pow_add, ← hj]
    rw [show k + 1 + j = n.log2 + 1 by omega]
    exact ⟨hlow, hhigh⟩
  · obtain ⟨j, hj⟩ := Nat.exists_eq_add_of_le hk
    have hexponent : (n.log2 - k : Int) = -j := by omega
    rw [hexponent, whole_neg, hj, Nat.add_right_comm, Nat.pow_add, Nat.pow_add]
    exact ⟨Nat.mul_le_mul_right _ hlow, Nat.mul_lt_mul_of_pos_right hhigh (Nat.two_pow_pos j)⟩

theorem divideToEven_le (num den : Nat) : divideToEven num den ≤ num / den + 1 := by
  unfold divideToEven
  dsimp only
  split <;> omega

/-! ## Doubles of natural numbers -/

/-- The significant bits of the nearest double, which may carry into one more. -/
def significand (n : Nat) : Nat :=
  divideToEven (scale n 1 (n.log2 - (52 : Nat))).1 (scale n 1 (n.log2 - (52 : Nat))).2

theorem significand_le {n : Nat} (hn : n ≠ 0) : significand n ≤ 2 ^ 53 := by
  have hnext : significand n ≤ whole n (n.log2 - (52 : Nat)) + 1 := divideToEven_le _ _
  have hwhole := (whole_bounds hn 52).2
  omega

theorem lastExponent_double {n : Nat} (hn : n ≠ 0) :
    double.lastExponent n 1 = n.log2 - (52 : Nat) := by
  have hguess : max ((n.log2 : Int) - Nat.log2 1 - double.precision) double.minExponent =
      n.log2 - (53 : Nat) := by
    have hprecision : (double.precision : Int) = 53 := rfl
    have hleast : double.minExponent = -1074 := rfl
    have hone : Nat.log2 1 = 0 := rfl
    omega
  have hfull : Nat.pow 2 double.precision ≤
      (scale n 1 (n.log2 - (53 : Nat))).1 / (scale n 1 (n.log2 - (53 : Nat))).2 :=
    (whole_bounds hn 53).1
  simp only [lastExponent, hguess]
  rw [if_pos hfull]
  omega

theorem roundMagnitude_double {n : Nat} (hn : n ≠ 0) :
    double.roundMagnitude n 1 =
      min double.infinityBits ((n.log2 + 1022) * 2 ^ 52 + significand n) := by
  have hfield : ((n.log2 : Int) - (52 : Nat) - double.minExponent).toNat = n.log2 + 1022 := by
    have hleast : double.minExponent = -1074 := rfl
    omega
  rw [roundMagnitude, if_neg hn, lastExponent_double hn]
  dsimp only
  rw [hfield]
  rfl

def topBits : Nat := 1086 * 2 ^ 52

theorem roundMagnitude_top : double.roundMagnitude (2 ^ 63) 1 = topBits := by decide

/-- The numbers whose nearest double is two to the power of 63; it is above those of the others. -/
theorem roundMagnitude_near {n : Nat} (hn : n ≤ 2 ^ 63) :
    double.roundMagnitude n 1 ≤ topBits ∧
      (double.roundMagnitude n 1 = topBits ↔ 2 ^ 63 - 512 ≤ n) := by
  have hinfinity : double.infinityBits = 2047 * 2 ^ 52 := rfl
  rcases Nat.eq_or_lt_of_le hn with rfl | hlt
  · exact ⟨Nat.le_of_eq roundMagnitude_top, iff_of_true roundMagnitude_top (by decide)⟩
  rcases Nat.eq_zero_or_pos n with rfl | hpos
  · decide
  have hne := Nat.pos_iff_ne_zero.mp hpos
  have hround := roundMagnitude_double hne
  have hle := significand_le hne
  have hlog : n.log2 ≤ 62 := Nat.le_of_lt_succ ((Nat.log2_lt hne).mpr hlt)
  rcases Nat.eq_or_lt_of_le hlog with hlast | hless
  · -- one bit below the top, ten bits are rounded away
    have hbits : significand n = divideToEven n 1024 := by simp [significand, hlast, scale]
    have hlow := Nat.log2_self_le hne
    rw [hlast] at hround hlow
    have hcarry : divideToEven n 1024 = 2 ^ 53 ↔ 2 ^ 63 - 512 ≤ n := by
      unfold divideToEven
      dsimp only
      split <;> omega
    rw [hround, hinfinity, topBits]
    omega
  · rw [hround, hinfinity, topBits]
    have hshort : n < 2 ^ 62 := (Nat.log2_lt hne).mp hless
    omega

theorem roundMagnitude_le (f : Format) (num den : Nat) :
    f.roundMagnitude num den ≤ f.infinityBits := by
  unfold roundMagnitude
  split
  · exact Nat.zero_le _
  · exact Nat.min_le_left _ _

/-! ## Doubles in order -/

theorem order?_withSign (negative : Bool) {magnitude : Nat}
    (h : magnitude ≤ double.infinityBits) :
    double.order? (double.withSign negative magnitude) =
      some (if negative then -(magnitude : Int) else magnitude) := by
  have hlt : magnitude < double.signBit := Nat.lt_of_le_of_lt h (by decide)
  have hrest : magnitude % double.signBit = magnitude := Nat.mod_eq_of_lt hlt
  cases negative with
  | true => simp [order?, withSign, hrest, Nat.not_lt.mpr h]
  | false => simp [order?, withSign, hrest, Nat.not_le.mpr hlt, Nat.not_lt.mpr h]

end Format

namespace Double

open Format

theorem order?_ofInt (n : Int) :
    double.order? (ofInt n).bits.toNat =
      some (if n < 0 then -(double.roundMagnitude n.natAbs 1 : Int)
        else double.roundMagnitude n.natAbs 1) := by
  have hle := roundMagnitude_le double n.natAbs 1
  have hbits :
      (ofInt n).bits.toNat = double.withSign (n < 0) (double.roundMagnitude n.natAbs 1) := by
    rw [ofInt, Format.round, UInt64.toNat_ofNat']
    have hinfinity : double.infinityBits < 2 ^ 63 := by decide
    have hsign : double.signBit = 2 ^ 63 := rfl
    unfold withSign
    split <;> omega
  rw [hbits, order?_withSign _ hle]
  simp

def least : Double := ⟨0xC3E0000000000000⟩

theorem compare?_least {n : Int} (hn : -2 ^ 63 ≤ n) :
    (ofInt n).compare? least = some (if n ≤ -2 ^ 63 + 512 then .eq else .gt) := by
  have hleast : double.order? least.bits.toNat = some (-(topBits : Int)) := by decide
  have hcompare : (ofInt n).compare? least =
      (double.order? (ofInt n).bits.toNat).map fun a => compare a (-(topBits : Int)) := by
    rw [compare?, hleast, order?_ofInt]
    rfl
  have htop : topBits = 1086 * 2 ^ 52 := rfl
  rw [hcompare, order?_ofInt, Option.map_some, Option.some.injEq]
  by_cases hnegative : n < 0
  · have hnear := roundMagnitude_near (n := n.natAbs) (by omega)
    rw [if_pos hnegative]
    split
    next hlow =>
      have hequal := hnear.2.mpr (by omega)
      exact compare_eq_iff_eq.mpr (congrArg (fun k : Nat => -(k : Int)) hequal)
    next hhigh =>
      have hne : double.roundMagnitude n.natAbs 1 ≠ topBits := by
        intro hequal
        have hfar := hnear.2.mp hequal
        omega
      have hgreater : -(topBits : Int) < -(double.roundMagnitude n.natAbs 1 : Int) := by omega
      exact compare_gt_iff_gt.mpr hgreater
  · have hgreater : -(topBits : Int) < double.roundMagnitude n.natAbs 1 := by omega
    rw [if_neg hnegative, if_neg (by omega)]
    exact compare_gt_iff_gt.mpr hgreater

end Double

end Messaging.Number
