import Messaging.Number.Integer
import Messaging.Text.Class
import Mathlib.Algebra.Group.Nat.Defs

/-!
# Numerals

A text reads as an integer when it is a numeral with white space around it: an optional sign and
one or more digits, whose value is the sum of the digits by their places.
-/

namespace Messaging

open Number Text

namespace Number

def Digits (cs : List Char) : Prop := cs ≠ [] ∧ ∀ c ∈ cs, '0' ≤ c ∧ c ≤ '9'

def placeValue : List Char → Nat
  | [] => 0
  | d :: ds => (d.toNat - '0'.toNat) * 10 ^ ds.length + placeValue ds

inductive Spells : List Char → Int → Prop where
  | unsigned {ds : List Char} (h : Digits ds) : Spells ds (placeValue ds)
  | plus {ds : List Char} (h : Digits ds) : Spells ('+' :: ds) (placeValue ds)
  | minus {ds : List Char} (h : Digits ds) : Spells ('-' :: ds) (-placeValue ds)

theorem isDigit_iff {c : Char} : c.isDigit = true ↔ '0' ≤ c ∧ c ≤ '9' := by
  simp [Char.isDigit, Char.le_def, UInt32.le_iff_toNat_le]

theorem ofDigitChars_eq (ds : List Char) (n : Nat) :
    Nat.ofDigitChars 10 ds n = n * 10 ^ ds.length + placeValue ds := by
  induction ds generalizing n with
  | nil => simp [placeValue]
  | cons d ds ih =>
      rw [Nat.ofDigitChars_cons, ih, placeValue, List.length_cons, Nat.pow_succ, Nat.add_mul]
      have hshift : 10 * n * 10 ^ ds.length = n * (10 ^ ds.length * 10) := by
        rw [Nat.mul_comm 10 n, Nat.mul_assoc, Nat.mul_comm 10]
      omega

theorem readNat?_eq_some {cs : List Char} {n : Nat} :
    readNat? cs = some n ↔ Digits cs ∧ n = placeValue cs := by
  have hvalue : Nat.ofDigitChars 10 cs 0 = placeValue cs := by simp [ofDigitChars_eq]
  by_cases h : Digits cs
  · have hempty : cs.isEmpty = false := by simpa using h.1
    have hall : cs.all Char.isDigit = true := by simpa [isDigit_iff] using h.2
    simp [readNat?, hempty, hall, hvalue, h, eq_comm]
  · have hnone : (cs.isEmpty || !cs.all Char.isDigit) = true := by
      simpa [Digits, ← isDigit_iff, Decidable.or_iff_not_imp_left] using h
    simp [readNat?, hnone, h]

theorem Digits.ne_of_head {c : Char} {cs : List Char} (h : Digits (c :: cs)) :
    c ≠ '-' ∧ c ≠ '+' := by
  have hc := isDigit_iff.mpr (h.2 c List.mem_cons_self)
  constructor <;> rintro rfl <;> exact absurd hc (by decide)

theorem readInt?_minus (cs : List Char) :
    readInt? ('-' :: cs) = (readNat? cs).map fun n : Nat => -(n : Int) := by
  cases h : readNat? cs <;> simp [readInt?, h]

theorem readInt?_eq_some {cs : List Char} {n : Int} :
    readInt? cs = some n ↔ Spells cs n := by
  constructor
  · intro h
    unfold readInt? at h
    split at h
    next ds =>
      have hmap := (readInt?_minus ds).symm.trans h
      obtain ⟨m, hread, rfl⟩ := Option.map_eq_some_iff.mp hmap
      obtain ⟨hdigits, rfl⟩ := readNat?_eq_some.mp hread
      exact .minus hdigits
    next ds =>
      obtain ⟨m, hread, rfl⟩ := Option.map_eq_some_iff.mp h
      obtain ⟨hdigits, rfl⟩ := readNat?_eq_some.mp hread
      exact .plus hdigits
    next =>
      obtain ⟨m, hread, rfl⟩ := Option.map_eq_some_iff.mp h
      obtain ⟨hdigits, rfl⟩ := readNat?_eq_some.mp hread
      exact .unsigned hdigits
  · intro h
    cases h with
    | plus h | minus h => simp [readInt?, readNat?_eq_some.mpr ⟨h, rfl⟩]
    | unsigned h =>
        have hread := readNat?_eq_some.mpr ⟨h, rfl⟩
        cases cs with
        | nil => exact absurd rfl h.1
        | cons c cs =>
            obtain ⟨hminus, hplus⟩ := h.ne_of_head
            unfold readInt?
            split
            next heq => exact absurd (List.cons.inj heq).1 hminus
            next heq => exact absurd (List.cons.inj heq).1 hplus
            next => simp [hread]

end Number

namespace Text

def Padded (cs middle : List Char) : Prop :=
  ∃ left right, cs = left ++ middle ++ right ∧ (∀ c ∈ left, isBlank c) ∧ ∀ c ∈ right, isBlank c

theorem dropWhile_split (p : Char → Bool) (cs : List Char) :
    ∃ left, cs = left ++ cs.dropWhile p ∧ ∀ c ∈ left, p c :=
  ⟨cs.takeWhile p, List.takeWhile_append_dropWhile.symm, List.all_eq_true.mp List.all_takeWhile⟩

theorem padded_trimBoth (cs : List Char) : Padded cs (trimBoth isBlank cs) := by
  obtain ⟨left, hleft, hblank⟩ := dropWhile_split isBlank cs
  obtain ⟨right, hright, hblank'⟩ := dropWhile_split isBlank (cs.dropWhile isBlank).reverse
  refine ⟨left, right.reverse, ?_, hblank, by simpa using hblank'⟩
  have hmiddle : cs.dropWhile isBlank = trimBoth isBlank cs ++ right.reverse := by
    rw [trimBoth, ← List.reverse_append, ← hright, List.reverse_reverse]
  rw [List.append_assoc, ← hmiddle, ← hleft]

theorem dropWhile_pad {left middle : List Char} (hleft : ∀ c ∈ left, isBlank c)
    (hmiddle : ∀ c ∈ middle, isBlank c = false) (hne : middle ≠ []) (rest : List Char) :
    (left ++ (middle ++ rest)).dropWhile isBlank = middle ++ rest := by
  rw [List.dropWhile_append_of_pos hleft]
  cases middle with
  | nil => exact absurd rfl hne
  | cons c middle => simp [hmiddle c List.mem_cons_self]

theorem Padded.trimBoth_eq {cs middle : List Char} (h : Padded cs middle)
    (hmiddle : ∀ c ∈ middle, isBlank c = false) (hne : middle ≠ []) :
    trimBoth isBlank cs = middle := by
  obtain ⟨left, right, rfl, hleft, hright⟩ := h
  have hreverse : ∀ c ∈ middle.reverse, isBlank c = false := by simpa using hmiddle
  have hback : ∀ c ∈ right.reverse, isBlank c = true := by simpa using hright
  have hdrop := dropWhile_pad hback hreverse (by simpa using hne) []
  rw [trimBoth, List.append_assoc, dropWhile_pad hleft hmiddle hne, List.reverse_append]
  rw [List.append_nil] at hdrop
  rw [hdrop, List.reverse_reverse]

theorem isBlank_of_spells {cs : List Char} {n : Int} (h : Spells cs n) :
    ∀ c ∈ cs, isBlank c = false := by
  have hdigit : ∀ c : Char, '0' ≤ c ∧ c ≤ '9' → isBlank c = false := by
    intro c hc
    simp only [Char.le_def, UInt32.le_iff_toNat_le] at hc
    have hlow : 48 ≤ c.toNat := hc.1
    have hhigh : c.toNat ≤ 57 := hc.2
    simp only [isBlank, inRanges, blankRanges, List.any_eq_false]
    simp
    omega
  cases h with
  | unsigned h => exact fun c hc => hdigit c (h.2 c hc)
  | plus h | minus h =>
      rintro c (_ | ⟨_, hc⟩)
      · decide
      · exact hdigit c (h.2 c hc)

theorem ne_nil_of_spells {cs : List Char} {n : Int} (h : Spells cs n) : cs ≠ [] := by
  cases h with
  | unsigned h => exact h.1
  | plus | minus => simp

theorem readInt?_trimBoth {cs : List Char} {n : Int} :
    readInt? (trimBoth isBlank cs) = some n ↔ ∃ middle, Padded cs middle ∧ Spells middle n := by
  rw [readInt?_eq_some]
  constructor
  · exact fun h => ⟨_, padded_trimBoth cs, h⟩
  · rintro ⟨middle, hpadded, h⟩
    rwa [hpadded.trimBoth_eq (isBlank_of_spells h) (ne_nil_of_spells h)]

end Text

end Messaging
