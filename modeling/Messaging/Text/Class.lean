import Messaging.Text.Ranges
import Messaging.Text.Alphabetic
import Messaging.Text.Numeric

/-!
# Character classes

White space, letters and numbers as Unicode defines them, and the two operations on text that
rest on them: trimming white space and comparing without regard to ASCII case.
-/

namespace Messaging.Text

def blankRanges : List (Nat × Nat) := [
    (0x9, 0xD), (0x20, 0x20), (0x85, 0x85), (0xA0, 0xA0), (0x1680, 0x1680), (0x2000, 0x200A),
    (0x2028, 0x2029), (0x202F, 0x202F), (0x205F, 0x205F), (0x3000, 0x3000)]

def isBlank (c : Char) : Bool := inRanges blankRanges c.toNat

def isAlphabetic (c : Char) : Bool :=
  c.isAlpha || (128 ≤ c.toNat && inRanges alphabeticRanges c.toNat)

def isNumeric (c : Char) : Bool :=
  c.isDigit || (128 ≤ c.toNat && inRanges numericRanges c.toNat)

def isAlphanumeric (c : Char) : Bool := isAlphabetic c || isNumeric c

/-! ## Trimming -/

def trimBoth (p : Char → Bool) (cs : List Char) : List Char :=
  ((cs.dropWhile p).reverse.dropWhile p).reverse

def trimEnd (p : Char → Bool) (cs : List Char) : List Char :=
  (cs.reverse.dropWhile p).reverse

def trim (s : String) : String := String.ofList (trimBoth isBlank s.toList)

/-! ## Case -/

def sameIgnoringCase (s t : String) : Bool :=
  s.toList.map Char.toLower == t.toList.map Char.toLower

/-! ## Small facts -/

theorem trimBoth_of_none (p : Char → Bool) (cs : List Char)
    (h : ∀ c ∈ cs, p c = false) : trimBoth p cs = cs := by
  have drop_eq : ∀ ds : List Char, (∀ c ∈ ds, p c = false) → ds.dropWhile p = ds := by
    intro ds hds
    cases ds with
    | nil => rfl
    | cons d ds => simp [hds d (by simp)]
  rw [trimBoth, drop_eq cs h, drop_eq _ (by simpa using h), List.reverse_reverse]

end Messaging.Text
