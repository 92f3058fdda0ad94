/-!
# Decimal integers

The decimal text of integers and its reading: an optional sign and one or more ASCII digits.
A fixed-width reading succeeds when the value lies in the range of the width.
-/

namespace Messaging.Number

def readNat? (cs : List Char) : Option Nat :=
  if cs.isEmpty || !cs.all Char.isDigit then none else some (Nat.ofDigitChars 10 cs 0)

def readInt? : List Char → Option Int
  | '-' :: cs => (readNat? cs).map fun n => -(n : Int)
  | '+' :: cs => (readNat? cs).map Int.ofNat
  | cs => (readNat? cs).map Int.ofNat

def readBetween? (low high : Int) (cs : List Char) : Option Int :=
  (readInt? cs).filter fun n => low ≤ n && n ≤ high

def readInt8? (cs : List Char) : Option Int8 :=
  (readBetween? Int8.minValue.toInt Int8.maxValue.toInt cs).map Int8.ofInt

def readInt16? (cs : List Char) : Option Int16 :=
  (readBetween? Int16.minValue.toInt Int16.maxValue.toInt cs).map Int16.ofInt

def readInt32? (cs : List Char) : Option Int32 :=
  (readBetween? Int32.minValue.toInt Int32.maxValue.toInt cs).map Int32.ofInt

def readInt64? (cs : List Char) : Option Int64 :=
  (readBetween? Int64.minValue.toInt Int64.maxValue.toInt cs).map Int64.ofInt

def intText : Int → List Char
  | .ofNat n => Nat.toDigits 10 n
  | .negSucc n => '-' :: Nat.toDigits 10 (n + 1)

/-! ## Hexadecimal -/

def hexDigit? (c : Char) : Option Nat :=
  if c.isDigit then some (c.toNat - '0'.toNat)
  else if 'a' ≤ c ∧ c ≤ 'f' then some (c.toNat - 'a'.toNat + 10)
  else if 'A' ≤ c ∧ c ≤ 'F' then some (c.toNat - 'A'.toNat + 10)
  else none

def readHexFrom? (value : Nat) : List Char → Option Nat
  | [] => some value
  | c :: cs => (hexDigit? c).bind fun d => readHexFrom? (value * 16 + d) cs

def readHex? (cs : List Char) : Option Nat :=
  if cs.isEmpty then none else readHexFrom? 0 cs

/-! ## Small facts -/

theorem isDigit_of_mem_toDigits {n : Nat} {c : Char} (h : c ∈ Nat.toDigits 10 n) :
    c.isDigit = true :=
  Nat.isDigit_of_mem_toDigits (by decide) (by decide) h

theorem readNat?_toDigits (n : Nat) : readNat? (Nat.toDigits 10 n) = some n := by
  have hall : (Nat.toDigits 10 n).all Char.isDigit = true :=
    List.all_eq_true.2 fun c hc => isDigit_of_mem_toDigits hc
  have hne : (Nat.toDigits 10 n).isEmpty = false := by
    simp
  simp [readNat?, hall, hne, Nat.ofDigitChars_toDigits (by decide : 1 < 10) (by decide)]

theorem readInt?_intText (n : Int) : readInt? (intText n) = some n := by
  cases n with
  | ofNat n =>
    have hdigits := fun (c : Char) (h : c ∈ Nat.toDigits 10 n) => isDigit_of_mem_toDigits h
    have hread := readNat?_toDigits n
    simp only [intText]
    generalize Nat.toDigits 10 n = cs at hdigits hread
    unfold readInt?
    split
    · exact absurd (hdigits '-' (by simp)) (by decide)
    · exact absurd (hdigits '+' (by simp)) (by decide)
    · simp [hread]
  | negSucc n =>
    simp [intText, readInt?, readNat?_toDigits]
    omega

end Messaging.Number
