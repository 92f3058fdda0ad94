/-!
# Binary floating point

Interchange formats for binary floating point, with numbers as bit patterns.  `Format.decode`
says what a pattern stands for and `Format.round` picks the pattern nearest to a quotient of
natural numbers, ties going to the even significand.  The types `Single` and `Double` hold the
patterns of the two common widths, so that two numbers are equal as values exactly when their
bits are; numeric comparison is `Double.compare?`.
-/

namespace Messaging.Number

/-- Significant bits, with the leading one, and bits of the biased exponent. -/
structure Format where
  precision : Nat
  exponentBits : Nat
  deriving DecidableEq, Repr

/-- What a bit pattern stands for; a finite number is `± significand * 2 ^ exponent`. -/
inductive Datum where
  | nan
  | infinity (negative : Bool)
  | finite (negative : Bool) (significand : Nat) (exponent : Int)
  deriving DecidableEq, Repr

namespace Format

def single : Format := ⟨24, 8⟩

def double : Format := ⟨53, 11⟩

def fractionBits (f : Format) : Nat := f.precision - 1

/-- The weight of the last bit of the smallest numbers is two to this power. -/
def minExponent (f : Format) : Int := 2 - (Nat.pow 2 (f.exponentBits - 1) : Nat) - f.fractionBits

def infinityBits (f : Format) : Nat := (Nat.pow 2 f.exponentBits - 1) * Nat.pow 2 f.fractionBits

def signBit (f : Format) : Nat := Nat.pow 2 (f.fractionBits + f.exponentBits)

def nanBits (f : Format) : Nat := f.infinityBits + Nat.pow 2 (f.fractionBits - 1)

def withSign (f : Format) (negative : Bool) (magnitude : Nat) : Nat :=
  if negative then f.signBit + magnitude else magnitude

def decode (f : Format) (bits : Nat) : Datum :=
  let negative := f.signBit ≤ bits
  let magnitude := bits % f.signBit
  let fraction := magnitude % Nat.pow 2 f.fractionBits
  let biased := magnitude / Nat.pow 2 f.fractionBits
  if magnitude > f.infinityBits then .nan
  else if magnitude = f.infinityBits then .infinity negative
  else if biased = 0 then .finite negative fraction f.minExponent
  else .finite negative (Nat.pow 2 f.fractionBits + fraction) (f.minExponent + (biased - 1))

/-! ## Rounding -/

def divideToEven (num den : Nat) : Nat :=
  let quotient := num / den
  let twice := 2 * (num % den)
  if twice > den ∨ (twice = den ∧ quotient % 2 = 1) then quotient + 1 else quotient

def scale (num den : Nat) : Int → Nat × Nat
  | .ofNat e => (num, den * Nat.pow 2 e)
  | .negSucc e => (num * Nat.pow 2 (e + 1), den)

/--
The exponent of the last significant bit of `num / den`: the quotient of the lengths in bits is
off by at most one, and no number has a bit below `minExponent`.
-/
def lastExponent (f : Format) (num den : Nat) : Int :=
  let guess := max ((num.log2 : Int) - den.log2 - f.precision) f.minExponent
  let scaled := scale num den guess
  if Nat.pow 2 f.precision ≤ scaled.1 / scaled.2 then guess + 1 else guess

/--
The magnitude bits of the number nearest to `num / den`.  A significand that rounds up to the
next power of two carries into the exponent field, which is what the encoding asks for.
-/
def roundMagnitude (f : Format) (num den : Nat) : Nat :=
  if num = 0 then 0
  else
    let exponent := f.lastExponent num den
    let scaled := scale num den exponent
    let field := (exponent - f.minExponent).toNat
    min f.infinityBits (field * Nat.pow 2 f.fractionBits + divideToEven scaled.1 scaled.2)

def round (f : Format) (negative : Bool) (num den : Nat) : Nat :=
  f.withSign negative (f.roundMagnitude num den)

def roundDecimal (f : Format) (negative : Bool) (digits : Nat) : Int → Nat
  | .ofNat e => f.round negative (digits * Nat.pow 10 e) 1
  | .negSucc e => f.round negative digits (Nat.pow 10 (e + 1))

/-- The pattern of a datum, rounded where the format has no such number. -/
def encode (f : Format) : Datum → Nat
  | .nan => f.nanBits
  | .infinity negative => f.withSign negative f.infinityBits
  | .finite negative significand exponent =>
    let scaled := scale significand 1 (-exponent)
    f.round negative scaled.1 scaled.2

/-- The place of a pattern in the order of numbers; the two zeros share theirs. -/
def order? (f : Format) (bits : Nat) : Option Int :=
  let magnitude := bits % f.signBit
  if magnitude > f.infinityBits then none
  else some (if f.signBit ≤ bits then -(magnitude : Int) else magnitude)

end Format

/-! ## Patterns of fixed width -/

structure Single where
  bits : UInt32
  deriving DecidableEq, Repr

structure Double where
  bits : UInt64
  deriving DecidableEq, Repr

namespace Single

def datum (x : Single) : Datum := Format.single.decode x.bits.toNat

end Single

namespace Double

def datum (x : Double) : Datum := Format.double.decode x.bits.toNat

def ofSingle (x : Single) : Double := ⟨UInt64.ofNat (Format.double.encode x.datum)⟩

def ofInt (n : Int) : Double :=
  ⟨UInt64.ofNat (Format.double.round (n < 0) n.natAbs 1)⟩

def compare? (x y : Double) : Option Ordering := do
  let a ← Format.double.order? x.bits.toNat
  let b ← Format.double.order? y.bits.toNat
  return compare a b

def lift (op : Float → Float → Float) (x y : Double) : Double :=
  ⟨(op (Float.ofBits x.bits) (Float.ofBits y.bits)).toBits⟩

instance : Add Double := ⟨lift (· + ·)⟩
instance : Sub Double := ⟨lift (· - ·)⟩
instance : Mul Double := ⟨lift (· * ·)⟩
instance : Div Double := ⟨lift (· / ·)⟩

instance : Neg Double := ⟨fun x => ⟨x.bits ^^^ 0x8000000000000000⟩⟩

end Double

end Messaging.Number
