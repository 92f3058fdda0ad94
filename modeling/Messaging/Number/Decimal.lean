import Messaging.Number.Binary
import Messaging.Number.Integer

/-!
# Decimal text of binary numbers

A binary number is written with the fewest decimal digits that read back as that number, the
nearest such decimal if there are several, in positional notation whatever its size.  Reading
takes any decimal number, with an exponent if there is one, to the nearest binary number.
-/

namespace Messaging.Number

structure Decimal where
  digits : Nat
  exponent : Int
  deriving DecidableEq, Repr

namespace Decimal

/-! ## The fewest digits -/

def scale (num den : Nat) : Int → Nat × Nat
  | .ofNat e => (num, den * Nat.pow 10 e)
  | .negSucc e => (num * Nat.pow 10 (e + 1), den)

def countDigits (n : Nat) : Nat := (Nat.toDigits 10 n).length

/-- The power of ten that bounds a positive quotient from above, the least such. -/
def magnitude (num den : Nat) : Int :=
  if den ≤ num then countDigits (num / den)
  else
    let guess := 1 - (countDigits (den / num) : Int)
    let scaled := scale num den guess
    if scaled.2 ≤ scaled.1 then guess + 1 else guess

/-- The decimals that read back as one number: an interval around it, with or without its ends. -/
structure Interval where
  /-- The number is `num / den`, and the ends are `low / den` and `high / den`. -/
  num : Nat
  den : Nat
  low : Nat
  high : Nat
  closed : Bool
  deriving DecidableEq, Repr

namespace Interval

def contains (i : Interval) (exponent : Int) (n : Nat) : Bool :=
  let low := scale i.low i.den exponent
  let high := scale i.high i.den exponent
  if i.closed then low.1 ≤ n * low.2 && n * high.2 ≤ high.1
  else low.1 < n * low.2 && n * high.2 < high.1

/--
The multiple of `10 ^ exponent` in the interval that is nearest to the number; a tie goes to the
larger one.
-/
def nearest? (i : Interval) (exponent : Int) : Option Nat :=
  let scaled := scale i.num i.den exponent
  let below := scaled.1 / scaled.2
  let above := below + 1
  match i.contains exponent below, i.contains exponent above with
  | false, false => none
  | true, false => some below
  | false, true => some above
  | true, true => some (if 2 * (scaled.1 % scaled.2) < scaled.2 then below else above)

def shortestFrom (i : Interval) (top : Int) (count : Nat) : Nat → Decimal
  | 0 => ⟨(i.nearest? (top - count)).getD 0, top - count⟩
  | fuel + 1 =>
    match i.nearest? (top - count) with
    | some digits => ⟨digits, top - count⟩
    | none => shortestFrom i top (count + 1) fuel

end Interval

/-- The interval of the reals that round to `significand * 2 ^ exponent`. -/
def interval (f : Format) (significand : Nat) (exponent : Int) : Interval :=
  let quarter := Format.scale 1 4 (-exponent)
  let unit (n : Nat) := n * quarter.1
  { num := unit (4 * significand)
    den := quarter.2
    low := unit (if significand = Nat.pow 2 f.fractionBits then 4 * significand - 1
      else 4 * significand - 2)
    high := unit (4 * significand + 2)
    closed := significand % 2 = 0 }

/-- Seventeen digits tell any two numbers of either format apart. -/
def shortest (f : Format) (significand : Nat) (exponent : Int) : Decimal :=
  if significand = 0 then ⟨0, 0⟩
  else
    let i := interval f significand exponent
    i.shortestFrom (magnitude i.num i.den) 1 17

/-! ## Positional notation -/

def dropTrailingZeros (cs : List Char) : List Char :=
  (cs.reverse.dropWhile (· == '0')).reverse

def positional (d : Decimal) : List Char :=
  let digits := Nat.toDigits 10 d.digits
  match d.exponent with
  | .ofNat e => if d.digits = 0 then ['0'] else digits ++ List.replicate e '0'
  | .negSucc e =>
    let places := e + 1
    let whole := digits.take (digits.length - places)
    let fraction := List.replicate (places - digits.length) '0' ++
      digits.drop (digits.length - places)
    let kept := dropTrailingZeros fraction
    (if whole.isEmpty then ['0'] else whole) ++ (if kept.isEmpty then [] else '.' :: kept)

end Decimal

/-! ## Text -/

def Datum.text (f : Format) : Datum → String
  | .nan => "NaN"
  | .infinity negative => if negative then "-inf" else "inf"
  | .finite negative significand exponent =>
    let digits := (Decimal.shortest f significand exponent).positional
    String.ofList (if negative then '-' :: digits else digits)

def Single.text (x : Single) : String := x.datum.text Format.single

def Double.text (x : Double) : String := x.datum.text Format.double

/-! ## Reading -/

inductive Numeral where
  | nan
  | infinity (negative : Bool)
  | decimal (negative : Bool) (value : Decimal)
  deriving DecidableEq, Repr

namespace Numeral

/-- The exponent after a mantissa: nothing, or `e` and a decimal integer. -/
def readExponent? : List Char → Option Int
  | [] => some 0
  | c :: cs => if c = 'e' ∨ c = 'E' then readInt? cs else none

/-- Digits with at most one point among them, and at least one digit. -/
def readDecimal? (cs : List Char) : Option Decimal := do
  let whole := cs.takeWhile Char.isDigit
  let rest := cs.dropWhile Char.isDigit
  let (fraction, rest) :=
    match rest with
    | '.' :: rest => (rest.takeWhile Char.isDigit, rest.dropWhile Char.isDigit)
    | rest => ([], rest)
  let digits ← readNat? (whole ++ fraction)
  let exponent ← readExponent? rest
  return ⟨digits, exponent - fraction.length⟩

def readUnsigned? (negative : Bool) (cs : List Char) : Option Numeral :=
  match String.ofList (cs.map Char.toLower) with
  | "inf" | "infinity" => some (.infinity negative)
  | "nan" => some .nan
  | _ => (readDecimal? cs).map (.decimal negative)

def read? : List Char → Option Numeral
  | '-' :: cs => readUnsigned? true cs
  | '+' :: cs => readUnsigned? false cs
  | cs => readUnsigned? false cs

/--
The pattern nearest to a numeral.  Beyond four hundred places from the point every number of
either format is infinite or zero, so that huge exponents cost nothing.
-/
def round (f : Format) : Numeral → Nat
  | .nan => f.nanBits
  | .infinity negative => f.withSign negative f.infinityBits
  | .decimal negative value =>
    let top := value.exponent + Decimal.countDigits value.digits
    if value.digits = 0 ∨ top < -400 then f.withSign negative 0
    else if 400 < top then f.withSign negative f.infinityBits
    else f.roundDecimal negative value.digits value.exponent

end Numeral

def readSingle? (cs : List Char) : Option Single :=
  (Numeral.read? cs).map fun n => ⟨UInt32.ofNat (n.round Format.single)⟩

def readDouble? (cs : List Char) : Option Double :=
  (Numeral.read? cs).map fun n => ⟨UInt64.ofNat (n.round Format.double)⟩

end Messaging.Number
