/-!
# Big-endian words

A number as a fixed count of bytes, the most significant byte first.  Main statement: the bytes
of a number that fits read back as that number.
-/

namespace Messaging.Word

def encode : (width : Nat) → Nat → List UInt8
  | 0, _ => []
  | width + 1, n => encode width (n / 256) ++ [UInt8.ofNat n]

def decode (bytes : List UInt8) : Nat :=
  bytes.foldl (fun n b => n * 256 + b.toNat) 0

@[simp] theorem length_encode (width n : Nat) : (encode width n).length = width := by
  induction width generalizing n with
  | zero => rfl
  | succ width ih => simp [encode, ih]

theorem decode_append_singleton (bytes : List UInt8) (b : UInt8) :
    decode (bytes ++ [b]) = decode bytes * 256 + b.toNat := by
  simp [decode]

theorem decode_encode (width n : Nat) (h : n < Nat.pow 256 width) :
    decode (encode width n) = n := by
  induction width generalizing n with
  | zero =>
    have : n = 0 := by simpa using h
    simp [encode, decode, this]
  | succ width ih =>
    have hq : n / 256 < Nat.pow 256 width := by
      rw [Nat.div_lt_iff_lt_mul (by decide)]
      exact h
    rw [encode, decode_append_singleton, ih _ hq]
    simp
    omega

end Messaging.Word
