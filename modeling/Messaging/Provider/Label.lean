import Messaging.Error

/-!
# Labels of connections

Each connection has a label that no other connection has.  Where the labels come from is open: they
are asked for one after the other, and it may fail to make one.
-/

namespace Messaging

/-- What the requests for labels yield, in their order: a label, or why there is none. -/
class Labels where
  draw : Nat → Except String String
  distinct : ∀ {m n : Nat} {label : String}, draw m = .ok label → draw n = .ok label → m = n

namespace Labels

def request [Labels] (n : Nat) : Except Error String := (draw n).mapError .noLabel

theorem request_eq_ok [Labels] {n : Nat} {label : String} :
    request n = .ok label ↔ draw n = .ok label := by
  unfold request
  cases draw n with
  | error cause => exact iff_of_false nofun nofun
  | ok x =>
      constructor <;>
        · rintro ⟨⟩
          rfl

theorem request_injective [Labels] {m n : Nat} {label : String} (hm : request m = .ok label)
    (hn : request n = .ok label) : m = n :=
  distinct (request_eq_ok.mp hm) (request_eq_ok.mp hn)

/-! ## Counted labels -/

def numbered (n : Nat) : String :=
  let digits := Nat.toDigits 16 n
  "ID:" ++ String.ofList (List.replicate (24 - digits.length) '0' ++ digits)

private def hexValue (digits : List Char) : Nat :=
  digits.foldl (fun n c => 16 * n + if c.isDigit then c.toNat - 48 else c.toNat - 87) 0

private theorem hexValue_concat (digits : List Char) {d : Nat} (hd : d < 16) :
    hexValue (digits ++ [d.digitChar]) = 16 * hexValue digits + d := by
  have hdigit : ∀ d < 16, (if d.digitChar.isDigit then d.digitChar.toNat - 48
      else d.digitChar.toNat - 87) = d := by decide
  simp only [hexValue, List.foldl_append, List.foldl_cons, List.foldl_nil, hdigit d hd]

private theorem hexValue_toDigits (n : Nat) : hexValue (Nat.toDigits 16 n) = n := by
  induction n using Nat.strongRecOn with
  | ind n ih =>
      by_cases hn : n < 16
      · rw [Nat.toDigits_of_lt_base hn]
        simpa [hexValue] using hexValue_concat [] hn
      · rw [Nat.toDigits_of_base_le (by decide) (by omega),
          hexValue_concat _ (Nat.mod_lt n (by decide)), ih (n / 16) (by omega)]
        omega

private theorem hexValue_zeros (k : Nat) (digits : List Char) :
    hexValue (List.replicate k '0' ++ digits) = hexValue digits := by
  have hzeros : hexValue (List.replicate k '0') = 0 := by
    induction k with
    | zero => rfl
    | succ k ih => simpa [List.replicate_succ, hexValue] using ih
  unfold hexValue at *
  rw [List.foldl_append, hzeros]

theorem numbered_injective {m n : Nat} (h : numbered m = numbered n) : m = n := by
  have hlist := congrArg String.toList h
  simp only [numbered, String.toList_append, String.toList_ofList] at hlist
  have hdigits := congrArg hexValue (List.append_cancel_left hlist)
  rwa [hexValue_zeros, hexValue_zeros, hexValue_toDigits, hexValue_toDigits] at hdigits

/-- Where nothing else is said, the requests are numbered and none of them fails. -/
instance counted : Labels where
  draw n := .ok (numbered n)
  distinct hm hn := numbered_injective (Except.ok.inj (hm.trans hn.symm))

end Labels

end Messaging
