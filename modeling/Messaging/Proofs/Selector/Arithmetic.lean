import Messaging.Selector

/-!
# Integer arithmetic

Arithmetic on integers is exact or null.  An expression that computes with integers alone has a
mathematical value, and evaluates to it if it can be computed within the range of a long from
beginning to end; otherwise it is null, and no result is ever wrapped or made a decimal.
-/

namespace Messaging

def Value.integer? : Value → Option Int
  | .byte n => some n.toInt
  | .short n => some n.toInt
  | .int n => some n.toInt
  | .long n => some n.toInt
  | _ => none

namespace Selector

/-! ## Exact values -/

def InRange (n : Int) : Prop := Int64.minValue.toInt ≤ n ∧ n ≤ Int64.maxValue.toInt

instance (n : Int) : Decidable (InRange n) := by
  unfold InRange
  infer_instance

/-- The operations of mathematics; division goes toward zero, and by zero it means nothing. -/
def Arithmetic.exact : Arithmetic → Int → Int → Int
  | .add, a, b => a + b
  | .sub, a, b => a - b
  | .mul, a, b => a * b
  | .div, a, b => a.tdiv b

/-- An expression that computes with integers; identifiers stand for integers or are missing. -/
inductive Expr.Integral (m : Message) : Expr → Prop where
  | literal (n : Int64) : Integral m (.literal (.integer n))
  | bound {name : String} {v : Value} {n : Int} (hname : m.lookup name = some v)
      (hv : v.integer? = some n) : Integral m (.identifier name)
  | missing {name : String} (hname : m.lookup name = none) : Integral m (.identifier name)
  | arith (op : Arithmetic) {l r : Expr} (hl : Integral m l) (hr : Integral m r) :
      Integral m (.arith op l r)
  | negate {e : Expr} (he : Integral m e) : Integral m (.negate e)

def Expr.parts : Expr → List Expr
  | .arith op l r => .arith op l r :: (l.parts ++ r.parts)
  | .negate e => .negate e :: e.parts
  | e => [e]

/-- The mathematical value of a computation, if nothing is missing and no divisor is zero. -/
def Expr.exact (m : Message) : Expr → Int
  | .literal (.integer n) => n.toInt
  | .identifier name => ((m.lookup name).bind Value.integer?).getD 0
  | .arith op l r => op.exact (l.exact m) (r.exact m)
  | .negate e => -e.exact m
  | _ => 0

structure Expr.Fits (m : Message) (e : Expr) : Prop where
  bound : ∀ name, .identifier name ∈ e.parts → m.lookup name ≠ none
  divisible : ∀ l r, .arith .div l r ∈ e.parts → r.exact m ≠ 0
  ranged : ∀ part ∈ e.parts, InRange (part.exact m)

section Fits

variable {m : Message}

theorem fits_literal (n : Int64) : (Expr.literal (.integer n)).Fits m := by
  refine ⟨by simp [Expr.parts], by simp [Expr.parts], fun part hpart => ?_⟩
  obtain rfl := List.mem_singleton.mp hpart
  exact ⟨n.minValue_le_toInt, n.toInt_le⟩

theorem fits_identifier (name : String) :
    (Expr.identifier name).Fits m ↔
      m.lookup name ≠ none ∧ InRange ((Expr.identifier name).exact m) := by
  constructor
  · exact fun h => ⟨h.bound name List.mem_cons_self, h.ranged _ List.mem_cons_self⟩
  · rintro ⟨hname, hrange⟩
    constructor <;> simp [Expr.parts, hname, hrange]

theorem fits_arith (op : Arithmetic) (l r : Expr) :
    (Expr.arith op l r).Fits m ↔
      l.Fits m ∧ r.Fits m ∧ (op = .div → r.exact m ≠ 0) ∧
        InRange (op.exact (l.exact m) (r.exact m)) := by
  constructor
  · rintro ⟨hbound, hdivisible, hranged⟩
    simp only [Expr.parts, List.mem_cons, List.mem_append] at hbound hdivisible hranged
    refine ⟨⟨?_, ?_, ?_⟩, ⟨?_, ?_, ?_⟩, ?_, hranged _ (.inl rfl)⟩
    · exact fun name h => hbound name (.inr (.inl h))
    · exact fun l r h => hdivisible l r (.inr (.inl h))
    · exact fun part h => hranged part (.inr (.inl h))
    · exact fun name h => hbound name (.inr (.inr h))
    · exact fun l r h => hdivisible l r (.inr (.inr h))
    · exact fun part h => hranged part (.inr (.inr h))
    · rintro rfl
      exact hdivisible l r (.inl rfl)
  · rintro ⟨hl, hr, hdivisor, hrange⟩
    constructor <;> simp only [Expr.parts, List.mem_cons, List.mem_append]
    · rintro name (h | h | h)
      · cases h
      · exact hl.bound name h
      · exact hr.bound name h
    · rintro l' r' (h | h | h)
      · obtain ⟨rfl, -, rfl⟩ := Expr.arith.inj h
        exact hdivisor rfl
      · exact hl.divisible l' r' h
      · exact hr.divisible l' r' h
    · rintro part (rfl | h | h)
      · exact hrange
      · exact hl.ranged part h
      · exact hr.ranged part h

theorem fits_negate (e : Expr) :
    (Expr.negate e).Fits m ↔ e.Fits m ∧ InRange (-e.exact m) := by
  constructor
  · rintro ⟨hbound, hdivisible, hranged⟩
    simp only [Expr.parts, List.mem_cons] at hbound hdivisible hranged
    refine ⟨⟨?_, ?_, ?_⟩, hranged _ (.inl rfl)⟩
    · exact fun name h => hbound name (.inr h)
    · exact fun l r h => hdivisible l r (.inr h)
    · exact fun part h => hranged part (.inr h)
  · rintro ⟨he, hrange⟩
    constructor <;> simp only [Expr.parts, List.mem_cons]
    · rintro name (h | h)
      · cases h
      · exact he.bound name h
    · rintro l r (h | h)
      · cases h
      · exact he.divisible l r h
    · rintro part (rfl | h)
      · exact hrange
      · exact he.ranged part h

end Fits

/-! ## Operands -/

/-- An operand holds an integer, if that is possible, and is null otherwise. -/
structure Operand.Holds (v : Operand) (n : Int) (possible : Prop) : Prop where
  value : possible → ∃ k : Int64, v = .integer k ∧ k.toInt = n
  otherwise : ¬ possible → v = .null

namespace Operand

theorem Holds.cases {v : Operand} {n : Int} {possible : Prop} (h : v.Holds n possible) :
    possible ∧ (∃ k : Int64, v = integer k ∧ k.toInt = n) ∨ ¬ possible ∧ v = null := by
  by_cases hp : possible
  · exact .inl ⟨hp, h.value hp⟩
  · exact .inr ⟨hp, h.otherwise hp⟩

theorem holds_integer (k : Int64) {possible : Prop} (hp : possible) :
    (integer k).Holds k.toInt possible :=
  ⟨fun _ => ⟨k, rfl, rfl⟩, fun h => absurd hp h⟩

theorem holds_null (n : Int) {possible : Prop} (hp : ¬ possible) : null.Holds n possible :=
  ⟨fun h => absurd h hp, fun _ => rfl⟩

theorem holds_ofInt (n : Int) : (ofInt n).Holds n (InRange n) := by
  unfold ofInt
  constructor
  · intro h
    refine ⟨Int64.ofInt n, if_pos h, ?_⟩
    rw [Int64.toInt_ofInt_of_le h.1 (Int.lt_add_one_of_le h.2)]
  · exact fun h => if_neg h

theorem holds_ofValue {v : Value} {n : Int} (hv : v.integer? = some n) :
    ∃ k : Int64, ofValue v = integer k ∧ k.toInt = n := by
  cases v with
  | byte k => exact ⟨k.toInt64, rfl, by simpa [Value.integer?] using hv⟩
  | short k => exact ⟨k.toInt64, rfl, by simpa [Value.integer?] using hv⟩
  | int k => exact ⟨k.toInt64, rfl, by simpa [Value.integer?] using hv⟩
  | long k => exact ⟨k, rfl, by simpa [Value.integer?] using hv⟩
  | _ => cases hv

theorem Holds.arith {l r : Operand} {a b : Int} {hasLeft hasRight : Prop}
    (hl : l.Holds a hasLeft) (hr : r.Holds b hasRight) (op : Arithmetic) :
    (op.eval l r).Holds (op.exact a b)
      (hasLeft ∧ hasRight ∧ (op = .div → b ≠ 0) ∧ InRange (op.exact a b)) := by
  rcases hl.cases with ⟨hleft, x, rfl, rfl⟩ | ⟨hleft, rfl⟩
  · rcases hr.cases with ⟨hright, y, rfl, rfl⟩ | ⟨hright, rfl⟩
    · by_cases hzero : op = .div ∧ y.toInt = 0
      · obtain ⟨rfl, hy⟩ := hzero
        have hnull : Arithmetic.div.eval (.integer x) (.integer y) = .null := by
          simp [Arithmetic.eval, Arithmetic.onInt, hy]
        rw [hnull]
        exact holds_null _ fun h => h.2.2.1 rfl hy
      · have hexact : op.eval (.integer x) (.integer y) =
            ofInt (op.exact x.toInt y.toInt) := by
          cases op <;> simp_all [Arithmetic.eval, Arithmetic.onInt, Arithmetic.exact]
        have hdivisor : op = .div → y.toInt ≠ 0 := fun hop hy => hzero ⟨hop, hy⟩
        obtain ⟨hin, hout⟩ := holds_ofInt (op.exact x.toInt y.toInt)
        rw [hexact]
        refine ⟨fun h => hin h.2.2.2, fun h => hout fun hrange => h ?_⟩
        exact ⟨hleft, hright, hdivisor, hrange⟩
    · exact holds_null _ fun h => hright h.2.1
  · exact holds_null _ fun h => hleft h.1

theorem Holds.negate {v : Operand} {a : Int} {possible : Prop} (hv : v.Holds a possible) :
    v.negate.Holds (-a) (possible ∧ InRange (-a)) := by
  rcases hv.cases with ⟨hp, x, rfl, rfl⟩ | ⟨hp, rfl⟩
  · obtain ⟨hin, hout⟩ := holds_ofInt (-x.toInt)
    exact ⟨fun h => hin h.2, fun h => hout fun hrange => h ⟨hp, hrange⟩⟩
  · exact holds_null _ fun h => hp h.1

end Operand

/-! ## Computations -/

theorem holds_evaluate {m : Message} {e : Expr} (he : e.Integral m) :
    (evaluate e m).Holds (e.exact m) (e.Fits m) := by
  induction he with
  | literal n => exact Operand.holds_integer n (fits_literal n)
  | @bound name v n hname hv =>
      obtain ⟨k, hk, rfl⟩ := Operand.holds_ofValue hv
      have hvalue : evaluate (.identifier name) m = .integer k := by
        simp [evaluate, Expr.eval, environment, hname, Operand.ofLookup, hk]
      have hexact : (Expr.identifier name).exact m = k.toInt := by simp [Expr.exact, hname, hv]
      rw [hvalue, hexact]
      refine Operand.holds_integer k ((fits_identifier name).mpr ⟨by simp [hname], ?_⟩)
      rw [hexact]
      exact ⟨k.minValue_le_toInt, k.toInt_le⟩
  | @missing name hname =>
      have hvalue : evaluate (.identifier name) m = .null := by
        simp [evaluate, Expr.eval, environment, hname, Operand.ofLookup]
      rw [hvalue]
      exact Operand.holds_null _ fun h => h.bound name List.mem_cons_self hname
  | arith op _ _ ihl ihr =>
      rw [fits_arith]
      exact ihl.arith ihr op
  | negate _ ih =>
      rw [fits_negate]
      exact ih.negate

/--
A computation with integers evaluates to its mathematical value if every identifier is there, no
divisor is zero and every value on the way is in the range of a long, and to null if not.
-/
theorem arithmetic_exact (m : Message) (e : Expr) (he : e.Integral m) :
    (e.Fits m → ∃ n : Int64, evaluate e m = .integer n ∧ n.toInt = e.exact m) ∧
      (¬ e.Fits m → evaluate e m = .null) ∧ ∀ x, evaluate e m ≠ .decimal x := by
  have hholds := holds_evaluate he
  refine ⟨hholds.value, hholds.otherwise, fun x hx => ?_⟩
  rcases hholds.cases with ⟨-, n, hn, -⟩ | ⟨-, hnull⟩
  · cases hn.symm.trans hx
  · cases hnull.symm.trans hx

def extremes : Message :=
  { properties :=
      (ValueTable.empty.insert "least" (.long Int64.minValue)).insert "unit" (.byte (-1)) }

def quotient : Expr :=
  .arith .div (.arith .add (.identifier "least") (.literal (.integer 1))) (.identifier "unit")

def excess : Expr :=
  .arith .sub (.arith .div (.identifier "least") (.identifier "unit")) (.literal (.integer 1))

theorem arithmetic_exact_extremes :
    quotient.Integral extremes ∧ excess.Integral extremes ∧
    (∃ n : Int64, evaluate quotient extremes = .integer n ∧ n.toInt = 9223372036854775807) ∧
    excess.exact extremes = 9223372036854775807 ∧ evaluate excess extremes = .null := by
  have hleast : (Expr.identifier "least").Integral extremes := .bound rfl rfl
  have hunit : (Expr.identifier "unit").Integral extremes := .bound rfl rfl
  have hquotient : quotient.Integral extremes := .arith _ (.arith _ hleast (.literal 1)) hunit
  have hexcess : excess.Integral extremes := .arith _ (.arith _ hleast hunit) (.literal 1)
  refine ⟨hquotient, hexcess, (arithmetic_exact extremes quotient hquotient).1 ?_, by decide,
    (arithmetic_exact extremes excess hexcess).2.1 ?_⟩
  · simp only [quotient, fits_arith, fits_identifier, fits_literal]
    decide
  · intro hfits
    refine absurd (hfits.ranged (.arith .div (.identifier "least") (.identifier "unit")) ?_) ?_
    · simp [excess, Expr.parts]
    · decide

end Selector

end Messaging
