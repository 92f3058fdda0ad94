import Messaging.Proofs.Number.Nearest
import Messaging.Proofs.Selector.Parsing
import Messaging.Proofs.Selector.Spelling
import Messaging.Selector

/-!
# Longs that are written out

A condition that compares a property with a long can name the long in decimal.  The minus sign of a
negative one is an operator, so the digits after it are read as a number of their own.  Those of the
least long are more than a long holds: they are read as a double, and what is compared with a double
is compared as one.  Every other long is compared exactly.
-/

namespace Messaging.Selector

open Number Text

def longText (n : Int64) : String := String.ofList (intText n.toInt)

def beyond : Double := ⟨0x43E0000000000000⟩

/-! ## Reading -/

/-- What a long in decimal is read as: the tokens and their tree. -/
inductive LongRead : Int64 → List Token → Expr → Prop where
  | unsigned {n : Int64} : 0 ≤ n.toInt → LongRead n [.integer n] (.literal (.integer n))
  | signed {n : Int64} : 0 < n.toInt →
      LongRead (-n) [.minus, .integer n] (.negate (.literal (.integer n)))
  | least : LongRead Int64.minValue [.minus, .decimal beyond] (.negate (.literal (.decimal beyond)))

theorem toInt_neg {n : Int64} (hn : n ≠ Int64.minValue) : (-n).toInt = -n.toInt := by
  have hlow := n.minValue_le_toInt
  have hhigh := n.toInt_le
  have hmin : Int64.minValue.toInt = -2 ^ 63 := rfl
  have hmax : Int64.maxValue.toInt = 2 ^ 63 - 1 := rfl
  have hne : n.toInt ≠ Int64.minValue.toInt := fun h => hn (Int64.toInt_inj.mp h)
  rw [Int64.toInt_neg, Int.bmod_eq_of_le (by omega) (by omega)]

theorem exists_longRead (n : Int64) : ∃ ts e, LongRead n ts e := by
  by_cases hleast : n = Int64.minValue
  · exact hleast ▸ ⟨_, _, .least⟩
  rcases Int.lt_or_le n.toInt 0 with hneg | hpos
  · have hflip := toInt_neg hleast
    have hread : LongRead (- -n) _ _ := .signed (by omega)
    exact ⟨_, _, Int64.neg_neg (a := n) ▸ hread⟩
  · exact ⟨_, _, .unsigned hpos⟩

theorem scan_minus (rest : List Char) : scan ('-' :: rest) = (scan rest).map (.minus :: ·) :=
  scan_of_token (Token.next_ofChar (by decide) rfl rest)

theorem intText_neg {n : Int} (hn : 0 < n) : intText (-n) = '-' :: intText n := by
  obtain ⟨k, rfl⟩ := Int.eq_succ_of_zero_lt hn
  rfl

theorem ofNumber?_beyond : Token.ofNumber? (intText (2 ^ 63)) = some (.decimal beyond) := by
  decide +kernel

theorem scan_beyond {rest : List Char} (hrest : Apart rest) :
    scan (intText (2 ^ 63) ++ rest) = (scan rest).map (.decimal beyond :: ·) := by
  have hdigits : ∀ c ∈ intText (2 ^ 63), c.isDigit = true :=
    Token.isDigit_of_mem_intText (by decide)
  have hnumber := ofNumber?_beyond
  cases hw : intText (2 ^ 63) with
  | nil => cases hw ▸ hnumber
  | cons c cs =>
      rw [hw] at hdigits hnumber
      exact scan_of_token (Token.next_digits hdigits hnumber hrest)

namespace LongRead

variable {n : Int64} {ts : List Token} {e : Expr}

theorem scan_append (h : LongRead n ts e) {rest : List Char} (hrest : Apart rest) :
    scan ((longText n).toList ++ rest) = (scan rest).map (ts ++ ·) := by
  rw [longText, String.toList_ofList]
  cases h with
  | unsigned hn => exact scan_spelled (.integer hn) hrest
  | @signed n hn =>
      have hne : n ≠ Int64.minValue := by
        rintro rfl
        exact absurd hn (by decide)
      rw [toInt_neg hne, intText_neg hn, List.cons_append, scan_minus,
        scan_spelled (.integer (Int.le_of_lt hn)) hrest]
      cases scan rest <;> rfl
  | least =>
      have hpositive : (0 : Int) < 2 ^ 63 := by decide
      have htext : intText Int64.minValue.toInt = '-' :: intText (2 ^ 63) := intText_neg hpositive
      rw [htext, List.cons_append, scan_minus, scan_beyond hrest]
      cases scan rest <;> rfl

theorem phrase (h : LongRead n ts e) : Phrase .sum ts e := by
  cases h with
  | unsigned => exact .product (.signed (.primary (.atom rfl)))
  | signed | least => exact .product (.signed (.minus (.primary (.atom rfl))))

end LongRead

/-! ## Parsing -/

theorem apart_blank (rest : List Char) : Apart (' ' :: rest) := by
  rintro c hc
  obtain rfl := Option.some.inj hc
  decide

theorem apart_nil : Apart [] := by simp [Apart]

theorem scan_space (rest : List Char) : scan (' ' :: rest) = scan rest :=
  scan_of_blank (by decide) rest

variable {name : String} {n : Int64} {ts : List Token} {e : Expr}

theorem phrase_identifier (name : String) : Phrase .sum [.identifier name] (.identifier name) :=
  .product (.signed (.primary (.atom rfl)))

theorem parse_of_phrase {source : String} (hscan : scan source.toList = .ok ts)
    (hphrase : Phrase .predicate ts e) (hcondition : e.isCondition = true) :
    parse source = .ok ⟨source, e⟩ := by
  have hparse := parseTokens_of_phrase (.conjunction (.negation (.predicate hphrase))) hcondition
  have hexpr : parseExpr source = .ok e := by
    rw [parseExpr, hscan]
    exact hparse
  rw [parse, hexpr]

theorem parse_comparison (hname : IsName name) (op : Comparison) (h : LongRead n ts e) :
    let source := name ++ " " ++ op.symbol ++ " " ++ longText n
    parse source = .ok ⟨source, .compare op (.identifier name) e⟩ := by
  have hlong := h.scan_append apart_nil
  rw [List.append_nil] at hlong
  refine parse_of_phrase ?_ (.compare op (phrase_identifier name) h.phrase) rfl
  have hspace : " ".toList = [' '] := rfl
  simp only [String.toList_append, hspace, List.append_assoc, List.cons_append,
    List.nil_append]
  rw [scan_spelled (.identifier hname) (apart_blank _), scan_space,
    scan_spelled (.comparison op) (apart_blank _), scan_space, hlong, scan]
  simp [Except.map]

theorem parse_between (hname : IsName name) (h : LongRead n ts e) :
    let source := name ++ " BETWEEN " ++ longText n ++ " AND " ++ longText n
    parse source = .ok ⟨source, .between (.identifier name) e e false⟩ := by
  have hlong := h.scan_append apart_nil
  rw [List.append_nil] at hlong
  refine parse_of_phrase ?_ (.between false (phrase_identifier name) h.phrase h.phrase) rfl
  have hbetween : " BETWEEN ".toList = ' ' :: ("BETWEEN".toList ++ [' ']) := rfl
  have hand : " AND ".toList = ' ' :: ("AND".toList ++ [' ']) := rfl
  simp only [String.toList_append, hbetween, hand, List.append_assoc, List.cons_append,
    List.nil_append]
  rw [scan_spelled (.identifier hname) (apart_blank _), scan_space,
    scan_spelled (.keyword (k := .between) (by decide)) (apart_blank _), scan_space,
    h.scan_append (apart_blank _), scan_space,
    scan_spelled (.keyword (k := .and) (by decide)) (apart_blank _), scan_space, hlong, scan]
  simp [Except.map, negator]

/-! ## Comparing -/

def longOrder (k n : Int64) : Ordering :=
  if n = Int64.minValue ∧ k.toInt ≤ Int64.minValue.toInt + 512 then .eq else compare k.toInt n.toInt

theorem longOrder_of_ne {k n : Int64} (hn : n ≠ Int64.minValue) :
    longOrder k n = compare k.toInt n.toInt :=
  if_neg fun h => hn h.1

theorem longOrder_isEq (k n : Int64) :
    (longOrder k n).isEq = true ↔
      k = n ∨ n = Int64.minValue ∧ k.toInt ≤ Int64.minValue.toInt + 512 := by
  unfold longOrder
  split
  next hnear => exact iff_of_true rfl (.inr hnear)
  next hfar =>
    rw [or_iff_left hfar, Ordering.isEq_iff_eq_eq, Int.compare_eq_eq, Int64.toInt_inj]

theorem longOrder_isLT (k n : Int64) : (longOrder k n).isLT = true ↔ k.toInt < n.toInt := by
  unfold longOrder
  split
  next hnear =>
    obtain ⟨rfl, -⟩ := hnear
    exact iff_of_false (by decide) (Int.not_lt.mpr k.minValue_le_toInt)
  next hfar => rw [Ordering.isLT_iff_eq_lt, Int.compare_eq_lt]

theorem negate_of_pos {n : Int64} (hn : 0 < n.toInt) :
    (Operand.integer n).negate = .integer (-n) := by
  have hhigh := n.toInt_le
  have hmin : Int64.minValue.toInt = -2 ^ 63 := rfl
  have hmax : Int64.maxValue.toInt = 2 ^ 63 - 1 := rfl
  rw [Operand.negate, Operand.ofInt, if_pos (by omega), Int64.ofInt_neg, Int64.ofInt_toInt]

theorem order?_least (k : Int64) :
    (Operand.integer k).order? (.decimal Double.least) = some (longOrder k Int64.minValue) := by
  have hmin : Int64.minValue.toInt = -2 ^ 63 := rfl
  have hlow := k.minValue_le_toInt
  have hcompare : (Operand.integer k).order? (.decimal Double.least) =
      (Double.ofInt k.toInt).compare? Double.least := rfl
  rw [hcompare, Double.compare?_least (hmin ▸ hlow), longOrder, hmin]
  split
  next hnear => rw [if_pos ⟨rfl, hnear⟩]
  next hfar =>
    rw [if_neg fun h => hfar h.2]
    exact congrArg some (Int.compare_eq_gt.mpr (by omega)).symm

theorem LongRead.order? (h : LongRead n ts e) (k : Int64) (env : String → Operand) :
    (Operand.integer k).order? (e.eval env) = some (longOrder k n) := by
  cases h with
  | unsigned hn =>
      have hne : n ≠ Int64.minValue := by
        rintro rfl
        exact absurd hn (by decide)
      rw [longOrder_of_ne hne]
      rfl
  | @signed n hn =>
      have hne : -n ≠ Int64.minValue := by
        intro hflip
        obtain rfl : n = Int64.minValue := by
          rw [← Int64.neg_neg (a := n), hflip]
          rfl
        exact absurd hn (by decide)
      rw [longOrder_of_ne hne, Expr.eval, Expr.eval, negate_of_pos hn]
      rfl
  | least =>
      have hflip :
          (Expr.negate (.literal (.decimal beyond))).eval env = .decimal Double.least := rfl
      rw [hflip, order?_least]

theorem LongRead.compare (h : LongRead n ts e) (k : Int64) (env : String → Operand)
    (op : Comparison) :
    op.eval (.integer k) (e.eval env) = some (op.holds (longOrder k n)) := by
  have horder := h.order? k env
  cases op <;> simp [Comparison.eval, Operand.same?, horder]

/-! ## Selecting -/

def SelectsIff (source : String) (m : Message) (p : Prop) : Prop :=
  ∃ s, parse source = .ok s ∧ (s.selects m = true ↔ p)

theorem SelectsIff.iff {source : String} {m : Message} {p q : Prop} (hp : SelectsIff source m p)
    (hq : SelectsIff source m q) : p ↔ q := by
  obtain ⟨s, hs, hp⟩ := hp
  obtain ⟨t, ht, hq⟩ := hq
  obtain rfl : s = t := Except.ok.inj (hs.symm.trans ht)
  exact hp.symm.trans hq

theorem SelectsIff.congr {source : String} {m : Message} {p q : Prop} (h : SelectsIff source m p)
    (hpq : p ↔ q) : SelectsIff source m q := by
  obtain ⟨s, hs, hp⟩ := h
  exact ⟨s, hs, hp.trans hpq⟩

variable {m : Message} {k : Int64}

theorem environment_of_long (hm : m.lookup name = some (.long k)) :
    environment m name = .integer k := by
  rw [environment, hm]
  rfl

theorem selects_comparison (hname : IsName name) (hm : m.lookup name = some (.long k))
    (op : Comparison) (n : Int64) :
    SelectsIff (name ++ " " ++ op.symbol ++ " " ++ longText n) m
      (op.holds (longOrder k n) = true) := by
  obtain ⟨ts, e, h⟩ := exists_longRead n
  refine ⟨_, parse_comparison hname op h, ?_⟩
  simp [selects, evaluate, Expr.eval, environment_of_long hm, h.compare, Operand.ofTruth,
    Operand.truth]

theorem selects_between (hname : IsName name) (hm : m.lookup name = some (.long k)) (n : Int64) :
    SelectsIff (name ++ " BETWEEN " ++ longText n ++ " AND " ++ longText n) m
      ((longOrder k n).isEq = true) := by
  obtain ⟨ts, e, h⟩ := exists_longRead n
  refine ⟨_, parse_between hname h, ?_⟩
  simp only [selects, evaluate, Expr.eval, environment_of_long hm, h.compare, Comparison.holds]
  cases longOrder k n <;> decide

/--
A property that is a long is compared exactly with every long that is written out but the least:
with that one, the 512 longs after it are equal as well.
-/
theorem long_selection (hname : IsName name) (hm : m.lookup name = some (.long k)) (n : Int64) :
    let near := n = Int64.minValue ∧ k.toInt ≤ Int64.minValue.toInt + 512
    SelectsIff (name ++ " = " ++ longText n) m (k = n ∨ near) ∧
    SelectsIff (name ++ " < " ++ longText n) m (k.toInt < n.toInt) ∧
    SelectsIff (name ++ " BETWEEN " ++ longText n ++ " AND " ++ longText n) m (k = n ∨ near) := by
  intro near
  have hequal := selects_comparison hname hm .equal n
  have hless := selects_comparison hname hm .less n
  have hbetween := selects_between hname hm n
  rw [Comparison.holds, longOrder_isEq] at hequal
  rw [Comparison.holds, longOrder_isLT] at hless
  rw [longOrder_isEq] at hbetween
  simp only [Comparison.symbol, String.append_assoc] at hequal hless hbetween ⊢
  exact ⟨hequal, hless, hbetween⟩

def second : Message :=
  { properties := ValueTable.empty.insert "x" (.long (Int64.minValue + 1)) }

theorem isName_x : IsName "x" := by
  refine ⟨⟨'x', [], rfl, by decide, by simp⟩, fun k => ?_⟩
  cases k <;> decide

theorem long_selection_second :
    IsName "x" ∧ second.lookup "x" = some (.long (Int64.minValue + 1)) ∧
    SelectsIff "x = -9223372036854775807" second True ∧
    SelectsIff "x < -9223372036854775806" second True ∧
    SelectsIff "x BETWEEN -9223372036854775808 AND -9223372036854775808" second True := by
  have hlookup : second.lookup "x" = some (.long (Int64.minValue + 1)) := rfl
  have hown := (long_selection isName_x hlookup (Int64.minValue + 1)).1
  have hthird := (long_selection isName_x hlookup (Int64.minValue + 2)).2.1
  have hleast := (long_selection isName_x hlookup Int64.minValue).2.2
  have hownText : "x" ++ " = " ++ longText (Int64.minValue + 1) = "x = -9223372036854775807" := by
    decide +kernel
  have hthirdText : "x" ++ " < " ++ longText (Int64.minValue + 2) = "x < -9223372036854775806" := by
    decide +kernel
  have hleastText : "x" ++ " BETWEEN " ++ longText Int64.minValue ++ " AND " ++
      longText Int64.minValue = "x BETWEEN -9223372036854775808 AND -9223372036854775808" := by
    decide +kernel
  rw [hownText] at hown
  rw [hthirdText] at hthird
  rw [hleastText] at hleast
  exact ⟨isName_x, hlookup, hown.congr (by decide), hthird.congr (by decide),
    hleast.congr (by decide)⟩

/-- The least long is not told from the second one. -/
theorem least_taken_for_second :
    ¬ ∀ (k n : Int64) (m : Message), m.lookup "x" = some (.long k) →
      SelectsIff ("x = " ++ longText n) m (k = n) ∧
      SelectsIff ("x < " ++ longText n) m (k.toInt < n.toInt) ∧
      SelectsIff ("x BETWEEN " ++ longText n ++ " AND " ++ longText n) m (k = n) := by
  intro h
  have hclaimed := (h (Int64.minValue + 1) Int64.minValue second rfl).1
  have hholds := selects_comparison isName_x (rfl : second.lookup "x" = _) .equal Int64.minValue
  have hequal := (hclaimed.iff hholds).mpr (by decide)
  exact absurd hequal (by decide)

end Messaging.Selector
