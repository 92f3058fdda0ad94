import Messaging.Selector

/-!
# Logic

The truth of a condition on a message follows the three-valued logic of SQL.  Truths are ordered
from false over unknown to true, the connectives are the minimum and the maximum in that order, and
negation turns the order round.  The other conditions are short for comparisons under connectives.
-/

namespace Messaging.Selector

/-! ## Truths in order -/

namespace Truth

def degree : Truth → Nat
  | some false => 0
  | none => 1
  | some true => 2

theorem degree_injective {t u : Truth} (h : t.degree = u.degree) : t = u := by
  rcases t with _ | _ | _ <;> rcases u with _ | _ | _ <;> first | rfl | cases h

theorem degree_le (t : Truth) : t.degree ≤ 2 := by
  rcases t with _ | _ | _ <;> decide

@[simp] theorem degree_not (t : Truth) : t.not.degree = 2 - t.degree := by
  rcases t with _ | _ | _ <;> rfl

@[simp] theorem degree_and (t u : Truth) : (t.and u).degree = min t.degree u.degree := by
  rcases t with _ | _ | _ <;> rcases u with _ | _ | _ <;> rfl

@[simp] theorem degree_or (t u : Truth) : (t.or u).degree = max t.degree u.degree := by
  rcases t with _ | _ | _ <;> rcases u with _ | _ | _ <;> rfl

theorem and_comm (t u : Truth) : t.and u = u.and t :=
  degree_injective (by simp [Nat.min_comm])

theorem or_comm (t u : Truth) : t.or u = u.or t :=
  degree_injective (by simp [Nat.max_comm])

theorem and_assoc (t u v : Truth) : (t.and u).and v = t.and (u.and v) :=
  degree_injective (by simp [Nat.min_assoc])

theorem or_assoc (t u v : Truth) : (t.or u).or v = t.or (u.or v) :=
  degree_injective (by simp [Nat.max_assoc])

theorem not_and (t u : Truth) : (t.and u).not = t.not.or u.not := by
  apply degree_injective
  have ht := t.degree_le
  have hu := u.degree_le
  simp only [degree_not, degree_and, degree_or]
  omega

theorem not_or (t u : Truth) : (t.or u).not = t.not.and u.not := by
  apply degree_injective
  have ht := t.degree_le
  have hu := u.degree_le
  simp only [degree_not, degree_and, degree_or]
  omega

end Truth

/-! ## Operands that hold a truth -/

@[simp] theorem Operand.truth_ofTruth (t : Truth) : (Operand.ofTruth t).truth = t := by
  cases t <;> rfl

theorem Operand.truth_eq_some (v : Operand) (b : Bool) : v.truth = some b ↔ v = .boolean b := by
  cases v <;> simp [Operand.truth]

/-! ## Comparisons -/

def Comparison.opposite : Comparison → Comparison
  | equal => notEqual
  | notEqual => equal
  | less => greaterOrEqual
  | lessOrEqual => greater
  | greater => lessOrEqual
  | greaterOrEqual => less

theorem Comparison.holds_opposite (op : Comparison) (o : Ordering) :
    op.opposite.holds o = !op.holds o := by
  cases op <;> cases o <;> rfl

/-- Whatever the operands are, what makes one comparison unknown makes its opposite unknown. -/
theorem Comparison.eval_opposite (op : Comparison) (l r : Operand) :
    op.opposite.eval l r = (op.eval l r).not := by
  have horder : (l.order? r).map op.opposite.holds = Truth.not ((l.order? r).map op.holds) := by
    cases l.order? r <;> simp [Truth.not, op.holds_opposite]
  cases hsame : l.same? r with
  | none => cases op <;> simpa [Comparison.eval, hsame] using horder
  | some b =>
      cases op with
      | equal | notEqual => simp [opposite, Comparison.eval, hsame, Truth.not]
      | less | lessOrEqual | greater | greaterOrEqual =>
          simpa [opposite, Comparison.eval, hsame] using horder

example : Comparison.notEqual.eval (.decimal ⟨0x7ff8000000000000⟩) (.integer 1) = none := by
  decide

theorem Comparison.equal_text (v : Operand) (s : String) :
    Comparison.equal.eval v (.text s) = v.test [s].contains := by
  cases v with
  | text t => simp [Comparison.eval, Operand.same?, Operand.test, Bool.beq_eq_decide_eq]
  | null | boolean | integer | decimal => rfl

theorem Operand.test_or (v : Operand) (p q : String → Bool) :
    (v.test p).or (v.test q) = v.test fun s => p s || q s := by
  cases v with
  | text s => cases hp : p s <;> cases hq : q s <;> simp [Operand.test, Truth.or, hp, hq]
  | null | boolean | integer | decimal => rfl

/-! ## Conditions -/

def Expr.equalsSome (e : Expr) (s : String) (more : List String) : Expr :=
  more.foldl (fun c t => .or c (.compare .equal e (.literal (.text t))))
    (.compare .equal e (.literal (.text s)))

/-- The truth of an expression on a message, which is unknown if its value is not a truth. -/
def verdict (m : Message) (e : Expr) : Truth := (evaluate e m).truth

section Verdict

variable (m : Message)

@[simp] theorem verdict_not (e : Expr) : verdict m (.not e) = (verdict m e).not :=
  Operand.truth_ofTruth _

@[simp] theorem verdict_and (l r : Expr) :
    verdict m (.and l r) = (verdict m l).and (verdict m r) :=
  Operand.truth_ofTruth _

@[simp] theorem verdict_or (l r : Expr) : verdict m (.or l r) = (verdict m l).or (verdict m r) :=
  Operand.truth_ofTruth _

@[simp] theorem verdict_compare (op : Comparison) (l r : Expr) :
    verdict m (.compare op l r) = op.eval (evaluate l m) (evaluate r m) :=
  Operand.truth_ofTruth _

@[simp] theorem verdict_like (e : Expr) (pattern : String) (escape : Option Char)
    (negated : Bool) : verdict m (.like e pattern escape negated) =
      ((evaluate e m).test (matchesPattern pattern escape)).negateIf negated :=
  Operand.truth_ofTruth _

@[simp] theorem verdict_between (e low high : Expr) (negated : Bool) :
    verdict m (.between e low high negated) =
      ((Comparison.greaterOrEqual.eval (evaluate e m) (evaluate low m)).and
        (Comparison.lessOrEqual.eval (evaluate e m) (evaluate high m))).negateIf negated :=
  Operand.truth_ofTruth _

@[simp] theorem verdict_within (e : Expr) (texts : List String) (negated : Bool) :
    verdict m (.within e texts negated) =
      ((evaluate e m).test texts.contains).negateIf negated :=
  Operand.truth_ofTruth _

theorem verdict_isNull (e : Expr) (negated : Bool) : verdict m (.isNull e negated) ≠ none :=
  Option.some_ne_none _

theorem verdict_equal_text (e : Expr) (s : String) :
    verdict m (.compare .equal e (.literal (.text s))) = (evaluate e m).test [s].contains := by
  rw [verdict_compare]
  exact Comparison.equal_text _ s

theorem verdict_equalsSome (e : Expr) (s : String) (more : List String) :
    verdict m (e.equalsSome s more) = (evaluate e m).test (s :: more).contains := by
  -- The condition built so far stands for the texts gone through so far.
  have hmore : ∀ (c : Expr) (seen : List String),
      verdict m c = (evaluate e m).test seen.contains →
      verdict m (more.foldl (fun c t => .or c (.compare .equal e (.literal (.text t)))) c) =
        (evaluate e m).test (seen ++ more).contains := by
    induction more with
    | nil => simp
    | cons t more ih =>
        intro c seen hc
        have hseen : (fun u => seen.contains u || [t].contains u) = (seen ++ [t]).contains := by
          funext u
          simp
        have hor : verdict m (.or c (.compare .equal e (.literal (.text t)))) =
            (evaluate e m).test (seen ++ [t]).contains := by
          rw [verdict_or, verdict_equal_text, hc, Operand.test_or, hseen]
        simpa using ih _ _ hor
  exact hmore _ [s] (verdict_equal_text m e s)

end Verdict

structure ThreeValued (V : Expr → Truth) : Prop where
  not (e : Expr) : (V (.not e)).degree = 2 - (V e).degree
  and (l r : Expr) : (V (.and l r)).degree = min (V l).degree (V r).degree
  or (l r : Expr) : (V (.or l r)).degree = max (V l).degree (V r).degree
  and_comm (l r : Expr) : V (.and l r) = V (.and r l)
  or_comm (l r : Expr) : V (.or l r) = V (.or r l)
  and_assoc (e l r : Expr) : V (.and (.and e l) r) = V (.and e (.and l r))
  or_assoc (e l r : Expr) : V (.or (.or e l) r) = V (.or e (.or l r))
  not_and (l r : Expr) : V (.not (.and l r)) = V (.or (.not l) (.not r))
  not_or (l r : Expr) : V (.not (.or l r)) = V (.and (.not l) (.not r))
  notEqual (l r : Expr) : V (.compare .notEqual l r) = V (.not (.compare .equal l r))
  greaterOrEqual (l r : Expr) : V (.compare .greaterOrEqual l r) = V (.not (.compare .less l r))
  greater (l r : Expr) : V (.compare .greater l r) = V (.not (.compare .lessOrEqual l r))
  between (e low high : Expr) : V (.between e low high false) =
    V (.and (.compare .greaterOrEqual e low) (.compare .lessOrEqual e high))
  within (e : Expr) (s : String) (more : List String) :
    V (.within e (s :: more) false) = V (e.equalsSome s more)
  notBetween (e low high : Expr) :
    V (.between e low high true) = V (.not (.between e low high false))
  notWithin (e : Expr) (texts : List String) :
    V (.within e texts true) = V (.not (.within e texts false))
  notLike (e : Expr) (pattern : String) (escape : Option Char) :
    V (.like e pattern escape true) = V (.not (.like e pattern escape false))
  isNull (e : Expr) (negated : Bool) : V (.isNull e negated) ≠ none

/--
On every message the truths of expressions follow the three-valued logic, and exactly the messages
on which its condition is true are selected.
-/
theorem selection_threeValued (m : Message) :
    ThreeValued (verdict m) ∧
      (∀ e b, verdict m e = some b ↔ evaluate e m = .boolean b) ∧
      ∀ s : Selector, s.selects m = true ↔ verdict m s.condition = some true where
  left := {
    not := by simp
    and := by simp
    or := by simp
    and_comm := by simp [Truth.and_comm]
    or_comm := by simp [Truth.or_comm]
    and_assoc := by simp [Truth.and_assoc]
    or_assoc := by simp [Truth.or_assoc]
    not_and := by simp [Truth.not_and]
    not_or := by simp [Truth.not_or]
    notEqual := fun l r => by
      simpa [Comparison.opposite] using Comparison.eval_opposite .equal _ _
    greaterOrEqual := fun l r => by
      simpa [Comparison.opposite] using Comparison.eval_opposite .less _ _
    greater := fun l r => by
      simpa [Comparison.opposite] using Comparison.eval_opposite .lessOrEqual _ _
    between := by simp [Truth.negateIf]
    within := fun e s more => by rw [verdict_equalsSome, verdict_within]; rfl
    notBetween := by simp [Truth.negateIf]
    notWithin := by simp [Truth.negateIf]
    notLike := by simp [Truth.negateIf]
    isNull := verdict_isNull m }
  right := ⟨fun e b => (evaluate e m).truth_eq_some b, fun s => by simp [selects, verdict]⟩

end Messaging.Selector
