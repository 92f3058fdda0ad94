import Messaging.Proofs.Selector.Logic

/-!
# What a selector does not know

A property that a message lacks leaves a condition open and decides nothing.  So a condition that
is decided on a message is decided alike on one that has more properties, unless it asks whether
something is null.
-/

namespace Messaging

namespace Selector

/-! ## Values that are known -/

/-- What the first truth decides the second decides alike. -/
def Truth.Persists (t u : Truth) : Prop := ∀ b, t = some b → u = some b

namespace Truth.Persists

variable {t t' u u' : Truth}

theorem not (h : t.Persists t') : t.not.Persists t'.not := by
  cases t with
  | none => simp [Truth.Persists, Truth.not]
  | some b => simp [Truth.Persists, Truth.not, h b rfl]

theorem and (ht : t.Persists t') (hu : u.Persists u') : (t.and u).Persists (t'.and u') := by
  intro b hb
  rcases t with _ | _ | _ <;> rcases u with _ | _ | _ <;> simp_all [Truth.Persists, Truth.and]
  all_goals rcases t' with _ | _ | _ <;> simp

theorem or (ht : t.Persists t') (hu : u.Persists u') : (t.or u).Persists (t'.or u') := by
  intro b hb
  rcases t with _ | _ | _ <;> rcases u with _ | _ | _ <;> simp_all [Truth.Persists, Truth.or]
  all_goals rcases t' with _ | _ | _ <;> simp

theorem negateIf (negated : Bool) (h : t.Persists t') :
    (t.negateIf negated).Persists (t'.negateIf negated) := by
  cases negated with
  | false => exact h
  | true => exact h.not

end Truth.Persists

def Operand.Persists (v w : Operand) : Prop := v ≠ .null → w = v

namespace Operand.Persists

variable {v v' w w' : Operand}

theorem refl (v : Operand) : v.Persists v := fun _ => rfl

theorem cases (h : v.Persists v') : v = .null ∨ v' = v := by
  by_cases hv : v = .null
  · exact .inl hv
  · exact .inr (h hv)

theorem truth (h : v.Persists v') : v.truth.Persists v'.truth := by
  rcases h.cases with rfl | rfl
  · simp [Truth.Persists, Operand.truth]
  · exact fun _ hb => hb

theorem ofTruth {t u : Truth} (h : t.Persists u) : (Operand.ofTruth t).Persists (.ofTruth u) := by
  cases t with
  | none => exact fun hnull => absurd rfl hnull
  | some b => exact fun _ => congrArg Operand.ofTruth (h b rfl)

theorem test (h : v.Persists v') (p : String → Bool) : (v.test p).Persists (v'.test p) := by
  rcases h.cases with rfl | rfl
  · simp [Truth.Persists, Operand.test]
  · exact fun _ hb => hb

theorem negate (h : v.Persists v') : v.negate.Persists v'.negate := by
  rcases h.cases with rfl | rfl
  · exact fun hnull => absurd rfl hnull
  · exact .refl _

end Operand.Persists

/-! ## Operations on null -/

theorem Comparison.eval_null_left (op : Comparison) (w : Operand) : op.eval .null w = none := by
  cases op <;> rfl

theorem Comparison.eval_null_right (op : Comparison) (v : Operand) : op.eval v .null = none := by
  cases op <;> cases v <;> rfl

theorem Comparison.eval_persists {v v' w w' : Operand} (op : Comparison) (hv : v.Persists v')
    (hw : w.Persists w') : (op.eval v w).Persists (op.eval v' w') := by
  rcases hv.cases with rfl | rfl
  · simp [Truth.Persists, eval_null_left]
  · rcases hw.cases with rfl | rfl
    · simp [Truth.Persists, eval_null_right]
    · exact fun _ hb => hb

theorem Arithmetic.eval_null_left (op : Arithmetic) (w : Operand) : op.eval .null w = .null := rfl

theorem Arithmetic.eval_null_right (op : Arithmetic) (v : Operand) : op.eval v .null = .null := by
  cases v <;> rfl

theorem Arithmetic.eval_persists {v v' w w' : Operand} (op : Arithmetic) (hv : v.Persists v')
    (hw : w.Persists w') : (op.eval v w).Persists (op.eval v' w') := by
  rcases hv.cases with rfl | rfl
  · exact fun hnull => absurd (op.eval_null_left w) hnull
  · rcases hw.cases with rfl | rfl
    · exact fun hnull => absurd (op.eval_null_right _) hnull
    · exact .refl _

/-! ## Expressions -/

def Expr.asksNull : Expr → Bool
  | .literal _ | .identifier _ => false
  | .not e | .negate e | .like e _ _ _ | .within e _ _ => e.asksNull
  | .and l r | .or l r | .compare _ l r | .arith _ l r => l.asksNull || r.asksNull
  | .between e low high _ => e.asksNull || low.asksNull || high.asksNull
  | .isNull _ _ => true

/-- Where identifiers are known that were not, an expression keeps the value that it had. -/
theorem Expr.eval_persists {env env' : String → Operand}
    (henv : ∀ name, (env name).Persists (env' name)) {e : Expr} (he : e.asksNull = false) :
    (e.eval env).Persists (e.eval env') := by
  induction e with
  | literal v => exact .refl v
  | identifier name => exact henv name
  | not e ih => exact .ofTruth (ih he).truth.not
  | and l r ihl ihr =>
      obtain ⟨hl, hr⟩ := Bool.or_eq_false_iff.mp he
      exact .ofTruth ((ihl hl).truth.and (ihr hr).truth)
  | or l r ihl ihr =>
      obtain ⟨hl, hr⟩ := Bool.or_eq_false_iff.mp he
      exact .ofTruth ((ihl hl).truth.or (ihr hr).truth)
  | compare op l r ihl ihr =>
      obtain ⟨hl, hr⟩ := Bool.or_eq_false_iff.mp he
      exact .ofTruth (op.eval_persists (ihl hl) (ihr hr))
  | arith op l r ihl ihr =>
      obtain ⟨hl, hr⟩ := Bool.or_eq_false_iff.mp he
      exact op.eval_persists (ihl hl) (ihr hr)
  | negate e ih => exact (ih he).negate
  | isNull e negated => cases he
  | like e pattern escape negated ih => exact .ofTruth (((ih he).test _).negateIf negated)
  | between e low high negated ih ihl ihh =>
      obtain ⟨he, hh⟩ := Bool.or_eq_false_iff.mp he
      obtain ⟨he, hl⟩ := Bool.or_eq_false_iff.mp he
      have habove := Comparison.eval_persists .greaterOrEqual (ih he) (ihl hl)
      have hbelow := Comparison.eval_persists .lessOrEqual (ih he) (ihh hh)
      exact .ofTruth ((habove.and hbelow).negateIf negated)
  | within e texts negated ih => exact .ofTruth (((ih he).test _).negateIf negated)

end Selector

/-! ## Messages -/

/-- A message has the headers and all the properties of another one, and perhaps more properties. -/
structure Message.Extends (m' m : Message) : Prop where
  headers : m'.headers = m.headers
  properties : ∀ name v, m.properties.get? name = some v → m'.properties.get? name = some v

theorem Message.Extends.lookup {m m' : Message} (h : m'.Extends m) {name : String} {v : Value}
    (hname : m.lookup name = some v) : m'.lookup name = some v := by
  unfold Message.lookup at hname ⊢
  rw [h.headers]
  split at hname <;> first | exact hname | exact h.properties _ v hname

namespace Selector

theorem environment_persists {m m' : Message} (h : m'.Extends m) (name : String) :
    (environment m name).Persists (environment m' name) := by
  unfold environment
  cases hname : m.lookup name with
  | none => exact fun hnull => absurd rfl hnull
  | some v =>
      rw [h.lookup hname]
      exact .refl _

/--
What an expression that does not ask for nulls evaluates to on a message, it evaluates to on every
message that has more properties, unless it is null; so what is selected stays selected, and what
is definitely not selected stays so.
-/
theorem selection_persists {m m' : Message} (h : m'.Extends m) :
    (∀ e : Expr, e.asksNull = false → evaluate e m ≠ .null → evaluate e m' = evaluate e m) ∧
      ∀ s : Selector, s.condition.asksNull = false →
        (s.selects m = true → s.selects m' = true) ∧
          (verdict m s.condition = some false → verdict m' s.condition = some false) := by
  have heval (e : Expr) (he : e.asksNull = false) : (evaluate e m).Persists (evaluate e m') :=
    Expr.eval_persists (environment_persists h) he
  refine ⟨heval, fun s hs => ⟨fun hm => ?_, (heval s.condition hs).truth false⟩⟩
  have htrue := (heval s.condition hs).truth true (by simpa [selects] using hm)
  simpa [selects] using htrue

def order : Message := { properties := ValueTable.empty.insert "price" (.int 7) }

def reducedOrder : Message :=
  { order with properties := order.properties.insert "discount" (.int 2) }

/-- The price is above five, or what is left of it after the discount is below three. -/
def bargain : Selector :=
  ⟨"price > 5 OR price - discount < 3",
    .or (.compare .greater (.identifier "price") (.literal (.integer 5)))
      (.compare .less (.arith .sub (.identifier "price") (.identifier "discount"))
        (.literal (.integer 3)))⟩

theorem selection_persists_reducedOrder :
    reducedOrder.Extends order ∧ bargain.condition.asksNull = false ∧ bargain.selects order = true ∧
      bargain.selects reducedOrder = true := by
  have hextends : reducedOrder.Extends order := by
    refine ⟨rfl, fun name v hv => ?_⟩
    by_cases hname : name = "discount"
    · subst hname
      simp [order] at hv
    · simp only [reducedOrder, ValueTable.get?_insert, if_neg hname]
      exact hv
  refine ⟨hextends, rfl, by decide, ?_⟩
  exact ((selection_persists hextends).2 bargain rfl).1 (by decide)

/-- To ask for a null is to decide on what is missing. -/
example : (evaluate (.isNull (.identifier "discount") false) order,
    evaluate (.isNull (.identifier "discount") false) reducedOrder) =
      (.boolean true, .boolean false) := by decide

end Selector

end Messaging
