import Messaging.Proofs.Text.Numeral
import Messaging.ValueTable
import Mathlib.Algebra.Group.Int.Defs

/-!
# Integers read at four widths

An integer reads as every type at least as wide as its own, and its text does too.  A text reads as
an integer of a type when it is a numeral, with white space around it, whose value is in the range
of the type.  A read through a table is the read of the value under the name.
-/

namespace Messaging

open Number Text

/-! ## Widths -/

inductive Width where
  | byte
  | short
  | int
  | long
  deriving DecidableEq, Repr

namespace Width

def bits : Width → Nat
  | byte => 8
  | short => 16
  | int => 32
  | long => 64

def type : Width → ValueType
  | byte => .byte
  | short => .short
  | int => .int
  | long => .long

instance : LE Width where
  le w w' := w.bits ≤ w'.bits

instance (w w' : Width) : Decidable (w ≤ w') := inferInstanceAs (Decidable (w.bits ≤ w'.bits))

def InRange (w : Width) (n : Int) : Prop := -2 ^ (w.bits - 1) ≤ n ∧ n < 2 ^ (w.bits - 1)

instance (w : Width) (n : Int) : Decidable (w.InRange n) := by
  unfold InRange
  infer_instance

theorem le_iff {w w' : Width} : w ≤ w' ↔ w.bits ≤ w'.bits := Iff.rfl

theorem le_trans {w w' w'' : Width} (h : w ≤ w') (h' : w' ≤ w'') : w ≤ w'' := Nat.le_trans h h'

theorem InRange.mono {w w' : Width} {n : Int} (h : w.InRange n) (hle : w ≤ w') :
    w'.InRange n := by
  have hbits : w.bits - 1 ≤ w'.bits - 1 := Nat.sub_le_sub_right hle 1
  have hpow : (2 : Int) ^ (w.bits - 1) ≤ 2 ^ (w'.bits - 1) := by
    exact_mod_cast Nat.pow_le_pow_right (by decide : 0 < 2) hbits
  obtain ⟨hlow, hhigh⟩ := h
  constructor <;> omega

theorem decide_inRange (w : Width) (n : Int) :
    (-2 ^ (w.bits - 1) ≤ n && n ≤ 2 ^ (w.bits - 1) - 1) = decide (w.InRange n) := by
  rw [← Bool.decide_and]
  exact decide_eq_decide.mpr (and_congr_right' Int.le_sub_one_iff)

end Width

namespace Value

/-- A value that is an integer, with its own type. -/
def stored? : Value → Option (Width × Int)
  | byte n => some (.byte, n.toInt)
  | short n => some (.short, n.toInt)
  | int n => some (.int, n.toInt)
  | long n => some (.long, n.toInt)
  | _ => none

def asInteger (w : Width) (v : Value) : Except Error Int :=
  match w with
  | .byte => v.asByte.map (·.toInt)
  | .short => v.asShort.map (·.toInt)
  | .int => v.asInt.map (·.toInt)
  | .long => v.asLong.map (·.toInt)

end Value

namespace ValueTable

def getInteger (w : Width) (t : ValueTable) (name : String) : Except Error Int :=
  match w with
  | .byte => (t.getByte name).map (·.toInt)
  | .short => (t.getShort name).map (·.toInt)
  | .int => (t.getInt name).map (·.toInt)
  | .long => (t.getLong name).map (·.toInt)

end ValueTable

/-! ## Reads of values -/

namespace Value

theorem inRange_of_stored {v : Value} {own : Width} {n : Int} (h : v.stored? = some (own, n)) :
    own.InRange n := by
  cases v <;> cases h
  next n => exact ⟨n.le_toInt, n.toInt_lt⟩
  next n => exact ⟨n.le_toInt, n.toInt_lt⟩
  next n => exact ⟨n.le_toInt, n.toInt_lt⟩
  next n => exact ⟨n.le_toInt, n.toInt_lt⟩

theorem asInteger_of_stored {v : Value} {own : Width} {n : Int} (h : v.stored? = some (own, n))
    (w : Width) :
    v.asInteger w = if own ≤ w then .ok n else .error (.mismatch own.type w.type) := by
  cases v <;> cases h <;> cases w <;>
    simp [asInteger, asByte, asShort, asInt, asLong, Except.map, Width.le_iff, Width.bits,
      Width.type, type]

theorem toInt_filter_ofInt {α : Type} {ofInt : Int → α} {toInt : α → Int} {low high : Int}
    {w : Width} (hrange : ∀ n, (low ≤ n && n ≤ high) = decide (w.InRange n))
    (hback : ∀ n, w.InRange n → toInt (ofInt n) = n) (cs : List Char) :
    ((readBetween? low high cs).map ofInt).map toInt = (readInt? cs).filter (w.InRange ·) := by
  simp only [readBetween?, hrange]
  cases readInt? cs with
  | none => rfl
  | some n =>
      by_cases hn : w.InRange n
      · simp [Option.filter, hn, hback]
      · simp [Option.filter, hn]

theorem toInt_readInt8? (cs : List Char) :
    (readInt8? cs).map (·.toInt) = (readInt? cs).filter (Width.byte.InRange ·) := by
  apply toInt_filter_ofInt
  · rw [Int8.toInt_minValue, Int8.toInt_maxValue]
    exact Width.byte.decide_inRange
  · exact fun n h => Int8.toInt_ofInt_of_le h.1 h.2

theorem toInt_readInt16? (cs : List Char) :
    (readInt16? cs).map (·.toInt) = (readInt? cs).filter (Width.short.InRange ·) := by
  apply toInt_filter_ofInt
  · rw [Int16.toInt_minValue, Int16.toInt_maxValue]
    exact Width.short.decide_inRange
  · exact fun n h => Int16.toInt_ofInt_of_le h.1 h.2

theorem toInt_readInt32? (cs : List Char) :
    (readInt32? cs).map (·.toInt) = (readInt? cs).filter (Width.int.InRange ·) := by
  apply toInt_filter_ofInt
  · rw [Int32.toInt_minValue, Int32.toInt_maxValue]
    exact Width.int.decide_inRange
  · exact fun n h => Int32.toInt_ofInt_of_le h.1 h.2

theorem toInt_readInt64? (cs : List Char) :
    (readInt64? cs).map (·.toInt) = (readInt? cs).filter (Width.long.InRange ·) := by
  apply toInt_filter_ofInt
  · rw [Int64.toInt_minValue, Int64.toInt_maxValue]
    exact Width.long.decide_inRange
  · exact fun n h => Int64.toInt_ofInt_of_le h.1 h.2

theorem asInteger_parse {α : Type} {read? : List Char → Option α} {toInt : α → Int} {w : Width}
    (hread : ∀ cs, (read? cs).map toInt = (readInt? cs).filter (w.InRange ·)) (s : String) :
    (parse read? w.type s).map toInt =
      match (readInt? (trimBoth isBlank s.toList)).filter (w.InRange ·) with
      | some n => .ok n
      | none => .error (.unreadable s w.type) := by
  rw [← hread, parse]
  cases read? (trimBoth isBlank s.toList) <;> rfl

theorem asInteger_string (w : Width) (s : String) :
    (string s).asInteger w =
      match (readInt? (trimBoth isBlank s.toList)).filter (w.InRange ·) with
      | some n => .ok n
      | none => .error (.unreadable s w.type) := by
  cases w with
  | byte => exact asInteger_parse toInt_readInt8? s
  | short => exact asInteger_parse toInt_readInt16? s
  | int => exact asInteger_parse toInt_readInt32? s
  | long => exact asInteger_parse toInt_readInt64? s

theorem asInteger_string_eq_ok {w : Width} {s : String} {n : Int} :
    (string s).asInteger w = .ok n ↔
      ∃ cs, Padded s.toList cs ∧ Spells cs n ∧ w.InRange n := by
  have hread : (string s).asInteger w = .ok n ↔
      readInt? (trimBoth isBlank s.toList) = some n ∧ w.InRange n := by
    rw [asInteger_string]
    cases readInt? (trimBoth isBlank s.toList) with
    | none => simp
    | some m =>
        by_cases hm : w.InRange m
        · simp only [Option.filter_some, hm, decide_true, if_true, Except.ok.injEq,
            Option.some.injEq]
          constructor
          · rintro rfl
            exact ⟨rfl, hm⟩
          · exact And.left
        · simp only [Option.filter_some, hm, decide_false, Bool.false_eq_true, if_false,
            reduceCtorEq, Option.some.injEq, false_iff]
          rintro ⟨rfl, h⟩
          exact hm h
  rw [hread, readInt?_trimBoth]
  constructor
  · rintro ⟨⟨cs, hpadded, hspells⟩, hrange⟩
    exact ⟨cs, hpadded, hspells, hrange⟩
  · rintro ⟨cs, hpadded, hspells, hrange⟩
    exact ⟨⟨cs, hpadded, hspells⟩, hrange⟩

theorem asInteger_widens {v : Value} {w w' : Width} {n : Int} (h : v.asInteger w = .ok n)
    (hle : w ≤ w') : v.asInteger w' = .ok n := by
  cases hstored : v.stored? with
  | some stored =>
      obtain ⟨own, m⟩ := stored
      rw [asInteger_of_stored hstored] at h ⊢
      split at h
      next hown =>
        cases h
        rw [if_pos (Width.le_trans hown hle)]
      next => cases h
  | none =>
      cases v with
      | string s =>
          obtain ⟨cs, hpadded, hspells, hrange⟩ := asInteger_string_eq_ok.mp h
          exact asInteger_string_eq_ok.mpr ⟨cs, hpadded, hspells, hrange.mono hle⟩
      | byte | short | int | long => cases hstored
      | boolean | char | float | double | bytes => cases w <;> cases h

theorem asInteger_text {v : Value} {own : Width} {n : Int} (h : v.stored? = some (own, n)) :
    ∃ s, v.asString = .ok s ∧ ∀ w, own ≤ w → (string s).asInteger w = .ok n := by
  have htext : v.asString = .ok (String.ofList (intText n)) := by
    cases v <;> cases h <;> rfl
  refine ⟨_, htext, fun w hle => ?_⟩
  have hspells : Spells (intText n) n := readInt?_eq_some.mp (readInt?_intText n)
  refine asInteger_string_eq_ok.mpr ⟨intText n, ?_, hspells, (inRange_of_stored h).mono hle⟩
  exact ⟨[], [], by simp, by simp, by simp⟩

end Value

/-! ## Reads through a table -/

namespace ValueTable

variable {t : ValueTable} {name : String}

theorem getInteger_of_get? {v : Value} (h : t.get? name = some v) (w : Width) :
    t.getInteger w name = v.asInteger w := by
  cases w <;> simp [getInteger, getByte, getShort, getInt, getLong, read, h, Value.asInteger]

theorem getScalar_of_get? {v : Value} (h : t.get? name = some v) (type : Scalar) :
    t.getScalar type name = v.asScalar type := by
  cases type <;>
    simp [getScalar, getBoolean, getByte, getChar, getShort, getInt, getLong, getFloat, getDouble,
      read, readOr, h, Value.asScalar]

theorem getString_of_get? {v : Value} (h : t.get? name = some v) :
    t.getString name = v.asString := by
  simp [getString, readOr, h]

theorem getBytes_of_get? {v : Value} (h : t.get? name = some v) : t.getBytes name = v.asBytes := by
  simp [getBytes, read, h]

theorem getInteger_missing (h : t.get? name = none) (w : Width) :
    t.getInteger w name = .error (.noValue name) := by
  cases w <;> simp [getInteger, getByte, getShort, getInt, getLong, read, h, Except.map]

theorem getScalar_missing (h : t.get? name = none) {type : Scalar} (htype : type ≠ .boolean) :
    t.getScalar type name = .error (.noValue name) := by
  cases type with
  | boolean => exact absurd rfl htype
  | byte | char | short | int | long | float | double =>
      simp [getScalar, getByte, getChar, getShort, getInt, getLong, getFloat, getDouble, read, h,
        Except.map]

end ValueTable

/-! ## Coherence -/

structure CoherentReads (read : Width → Value → Except Error Int)
    (text : Value → Except Error String) : Prop where
  widened : ∀ v w w' n, read w v = .ok n → w ≤ w' → read w' v = .ok n
  stored : ∀ v own n, v.stored? = some (own, n) →
    ∀ w, read w v = if own ≤ w then .ok n else .error (.mismatch own.type w.type)
  spelled : ∀ v own n, v.stored? = some (own, n) →
    ∃ s, text v = .ok s ∧ ∀ w, own ≤ w → read w (.string s) = .ok n
  parsed : ∀ s w n, read w (.string s) = .ok n ↔
    ∃ cs, Padded s.toList cs ∧ Spells cs n ∧ w.InRange n

theorem Value.coherentReads : CoherentReads (fun w v => v.asInteger w) Value.asString where
  widened _ _ _ _ := asInteger_widens
  stored _ _ _ := asInteger_of_stored
  spelled _ _ _ := asInteger_text
  parsed _ _ _ := asInteger_string_eq_ok

/--
Integers and their texts are read coherently at the four widths, from values and through a table,
where only a name without a value makes a difference.
-/
theorem integer_reads_coherent :
    CoherentReads (fun w v => v.asInteger w) Value.asString ∧
      ∀ (t : ValueTable) (name : String),
        CoherentReads (fun w v => (t.insert name v).getInteger w name)
            (fun v => (t.insert name v).getString name) ∧
          (∀ v, t.get? name = some v →
            (∀ w, t.getInteger w name = v.asInteger w) ∧
              (∀ type, t.getScalar type name = v.asScalar type) ∧
              t.getString name = v.asString ∧ t.getBytes name = v.asBytes) ∧
          (t.get? name = none →
            t.getBoolean name = .ok false ∧ t.getString name = .ok "" ∧
              t.getBytes name = .error (.noValue name) ∧
              (∀ w, t.getInteger w name = .error (.noValue name)) ∧
              (∀ type ≠ .boolean, t.getScalar type name = .error (.noValue name)) ∧
              (Error.noValue name).kind = .messageFormat) := by
  refine ⟨Value.coherentReads, fun t name => ⟨?_, ?_, ?_⟩⟩
  · have hname : ∀ v, (t.insert name v).get? name = some v := by simp
    simp only [ValueTable.getInteger_of_get? (hname _), ValueTable.getString_of_get? (hname _)]
    exact Value.coherentReads
  · intro v h
    exact ⟨ValueTable.getInteger_of_get? h, ValueTable.getScalar_of_get? h,
      ValueTable.getString_of_get? h, ValueTable.getBytes_of_get? h⟩
  · intro h
    refine ⟨?_, ?_, ?_, ValueTable.getInteger_missing h,
      fun type => ValueTable.getScalar_missing h, rfl⟩
    · simp [ValueTable.getBoolean, ValueTable.readOr, h]
    · simp [ValueTable.getString, ValueTable.readOr, h]
    · simp [ValueTable.getBytes, ValueTable.read, h]

theorem integer_reads_coherent_padded :
    (Value.string "\u2003+007\n").asInteger .byte = .ok 7 ∧
      (Value.string "\u2003+007\n").asInteger .long = .ok 7 := by
  have hbyte : (Value.string "\u2003+007\n").asInteger .byte = .ok 7 := rfl
  have hle : Width.byte ≤ Width.long := by decide
  exact ⟨hbyte, integer_reads_coherent.1.widened _ _ _ _ hbyte hle⟩

end Messaging
