import Messaging.Value

/-!
# Tables of named values

Message properties and map bodies: at most one value under a name, listed in the order of the
names.  A missing name reads as false and as the empty text; every other read of it fails.
-/

namespace Messaging

/-- Names with their values, in ascending order of names. -/
structure ValueTable where
  entries : List (String × Value) := []
  deriving DecidableEq, Repr

namespace ValueTable

def empty : ValueTable := {}

def get? (t : ValueTable) (name : String) : Option Value := t.entries.lookup name

def insertInto (name : String) (v : Value) : List (String × Value) → List (String × Value)
  | [] => [(name, v)]
  | (other, w) :: rest =>
    if name = other then (name, v) :: rest
    else if name < other then (name, v) :: (other, w) :: rest
    else (other, w) :: insertInto name v rest

def insert (t : ValueTable) (name : String) (v : Value) : ValueTable :=
  ⟨insertInto name v t.entries⟩

def contains (t : ValueTable) (name : String) : Bool := (t.get? name).isSome

def size (t : ValueTable) : Nat := t.entries.length

def isEmpty (t : ValueTable) : Bool := t.entries.isEmpty

def names (t : ValueTable) : List String := t.entries.map Prod.fst

/-! ## Typed reads -/

def read (as : Value → Except Error α) (t : ValueTable) (name : String) : Except Error α :=
  match t.get? name with
  | some v => as v
  | none => .error (.noValue name)

def readOr (missing : α) (as : Value → Except Error α) (t : ValueTable) (name : String) :
    Except Error α :=
  match t.get? name with
  | some v => as v
  | none => .ok missing

def getBoolean : ValueTable → String → Except Error Bool := readOr false Value.asBoolean

def getByte : ValueTable → String → Except Error Int8 := read Value.asByte

def getChar : ValueTable → String → Except Error UInt16 := read Value.asChar

def getShort : ValueTable → String → Except Error Int16 := read Value.asShort

def getInt : ValueTable → String → Except Error Int32 := read Value.asInt

def getLong : ValueTable → String → Except Error Int64 := read Value.asLong

def getFloat : ValueTable → String → Except Error Number.Single := read Value.asFloat

def getDouble : ValueTable → String → Except Error Number.Double := read Value.asDouble

def getString : ValueTable → String → Except Error String := readOr "" Value.asString

def getBytes : ValueTable → String → Except Error (List UInt8) := read Value.asBytes

def getScalar (type : Scalar) (t : ValueTable) (name : String) : Except Error Value :=
  match type with
  | .boolean => (t.getBoolean name).map .boolean
  | .byte => (t.getByte name).map .byte
  | .char => (t.getChar name).map .char
  | .short => (t.getShort name).map .short
  | .int => (t.getInt name).map .int
  | .long => (t.getLong name).map .long
  | .float => (t.getFloat name).map .float
  | .double => (t.getDouble name).map .double

/-! ## Lookup -/

@[simp] theorem get?_empty (name : String) : empty.get? name = none := rfl

theorem lookup_insertInto (name other : String) (v : Value) (entries : List (String × Value)) :
    (insertInto name v entries).lookup other =
      if other = name then some v else entries.lookup other := by
  induction entries with
  | nil =>
    by_cases h : other = name
    · simp [insertInto, h]
    · simp [insertInto, List.lookup_cons, h, beq_eq_false_iff_ne.2 h]
  | cons entry rest ih =>
    obtain ⟨key, w⟩ := entry
    simp only [insertInto]
    split
    · next hkey =>
      subst hkey
      by_cases h : other = name
      · simp [h]
      · simp [List.lookup_cons, h, beq_eq_false_iff_ne.2 h]
    · next hne =>
      split
      · by_cases h : other = name
        · simp [h]
        · simp [List.lookup_cons, h, beq_eq_false_iff_ne.2 h]
      · rw [List.lookup_cons, List.lookup_cons, ih]
        by_cases h : other = key
        · subst h
          simp [Ne.symm hne]
        · simp [beq_eq_false_iff_ne.2 h]

@[simp] theorem get?_insert (t : ValueTable) (name other : String) (v : Value) :
    (t.insert name v).get? other = if other = name then some v else t.get? other :=
  lookup_insertInto name other v t.entries

end ValueTable

end Messaging
