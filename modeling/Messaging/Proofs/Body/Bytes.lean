import Messaging.Body.Bytes
import Messaging.Proofs.Outcome
import Messaging.Proofs.Text.ModifiedUtf8

/-!
# Bytes bodies read back

What is written to a bytes body item by item is read back by the reads that go with the items, in
whatever order the kinds of items follow each other: each read takes from the front the bytes that
its item was written as, and nothing of the items after it.
-/

namespace Messaging.BytesBody

open Number Text

/-! ## Items -/

inductive Item where
  | value (v : Value)
  | utf (s : String)
  deriving DecidableEq, Repr

inductive ReadCall where
  | scalar (t : Scalar)
  | block (size : Nat)
  | string
  | utf
  deriving DecidableEq, Repr

def Item.readCall : Item → ReadCall
  | value (.boolean _) => .scalar .boolean
  | value (.byte _) => .scalar .byte
  | value (.char _) => .scalar .char
  | value (.short _) => .scalar .short
  | value (.int _) => .scalar .int
  | value (.long _) => .scalar .long
  | value (.float _) => .scalar .float
  | value (.double _) => .scalar .double
  | value (.string _) => .string
  | value (.bytes bytes) => .block bytes.length
  | utf _ => .utf

/--
An item that can be told apart from what follows it: a block has a byte, a text before a zero byte
has no character zero, and a text after its length is short enough for the length.
-/
def Item.Sound : Item → Prop
  | value (.bytes bytes) => bytes ≠ []
  | value (.string s) => Char.ofNat 0 ∉ s.toList
  | utf s => (ModifiedUtf8.encode s).length ≤ 65535
  | _ => True

instance (item : Item) : Decidable item.Sound :=
  match item with
  | .value (.bytes bytes) => inferInstanceAs (Decidable (bytes ≠ []))
  | .value (.string s) => inferInstanceAs (Decidable (Char.ofNat 0 ∉ s.toList))
  | .utf s => inferInstanceAs (Decidable ((ModifiedUtf8.encode s).length ≤ 65535))
  | .value (.boolean _) | .value (.byte _) | .value (.char _) | .value (.short _) | .value (.int _)
  | .value (.long _) | .value (.float _) | .value (.double _) => .isTrue trivial

def Item.encoded : Item → List UInt8
  | value (.boolean v) => [if v then 1 else 0]
  | value (.byte v) => Word.encode 1 v.toUInt8.toNat
  | value (.char v) => Word.encode 2 v.toNat
  | value (.short v) => Word.encode 2 v.toUInt16.toNat
  | value (.int v) => Word.encode 4 v.toUInt32.toNat
  | value (.long v) => Word.encode 8 v.toUInt64.toNat
  | value (.float v) => Word.encode 4 v.bits.toNat
  | value (.double v) => Word.encode 8 v.bits.toNat
  | value (.string s) => Utf8.encode s ++ [0]
  | value (.bytes bytes) => bytes
  | utf s => Word.encode 2 (ModifiedUtf8.encode s).length ++ ModifiedUtf8.encode s

def writeItem (b : BytesBody) : Item → Except Error BytesBody
  | .value v => b.write v
  | .utf s => b.writeUtf s

def readItem (b : BytesBody) : ReadCall → Except Error (Option Item × BytesBody)
  | .scalar t => (b.readScalar t).map (Prod.map (some ∘ .value) id)
  | .block size => (b.readBytes size).map (Prod.map (·.map (.value ∘ .bytes)) id)
  | .string => b.readString.map (Prod.map (some ∘ .value ∘ .string) id)
  | .utf => b.readUtf.map (Prod.map (some ∘ .utf) id)

def writeItems (b : BytesBody) (items : List Item) : Except Error BytesBody :=
  items.foldlM writeItem b

def readItems (b : BytesBody) : List ReadCall → Except Error (List (Option Item) × BytesBody)
  | [] => .ok ([], b)
  | r :: rs => do
    let (item, b) ← b.readItem r
    let (items, b) ← b.readItems rs
    return (item :: items, b)

/-! ## Writing -/

theorem writeItem_writing {item : Item} (h : item.Sound) (data : List UInt8) :
    writeItem (writing data) item = .ok (writing (data ++ item.encoded)) := by
  cases item with
  | utf s =>
      have hshort : ¬ 65535 < (ModifiedUtf8.encode s).length := Nat.not_lt.mpr h
      simp [writeItem, writeUtf, isReadable, hshort, put, Item.encoded]
  | value v =>
      cases v with
      | string s =>
          have hzero : Char.ofNat 0 ∉ s.toList := h
          simp [writeItem, write, writeString, isReadable, hzero, put, Item.encoded]
      | boolean | byte | char | short | int | long | float | double | bytes =>
          rfl

theorem writeItems_writing {items : List Item} (h : ∀ item ∈ items, item.Sound)
    (data : List UInt8) :
    writeItems (writing data) items = .ok (writing (data ++ items.flatMap Item.encoded)) := by
  induction items generalizing data with
  | nil => simp [writeItems, pure, Except.pure]
  | cons item items ih =>
      obtain ⟨hitem, hitems⟩ := List.forall_mem_cons.mp h
      have hrest := ih hitems (data ++ item.encoded)
      rw [writeItems] at hrest ⊢
      rw [List.foldlM_cons, writeItem_writing hitem, ok_bind, hrest]
      simp

/-! ## Reading -/

theorem take_append (past bytes rest : List UInt8) :
    (reading past (bytes ++ rest)).take bytes.length =
      .ok (bytes, reading (past ++ bytes) rest) := by
  simp [take]

theorem takeWord_encode (width n : Nat) (h : n < Nat.pow 256 width) (past rest : List UInt8) :
    (reading past (Word.encode width n ++ rest)).takeWord width =
      .ok (n, reading (past ++ Word.encode width n) rest) := by
  have htake := take_append past (Word.encode width n) rest
  rw [Word.length_encode] at htake
  rw [takeWord, htake, ok_bind]
  simp [Word.decode_encode width n h, pure, Except.pure]

theorem readBytes_append {bytes : List UInt8} (h : bytes ≠ []) (past rest : List UInt8) :
    (reading past (bytes ++ rest)).readBytes bytes.length =
      .ok (some bytes, reading (past ++ bytes) rest) := by
  simp [readBytes, h]

theorem readString_encode {s : String} (h : Char.ofNat 0 ∉ s.toList) (past rest : List UInt8) :
    (reading past (Utf8.encode s ++ 0 :: rest)).readString =
      .ok (s, reading (past ++ Utf8.encode s ++ [0]) rest) := by
  have hbytes : ∀ b ∈ Utf8.encode s, (b != 0) = true := by
    simpa using Utf8.ne_zero_of_mem_encode h
  have htake : (Utf8.encode s ++ 0 :: rest).takeWhile (· != 0) = Utf8.encode s := by
    simp [List.takeWhile_append_of_pos hbytes]
  have hdrop : (Utf8.encode s ++ 0 :: rest).dropWhile (· != 0) = 0 :: rest := by
    simp [List.dropWhile_append_of_pos hbytes]
  simp [readString, htake, hdrop, Utf8.decode_encode]

theorem readUtf_encode {s : String} (h : (ModifiedUtf8.encode s).length ≤ 65535)
    (past rest : List UInt8) :
    (reading past ((Item.utf s).encoded ++ rest)).readUtf =
      .ok (s, reading (past ++ (Item.utf s).encoded) rest) := by
  have hlength : (ModifiedUtf8.encode s).length < Nat.pow 256 2 := Nat.lt_succ_of_le h
  rw [readUtf, Item.encoded, List.append_assoc, takeWord_encode 2 _ hlength, ok_bind]
  simp [take_append, decodeUtf, ModifiedUtf8.decode?_encode, pure, Except.pure]

theorem readScalar_boolean (v : Bool) (past rest : List UInt8) :
    (reading past ((Item.value (.boolean v)).encoded ++ rest)).readScalar .boolean =
      .ok (.boolean v, reading (past ++ (Item.value (.boolean v)).encoded) rest) := by
  cases v <;>
    simp [readScalar, readBoolean, takeWord, take, Item.encoded, Word.decode, pure, Except.pure,
      Except.map]

/-- A read takes the bytes of its item, whatever stands behind and ahead of them. -/
theorem readItem_encoded {item : Item} (h : item.Sound) (past rest : List UInt8) :
    readItem (reading past (item.encoded ++ rest)) item.readCall =
      .ok (some item, reading (past ++ item.encoded) rest) := by
  cases item with
  | utf s => simp [readItem, Item.readCall, readUtf_encode h, Except.map]
  | value v =>
      cases v with
      | boolean v => simp [readItem, Item.readCall, readScalar_boolean, Except.map]
      | byte v =>
          have hv : Int8.ofNat v.toUInt8.toNat = v := by simp [← Int8.toBitVec_inj]
          simp [readItem, Item.readCall, Item.encoded, readScalar, readByte,
            takeWord_encode 1 _ v.toUInt8.toNat_lt, hv, pure, Except.pure, Except.map]
      | char v =>
          simp [readItem, Item.readCall, Item.encoded, readScalar, readChar,
            takeWord_encode 2 _ v.toNat_lt, pure, Except.pure, Except.map]
      | short v =>
          have hv : Int16.ofNat v.toUInt16.toNat = v := by simp [← Int16.toBitVec_inj]
          simp [readItem, Item.readCall, Item.encoded, readScalar, readShort,
            takeWord_encode 2 _ v.toUInt16.toNat_lt, hv, pure, Except.pure, Except.map]
      | int v =>
          have hv : Int32.ofNat v.toUInt32.toNat = v := by simp [← Int32.toBitVec_inj]
          simp [readItem, Item.readCall, Item.encoded, readScalar, readInt,
            takeWord_encode 4 _ v.toUInt32.toNat_lt, hv, pure, Except.pure, Except.map]
      | long v =>
          have hv : Int64.ofNat v.toUInt64.toNat = v := by simp [← Int64.toBitVec_inj]
          simp [readItem, Item.readCall, Item.encoded, readScalar, readLong,
            takeWord_encode 8 _ v.toUInt64.toNat_lt, hv, pure, Except.pure, Except.map]
      | float v =>
          simp [readItem, Item.readCall, Item.encoded, readScalar, readFloat,
            takeWord_encode 4 _ v.bits.toNat_lt, pure, Except.pure, Except.map]
      | double v =>
          simp [readItem, Item.readCall, Item.encoded, readScalar, readDouble,
            takeWord_encode 8 _ v.bits.toNat_lt, pure, Except.pure, Except.map]
      | string s => simp [readItem, Item.readCall, Item.encoded, readString_encode h, Except.map]
      | bytes bytes => simp [readItem, Item.readCall, Item.encoded, readBytes_append h, Except.map]

theorem readItems_encoded {items : List Item} (h : ∀ item ∈ items, item.Sound)
    (past : List UInt8) :
    readItems (reading past (items.flatMap Item.encoded)) (items.map Item.readCall) =
      .ok (items.map some, reading (past ++ items.flatMap Item.encoded) []) := by
  induction items generalizing past with
  | nil => simp [readItems]
  | cons item items ih =>
      obtain ⟨hitem, hitems⟩ := List.forall_mem_cons.mp h
      rw [List.flatMap_cons, List.map_cons, readItems, readItem_encoded hitem, ok_bind]
      simp [ih hitems, pure, Except.pure]

/-! ## At the end -/

theorem takeWord_end {width : Nat} (h : 0 < width) (past : List UInt8) :
    (reading past []).takeWord width = .error .endOfBody := by
  have hshort : ¬ width ≤ ([] : List UInt8).length := Nat.not_le.mpr h
  rw [takeWord, take, if_neg hshort, error_bind]

theorem readScalar_end (t : Scalar) (past : List UInt8) :
    (reading past []).readScalar t = .error .endOfBody := by
  cases t <;>
    simp [readScalar, readBoolean, readByte, readChar, readShort, readInt, readLong, readFloat,
      readDouble, takeWord_end, Functor.map, Except.map]

theorem readUtf_end (past : List UInt8) : (reading past []).readUtf = .error .endOfBody := by
  simp [readUtf, takeWord_end]

/--
Sound items written to an empty body are read back, which leaves nothing to read: then every typed
read finds the end of the body, and a read of bytes finds none.
-/
theorem readItems_writeItems {items : List Item} (h : ∀ item ∈ items, item.Sound) :
    ∃ written read, writeItems (writing []) items = .ok written ∧
      readItems written.reset (items.map Item.readCall) = .ok (items.map some, read) ∧
      read.data = written.data ∧ read.position = written.data.length ∧
      (∀ t, read.readScalar t = .error .endOfBody) ∧ read.readString = .error .endOfBody ∧
      read.readUtf = .error .endOfBody ∧ ∀ size, read.readBytes size = .ok (none, read) := by
  have hwritten := writeItems_writing h []
  have hread := readItems_encoded h []
  rw [List.nil_append] at hwritten hread
  exact ⟨_, _, hwritten, hread, by simp [data], rfl, fun t => readScalar_end t _, rfl,
    readUtf_end _, fun _ => rfl⟩

def mixed : List Item :=
  [.value (.boolean true), .value (.int (-2)), .value (.string "é"), .utf "\x00😀",
    .value (.bytes [0, 255]), .value (.double ⟨0x7ff8000000000001⟩), .value (.char 0xd800)]

theorem readItems_writeItems_mixed :
    (∀ item ∈ mixed, item.Sound) ∧
      ∃ written read, writeItems (writing []) mixed = .ok written ∧
        readItems written.reset (mixed.map Item.readCall) = .ok (mixed.map some, read) ∧
        read.position = written.data.length := by
  have h : ∀ item ∈ mixed, item.Sound := by decide
  obtain ⟨written, read, hwritten, hread, -, hposition, -⟩ := readItems_writeItems h
  exact ⟨h, written, read, hwritten, hread, hposition⟩

end Messaging.BytesBody
