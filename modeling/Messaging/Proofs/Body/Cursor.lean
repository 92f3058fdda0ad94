import Messaging.Proofs.Body.Bytes
import Messaging.Proofs.Body.Memory
import Mathlib.Data.List.Forall2

/-!
# Bytes bodies in memory

In memory a bytes body is its content, a cursor and a mode.  Reads take slices of the content, some
of them without a look at its length, and a read of a text with a length moves the cursor before it
knows that there is a text.  Main statement: no call of any sequence takes a slice that is not
there, a call that fails changes nothing, and the reads after a reset take the content slice by
slice from its start.
-/

namespace Messaging

/-! ## Scalars as words -/

namespace Scalar

def width : Scalar → Nat
  | boolean | byte => 1
  | char | short => 2
  | int | float => 4
  | long | double => 8

def ofWord (t : Scalar) (n : Nat) : Value :=
  match t with
  | boolean => .boolean (n != 0)
  | byte => .byte (Int8.ofNat n)
  | char => .char (UInt16.ofNat n)
  | short => .short (Int16.ofNat n)
  | int => .int (Int32.ofNat n)
  | long => .long (Int64.ofNat n)
  | float => .float ⟨UInt32.ofNat n⟩
  | double => .double ⟨UInt64.ofNat n⟩

end Scalar

namespace BytesBody

open Memory Text

theorem readScalar_eq (t : Scalar) (b : BytesBody) :
    b.readScalar t = (b.take t.width).map (Prod.map (t.ofWord ∘ Word.decode) id) := by
  cases t <;>
    · simp only [readScalar, readBoolean, readByte, readChar, readShort, readInt, readLong,
        readFloat, readDouble, takeWord, Scalar.width]
      cases b.take _ <;> rfl

/-! ## Calls -/

inductive Call where
  | reset
  | clear
  | length
  | write (item : Item)
  | read (r : ReadCall)
  deriving DecidableEq, Repr

inductive Answer where
  | done
  | length (n : Nat)
  | item (found : Option Item)
  deriving DecidableEq, Repr

def perform (c : Call) (b : BytesBody) : Except Error (Answer × BytesBody) :=
  match c with
  | .reset => .ok (.done, b.reset)
  | .clear => .ok (.done, b.clear)
  | .length => b.length.map fun n => (.length n, b)
  | .write item => (b.writeItem item).map fun b => (.done, b)
  | .read r => (b.readItem r).map (Prod.map .item id)

/-! ## Memory -/

structure Layout where
  data : List UInt8
  position : Nat
  readable : Bool
  deriving DecidableEq, Repr

def layout (b : BytesBody) : Layout := ⟨b.data, b.position, b.isReadable⟩

namespace Layout

/-- The slice from the cursor on, of whatever is there. -/
def rest (l : Layout) : Except Halt (List UInt8) :=
  if l.position ≤ l.data.length then .ok (l.data.drop l.position) else .error .outOfRange

def slice? (n : Nat) (l : Layout) : Option (List UInt8) :=
  if l.position + n ≤ l.data.length then some ((l.data.drop l.position).take n) else none

def seek (position : Nat) (l : Layout) : Layout := { l with position }

def take (n : Nat) (l : Layout) : Except Halt (List UInt8) × Layout :=
  if l.readable then
    match l.slice? n with
    | some bytes => (.ok bytes, l.seek (l.position + n))
    | none => (.error (.failed .endOfBody), l)
  else (.error (.failed .notReadable), l)

def readBytes (size : Nat) (l : Layout) : Except Halt (Option (List UInt8)) × Layout :=
  if l.readable then
    match l.rest with
    | .error h => (.error h, l)
    | .ok remaining =>
      if remaining.isEmpty then (.ok none, l)
      else
        let n := min remaining.length size
        (.ok (some (remaining.take n)), l.seek (l.position + n))
  else (.error (.failed .notReadable), l)

def readString (l : Layout) : Except Halt String × Layout :=
  if l.readable then
    match l.rest with
    | .error h => (.error h, l)
    | .ok remaining =>
      let n := remaining.findIdx (· == 0)
      if n < remaining.length then
        match Utf8.decode (remaining.take n) with
        | .ok s => (.ok s, l.seek (l.position + n + 1))
        | .error e => (.error (.failed (.invalidUtf8 e)), l)
      else (.error (.failed .endOfBody), l)
  else (.error (.failed .notReadable), l)

/-- The length is taken first; the cursor goes back when no text follows it. -/
def readUtf (l : Layout) : Except Halt String × Layout :=
  match l.take 2 with
  | (.error h, l') => (.error h, l')
  | (.ok length, moved) =>
    let n := Word.decode length
    match moved.slice? n with
    | none => (.error (.failed .endOfBody), moved.seek l.position)
    | some encoded =>
      match decodeUtf encoded with
      | .ok s => (.ok s, moved.seek (moved.position + n))
      | .error e => (.error (.failed e), moved.seek l.position)

def read (r : ReadCall) (l : Layout) : Except Halt (Option Item) × Layout :=
  match r with
  | .scalar t => Prod.map (Except.map (some ∘ .value ∘ t.ofWord ∘ Word.decode)) id (l.take t.width)
  | .block size =>
    Prod.map (Except.map (Option.map (.value ∘ .bytes))) id (l.readBytes size)
  | .string => Prod.map (Except.map (some ∘ .value ∘ .string)) id l.readString
  | .utf => Prod.map (Except.map (some ∘ .utf)) id l.readUtf

def put (bytes : List UInt8) (l : Layout) : Except Halt Unit × Layout :=
  if l.readable then (.error (.failed .notWriteable), l)
  else (.ok (), { l with data := l.data ++ bytes })

def writeString (s : String) (l : Layout) : Except Halt Unit × Layout :=
  if l.readable then (.error (.failed .notWriteable), l)
  else if (Utf8.encode s).contains 0 then (.error (.failed .zeroInText), l)
  else (.ok (), { l with data := l.data ++ Utf8.encode s ++ [0] })

def writeUtf (s : String) (l : Layout) : Except Halt Unit × Layout :=
  let encoded := ModifiedUtf8.encode s
  if l.readable then (.error (.failed .notWriteable), l)
  else if 65535 < encoded.length then (.error (.failed .textTooLong), l)
  else (.ok (), { l with data := l.data ++ Word.encode 2 encoded.length ++ encoded })

def write (item : Item) (l : Layout) : Except Halt Unit × Layout :=
  match item with
  | .utf s => l.writeUtf s
  | .value (.string s) => l.writeString s
  | item => l.put item.encoded

def perform (c : Call) (l : Layout) : Except Halt Answer × Layout :=
  match c with
  | .reset => (.ok .done, { l with position := 0, readable := true })
  | .clear => (.ok .done, ⟨[], 0, false⟩)
  | .length =>
    if l.readable then (.ok (.length l.data.length), l) else (.error (.failed .notReadable), l)
  | .write item => Prod.map (Except.map fun _ => .done) id (l.write item)
  | .read r => Prod.map (Except.map .item) id (l.read r)

end Layout

/-! ## Agreement -/

@[simp] theorem layout_writing (data : List UInt8) : (writing data).layout = ⟨data, 0, false⟩ := rfl

@[simp] theorem layout_reading (past ahead : List UInt8) :
    (reading past ahead).layout = ⟨past ++ ahead, past.length, true⟩ := rfl

namespace Layout

@[simp] theorem seek_mk (data : List UInt8) (position position' : Nat) (readable : Bool) :
    seek position' ⟨data, position, readable⟩ = ⟨data, position', readable⟩ := rfl

@[simp] theorem rest_reading (past ahead : List UInt8) :
    rest ⟨past ++ ahead, past.length, true⟩ = .ok ahead := by
  simp [rest]

@[simp] theorem slice?_reading (past ahead : List UInt8) (n : Nat) :
    slice? n ⟨past ++ ahead, past.length, true⟩ =
      if n ≤ ahead.length then some (ahead.take n) else none := by
  simp [slice?]

end Layout

theorem agrees_take (n : Nat) : Agrees layout (Layout.take n) (take n) := by
  intro b
  cases b with
  | writing data => rfl
  | reading past ahead =>
      by_cases hn : n ≤ ahead.length <;>
        simp [Layout.take, take, keeping, hn]

theorem agrees_readBytes (size : Nat) : Agrees layout (Layout.readBytes size) (readBytes size) := by
  intro b
  cases b with
  | writing data => rfl
  | reading past ahead =>
      simp only [layout_reading, Layout.readBytes, Layout.rest_reading, readBytes, keeping]
      cases ahead with
      | nil => simp
      | cons a ahead => simp [Nat.min_comm size]

theorem ne_zero_of_not_mem {bytes : List UInt8} (h : 0 ∉ bytes) :
    ∀ b ∈ bytes, (b != 0) = true := by
  intro b hb
  simp only [bne_iff_ne]
  rintro rfl
  exact h hb

theorem findIdx_zero {encoded : List UInt8} (h : 0 ∉ encoded) (rest : List UInt8) :
    (encoded ++ 0 :: rest).findIdx (· == 0) = encoded.length := by
  induction encoded with
  | nil => simp [List.findIdx_cons]
  | cons b bs ih =>
      obtain ⟨hb, hbs⟩ : b ≠ 0 ∧ 0 ∉ bs := by simpa [eq_comm] using h
      have hb : (b == 0) = false := by simpa using hb
      simp [List.findIdx_cons, hb, ih hbs]

theorem readString_of_zero {encoded : List UInt8} (h : 0 ∉ encoded) (past rest : List UInt8) :
    (reading past (encoded ++ 0 :: rest)).readString =
      match Utf8.decode encoded with
      | .ok s => .ok (s, reading (past ++ encoded ++ [0]) rest)
      | .error e => .error (.invalidUtf8 e) := by
  have hne := ne_zero_of_not_mem h
  have htake : (encoded ++ 0 :: rest).takeWhile (· != 0) = encoded := by
    simp [List.takeWhile_append_of_pos hne]
  have hdrop : (encoded ++ 0 :: rest).dropWhile (· != 0) = 0 :: rest := by
    simp [List.dropWhile_append_of_pos hne]
  cases hdecode : Utf8.decode encoded <;> simp only [readString, hdrop, htake, hdecode]

theorem readString_of_no_zero {ahead : List UInt8} (h : 0 ∉ ahead) (past : List UInt8) :
    (reading past ahead).readString = .error .endOfBody := by
  have hdrop : ahead.dropWhile (· != 0) = [] := by
    rw [← List.append_nil ahead, List.dropWhile_append_of_pos (ne_zero_of_not_mem h)]
    rfl
  simp only [readString, hdrop]

theorem agrees_readString : Agrees layout Layout.readString readString := by
  intro b
  cases b with
  | writing data => rfl
  | reading past ahead =>
      by_cases hzero : 0 ∈ ahead
      · obtain ⟨encoded, rest, rfl, hencoded⟩ := List.eq_append_cons_of_mem hzero
        have hread := readString_of_zero hencoded past rest
        simp only [layout_reading, Layout.readString, Layout.rest_reading, findIdx_zero hencoded,
          List.take_left]
        cases hdecode : Utf8.decode encoded with
        | error e => simp [keeping, hread, hdecode]
        | ok s => simp [keeping, hread, hdecode, Nat.add_assoc]
      · have hread := readString_of_no_zero hzero past
        simp [keeping, Layout.readString, hread, hzero]

theorem take_eq_ok {n : Nat} {b b' : BytesBody} {bytes : List UInt8}
    (h : b.take n = .ok (bytes, b')) :
    bytes.length = n ∧ ∃ past rest, b = reading past (bytes ++ rest) ∧
      b' = reading (past ++ bytes) rest := by
  cases b with
  | writing data => cases h
  | reading past ahead =>
      rw [take] at h
      split at h
      next hn =>
        cases h
        exact ⟨List.length_take_of_le hn, past, ahead.drop n, by simp, rfl⟩
      next => cases h

theorem readUtf_of_take {b moved : BytesBody} {length : List UInt8}
    (h : b.take 2 = .ok (length, moved)) :
    b.readUtf = (moved.take (Word.decode length)).bind fun (encoded, b) =>
      (decodeUtf encoded).map (·, b) := by
  simp only [readUtf, takeWord, h, ok_bind]
  rfl

theorem agrees_readUtf : Agrees layout Layout.readUtf readUtf := by
  intro b
  have hlength := agrees_take 2 b
  cases htake : b.take 2 with
  | error e =>
      have hread : b.readUtf = .error e := by simp [readUtf, takeWord, htake]
      rw [keeping_of_error htake] at hlength
      simp [Layout.readUtf, hlength, keeping, hread]
  | ok found =>
      obtain ⟨length, moved⟩ := found
      rw [keeping_of_ok htake] at hlength
      have hread := readUtf_of_take htake
      obtain ⟨-, past, rest, rfl, rfl⟩ := take_eq_ok htake
      rw [Layout.readUtf, hlength]
      simp only [layout_reading, Layout.slice?_reading, mapError_ok]
      by_cases hn : Word.decode length ≤ rest.length
      · cases hdecode : decodeUtf (rest.take (Word.decode length)) <;>
          simp [hread, take, hn, hdecode, keeping, Except.bind, Except.map, Nat.add_assoc]
      · simp [hread, take, hn, keeping, Except.bind]

theorem agrees_read (r : ReadCall) : Agrees layout (Layout.read r) (readItem · r) := by
  cases r with
  | scalar t =>
      have h := (agrees_take t.width).map (some ∘ Item.value ∘ t.ofWord ∘ Word.decode)
      intro b
      simp only [readItem, readScalar_eq, map_map]
      exact h b
  | block size => exact (agrees_readBytes size).map (Option.map (Item.value ∘ Value.bytes))
  | string => exact agrees_readString.map (some ∘ Item.value ∘ Value.string)
  | utf => exact agrees_readUtf.map (some ∘ Item.utf)

theorem zero_mem_encode_iff (s : String) : 0 ∈ Utf8.encode s ↔ Char.ofNat 0 ∈ s.toList := by
  constructor
  · intro hzero
    apply Decidable.byContradiction
    intro h
    exact Utf8.ne_zero_of_mem_encode h 0 hzero rfl
  · intro h
    exact List.mem_flatMap.mpr ⟨_, h, by decide⟩

theorem agrees_write (item : Item) :
    Agrees layout (Layout.write item) fun b => (b.writeItem item).map fun b => ((), b) := by
  intro b
  cases item with
  | utf s =>
      cases b with
      | reading past ahead => rfl
      | writing data =>
          by_cases hlong : 65535 < (ModifiedUtf8.encode s).length <;>
            simp [Layout.write, Layout.writeUtf, writeItem, writeUtf, isReadable, put, keeping,
              Except.map, hlong]
  | value v =>
      cases v with
      | string s =>
          cases b with
          | reading past ahead => rfl
          | writing data =>
              by_cases hs : Char.ofNat 0 ∈ s.toList <;>
                simp [Layout.write, Layout.writeString, writeItem, write, writeString, isReadable,
                  put, keeping, Except.map, zero_mem_encode_iff, hs]
      | boolean | byte | char | short | int | long | float | double | bytes =>
          cases b <;> rfl

theorem agrees_perform (c : Call) : Agrees layout (Layout.perform c) (perform c) := by
  cases c with
  | reset => rintro (content | ⟨past, ahead⟩) <;> rfl
  | clear => exact fun b => rfl
  | length => rintro (content | ⟨past, ahead⟩) <;> rfl
  | write item =>
      have h := (agrees_write item).map fun _ => Answer.done
      simp only [map_map] at h
      exact h
  | read r => exact (agrees_read r).map Answer.item

/-! ## What a read takes -/

/-- A read answers with what a slice of the content stands for; at the end a block is none. -/
inductive Takes : ReadCall → Option Item → List UInt8 → Prop where
  | scalar {t : Scalar} {slice : List UInt8} (h : slice.length = t.width) :
      Takes (.scalar t) (some (.value (t.ofWord (Word.decode slice)))) slice
  | block {size : Nat} {slice : List UInt8} (h : slice.length ≤ size) :
      Takes (.block size) (some (.value (.bytes slice))) slice
  | nothing (size : Nat) : Takes (.block size) none []
  | string {encoded : List UInt8} {s : String} (hzero : 0 ∉ encoded)
      (h : Utf8.decode encoded = .ok s) :
      Takes .string (some (.value (.string s))) (encoded ++ [0])
  | utf {length encoded : List UInt8} {s : String} (hwidth : length.length = 2)
      (hlength : Word.decode length = encoded.length) (h : decodeUtf encoded = .ok s) :
      Takes .utf (some (.utf s)) (length ++ encoded)

theorem takes_of_readItem {r : ReadCall} {b b' : BytesBody} {found : Option Item}
    (h : b.readItem r = .ok (found, b')) :
    ∃ past slice rest, b = reading past (slice ++ rest) ∧ b' = reading (past ++ slice) rest ∧
      Takes r found slice := by
  cases r with
  | scalar t =>
      rw [readItem, readScalar_eq, map_map] at h
      obtain ⟨⟨slice, moved⟩, htake, heq⟩ := map_eq_ok.mp h
      cases heq
      obtain ⟨hlength, past, rest, rfl, rfl⟩ := take_eq_ok htake
      exact ⟨past, slice, rest, rfl, rfl, .scalar hlength⟩
  | block size =>
      obtain ⟨⟨block, moved⟩, hread, heq⟩ := map_eq_ok.mp h
      cases heq
      cases b with
      | writing data => cases hread
      | reading past ahead =>
          cases ahead with
          | nil =>
              cases hread
              exact ⟨past, [], [], rfl, by simp, .nothing size⟩
          | cons a ahead =>
              cases hread
              refine ⟨past, (a :: ahead).take size, (a :: ahead).drop size, ?_, rfl, .block ?_⟩
              · rw [List.take_append_drop]
              · exact List.length_take_le size _
  | string =>
      obtain ⟨⟨s, moved⟩, hread, heq⟩ := map_eq_ok.mp h
      cases heq
      cases b with
      | writing data => cases hread
      | reading past ahead =>
          by_cases hzero : 0 ∈ ahead
          · obtain ⟨encoded, rest, rfl, hencoded⟩ := List.eq_append_cons_of_mem hzero
            rw [readString_of_zero hencoded] at hread
            cases hdecode : Utf8.decode encoded with
            | error e => simp [hdecode] at hread
            | ok s' =>
                simp only [hdecode, Except.ok.injEq, Prod.mk.injEq] at hread
                obtain ⟨rfl, rfl⟩ := hread
                exact ⟨past, encoded ++ [0], rest, by simp, by simp, .string hencoded hdecode⟩
          · rw [readString_of_no_zero hzero] at hread
            cases hread
  | utf =>
      obtain ⟨⟨s, moved⟩, hread, heq⟩ := map_eq_ok.mp h
      cases heq
      obtain ⟨⟨n, b₁⟩, hword, hread⟩ := bind_eq_ok.mp hread
      obtain ⟨⟨encoded, b₂⟩, htext, hread⟩ := bind_eq_ok.mp hread
      obtain ⟨s', hdecode, hread⟩ := bind_eq_ok.mp hread
      cases hread
      obtain ⟨⟨length, b₃⟩, hlength, hword⟩ := bind_eq_ok.mp hword
      cases hword
      obtain ⟨hwidth, past, rest, rfl, rfl⟩ := take_eq_ok hlength
      obtain ⟨hn, past', rest', heq, rfl⟩ := take_eq_ok htext
      cases heq
      exact ⟨past, length ++ encoded, rest', by simp, by simp, .utf hwidth hn.symm hdecode⟩

/-! ## Sequences of calls -/

theorem readItem_writing (r : ReadCall) (data : List UInt8) :
    (writing data).readItem r = .error .notReadable := by
  cases r with
  | scalar t => cases t <;> rfl
  | block | string | utf => rfl

theorem writeItem_reading (item : Item) (past ahead : List UInt8) :
    (reading past ahead).writeItem item = .error .notWriteable := by
  cases item with
  | utf s => rfl
  | value v => cases v <;> rfl

theorem writing_of_writeItem {item : Item} {data : List UInt8} {b : BytesBody}
    (h : (writing data).writeItem item = .ok b) : ∃ data', b = writing data' := by
  cases item with
  | utf s =>
      simp only [writeItem, writeUtf, isReadable, Bool.false_eq_true, if_false] at h
      split at h
      next => cases h
      next =>
        cases h
        exact ⟨_, rfl⟩
  | value v =>
      cases v with
      | string s =>
          simp only [writeItem, write, writeString, isReadable, Bool.false_eq_true, if_false] at h
          split at h
          next => cases h
          next =>
            cases h
            exact ⟨_, rfl⟩
      | boolean | byte | char | short | int | long | float | double | bytes =>
          cases h
          exact ⟨_, rfl⟩

theorem step_writing {c : Call} (hc : c ≠ .reset) (data : List UInt8) :
    ∃ data', (keeping (perform c) (writing data)).2 = writing data' := by
  cases c with
  | reset => exact absurd rfl hc
  | clear => exact ⟨[], rfl⟩
  | length => exact ⟨data, rfl⟩
  | read r =>
      refine ⟨data, ?_⟩
      simp [keeping, perform, readItem_writing, Except.map]
  | write item =>
      cases hwrite : (writing data).writeItem item with
      | error e =>
          refine ⟨data, ?_⟩
          simp [keeping, perform, hwrite, Except.map]
      | ok b =>
          obtain ⟨data', rfl⟩ := writing_of_writeItem hwrite
          refine ⟨data', ?_⟩
          simp [keeping, perform, hwrite, Except.map]

theorem step_reading {c : Call} (hc : c ≠ .clear) (past ahead : List UInt8) :
    ∃ past' ahead', (keeping (perform c) (reading past ahead)).2 = reading past' ahead' ∧
      past' ++ ahead' = past ++ ahead := by
  cases c with
  | clear => exact absurd rfl hc
  | reset => exact ⟨[], past ++ ahead, rfl, rfl⟩
  | length => exact ⟨past, ahead, rfl, rfl⟩
  | write item =>
      refine ⟨past, ahead, ?_, rfl⟩
      simp [keeping, perform, writeItem_reading, Except.map]
  | read r =>
      cases hread : (reading past ahead).readItem r with
      | error e =>
          refine ⟨past, ahead, ?_, rfl⟩
          simp [keeping, perform, hread, Except.map]
      | ok found =>
          obtain ⟨past', slice, rest, heq, hmoved, -⟩ := takes_of_readItem hread
          cases heq
          refine ⟨past ++ slice, rest, ?_, List.append_assoc ..⟩
          simp [keeping, perform, hread, hmoved, Except.map]

theorem data_step {c : Call} (hc : c ≠ .clear) (past ahead : List UInt8) :
    (keeping (perform c) (reading past ahead)).2.data = past ++ ahead := by
  obtain ⟨past', ahead', hstep, hdata⟩ := step_reading hc past ahead
  rw [hstep]
  exact hdata

def reads (answers : List (Call × Answer)) : List (ReadCall × Option Item) :=
  answers.filterMap fun
    | (.read r, .item found) => some (r, found)
    | _ => none

def Take (found : List (ReadCall × Option Item)) (slices : List (List UInt8)) : Prop :=
  List.Forall₂ (fun p slice => Takes p.1 p.2 slice) found slices

/--
The reads since a reset took slices in a row from the start of the content, and the cursor is
behind them while the body is read.
-/
def Taken (content : List UInt8) (found : List (ReadCall × Option Item)) (b : BytesBody) : Prop :=
  ∃ slices, Take found slices ∧ slices.flatten <+: content ∧
    ∀ past ahead, b = reading past ahead → past = slices.flatten ∧ past ++ ahead = content

theorem taken_reset (b : BytesBody) : Taken b.data [] b.reset := by
  refine ⟨[], .nil, List.nil_prefix, fun past ahead h => ?_⟩
  cases h
  exact ⟨rfl, rfl⟩

theorem Taken.step {content : List UInt8} {found : List (Call × Answer)} {b b' : BytesBody}
    {c : Call} {a : Answer} (hreset : c ≠ .reset) (h : Taken content (reads found) b)
    (hperform : perform c b = .ok (a, b')) : Taken content (reads (found ++ [(c, a)])) b' := by
  have hsplit : reads (found ++ [(c, a)]) = reads found ++ reads [(c, a)] := by simp [reads]
  rw [hsplit]
  obtain ⟨slices, htake, hprefix, hplace⟩ := h
  cases c with
  | reset => exact absurd rfl hreset
  | clear =>
      cases hperform
      exact ⟨slices, by simpa [reads] using htake, hprefix, nofun⟩
  | length =>
      obtain ⟨n, -, heq⟩ := map_eq_ok.mp hperform
      cases heq
      exact ⟨slices, by simpa [reads] using htake, hprefix, hplace⟩
  | write item =>
      obtain ⟨written, hwrite, heq⟩ := map_eq_ok.mp hperform
      cases heq
      cases b with
      | reading past ahead => simp [writeItem_reading] at hwrite
      | writing data =>
          obtain ⟨data', rfl⟩ := writing_of_writeItem hwrite
          exact ⟨slices, by simpa [reads] using htake, hprefix, nofun⟩
  | read r =>
      obtain ⟨⟨item, moved⟩, hread, heq⟩ := map_eq_ok.mp hperform
      cases heq
      obtain ⟨past, slice, rest, rfl, rfl, htakes⟩ := takes_of_readItem hread
      obtain ⟨rfl, hcontent⟩ := hplace _ _ rfl
      have hflat : (slices ++ [slice]).flatten = slices.flatten ++ slice := by simp
      refine ⟨slices ++ [slice], List.rel_append htake (.cons htakes .nil), ?_, ?_⟩
      · exact ⟨rest, by rw [hflat, List.append_assoc, hcontent]⟩
      · intro past ahead h
        cases h
        exact ⟨hflat.symm, by rw [List.append_assoc, hcontent]⟩

theorem Taken.run {content : List UInt8} {b : BytesBody} (h : Taken content [] b)
    {calls : List Call} (hreset : .reset ∉ calls) :
    Taken content (reads (answered (fun c => keeping (perform c)) calls b))
      (after (fun c => keeping (perform c)) calls b) := by
  have hstart : Taken content (reads []) b := h
  refine answered_keeps (P := fun found b' => Taken content (reads found) b') ?_ hstart
  intro c hc found b₁ a b₂ htaken
  exact htaken.step fun h => hreset (h ▸ hc)

theorem run_reading {calls : List Call} (hclear : .clear ∉ calls) (past ahead : List UInt8) :
    ∃ past' ahead',
      after (fun c => keeping (perform c)) calls (reading past ahead) = reading past' ahead' := by
  refine after_keeps_of_mem _ (P := fun b => ∃ past ahead, b = reading past ahead) ?_
    ⟨past, ahead, rfl⟩
  rintro c hc _ ⟨past, ahead, rfl⟩
  obtain ⟨past', ahead', hstep, -⟩ := step_reading (fun h => hclear (h ▸ hc)) past ahead
  exact ⟨past', ahead', hstep⟩

/-! ## Blocks -/

def blockReads (sizes : Nat → Nat) (count : Nat) : List Call :=
  inBlocks (fun size => .read (.block size)) sizes count

theorem usesUp_content (content : List UInt8) :
    UsesUp (fun c => keeping (perform c)) (fun size => .read (.block size))
      (fun found => .item (found.map (.value ∘ .bytes)))
      (fun rest b => ∃ past, b = reading past rest ∧ past ++ rest = content)
      (reading content []) where
  next := by
    rintro size rest _ hrest ⟨past, rfl, hcontent⟩
    obtain ⟨byte, rest, rfl⟩ := List.exists_cons_of_ne_nil hrest
    refine ⟨_, rfl, _, rfl, ?_⟩
    simpa using hcontent
  done := by
    rintro size _ ⟨past, rfl, hcontent⟩
    obtain rfl : past = content := by simpa using hcontent
    rfl

/-! ## Discipline -/

structure Layout.Disciplined (l : Layout) : Prop where
  within : l.position ≤ l.data.length
  start : l.readable = false → l.position = 0
  inRange : ∀ c, (l.perform c).1 ≠ .error .outOfRange
  kept : l.readable → ∀ c ≠ .clear, (l.perform c).2.data = l.data
  failed : ∀ c h, (l.perform c).1 = .error h → (l.perform c).2 = l
  /-- Whatever is called up to the next reset, the reads take slices in a row from the start. -/
  consecutive : ∀ calls, .reset ∉ calls → ∃ slices,
    Take (reads (answered perform (.reset :: calls) l)) slices ∧ slices.flatten <+: l.data ∧
      (.clear ∉ calls →
        slices.flatten = l.data.take (after perform (.reset :: calls) l).position)
  drained : l.readable → ∀ sizes : Nat → Nat, (∀ i, 0 < sizes i) →
    ∃ blocks : List (List UInt8), blocks.flatten = l.data.drop l.position ∧
      outcomes perform (blockReads sizes (blocks.length + 1)) l =
        blocks.map (fun block => .ok (.item (some (.value (.bytes block))))) ++ [.ok (.item none)]

theorem disciplined_layout (b : BytesBody) : b.layout.Disciplined where
  within := by cases b <;> simp
  start := by cases b <;> simp
  inRange := by
    intro c h
    exact (agrees_perform c).of_error h |>.1 rfl
  failed := by
    intro c h hfailed
    exact (agrees_perform c).of_error hfailed |>.2
  kept := by
    intro hreadable c hc
    cases b with
    | writing data => cases hreadable
    | reading past ahead =>
        rw [agrees_perform c]
        exact data_step hc past ahead
  consecutive := by
    intro calls hreset
    obtain ⟨slices, htake, hprefix, hplace⟩ := (taken_reset b).run hreset
    rw [answered_layout agrees_perform, after_layout agrees_perform]
    refine ⟨slices, htake, hprefix, fun hclear => ?_⟩
    obtain ⟨past, ahead, hafter⟩ := run_reading hclear [] b.data
    obtain ⟨rfl, hcontent⟩ := hplace past ahead hafter
    have hrun : after (fun c => keeping (perform c)) (.reset :: calls) b =
        reading slices.flatten ahead := hafter
    have hdata : b.layout.data = slices.flatten ++ ahead := hcontent.symm
    rw [hrun, hdata]
    simp
  drained := by
    intro hreadable sizes hsizes
    cases b with
    | writing data => cases hreadable
    | reading past ahead =>
        obtain ⟨blocks, hflat, houtcomes, -⟩ :=
          (usesUp_content (past ++ ahead)).blocks hsizes ⟨past, rfl, rfl⟩
        refine ⟨blocks, by simpa using hflat, ?_⟩
        rw [outcomes_layout agrees_perform, blockReads, houtcomes]
        simp

/--
Calls on a bytes body in memory end as they end on the body, and leave the same body in memory,
which keeps its cursor in the content, changes nothing in a call that fails, and gives its content
slice by slice to the reads.
-/
theorem cursor_discipline (initial : List UInt8) (calls : List Call) :
    outcomes Layout.perform calls ⟨initial, 0, false⟩ =
        (outcomes (fun c => keeping (perform c)) calls (ofBytes initial)).map
          (·.mapError .failed) ∧
      after Layout.perform calls ⟨initial, 0, false⟩ =
        (after (fun c => keeping (perform c)) calls (ofBytes initial)).layout ∧
      (after Layout.perform calls ⟨initial, 0, false⟩).Disciplined := by
  have hafter := after_layout agrees_perform calls (ofBytes initial)
  refine ⟨outcomes_layout agrees_perform calls (ofBytes initial), hafter, ?_⟩
  rw [show Layout.mk initial 0 false = (ofBytes initial).layout from rfl, hafter]
  apply disciplined_layout

def shortText : List UInt8 := [0, 1, 65, 0, 2, 66]

theorem cursor_discipline_shortText :
    outcomes Layout.perform [.reset, .read .utf, .read .utf] ⟨shortText, 0, false⟩ =
        [.ok .done, .ok (.item (some (.utf "A"))), .error (.failed .endOfBody)] ∧
      after Layout.perform [.reset, .read .utf, .read .utf] ⟨shortText, 0, false⟩ =
        ⟨shortText, 3, true⟩ ∧
      ∃ blocks : List (List UInt8), blocks.flatten = [0, 2, 66] ∧
        outcomes Layout.perform (blockReads (fun i => i + 1) (blocks.length + 1))
            ⟨shortText, 3, true⟩ =
          blocks.map (fun block => .ok (.item (some (.value (.bytes block))))) ++
            [.ok (.item none)] := by
  obtain ⟨-, -, hdisciplined⟩ := cursor_discipline shortText [.reset, .read .utf, .read .utf]
  have hafter : after Layout.perform [.reset, .read .utf, .read .utf] ⟨shortText, 0, false⟩ =
      ⟨shortText, 3, true⟩ := rfl
  rw [hafter] at hdisciplined
  exact ⟨rfl, hafter, hdisciplined.drained rfl (fun i => i + 1) Nat.succ_pos⟩

end BytesBody

end Messaging
