import Messaging.Body.Stream
import Messaging.Proofs.Body.Memory
import Messaging.Proofs.Outcome
import Mathlib.Data.List.Forall2

/-!
# Stream bodies in memory

In memory a stream body is its values, a cursor, an offset into the value under the cursor while
that is read in chunks, and a mode.  Main statement: the cursor and the offset stay in bounds, a
call that fails changes nothing, and the reads after a reset deal with field after field, a byte
array chunk by chunk up to the read that finds nothing left of it.
-/

namespace Messaging.StreamBody

open Memory

/-! ## Calls -/

/-- What a read takes a field for, a byte array aside. -/
inductive Kind where
  | scalar (t : Scalar)
  | string
  deriving DecidableEq, Repr

def Kind.convert : Kind → Value → Except Error Value
  | scalar t, v => v.asScalar t
  | string, v => v.asString.map .string

inductive ReadCall where
  | field (k : Kind)
  | block (size : Nat)
  deriving DecidableEq, Repr

inductive Call where
  | reset
  | clear
  | size
  | write (v : Value)
  | read (r : ReadCall)
  deriving DecidableEq, Repr

inductive Answer where
  | done
  | size (n : Nat)
  | value (v : Value)
  | chunk (found : Option (List UInt8))
  deriving DecidableEq, Repr

def readKind (k : Kind) (b : StreamBody) : Except Error (Value × StreamBody) :=
  match k with
  | .scalar t => b.readScalar t
  | .string => b.readString.map (Prod.map .string id)

def readField (r : ReadCall) (b : StreamBody) : Except Error (Answer × StreamBody) :=
  match r with
  | .field k => (b.readKind k).map (Prod.map .value id)
  | .block size => (b.readBytes size).map (Prod.map .chunk id)

def perform (c : Call) (b : StreamBody) : Except Error (Answer × StreamBody) :=
  match c with
  | .reset => .ok (.done, b.reset)
  | .clear => .ok (.done, b.clear)
  | .size => .ok (.size b.size, b)
  | .write v => (b.write v).map fun b => (.done, b)
  | .read r => b.readField r

/-! ## Memory -/

structure Layout where
  values : List Value
  cursor : Nat
  /-- How much is read of the byte array under the cursor, while it is read in chunks. -/
  offset : Option Nat
  readable : Bool
  deriving DecidableEq, Repr

def layout : StreamBody → Layout
  | writing values => ⟨values, 0, none, false⟩
  | reading past ahead => ⟨past ++ ahead, past.length, none, true⟩
  | chunked past taken rest ahead =>
    ⟨past ++ .bytes (taken ++ rest) :: ahead, past.length, some taken.length, true⟩

namespace Layout

def read (as : Value → Except Error α) (l : Layout) : Except Halt α × Layout :=
  if l.readable then
    if l.offset.isSome then (.error (.failed .partlyRead), l)
    else
      match l.values[l.cursor]? with
      | none => (.error (.failed .endOfBody), l)
      | some v =>
        match as v with
        | .error e => (.error (.failed e), l)
        | .ok a => (.ok a, { l with cursor := l.cursor + 1 })
  else (.error (.failed .notReadable), l)

def readBytes (size : Nat) (l : Layout) : Except Halt (Option (List UInt8)) × Layout :=
  if l.readable then
    match l.values[l.cursor]? with
    | none => (.error (.failed .endOfBody), l)
    | some v =>
      match v.asBytes with
      | .error e => (.error (.failed e), l)
      | .ok bytes =>
        let offset := l.offset.getD 0
        if bytes.length ≤ offset then (.ok none, { l with cursor := l.cursor + 1, offset := none })
        else
          let n := min (bytes.length - offset) size
          if offset + n ≤ bytes.length then
            (.ok (some ((bytes.drop offset).take n)), { l with offset := some (offset + n) })
          else (.error .outOfRange, l)
  else (.error (.failed .notReadable), l)

def perform (c : Call) (l : Layout) : Except Halt Answer × Layout :=
  match c with
  | .reset => (.ok .done, { l with cursor := 0, offset := none, readable := true })
  | .clear => (.ok .done, ⟨[], 0, none, false⟩)
  | .size => (.ok (.size l.values.length), l)
  | .write v =>
    if l.readable then (.error (.failed .notWriteable), l)
    else (.ok .done, { l with values := l.values ++ [v] })
  | .read (.field k) => Prod.map (Except.map .value) id (l.read k.convert)
  | .read (.block size) => Prod.map (Except.map .chunk) id (l.readBytes size)

end Layout

/-! ## Agreement -/

theorem readKind_eq (k : Kind) : readKind k = read k.convert := by
  funext b
  cases k with
  | scalar t => rfl
  | string =>
      cases b with
      | writing | chunked => rfl
      | reading past ahead =>
          cases ahead with
          | nil => rfl
          | cons v ahead =>
              cases h : v.asString <;>
                simp [readKind, readString, read, Kind.convert, h, Except.map]

theorem agrees_read (as : Value → Except Error α) :
    Agrees layout (Layout.read as) (read as) := by
  intro b
  cases b with
  | writing | chunked => rfl
  | reading past ahead =>
      cases ahead with
      | nil => simp [layout, Layout.read, read, keeping]
      | cons v ahead =>
          cases h : as v <;>
            simp [layout, Layout.read, read, keeping, h, pure, Except.pure]

namespace Layout

theorem readBytes_array {l : Layout} (hreadable : l.readable) {bytes : List UInt8}
    (hfield : l.values[l.cursor]? = some (.bytes bytes)) (size : Nat) :
    l.readBytes size =
      if bytes.length ≤ l.offset.getD 0 then
        (.ok none, { l with cursor := l.cursor + 1, offset := none })
      else
        (.ok (some ((bytes.drop (l.offset.getD 0)).take size)),
          { l with offset := some (min (l.offset.getD 0 + size) bytes.length) }) := by
  simp only [readBytes, hreadable, hfield, if_true, Value.asBytes]
  split
  next => rfl
  next hleft =>
    have hin : l.offset.getD 0 + min (bytes.length - l.offset.getD 0) size ≤ bytes.length := by
      omega
    have hend : l.offset.getD 0 + min (bytes.length - l.offset.getD 0) size =
        min (l.offset.getD 0 + size) bytes.length := by
      omega
    have htake : (bytes.drop (l.offset.getD 0)).take (min (bytes.length - l.offset.getD 0) size) =
        (bytes.drop (l.offset.getD 0)).take size := by
      rw [List.take_eq_take_min (i := size), List.length_drop, Nat.min_comm size]
    rw [if_pos hin, hend, htake]

end Layout

theorem agrees_readBytes (size : Nat) :
    Agrees layout (Layout.readBytes size) (readBytes size) := by
  intro b
  cases b with
  | writing values => rfl
  | chunked past taken rest ahead =>
      have hfield : (chunked past taken rest ahead).layout.values[past.length]? =
          some (.bytes (taken ++ rest)) := by
        simp [layout]
      rw [Layout.readBytes_array rfl hfield]
      cases rest with
      | nil => simp [layout, readBytes, keeping]
      | cons byte rest =>
          have hleft : ¬ taken.length + (rest.length + 1) ≤ taken.length := by omega
          simp [layout, readBytes, keeping, hleft]
  | reading past ahead =>
      cases ahead with
      | nil => simp [layout, Layout.readBytes, readBytes, keeping]
      | cons v ahead =>
          cases v with
          | bytes bytes =>
              have hfield : (reading past (.bytes bytes :: ahead)).layout.values[past.length]? =
                  some (.bytes bytes) := by
                simp [layout]
              rw [Layout.readBytes_array rfl hfield]
              cases bytes <;>
                simp [layout, readBytes, keeping, Value.asBytes, pure, Except.pure]
          | boolean | byte | char | short | int | long | float | double | string =>
              simp [layout, Layout.readBytes, readBytes, keeping, Value.asBytes]

theorem agrees_readField (r : ReadCall) :
    Agrees layout (Layout.perform (.read r)) (readField r) := by
  cases r with
  | field k =>
      have h := (agrees_read k.convert).map Answer.value
      rw [← readKind_eq] at h
      exact h
  | block size => exact (agrees_readBytes size).map Answer.chunk

theorem agrees_perform (c : Call) : Agrees layout (Layout.perform c) (perform c) := by
  cases c with
  | reset => rintro (values | ⟨past, ahead⟩ | ⟨past, taken, rest, ahead⟩) <;> rfl
  | clear => exact fun b => rfl
  | size => rintro (values | ⟨past, ahead⟩ | ⟨past, taken, rest, ahead⟩) <;> rfl
  | write v => rintro (values | ⟨past, ahead⟩ | ⟨past, taken, rest, ahead⟩) <;> rfl
  | read r => exact agrees_readField r

/-! ## What a read does -/

theorem read_eq_ok {α : Type} {as : Value → Except Error α} {b b' : StreamBody} {a : α}
    (h : b.read as = .ok (a, b')) :
    ∃ past v ahead, b = reading past (v :: ahead) ∧ as v = .ok a ∧
      b' = reading (past ++ [v]) ahead := by
  cases b with
  | writing | chunked => cases h
  | reading past ahead =>
      cases ahead with
      | nil => cases h
      | cons v ahead =>
          obtain ⟨a', has, hread⟩ := bind_eq_ok.mp h
          cases hread
          exact ⟨past, v, ahead, rfl, has, rfl⟩

inductive ReadsBytes (size : Nat) : StreamBody → Option (List UInt8) → StreamBody → Prop where
  | empty (past ahead : List Value) :
      ReadsBytes size (reading past (.bytes [] :: ahead)) none
        (reading (past ++ [.bytes []]) ahead)
  | first (past : List Value) {bytes : List UInt8} (h : bytes ≠ []) (ahead : List Value) :
      ReadsBytes size (reading past (.bytes bytes :: ahead)) (some (bytes.take size))
        (chunked past (bytes.take size) (bytes.drop size) ahead)
  | next (past : List Value) (taken : List UInt8) {rest : List UInt8} (h : rest ≠ [])
      (ahead : List Value) :
      ReadsBytes size (chunked past taken rest ahead) (some (rest.take size))
        (chunked past (taken ++ rest.take size) (rest.drop size) ahead)
  | last (past : List Value) (taken : List UInt8) (ahead : List Value) :
      ReadsBytes size (chunked past taken [] ahead) none (reading (past ++ [.bytes taken]) ahead)

theorem readBytes_eq_ok {size : Nat} {b b' : StreamBody} {found : Option (List UInt8)} :
    b.readBytes size = .ok (found, b') ↔ ReadsBytes size b found b' := by
  constructor
  · intro h
    cases b with
    | writing values => cases h
    | chunked past taken rest ahead =>
        cases rest with
        | nil =>
            cases h
            exact .last past taken ahead
        | cons byte rest =>
            cases h
            exact .next past taken (List.cons_ne_nil byte rest) ahead
    | reading past ahead =>
        cases ahead with
        | nil => cases h
        | cons v ahead =>
            obtain ⟨bytes, has, hread⟩ := bind_eq_ok.mp h
            cases v <;> cases has
            cases bytes with
            | nil =>
                cases hread
                exact .empty past ahead
            | cons byte bytes =>
                cases hread
                exact .first past (List.cons_ne_nil byte bytes) ahead
  · intro h
    cases h with
    | empty | last => rfl
    | first past hbytes ahead =>
        obtain ⟨byte, bytes, rfl⟩ := List.exists_cons_of_ne_nil hbytes
        rfl
    | next past taken hrest ahead =>
        obtain ⟨byte, rest, rfl⟩ := List.exists_cons_of_ne_nil hrest
        rfl

inductive ReadsField : ReadCall → StreamBody → Answer → StreamBody → Prop where
  | field {k : Kind} {v converted : Value} (h : k.convert v = .ok converted)
      (past ahead : List Value) :
      ReadsField (.field k) (reading past (v :: ahead)) (.value converted)
        (reading (past ++ [v]) ahead)
  | block {size : Nat} {b b' : StreamBody} {found : Option (List UInt8)}
      (h : ReadsBytes size b found b') : ReadsField (.block size) b (.chunk found) b'

theorem readsField_of_readField {r : ReadCall} {b b' : StreamBody} {a : Answer}
    (h : b.readField r = .ok (a, b')) : ReadsField r b a b' := by
  cases r with
  | field k =>
      obtain ⟨⟨converted, moved⟩, hkind, heq⟩ := map_eq_ok.mp h
      cases heq
      rw [readKind_eq] at hkind
      obtain ⟨past, v, ahead, rfl, hconvert, rfl⟩ := read_eq_ok hkind
      exact .field hconvert past ahead
  | block size =>
      obtain ⟨⟨block, moved⟩, hbytes, heq⟩ := map_eq_ok.mp h
      cases heq
      exact .block (readBytes_eq_ok.mp hbytes)

/-! ## What a call does -/

theorem readField_writing (r : ReadCall) (values : List Value) :
    (writing values).readField r = .error .notReadable := by
  cases r with
  | field k => cases k <;> rfl
  | block => rfl

theorem write_of_readable {b : StreamBody} (hb : b.layout.readable = true) (v : Value) :
    b.write v = .error .notWriteable := by
  cases b with
  | writing => cases hb
  | reading | chunked => rfl

theorem step_writing {c : Call} (hc : c ≠ .reset) (values : List Value) :
    ∃ values', (keeping (perform c) (writing values)).2 = writing values' := by
  cases c with
  | reset => exact absurd rfl hc
  | clear => exact ⟨[], rfl⟩
  | size => exact ⟨values, rfl⟩
  | write v => exact ⟨values ++ [v], rfl⟩
  | read r =>
      refine ⟨values, ?_⟩
      simp [keeping, perform, readField_writing]

theorem ReadsField.keeps {r : ReadCall} {b b' : StreamBody} {a : Answer} (h : ReadsField r b a b') :
    b'.layout.readable = true ∧ b'.values = b.values := by
  cases h with
  | field => exact ⟨rfl, by simp [values]⟩
  | block hbytes => cases hbytes <;> exact ⟨rfl, by simp [values]⟩

theorem step_readable {c : Call} (hc : c ≠ .clear) {b : StreamBody}
    (hb : b.layout.readable = true) :
    (keeping (perform c) b).2.layout.readable = true ∧
      (keeping (perform c) b).2.values = b.values := by
  cases hperform : perform c b with
  | error e =>
      rw [keeping_of_error hperform]
      exact ⟨hb, rfl⟩
  | ok result =>
      obtain ⟨a, b'⟩ := result
      rw [keeping_of_ok hperform]
      cases c with
      | clear => exact absurd rfl hc
      | reset =>
          cases hperform
          exact ⟨rfl, rfl⟩
      | size =>
          cases hperform
          exact ⟨hb, rfl⟩
      | write v => simp [perform, write_of_readable hb, Except.map] at hperform
      | read r => exact (readsField_of_readField hperform).keeps

/-! ## Fields in order -/

def chunkReads (chunks : List (Nat × List UInt8)) : List (ReadCall × Answer) :=
  chunks.map fun (size, bytes) => (.block size, .chunk (some bytes))

/-- Reads that deal with a field: one that converts it, or chunks up to the end of the array. -/
inductive Whole : Value → List (ReadCall × Answer) → Prop where
  | field {k : Kind} {v a : Value} (h : k.convert v = .ok a) : Whole v [(.field k, .value a)]
  | bytes (chunks : List (Nat × List UInt8)) (last : Nat) :
      Whole (.bytes (chunks.flatMap Prod.snd))
        (chunkReads chunks ++ [(.block last, .chunk none)])

/-- The reads since a reset deal with the fields behind the cursor, and then with the array read. -/
inductive Dealt (values : List Value) : List (ReadCall × Answer) → StreamBody → Prop where
  | reading {past ahead : List Value} {done : List (List (ReadCall × Answer))}
      (hvalues : values = past ++ ahead) (hdone : List.Forall₂ Whole past done) :
      Dealt values done.flatten (.reading past ahead)
  | chunked {past ahead : List Value} {taken rest : List UInt8}
      {done : List (List (ReadCall × Answer))} (chunks : List (Nat × List UInt8))
      (htaken : chunks.flatMap Prod.snd = taken)
      (hvalues : values = past ++ .bytes (taken ++ rest) :: ahead)
      (hdone : List.Forall₂ Whole past done) :
      Dealt values (done.flatten ++ chunkReads chunks) (.chunked past taken rest ahead)

theorem forall₂_snoc {α β : Type} {R : α → β → Prop} {as : List α} {bs : List β} {a : α} {b : β}
    (h : List.Forall₂ R as bs) (hlast : R a b) : List.Forall₂ R (as ++ [a]) (bs ++ [b]) :=
  List.rel_append h (List.Forall₂.cons hlast .nil)

theorem Dealt.read {values : List Value} {found : List (ReadCall × Answer)} {b b' : StreamBody}
    {r : ReadCall} {a : Answer} (h : Dealt values found b) (hread : b.readField r = .ok (a, b')) :
    Dealt values (found ++ [(r, a)]) b' := by
  cases readsField_of_readField hread with
  | field hconvert past ahead =>
      cases h with
      | reading hvalues hdone =>
          have hnext := forall₂_snoc hdone (Whole.field hconvert)
          simpa using Dealt.reading (by simpa using hvalues) hnext
  | @block size _ _ _ hbytes =>
      cases hbytes with
      | empty past ahead =>
          cases h with
          | reading hvalues hdone =>
              have hnext := forall₂_snoc hdone (Whole.bytes [] size)
              simpa [chunkReads] using Dealt.reading (by simpa using hvalues) hnext
      | first past hbytes ahead =>
          cases h with
          | reading hvalues hdone =>
              apply Dealt.chunked [(size, _)]
              · simp
              · simpa using hvalues
              · exact hdone
      | @next past taken rest hrest ahead =>
          cases h with
          | chunked chunks htaken hvalues hdone =>
              have hmore : (chunks ++ [(size, rest.take size)]).flatMap Prod.snd =
                  taken ++ rest.take size := by
                simp [htaken]
              have hcontent : values = past ++
                  .bytes (taken ++ rest.take size ++ rest.drop size) :: ahead := by
                simpa using hvalues
              simpa [chunkReads] using Dealt.chunked _ hmore hcontent hdone
      | last past taken ahead =>
          cases h with
          | chunked chunks htaken hvalues hdone =>
              subst htaken
              have hnext := forall₂_snoc hdone (Whole.bytes chunks size)
              simpa using Dealt.reading (by simpa using hvalues) hnext

def reads (answers : List (Call × Answer)) : List (ReadCall × Answer) :=
  answers.filterMap fun
    | (.read r, a) => some (r, a)
    | _ => none

theorem Dealt.readable {values : List Value} {found : List (ReadCall × Answer)} {b : StreamBody}
    (h : Dealt values found b) : b.layout.readable = true := by
  cases h <;> rfl

theorem Dealt.step {values : List Value} {found : List (Call × Answer)} {b b' : StreamBody}
    {c : Call} {a : Answer} (hreset : c ≠ .reset) (hclear : c ≠ .clear)
    (h : Dealt values (reads found) b) (hperform : perform c b = .ok (a, b')) :
    Dealt values (reads (found ++ [(c, a)])) b' := by
  cases c with
  | reset => exact absurd rfl hreset
  | clear => exact absurd rfl hclear
  | size =>
      cases hperform
      simpa [reads] using h
  | write v =>
      rw [perform, write_of_readable h.readable v] at hperform
      cases hperform
  | read r => simpa [reads] using h.read hperform

theorem Dealt.run {values : List Value} {b : StreamBody} (h : Dealt values [] b)
    {calls : List Call} (hreset : .reset ∉ calls) (hclear : .clear ∉ calls) :
    Dealt values (reads (answered (fun c => keeping (perform c)) calls b))
      (after (fun c => keeping (perform c)) calls b) := by
  have hstart : Dealt values (reads []) b := h
  refine answered_keeps (P := fun found b' => Dealt values (reads found) b') ?_ hstart
  intro c hc found b₁ a b₂ hdealt
  exact hdealt.step (fun h => hreset (h ▸ hc)) (fun h => hclear (h ▸ hc))

/-! ## Chunks of an array -/

def blockReads (sizes : Nat → Nat) (count : Nat) : List Call :=
  inBlocks (fun size => .read (.block size)) sizes count

theorem keeping_block {size : Nat} {b b' : StreamBody} {found : Option (List UInt8)}
    (h : ReadsBytes size b found b') :
    keeping (perform (.read (.block size))) b = (.ok (.chunk found), b') := by
  have hread := readBytes_eq_ok.mpr h
  apply keeping_of_ok
  simp [perform, readField, hread, Except.map]

/-- An array stands under the cursor, and so much of it is left to read. -/
inductive Unread (past : List Value) (bytes : List UInt8) (ahead : List Value) :
    List UInt8 → StreamBody → Prop where
  | start : Unread past bytes ahead bytes (reading past (.bytes bytes :: ahead))
  | partway {taken rest : List UInt8} (h : taken ++ rest = bytes) :
      Unread past bytes ahead rest (chunked past taken rest ahead)

theorem exists_unread {b : StreamBody} {bytes : List UInt8} (hreadable : b.layout.readable = true)
    (hfield : b.layout.values[b.layout.cursor]? = some (.bytes bytes)) :
    ∃ past ahead, Unread past bytes ahead (bytes.drop (b.layout.offset.getD 0)) b ∧
      (reading (past ++ [.bytes bytes]) ahead).layout =
        { b.layout with cursor := b.layout.cursor + 1, offset := none } := by
  cases b with
  | writing values => cases hreadable
  | chunked past taken rest ahead =>
      obtain rfl : taken ++ rest = bytes := by simpa [layout] using hfield
      have hunread : Unread past (taken ++ rest) ahead rest (chunked past taken rest ahead) :=
        .partway rfl
      exact ⟨past, ahead, by simpa [layout] using hunread, by simp [layout]⟩
  | reading past ahead =>
      cases ahead with
      | nil => simp [layout] at hfield
      | cons v ahead =>
          obtain rfl : v = .bytes bytes := by simpa [layout] using hfield
          exact ⟨past, ahead, .start, by simp [layout]⟩

theorem usesUp_array (past : List Value) (bytes : List UInt8) (ahead : List Value) :
    UsesUp (fun c => keeping (perform c)) (fun size => .read (.block size)) .chunk
      (Unread past bytes ahead) (reading (past ++ [.bytes bytes]) ahead) where
  next := by
    intro size rest b hrest hunread
    cases hunread with
    | start => exact ⟨_, keeping_block (.first past hrest ahead), .partway (by simp)⟩
    | @partway taken _ h =>
        exact ⟨_, keeping_block (.next past taken hrest ahead), .partway (by simpa using h)⟩
  done := by
    intro size b hunread
    cases hunread with
    | start => exact keeping_block (.empty past ahead)
    | @partway taken _ h =>
        obtain rfl : taken = bytes := by simpa using h
        exact keeping_block (.last past taken ahead)

/-! ## Written and read back -/

/-- Reads of a value as what it is, and what they find; an array is read in blocks. -/
inductive GivesBack (sizes : Nat → Nat) : Value → List Call → List Answer → Prop where
  | scalar {t : Scalar} {v : Value} (h : v.type = t.type) :
      GivesBack sizes v [.read (.field (.scalar t))] [.value v]
  | string (s : String) :
      GivesBack sizes (.string s) [.read (.field .string)] [.value (.string s)]
  | bytes (blocks : List (List UInt8)) :
      GivesBack sizes (.bytes blocks.flatten) (blockReads sizes (blocks.length + 1))
        (blocks.map (fun block => .chunk (some block)) ++ [.chunk none])

theorem asScalar_self {t : Scalar} {v : Value} (h : v.type = t.type) : v.asScalar t = .ok v := by
  cases v <;> cases t <;> first | rfl | cases h

theorem scalar_or_string_or_bytes (v : Value) :
    (∃ t : Scalar, v.type = t.type) ∨ (∃ s, v = .string s) ∨ ∃ bytes, v = .bytes bytes := by
  cases v with
  | string s => exact .inr (.inl ⟨s, rfl⟩)
  | bytes bytes => exact .inr (.inr ⟨bytes, rfl⟩)
  | boolean => exact .inl ⟨.boolean, rfl⟩
  | byte => exact .inl ⟨.byte, rfl⟩
  | char => exact .inl ⟨.char, rfl⟩
  | short => exact .inl ⟨.short, rfl⟩
  | int => exact .inl ⟨.int, rfl⟩
  | long => exact .inl ⟨.long, rfl⟩
  | float => exact .inl ⟨.float, rfl⟩
  | double => exact .inl ⟨.double, rfl⟩

theorem keeping_field {k : Kind} {v a : Value} (h : k.convert v = .ok a)
    (past ahead : List Value) :
    keeping (perform (.read (.field k))) (reading past (v :: ahead)) =
      (.ok (.value a), reading (past ++ [v]) ahead) := by
  apply keeping_of_ok
  simp [perform, readField, readKind_eq, read, h, pure, Except.pure, Except.map]

theorem givesBack_of_reading {sizes : Nat → Nat} (hsizes : ∀ i, 0 < sizes i) (past : List Value)
    (v : Value) (ahead : List Value) :
    ∃ calls answers, GivesBack sizes v calls answers ∧
      outcomes (fun c => keeping (perform c)) calls (reading past (v :: ahead)) =
        answers.map .ok ∧
      after (fun c => keeping (perform c)) calls (reading past (v :: ahead)) =
        reading (past ++ [v]) ahead := by
  obtain ⟨t, ht⟩ | ⟨s, rfl⟩ | ⟨bytes, rfl⟩ := scalar_or_string_or_bytes v
  · have hself : (Kind.scalar t).convert v = .ok v := asScalar_self ht
    have hread := keeping_field hself past ahead
    exact ⟨_, _, .scalar ht, by simp [outcomes, hread], by simp [hread]⟩
  · have hself : Kind.string.convert (.string s) = .ok (.string s) := rfl
    have hread := keeping_field hself past ahead
    exact ⟨_, _, .string s, by simp [outcomes, hread], by simp [hread]⟩
  · obtain ⟨blocks, rfl, houtcomes, hafter⟩ := (usesUp_array past bytes ahead).blocks hsizes .start
    refine ⟨_, _, .bytes blocks, ?_, hafter⟩
    simpa [blockReads, Function.comp_def] using houtcomes

theorem givesBack_of_fields {fields : List (Value × (Nat → Nat))}
    (hsizes : ∀ field ∈ fields, ∀ i, 0 < field.2 i) (past : List Value) :
    ∃ found : List (List Call × List Answer),
      List.Forall₂ (fun field p => GivesBack field.2 field.1 p.1 p.2) fields found ∧
      outcomes (fun c => keeping (perform c)) (found.flatMap Prod.fst)
          (reading past (fields.map Prod.fst)) =
        (found.flatMap Prod.snd).map .ok ∧
      after (fun c => keeping (perform c)) (found.flatMap Prod.fst)
          (reading past (fields.map Prod.fst)) =
        reading (past ++ fields.map Prod.fst) [] := by
  induction fields generalizing past with
  | nil => exact ⟨[], .nil, rfl, by simp⟩
  | cons field fields ih =>
      obtain ⟨v, sizes⟩ := field
      obtain ⟨hfield, hfields⟩ := List.forall_mem_cons.mp hsizes
      obtain ⟨calls, answers, hback, houtcomes, hafter⟩ :=
        givesBack_of_reading hfield past v (fields.map Prod.fst)
      obtain ⟨found, hfound, houtcomes', hafter'⟩ := ih hfields (past ++ [v])
      refine ⟨(calls, answers) :: found, .cons hback hfound, ?_, ?_⟩
      · simp [outcomes_append, houtcomes, hafter, houtcomes']
      · simp [after_append, hafter, hafter']

theorem readField_end (r : ReadCall) (past : List Value) :
    (reading past []).readField r = .error .endOfBody := by
  cases r with
  | block size => rfl
  | field k =>
      rw [readField, readKind_eq]
      rfl

theorem writes_of_writing (fields : List (Value × (Nat → Nat))) (written : List Value) :
    outcomes (fun c => keeping (perform c)) (fields.map (.write ·.1)) (writing written) =
        fields.map (fun _ => .ok .done) ∧
      after (fun c => keeping (perform c)) (fields.map (.write ·.1)) (writing written) =
        writing (written ++ fields.map Prod.fst) := by
  induction fields generalizing written with
  | nil => simp [outcomes]
  | cons field fields ih =>
      obtain ⟨houtcomes, hafter⟩ := ih (written ++ [field.1])
      constructor
      · simpa [outcomes, keeping, perform, write, Except.map] using houtcomes
      · simpa [keeping, perform, write, Except.map] using hafter

theorem givesBack_of_written {fields : List (Value × (Nat → Nat))}
    (hsizes : ∀ field ∈ fields, ∀ i, 0 < field.2 i) :
    ∃ found : List (List Call × List Answer),
      List.Forall₂ (fun field p => GivesBack field.2 field.1 p.1 p.2) fields found ∧
      ∀ r, outcomes (fun c => keeping (perform c))
          (fields.map (.write ·.1) ++ .reset :: (found.flatMap Prod.fst ++ [.read r])) empty =
        fields.map (fun _ => .ok .done) ++
          .ok .done :: ((found.flatMap Prod.snd).map .ok ++ [.error .endOfBody]) := by
  obtain ⟨found, hfound, houtcomes, hmoved⟩ := givesBack_of_fields hsizes []
  obtain ⟨hwrites, hwritten⟩ := writes_of_writing fields []
  refine ⟨found, hfound, fun r => ?_⟩
  have hreset : keeping (perform .reset) (writing ([] ++ fields.map Prod.fst)) =
      (.ok .done, reading [] (fields.map Prod.fst)) := rfl
  have hend : keeping (perform (.read r)) (reading ([] ++ fields.map Prod.fst) []) =
      (.error .endOfBody, reading ([] ++ fields.map Prod.fst) []) :=
    keeping_of_error (readField_end r _)
  rw [empty, outcomes_append, hwrites, hwritten, outcomes, hreset, outcomes_append, houtcomes,
    hmoved, outcomes, hend, outcomes]

/-! ## Discipline -/

def Sound : StreamBody → Prop
  | chunked _ taken rest _ => taken ++ rest ≠ []
  | _ => True

theorem sound_readField {r : ReadCall} {b b' : StreamBody} {a : Answer} (h : b.Sound)
    (hread : b.readField r = .ok (a, b')) : b'.Sound := by
  cases readsField_of_readField hread with
  | field => trivial
  | block hbytes =>
      cases hbytes with
      | empty | last => trivial
      | first past hfirst ahead => simpa [Sound] using hfirst
      | next past taken hrest ahead => simpa [Sound] using h

theorem sound_perform (c : Call) {b : StreamBody} (h : b.Sound) :
    (keeping (perform c) b).2.Sound := by
  cases hperform : perform c b with
  | error e => rwa [keeping_of_error hperform]
  | ok result =>
      obtain ⟨a, b'⟩ := result
      rw [keeping_of_ok hperform]
      cases c with
      | reset | clear =>
          cases hperform
          trivial
      | size =>
          cases hperform
          exact h
      | write v =>
          obtain ⟨written, hwrite, heq⟩ := map_eq_ok.mp hperform
          cases heq
          cases b <;> cases hwrite
          trivial
      | read r => exact sound_readField h hperform

structure Layout.Disciplined (l : Layout) : Prop where
  within : l.cursor ≤ l.values.length
  partway : ∀ n, l.offset = some n → l.readable ∧
    ∃ bytes, l.values[l.cursor]? = some (.bytes bytes) ∧ bytes ≠ [] ∧ n ≤ bytes.length
  inRange : ∀ c, (l.perform c).1 ≠ .error .outOfRange
  failed : ∀ c h, (l.perform c).1 = .error h → (l.perform c).2 = l
  locked : ∀ n, l.offset = some n →
    ∀ k, l.perform (.read (.field k)) = (.error (.failed .partlyRead), l)
  left : ∀ bytes, l.values[l.cursor]? = some (.bytes bytes) →
    ∀ c, c ≠ .reset → c ≠ .clear → (l.perform c).2.cursor ≠ l.cursor →
      ∃ size, c = .read (.block size) ∧ (l.perform c).1 = .ok (.chunk none)
  /-- Reads after a reset deal with the fields behind the cursor, then with the array under it. -/
  inOrder : ∀ calls, .reset ∉ calls → .clear ∉ calls →
    ∃ done chunks,
      reads (answered perform (.reset :: calls) l) = done.flatten ++ chunkReads chunks ∧
      (after perform (.reset :: calls) l).values = l.values ∧
      List.Forall₂ Whole (l.values.take (after perform (.reset :: calls) l).cursor) done ∧
      ((after perform (.reset :: calls) l).offset = none → chunks = []) ∧
      ∀ n, (after perform (.reset :: calls) l).offset = some n →
        ∃ bytes, l.values[(after perform (.reset :: calls) l).cursor]? = some (.bytes bytes) ∧
          chunks.flatMap Prod.snd = bytes.take n
  drained : l.readable → ∀ bytes, l.values[l.cursor]? = some (.bytes bytes) →
    ∀ sizes : Nat → Nat, (∀ i, 0 < sizes i) →
      ∃ blocks : List (List UInt8), blocks.flatten = bytes.drop (l.offset.getD 0) ∧
        outcomes perform (blockReads sizes (blocks.length + 1)) l =
          blocks.map (fun block => .ok (.chunk (some block))) ++ [.ok (.chunk none)] ∧
        after perform (blockReads sizes (blocks.length + 1)) l =
          { l with cursor := l.cursor + 1, offset := none }

theorem convert_bytes (k : Kind) (bytes : List UInt8) :
    ∃ e, k.convert (.bytes bytes) = .error e := by
  cases k with
  | string => exact ⟨_, rfl⟩
  | scalar t => cases t <;> exact ⟨_, rfl⟩

theorem left_of_cursor_ne {c : Call} {b : StreamBody} {bytes : List UInt8}
    (hfield : b.layout.values[b.layout.cursor]? = some (.bytes bytes)) (hreset : c ≠ .reset)
    (hclear : c ≠ .clear)
    (hmoved : (keeping (perform c) b).2.layout.cursor ≠ b.layout.cursor) :
    ∃ size, c = .read (.block size) ∧ (keeping (perform c) b).1 = .ok (.chunk none) := by
  cases hperform : perform c b with
  | error e => simp [keeping_of_error hperform] at hmoved
  | ok result =>
      obtain ⟨a, b'⟩ := result
      rw [keeping_of_ok hperform] at hmoved ⊢
      cases c with
      | reset => exact absurd rfl hreset
      | clear => exact absurd rfl hclear
      | size =>
          cases hperform
          exact absurd rfl hmoved
      | write v =>
          obtain ⟨written, hwrite, heq⟩ := map_eq_ok.mp hperform
          cases heq
          cases b <;> cases hwrite
          exact absurd rfl hmoved
      | read r =>
          cases readsField_of_readField hperform with
          | @field k v converted hconvert past ahead =>
              obtain ⟨e, he⟩ := convert_bytes k bytes
              obtain rfl : v = .bytes bytes := by simpa [layout] using hfield
              rw [he] at hconvert
              cases hconvert
          | @block size _ _ _ hbytes =>
              cases hbytes with
              | empty | last => exact ⟨size, rfl, rfl⟩
              | first | next => exact absurd rfl hmoved

theorem Dealt.split {values : List Value} {found : List (ReadCall × Answer)} {b : StreamBody}
    (h : Dealt values found b) :
    ∃ done chunks, found = done.flatten ++ chunkReads chunks ∧ b.layout.values = values ∧
      List.Forall₂ Whole (values.take b.layout.cursor) done ∧
      (b.layout.offset = none → chunks = []) ∧
      ∀ n, b.layout.offset = some n →
        ∃ bytes, values[b.layout.cursor]? = some (.bytes bytes) ∧
          chunks.flatMap Prod.snd = bytes.take n := by
  cases h with
  | @reading past ahead done hvalues hdone =>
      subst hvalues
      refine ⟨done, [], by simp [chunkReads], rfl, ?_, fun _ => rfl, ?_⟩
      · simpa [layout] using hdone
      · intro n hn
        cases hn
  | @chunked past ahead taken rest done chunks htaken hvalues hdone =>
      subst hvalues
      refine ⟨done, chunks, rfl, rfl, ?_, ?_, ?_⟩
      · simpa [layout] using hdone
      · intro hnone
        cases hnone
      · intro n hn
        cases hn
        exact ⟨taken ++ rest, by simp [layout], by simp [htaken]⟩

theorem disciplined_layout {b : StreamBody} (hsound : b.Sound) : b.layout.Disciplined where
  within := by cases b <;> simp [layout]
  partway := by
    intro n hn
    cases b with
    | writing | reading => cases hn
    | chunked past taken rest ahead =>
        cases hn
        exact ⟨rfl, taken ++ rest, by simp [layout], hsound, by simp⟩
  inRange := by
    intro c h
    exact (agrees_perform c).of_error h |>.1 rfl
  failed := by
    intro c h hfailed
    exact (agrees_perform c).of_error hfailed |>.2
  locked := by
    intro n hn k
    cases b with
    | writing | reading => cases hn
    | chunked past taken rest ahead => rfl
  left := by
    intro bytes hfield c hreset hclear hmoved
    rw [agrees_perform c] at hmoved ⊢
    obtain ⟨size, rfl, hnone⟩ := left_of_cursor_ne hfield hreset hclear hmoved
    exact ⟨size, rfl, by simp [hnone]⟩
  inOrder := by
    intro calls hreset hclear
    have hstart : Dealt b.values [] b.reset := .reading rfl .nil
    have hrun := hstart.run hreset hclear
    have hvalues : b.layout.values = b.values := by cases b <;> rfl
    have hreads : reads (answered Layout.perform (.reset :: calls) b.layout) =
        reads (answered (fun c => keeping (perform c)) calls b.reset) := by
      rw [answered_layout agrees_perform]
      rfl
    have hafter : after Layout.perform (.reset :: calls) b.layout =
        (after (fun c => keeping (perform c)) calls b.reset).layout := by
      rw [after_layout agrees_perform]
      rfl
    rw [hreads, hafter, hvalues]
    exact hrun.split
  drained := by
    intro hreadable bytes hfield sizes hsizes
    obtain ⟨past, ahead, hunread, hlayout⟩ := exists_unread hreadable hfield
    obtain ⟨blocks, hflat, houtcomes, hafter⟩ :=
      (usesUp_array past bytes ahead).blocks hsizes hunread
    refine ⟨blocks, hflat, ?_, ?_⟩
    · rw [outcomes_layout agrees_perform, blockReads, houtcomes]
      simp
    · rw [after_layout agrees_perform, blockReads, hafter, hlayout]

/--
Calls on a stream body in memory end as they end on the body, and leave the same body in memory,
which changes nothing in a call that fails and deals with field after field; and what is written is
read back, as what it is, up to the end of the body.
-/
theorem field_discipline (calls : List Call) :
    outcomes Layout.perform calls ⟨[], 0, none, false⟩ =
        (outcomes (fun c => keeping (perform c)) calls empty).map (·.mapError .failed) ∧
      after Layout.perform calls ⟨[], 0, none, false⟩ =
        (after (fun c => keeping (perform c)) calls empty).layout ∧
      (after Layout.perform calls ⟨[], 0, none, false⟩).Disciplined ∧
      ∀ fields : List (Value × (Nat → Nat)), (∀ field ∈ fields, ∀ i, 0 < field.2 i) →
        ∃ found : List (List Call × List Answer),
          List.Forall₂ (fun field p => GivesBack field.2 field.1 p.1 p.2) fields found ∧
          ∀ r, outcomes Layout.perform
              (fields.map (.write ·.1) ++ .reset :: (found.flatMap Prod.fst ++ [.read r]))
              ⟨[], 0, none, false⟩ =
            fields.map (fun _ => .ok .done) ++
              .ok .done :: ((found.flatMap Prod.snd).map .ok ++ [.error (.failed .endOfBody)]) := by
  have hafter := after_layout agrees_perform calls empty
  have hsound : (after (fun c => keeping (perform c)) calls empty).Sound :=
    after_keeps _ (fun c _ => sound_perform c) trivial calls
  refine ⟨outcomes_layout agrees_perform calls empty, hafter, ?_, ?_⟩
  · rw [show Layout.mk [] 0 none false = empty.layout from rfl, hafter]
    exact disciplined_layout hsound
  · intro fields hsizes
    obtain ⟨found, hfound, houtcomes⟩ := givesBack_of_written hsizes
    refine ⟨found, hfound, fun r => ?_⟩
    rw [show Layout.mk [] 0 none false = empty.layout from rfl, outcomes_layout agrees_perform,
      houtcomes]
    simp

def insideArray : List Call :=
  [.write (.bytes [1, 2, 3]), .write (.int 7), .reset, .read (.block 2)]

theorem field_discipline_insideArray :
    after Layout.perform insideArray ⟨[], 0, none, false⟩ =
        ⟨[.bytes [1, 2, 3], .int 7], 0, some 2, true⟩ ∧
      (∀ k, Layout.perform (.read (.field k)) ⟨[.bytes [1, 2, 3], .int 7], 0, some 2, true⟩ =
        (.error (.failed .partlyRead), ⟨[.bytes [1, 2, 3], .int 7], 0, some 2, true⟩)) ∧
      ∃ found : List (List Call × List Answer),
        List.Forall₂ (fun field p => GivesBack field.2 field.1 p.1 p.2)
          [(.bytes [1, 2, 3], fun _ => 2), (.int 7, fun _ => 1)] found := by
  obtain ⟨-, -, hdisciplined, hback⟩ := field_discipline insideArray
  have hafter : after Layout.perform insideArray ⟨[], 0, none, false⟩ =
      ⟨[.bytes [1, 2, 3], .int 7], 0, some 2, true⟩ := rfl
  rw [hafter] at hdisciplined
  obtain ⟨found, hfound, -⟩ :=
    hback [(.bytes [1, 2, 3], fun _ => 2), (.int 7, fun _ => 1)] (by simp)
  exact ⟨hafter, hdisciplined.locked 2 rfl, found, hfound⟩

end Messaging.StreamBody
