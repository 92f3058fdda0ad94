import Messaging.Proofs.Body.Cursor
import Messaging.Proofs.Message

/-!
# What goes wrong with a body

A read or a write of a body can fail in many ways, but the body is not one of another kind: only the
message around it knows about kinds.
-/

namespace Messaging

def Error.isWrongBody : Error → Bool
  | .wrongBody _ => true
  | _ => false

abbrev Fitting {α : Type} (x : Except Error α) : Prop := Avoids Error.isWrongBody x

variable {α : Type}

/-! ## Values -/

namespace Value

theorem fitting_parse (read? : List Char → Option α) (wanted : ValueType) (s : String) :
    Fitting (parse read? wanted s) := by
  unfold parse
  split
  · exact avoids_ok _
  · exact avoids_error.mpr rfl

theorem fitting_asScalar (t : Scalar) (v : Value) : Fitting (v.asScalar t) := by
  cases t <;> refine avoids_map.mpr ?_ <;> cases v <;>
    first | exact avoids_ok _ | exact avoids_error.mpr rfl | exact fitting_parse _ _ _

theorem fitting_asString (v : Value) : Fitting v.asString := by
  cases v <;> first | exact avoids_ok _ | exact avoids_error.mpr rfl

theorem fitting_asBytes (v : Value) : Fitting v.asBytes := by
  cases v <;> first | exact avoids_ok _ | exact avoids_error.mpr rfl

end Value

namespace ValueTable

theorem fitting_read {as : Value → Except Error α} (has : ∀ v, Fitting (as v)) (t : ValueTable)
    (name : String) : Fitting (t.read as name) := by
  unfold read
  split
  next v _ => exact has v
  next => exact avoids_error.mpr rfl

theorem fitting_readOr {as : Value → Except Error α} (has : ∀ v, Fitting (as v)) (missing : α)
    (t : ValueTable) (name : String) : Fitting (t.readOr missing as name) := by
  unfold readOr
  split
  next v _ => exact has v
  next => exact avoids_ok missing

@[simp] theorem fitting_getString (t : ValueTable) (name : String) : Fitting (t.getString name) :=
  fitting_readOr Value.fitting_asString "" t name

@[simp] theorem fitting_getScalar (type : Scalar) (t : ValueTable) (name : String) :
    Fitting (t.getScalar type name) := by
  have has (type : Scalar) (v : Value) := Value.fitting_asScalar type v
  cases type with
  | boolean =>
      exact avoids_map.mpr (fitting_readOr (fun v => avoids_map.mp (has .boolean v)) false t name)
  | byte => exact avoids_map.mpr (fitting_read (fun v => avoids_map.mp (has .byte v)) t name)
  | char => exact avoids_map.mpr (fitting_read (fun v => avoids_map.mp (has .char v)) t name)
  | short => exact avoids_map.mpr (fitting_read (fun v => avoids_map.mp (has .short v)) t name)
  | int => exact avoids_map.mpr (fitting_read (fun v => avoids_map.mp (has .int v)) t name)
  | long => exact avoids_map.mpr (fitting_read (fun v => avoids_map.mp (has .long v)) t name)
  | float => exact avoids_map.mpr (fitting_read (fun v => avoids_map.mp (has .float v)) t name)
  | double => exact avoids_map.mpr (fitting_read (fun v => avoids_map.mp (has .double v)) t name)

end ValueTable

/-! ## Bodies -/

namespace BytesBody

theorem fitting_take (n : Nat) (b : BytesBody) : Fitting (b.take n) := by
  cases b with
  | writing data => exact avoids_error.mpr rfl
  | reading past ahead =>
      rw [take]
      split
      · exact avoids_ok _
      · exact avoids_error.mpr rfl

@[simp] theorem fitting_length (b : BytesBody) : Fitting b.length := by
  cases b
  · exact avoids_error.mpr rfl
  · exact avoids_ok _

@[simp] theorem fitting_readScalar (t : Scalar) (b : BytesBody) : Fitting (b.readScalar t) := by
  rw [readScalar_eq]
  exact avoids_map.mpr (fitting_take t.width b)

@[simp] theorem fitting_readBytes (size : Nat) (b : BytesBody) : Fitting (b.readBytes size) := by
  cases b with
  | writing data => exact avoids_error.mpr rfl
  | reading past ahead =>
      rw [readBytes]
      split <;> exact avoids_ok _

theorem fitting_readString (b : BytesBody) : Fitting b.readString := by
  cases b with
  | writing data => exact avoids_error.mpr rfl
  | reading past ahead =>
      simp only [readString]
      split
      · exact avoids_error.mpr rfl
      · split
        · exact avoids_ok _
        · exact avoids_error.mpr rfl

theorem fitting_readUtf (b : BytesBody) : Fitting b.readUtf := by
  refine Avoids.bind ((fitting_take 2 b).bind fun _ => avoids_ok _) fun (n, b) => ?_
  refine (fitting_take n b).bind fun (encoded, b) => Avoids.bind ?_ fun _ => avoids_ok _
  unfold decodeUtf
  split
  · exact avoids_ok _
  · exact avoids_error.mpr rfl

@[simp] theorem fitting_put (bytes : List UInt8) (b : BytesBody) : Fitting (b.put bytes) := by
  cases b
  · exact avoids_ok _
  · exact avoids_error.mpr rfl

@[simp] theorem fitting_writeString (s : String) (b : BytesBody) : Fitting (b.writeString s) := by
  unfold writeString
  split
  · exact avoids_error.mpr rfl
  · split
    · exact avoids_error.mpr rfl
    · exact fitting_put _ b

@[simp] theorem fitting_writeUtf (s : String) (b : BytesBody) : Fitting (b.writeUtf s) := by
  simp only [writeUtf]
  split
  · exact avoids_error.mpr rfl
  · split
    · exact avoids_error.mpr rfl
    · exact fitting_put _ b

@[simp] theorem fitting_write (v : Value) (b : BytesBody) : Fitting (b.write v) := by
  cases v with
  | string s => exact fitting_writeString s b
  | boolean | byte | char | short | int | long | float | double | bytes => exact fitting_put _ b

end BytesBody

namespace StreamBody

theorem fitting_read {as : Value → Except Error α} (has : ∀ v, Fitting (as v)) (b : StreamBody) :
    Fitting (b.read as) := by
  cases b with
  | writing | chunked => exact avoids_error.mpr rfl
  | reading past ahead =>
      cases ahead with
      | nil => exact avoids_error.mpr rfl
      | cons v ahead => exact (has v).bind fun _ => avoids_ok _

@[simp] theorem fitting_readScalar (t : Scalar) (b : StreamBody) : Fitting (b.readScalar t) :=
  fitting_read (Value.fitting_asScalar t) b

theorem fitting_readString (b : StreamBody) : Fitting b.readString :=
  fitting_read Value.fitting_asString b

@[simp] theorem fitting_readBytes (size : Nat) (b : StreamBody) : Fitting (b.readBytes size) := by
  cases b with
  | writing => exact avoids_error.mpr rfl
  | chunked past taken rest ahead => cases rest <;> exact avoids_ok _
  | reading past ahead =>
      cases ahead with
      | nil => exact avoids_error.mpr rfl
      | cons v ahead =>
          refine (Value.fitting_asBytes v).bind fun bytes => ?_
          cases bytes <;> exact avoids_ok _

@[simp] theorem fitting_write (v : Value) (b : StreamBody) : Fitting (b.write v) := by
  cases b
  · exact avoids_ok _
  all_goals exact avoids_error.mpr rfl

end StreamBody

/-! ## Messages of the kind -/

namespace Message

variable {m : Message}

theorem getText_of_kind (h : m.kind = .text) : ∃ s, m.getText = .ok s := by
  simp only [getText_eq_ok]
  cases hm : m.body <;> simp [kind, hm, Body.kind] at h ⊢

theorem mapBody_of_kind (h : m.kind = .map) : ∃ t, m.mapBody = .ok t := by
  simp only [mapBody_eq_ok]
  cases hm : m.body <;> simp [kind, hm, Body.kind] at h ⊢

theorem bytesBody_of_kind (h : m.kind = .bytes) : ∃ b, m.bytesBody = .ok b := by
  simp only [bytesBody_eq_ok]
  cases hm : m.body <;> simp [kind, hm, Body.kind] at h ⊢

theorem streamBody_of_kind (h : m.kind = .stream) : ∃ b, m.streamBody = .ok b := by
  simp only [streamBody_eq_ok]
  cases hm : m.body <;> simp [kind, hm, Body.kind] at h ⊢

theorem fitting_setText (h : m.kind = .text) (s : String) : Fitting (m.setText s) := by
  cases hm : m.body <;> simp [kind, hm, Body.kind] at h
  simp only [setText, hm]
  split
  · exact avoids_error.mpr rfl
  · exact avoids_ok _

theorem fitting_mapBodyToWrite (h : m.kind = .map) : Fitting m.mapBodyToWrite := by
  cases hm : m.body <;> simp [kind, hm, Body.kind] at h
  simp only [mapBodyToWrite, hm]
  split
  · exact avoids_error.mpr rfl
  · exact avoids_ok _

end Message

end Messaging
