import Messaging.Message
import Messaging.Proofs.Outcome
import Messaging.Proofs.Provider.Parts

/-!
# What calls do to a message

The messages that the calls on a message can make of it, each with what the call asks for.  None of
them changes the kind.
-/

namespace Messaging.Message

variable {m : Message}

/-! ## Bodies -/

theorem getText_eq_ok {s : String} : m.getText = .ok s ↔ m.body = .text s := by
  unfold getText
  split
  next h => simp [h]
  next h => simpa using h s

theorem bytesBody_eq_ok {b : BytesBody} : m.bytesBody = .ok b ↔ m.body = .bytes b := by
  unfold bytesBody
  split
  next h => simp [h]
  next h => simpa using h b

theorem streamBody_eq_ok {b : StreamBody} : m.streamBody = .ok b ↔ m.body = .stream b := by
  unfold streamBody
  split
  next h => simp [h]
  next h => simpa using h b

theorem mapBody_eq_ok {t : ValueTable} : m.mapBody = .ok t ↔ m.body = .map t := by
  unfold mapBody
  split
  next h => simp [h]
  next h => simpa using h t

theorem setText_eq_ok {s : String} {m' : Message} :
    m.setText s = .ok m' ↔
      (∃ old, m.body = .text old) ∧ m.bodyFrozen = false ∧ m' = { m with body := .text s } := by
  unfold setText
  split
  next old h => cases hfrozen : m.bodyFrozen <;> simp [h, eq_comm]
  next h => simpa using fun old hold => absurd hold (h old)

theorem mapBodyToWrite_eq_ok {t : ValueTable} :
    m.mapBodyToWrite = .ok t ↔ m.body = .map t ∧ m.bodyFrozen = false := by
  unfold mapBodyToWrite
  split
  next old h => cases hfrozen : m.bodyFrozen <;> simp [h]
  next h => simpa using fun hold => absurd hold (h t)

theorem kind_clearBody (m : Message) : m.clearBody.kind = m.kind := by
  cases hm : m.body <;> simp [kind, clearBody, hm, Body.kind]

/-! ## Properties and headers -/

theorem setProperty_eq_ok {name : String} {v : Value} {m' : Message} :
    m.setProperty name v = .ok m' ↔
      name.isEmpty = false ∧ m.propertiesFrozen = false ∧
        m' = { m with properties := m.properties.insert name v } := by
  unfold setProperty
  split
  next h => simp [h]
  next h => cases hfrozen : m.propertiesFrozen <;> simp [h, eq_comm]

theorem send_message (p : ProducerId) (requested : Option Destination) (q : Quality) (m : Message)
    (w : Provider) : ∃ headers, (w.send p requested q m).1.message = { m with headers } := by
  unfold Provider.send
  split
  next => exact ⟨m.headers, rfl⟩
  next hprepare =>
    obtain ⟨-, -, -, -, id, hstamp⟩ := Provider.prepare_eq_ok hprepare
    exact ⟨_, hstamp⟩

end Messaging.Message
