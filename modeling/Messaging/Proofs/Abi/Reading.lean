import Messaging.Abi.Call
import Messaging.Proofs.Message
import Messaging.Proofs.Outcome

/-!
# Reads that fail

A read takes a value from a bytes or stream body and then writes it where the caller wants it.  The
body moves on with the first step, so a read whose second step fails has lost the value.  Main
statement: such a read aside, a failed read changes nothing, and such a read leaves the same state as
the one that succeeds in its place.
-/

namespace Messaging

/-! ## Reads move on -/

namespace BytesBody

theorem position_take {n : Nat} {b b' : BytesBody} {bytes : List UInt8}
    (h : b.take n = .ok (bytes, b')) : b'.position = b.position + n := by
  cases b with
  | writing data => cases h
  | reading past ahead =>
      rw [take] at h
      split at h
      next hn =>
        cases h
        simp [position, hn]
      · cases h

theorem position_takeWord {n k : Nat} {b b' : BytesBody} (h : b.takeWord n = .ok (k, b')) :
    b'.position = b.position + n := by
  obtain ⟨⟨bytes, b''⟩, htake, h⟩ := bind_eq_ok.mp h
  cases h
  exact position_take htake

theorem position_lt_of_readScalar {t : Scalar} {b b' : BytesBody} {v : Value}
    (h : b.readScalar t = .ok (v, b')) : b.position < b'.position := by
  -- A value of every type is made from a word, and no word is empty.
  cases t <;>
    · obtain ⟨⟨a, after⟩, hread, hvalue⟩ := map_eq_ok.mp h
      obtain ⟨⟨n, moved⟩, hword, hread⟩ := bind_eq_ok.mp hread
      cases hread
      rw [← show after = b' from congrArg Prod.snd hvalue, position_takeWord hword]
      omega

theorem position_lt_of_readString {b b' : BytesBody} {s : String}
    (h : b.readString = .ok (s, b')) : b.position < b'.position := by
  cases b with
  | writing data => cases h
  | reading past ahead =>
      simp only [readString] at h
      split at h
      · cases h
      · split at h
        · cases h
          simp [position]
        · cases h

theorem position_lt_of_readUtf {b b' : BytesBody} {s : String}
    (h : b.readUtf = .ok (s, b')) : b.position < b'.position := by
  obtain ⟨⟨n, b₁⟩, hword, h⟩ := bind_eq_ok.mp h
  obtain ⟨⟨encoded, b₂⟩, htake, h⟩ := bind_eq_ok.mp h
  obtain ⟨s', -, h⟩ := bind_eq_ok.mp h
  cases h
  have hword := position_takeWord hword
  have htake := position_take htake
  omega

end BytesBody

namespace StreamBody

variable {α : Type}

theorem ne_of_read {as : Value → Except Error α} {b b' : StreamBody} {a : α}
    (h : b.read as = .ok (a, b')) : b' ≠ b := by
  cases b with
  | writing values => cases h
  | chunked past taken rest ahead => cases h
  | reading past ahead =>
      cases ahead with
      | nil => cases h
      | cons v ahead =>
          obtain ⟨a', -, h⟩ := bind_eq_ok.mp h
          cases h
          simp

end StreamBody

namespace Abi

open Effect

/-! ## Bodies behind handles -/

variable {α β : Type} {w : Interface}

def Replaceable (w : Interface) (source : Except Failure (β × (β → Effect → Effect))) : Prop :=
  ∀ b keep, source = .ok (b, keep) → ∀ after, ∃ w', (after ≠ b → w' ≠ w) ∧ ∀ k, keep after k w = k w'

theorem given_eq_ok {o : Option α} {a : α} : given o = .ok a ↔ o = some a := by
  cases o <;> simp [given]

theorem runtime_eq_ok {r : Except Error α} {a : α} : runtime r = .ok a ↔ r = .ok a := by
  cases r <;> simp [runtime]

theorem handle_eq_ok {m : Option MessageId} {i : MessageId} {h : Handle} :
    w.handle m = .ok (i, h) ↔ m = some i ∧ w.messages[i]? = some h := by
  rw [Interface.handle]
  constructor
  · intro hok
    obtain ⟨j, hj, hok⟩ := bind_eq_ok.mp hok
    obtain ⟨found, hfound, hok⟩ := bind_eq_ok.mp hok
    cases hok
    exact ⟨given_eq_ok.mp hj, given_eq_ok.mp hfound⟩
  · rintro ⟨rfl, hfound⟩
    simp [given, hfound, pure, Except.pure]

theorem message_eq_ok {m : Option MessageId} {i : MessageId} {message : Message} :
    w.message m = .ok (i, message) ↔
      ∃ h, m = some i ∧ w.messages[i]? = some h ∧ h.message = message := by
  rw [Interface.message]
  constructor
  · intro hok
    obtain ⟨⟨j, h⟩, hh, hok⟩ := bind_eq_ok.mp hok
    cases hok
    obtain ⟨hm, hfound⟩ := handle_eq_ok.mp hh
    exact ⟨h, hm, hfound, rfl⟩
  · rintro ⟨h, hm, hfound, rfl⟩
    rw [handle_eq_ok.mpr ⟨hm, hfound⟩]
    rfl

theorem typed_eq_ok {kind : MessageKind} {m : Option MessageId} {i : MessageId}
    {message : Message} :
    w.typed kind m = .ok (i, message) ↔
      ∃ h, m = some i ∧ w.messages[i]? = some h ∧ h.kind = kind ∧ h.message = message := by
  rw [Interface.typed]
  constructor
  · intro hok
    obtain ⟨⟨j, h⟩, hh, hok⟩ := bind_eq_ok.mp hok
    obtain ⟨hm, hfound⟩ := handle_eq_ok.mp hh
    dsimp only at hok
    split at hok
    next hkind =>
      cases hok
      exact ⟨h, hm, hfound, hkind, rfl⟩
    next => cases hok
  · rintro ⟨h, hm, hfound, hkind, rfl⟩
    rw [handle_eq_ok.mpr ⟨hm, hfound⟩, ok_bind]
    exact if_pos hkind

theorem store_ne {i : MessageId} {found : Handle} {message : Message}
    (hfound : w.messages[i]? = some found) (hne : message ≠ found.message) :
    { w with messages := w.messages.modify i ({ · with message }) } ≠ w := by
  intro heq
  have hget : (w.messages.modify i ({ · with message }))[i]? = w.messages[i]? :=
    congrArg (fun w : Interface => w.messages[i]?) heq
  rw [List.getElem?_modify_eq, hfound] at hget
  exact hne (congrArg Handle.message (Option.some.inj hget))

theorem replaceable_of_make {get : Message → Except Error β} {make : β → Body}
    (hget : ∀ message b, get message = .ok b → message.body = make b)
    (hmake : ∀ b b', make b = make b' → b = b') (kind : MessageKind) (m : Option MessageId) :
    Replaceable w (do
      let (m, message) ← w.typed kind m
      let b ← runtime (get message)
      return (b, fun after => store m { message with body := make after })) := by
  intro b keep h after
  obtain ⟨⟨i, message⟩, htyped, h⟩ := bind_eq_ok.mp h
  obtain ⟨b', hbody, h⟩ := bind_eq_ok.mp h
  cases h
  obtain ⟨found, -, hfound, -, rfl⟩ := typed_eq_ok.mp htyped
  refine ⟨_, fun hne => store_ne hfound fun heq => hne (hmake _ _ ?_), fun k => rfl⟩
  rw [← hget _ _ (runtime_eq_ok.mp hbody), ← heq]

theorem bytes_replaceable (m : Option MessageId) (w : Interface) :
    Replaceable w (BytesCall.body m w) :=
  replaceable_of_make (fun _ _ => Message.bytesBody_eq_ok.mp) (fun _ _ => Body.bytes.inj) .bytes m

theorem stream_replaceable (m : Option MessageId) (w : Interface) :
    Replaceable w (StreamCall.body m w) :=
  replaceable_of_make (fun _ _ => Message.streamBody_eq_ok.mp) (fun _ _ => Body.stream.inj)
    .stream m

/-! ## Reads and what follows them -/

def readThen (source : Except Failure (β × (β → Effect → Effect)))
    (read : β → Except Error (α × β)) (put : α → Effect) (missed : Error → Effect) : Effect :=
  settle do
    let (b, keep) ← source
    match read b with
    | .ok (a, after) => return keep after (put a)
    | .error e => return missed e

theorem readThen_cases {source : Except Failure (β × (β → Effect → Effect))}
    {read : β → Except Error (α × β)} (hsource : Replaceable w source)
    (hread : ∀ b a after, read b = .ok (a, after) → after ≠ b) :
    (∃ f, ∀ put missed, readThen source read put missed w = fail f [] w) ∨
    (∃ e, ∀ put missed, readThen source read put missed w = missed e w) ∨
    ∃ a w', w' ≠ w ∧ ∀ put missed, readThen source read put missed w = put a w' := by
  cases hbody : source with
  | error f => exact .inl ⟨f, fun put missed => rfl⟩
  | ok found =>
      obtain ⟨b, keep⟩ := found
      cases hvalue : read b with
      | error e =>
          refine .inr (.inl ⟨e, fun put missed => ?_⟩)
          simp only [readThen, ok_bind, hvalue]
          rfl
      | ok value =>
          obtain ⟨a, after⟩ := value
          obtain ⟨w', hne, hkeep⟩ := hsource b keep hbody after
          refine .inr (.inr ⟨a, w', hne (hread b a after hvalue), fun put missed => ?_⟩)
          rw [← hkeep (put a)]
          simp only [readThen, ok_bind, hvalue]
          rfl

/-! ## Calls that read -/

/-- Whether no text can be written to the buffer, not even an empty one. -/
def Buffer.refuses (b : Buffer) : Bool := b.isNull || b.size == 0

namespace Call

def isRead : Call → Bool
  | bytes (.read ..) | bytes (.readBlock ..) | bytes (.readText ..) | bytes (.readUtf ..) => true
  | stream (.read ..) | stream (.readBlock ..) | stream (.readText ..) => true
  | _ => false

/-- Whether the place for the result of a read is looked at last and cannot be written to. -/
def refuses : Call → Bool
  | bytes (.read _ _ out) | stream (.read _ _ out) => out == .null
  | bytes (.readText _ b) | bytes (.readUtf _ b) | stream (.readText _ b) => b.refuses
  | _ => false

def usable : Call → Call
  | bytes (.read t m _) => bytes (.read t m .given)
  | bytes (.readText m b) => bytes (.readText m { isNull := false, size := max b.size 1 })
  | bytes (.readUtf m b) => bytes (.readUtf m { isNull := false, size := max b.size 1 })
  | stream (.read t m _) => stream (.read t m .given)
  | stream (.readText m b) => stream (.readText m { isNull := false, size := max b.size 1 })
  | c => c

end Call

/-- How a read ends, next to the same read with a place for its result. -/
inductive ReadEnd [Labels] (w : Interface) (c : Call) : Prop where
  | failed (f : Failure) (outputs outputs' : List Output) :
      w.call c = fail f outputs w → w.call c.usable = fail f outputs' w → ReadEnd w c
  | nothingLeft (w' : Interface) : w.call c = fail .incompleteRead [] w' → ReadEnd w c
  | done (outputs : List Output) (w' : Interface) : w.call c = answer outputs w' → ReadEnd w c
  | lost (f : Failure) (outputs : List Output) (w' : Interface) : w' ≠ w → c.refuses = true →
      f.status = .error → w.call c = fail f [] w' → w.call c.usable = answer outputs w' →
      ReadEnd w c

def Puts (refuses : Bool) (k : Effect) : Prop :=
  if refuses then ∃ f, f.status = .error ∧ k = fail f [] else ∃ outputs, k = answer outputs

theorem puts_write (out : Out) (o : Output) : Puts (out == .null) (write out o) := by
  cases out with
  | null => exact ⟨.nullPointer, rfl, rfl⟩
  | given => exact ⟨[o], rfl⟩

theorem puts_copy (b : Buffer) (s : String) : Puts b.refuses (copy b (.ok s)) := by
  obtain ⟨isNull, size⟩ := b
  cases isNull with
  | true => exact ⟨.nullPointer, rfl, rfl⟩
  | false =>
      cases size with
      | zero => exact ⟨.emptyBuffer, rfl, rfl⟩
      | succ n => exact ⟨_, rfl⟩

theorem not_refuses_max (b : Buffer) :
    Buffer.refuses { isNull := false, size := max b.size 1 } = false := by
  have hsize : max b.size 1 ≠ 0 := by omega
  simp [Buffer.refuses, hsize]

section AnyLabels

variable [Labels]

theorem readEnd_of_readThen {c : Call} {source : Except Failure (β × (β → Effect → Effect))}
    {read : β → Except Error (α × β)} {put put' : α → Effect} {missed missed' : Error → Effect}
    (hsource : Replaceable w source) (hread : ∀ b a after, read b = .ok (a, after) → after ≠ b)
    (hcall : w.call c = readThen source read put missed w)
    (husable : w.call c.usable = readThen source read put' missed' w)
    (hput : ∀ a, Puts c.refuses (put a)) (hput' : ∀ a, Puts false (put' a))
    (hmissed : ∀ e, ∃ outputs, missed e = fail (.runtime e) outputs)
    (hmissed' : ∀ e, ∃ outputs, missed' e = fail (.runtime e) outputs) : ReadEnd w c := by
  obtain ⟨f, h⟩ | ⟨e, h⟩ | ⟨a, w', hne, h⟩ := readThen_cases hsource hread
  · exact .failed f [] [] (hcall.trans (h put missed)) (husable.trans (h put' missed'))
  · obtain ⟨outputs, heq⟩ := hmissed e
    obtain ⟨outputs', heq'⟩ := hmissed' e
    refine .failed (.runtime e) outputs outputs' ?_ ?_
    · rw [hcall, h, heq]
    · rw [husable, h, heq']
  · obtain ⟨outputs', hanswer⟩ := hput' a
    have hput := hput a
    unfold Puts at hput
    split at hput
    next hrefuses =>
      obtain ⟨f, hf, hfail⟩ := hput
      refine .lost f outputs' w' hne hrefuses hf ?_ ?_
      · rw [hcall, h, hfail]
      · rw [husable, h, hanswer]
    next hrefuses =>
      obtain ⟨outputs, hanswer⟩ := hput
      refine .done outputs w' ?_
      rw [hcall, h, hanswer]

theorem readEnd_of_block {c : Call} {source : Except Failure (β × (β → Effect → Effect))}
    {read : β → Except Error (Option (List UInt8) × β)} {b : Buffer} {count : Out}
    (hsource : Replaceable w source) (husable : c.usable = c)
    (hcall : w.call c = settle (do
      let (body, keep) ← source
      b.check
      let (block, after) ← runtime (read body)
      return keep after (writeBlock count block)) w) : ReadEnd w c := by
  have hfailed : ∀ f, w.call c = fail f [] w → ReadEnd w c := fun f h =>
    .failed f [] [] h (by rw [husable, h])
  cases hbody : source with
  | error f =>
      rw [hbody] at hcall
      exact hfailed f hcall
  | ok found =>
      obtain ⟨body, keep⟩ := found
      rw [hbody] at hcall
      cases hcheck : b.check with
      | error f =>
          rw [hcheck] at hcall
          exact hfailed f hcall
      | ok _ =>
          rw [hcheck] at hcall
          cases hblock : read body with
          | error e =>
              simp only [ok_bind, hblock] at hcall
              exact hfailed (.runtime e) hcall
          | ok value =>
              obtain ⟨block, after⟩ := value
              simp only [ok_bind, hblock] at hcall
              obtain ⟨w', -, hkeep⟩ := hsource body keep hbody after
              have hcall : w.call c = writeBlock count block w' := hcall.trans (hkeep _)
              cases block with
              | none => exact .nothingLeft w' hcall
              | some block => exact .done _ w' hcall

section Families

variable {source : Except Failure (β × (β → Effect → Effect))} {read : β → Except Error (α × β)}

theorem readEnd_of_variable {call : Out → Call} {output : α → Output}
    (hsource : Replaceable w source) (hread : ∀ b a after, read b = .ok (a, after) → after ≠ b)
    (hcall : ∀ out, w.call (call out) =
      readThen source read (fun a => write out (output a)) (fun e => fail (.runtime e) []) w)
    (husable : ∀ out, (call out).usable = call .given)
    (hrefuses : ∀ out, (call out).refuses = (out == .null)) (out : Out) :
    ReadEnd w (call out) := by
  have hgiven := hcall .given
  rw [← husable out] at hgiven
  refine readEnd_of_readThen hsource hread (hcall out) hgiven (fun a => ?_)
    (fun a => puts_write .given _) (fun e => ⟨_, rfl⟩) (fun e => ⟨_, rfl⟩)
  rw [hrefuses]
  exact puts_write out _

theorem readEnd_of_text {call : Buffer → Call} {read : β → Except Error (String × β)}
    (hsource : Replaceable w source) (hread : ∀ b s after, read b = .ok (s, after) → after ≠ b)
    (hcall : ∀ b, w.call (call b) =
      readThen source read (fun s => copy b (.ok s)) (fun e => copy b (.error e)) w)
    (husable : ∀ b, (call b).usable = call { isNull := false, size := max b.size 1 })
    (hrefuses : ∀ b, (call b).refuses = b.refuses) (b : Buffer) : ReadEnd w (call b) := by
  have hroom := hcall { isNull := false, size := max b.size 1 }
  rw [← husable b] at hroom
  refine readEnd_of_readThen hsource hread (hcall b) hroom (fun s => ?_) (fun s => ?_)
    (fun e => ⟨_, rfl⟩) (fun e => ⟨_, rfl⟩)
  · rw [hrefuses]
    exact puts_copy b s
  · have hput := puts_copy { isNull := false, size := max b.size 1 } s
    rwa [not_refuses_max] at hput

end Families

theorem call_bytes_read (t : Scalar) (m : Option MessageId) (out : Out) :
    w.call (.bytes (.read t m out)) = readThen (BytesCall.body m w) (·.readScalar t)
      (fun v => write out (ofValue v)) (fun e => fail (.runtime e) []) w := by
  simp only [Interface.call, Call.check, BytesCall.check, readThen]
  cases BytesCall.body m w with
  | error f => rfl
  | ok found => cases h : found.1.readScalar t <;> simp only [ok_bind, h] <;> rfl

theorem call_bytes_readText (m : Option MessageId) (b : Buffer) :
    w.call (.bytes (.readText m b)) = readThen (BytesCall.body m w) (·.readString)
      (fun s => copy b (.ok s)) (fun e => copy b (.error e)) w := by
  simp only [Interface.call, Call.check, BytesCall.check, readThen]
  cases BytesCall.body m w with
  | error f => rfl
  | ok found => cases h : found.1.readString <;> simp only [ok_bind, h]

theorem call_bytes_readUtf (m : Option MessageId) (b : Buffer) :
    w.call (.bytes (.readUtf m b)) = readThen (BytesCall.body m w) (·.readUtf)
      (fun s => copy b (.ok s)) (fun e => copy b (.error e)) w := by
  simp only [Interface.call, Call.check, BytesCall.check, readThen]
  cases BytesCall.body m w with
  | error f => rfl
  | ok found => cases h : found.1.readUtf <;> simp only [ok_bind, h]

theorem call_stream_read (t : Scalar) (m : Option MessageId) (out : Out) :
    w.call (.stream (.read t m out)) = readThen (StreamCall.body m w) (·.readScalar t)
      (fun v => write out (ofValue v)) (fun e => fail (.runtime e) []) w := by
  simp only [Interface.call, Call.check, StreamCall.check, readThen]
  cases StreamCall.body m w with
  | error f => rfl
  | ok found => cases h : found.1.readScalar t <;> simp only [ok_bind, h] <;> rfl

theorem call_stream_readText (m : Option MessageId) (b : Buffer) :
    w.call (.stream (.readText m b)) = readThen (StreamCall.body m w) (·.readString)
      (fun s => copy b (.ok s)) (fun e => copy b (.error e)) w := by
  simp only [Interface.call, Call.check, StreamCall.check, readThen]
  cases StreamCall.body m w with
  | error f => rfl
  | ok found => cases h : found.1.readString <;> simp only [ok_bind, h]

theorem readEnd_of_isRead {c : Call} (w : Interface) (h : c.isRead = true) : ReadEnd w c := by
  cases c with
  | bytes c =>
      have hmoved : ∀ {b after : BytesBody}, b.position < after.position → after ≠ b := by
        rintro b _ hlt rfl
        exact Nat.lt_irrefl _ hlt
      cases c with
      | read t m out =>
          exact readEnd_of_variable (bytes_replaceable m w)
            (fun _ _ _ hread => hmoved (BytesBody.position_lt_of_readScalar hread))
            (call_bytes_read t m) (fun _ => rfl) (fun _ => rfl) out
      | readBlock m b count => exact readEnd_of_block (bytes_replaceable m w) rfl rfl
      | readText m b =>
          exact readEnd_of_text (bytes_replaceable m w)
            (fun _ _ _ hread => hmoved (BytesBody.position_lt_of_readString hread))
            (call_bytes_readText m) (fun _ => rfl) (fun _ => rfl) b
      | readUtf m b =>
          exact readEnd_of_text (bytes_replaceable m w)
            (fun _ _ _ hread => hmoved (BytesBody.position_lt_of_readUtf hread))
            (call_bytes_readUtf m) (fun _ => rfl) (fun _ => rfl) b
      | _ => cases h
  | stream c =>
      cases c with
      | read t m out =>
          exact readEnd_of_variable (stream_replaceable m w)
            (fun _ _ _ hread => StreamBody.ne_of_read hread)
            (call_stream_read t m) (fun _ => rfl) (fun _ => rfl) out
      | readBlock m b count => exact readEnd_of_block (stream_replaceable m w) rfl rfl
      | readText m b =>
          exact readEnd_of_text (stream_replaceable m w)
            (fun _ _ _ hread => StreamBody.ne_of_read hread)
            (call_stream_readText m) (fun _ => rfl) (fun _ => rfl) b
      | _ => cases h
  | _ => cases h

end AnyLabels

theorem Failure.status_ne_success (f : Failure) : f.status ≠ .success := by
  cases f with
  | runtime e =>
      rw [status]
      cases e.kind <;> decide
  | _ => simp [status]

/--
A read that fails, other than for want of bytes, leaves everything as it was, unless it had no place
for its result and succeeds with one.  Then it leaves what the successful read leaves.
-/
theorem failed_read [Labels] {w : Interface} {c : Call} (hread : c.isRead = true)
    (hsuccess : (w.call c).1.status ≠ .success)
    (hincomplete : (w.call c).1.status ≠ .incompleteRead) :
    ((w.call c).2 = w ↔ ¬ (c.refuses = true ∧ (w.call c.usable).1.status = .success)) ∧
      (c.refuses = true → (w.call c.usable).1.status = .success →
        (w.call c).1.status = .error ∧ (w.call c).2 = (w.call c.usable).2) := by
  cases readEnd_of_isRead w hread with
  | failed f outputs outputs' hcall husable =>
      have hfailed : (w.call c.usable).1.status ≠ .success := by
        rw [husable]
        exact f.status_ne_success
      refine ⟨iff_of_true ?_ fun h => hfailed h.2, fun _ h => absurd h hfailed⟩
      rw [hcall]
      rfl
  | nothingLeft w' hcall =>
      rw [hcall] at hincomplete
      exact absurd rfl hincomplete
  | done outputs w' hcall =>
      rw [hcall] at hsuccess
      exact absurd rfl hsuccess
  | lost f outputs w' hne hrefuses hstatus hcall husable =>
      rw [hcall, husable]
      exact ⟨iff_of_false hne fun h => h ⟨hrefuses, rfl⟩, fun _ _ => ⟨hstatus, rfl⟩⟩

def preparing : List Call :=
  [.connection (.createDefault (some ⟨{ text := "vm://local", broker := "local" }, "", ""⟩) .given),
    .session (.createDefault (some 0) .given),
    .message (.createBytes (some 0) (some [7, 9]) 2 .given), .bytes (.reset (some 0))]

def aimless : Call := .bytes (.read .byte (some 0) .null)

theorem failed_read_aimless :
    let w := Interface.run preparing {}
    aimless.isRead = true ∧ (w.call aimless).1.status ≠ .success ∧
      (w.call aimless).1.status ≠ .incompleteRead ∧ (w.call aimless).2 ≠ w ∧
      (w.call aimless).2 = (w.call aimless.usable).2 := by
  have hread : aimless.isRead = true := by decide
  have hsuccess : ((Interface.run preparing {}).call aimless).1.status ≠ .success := by decide
  have hincomplete : ((Interface.run preparing {}).call aimless).1.status ≠ .incompleteRead := by
    decide
  have hrefuses : aimless.refuses = true := by decide
  have husable : ((Interface.run preparing {}).call aimless.usable).1.status = .success := by decide
  obtain ⟨hiff, hlost⟩ := failed_read hread hsuccess hincomplete
  exact ⟨hread, hsuccess, hincomplete, fun h => hiff.mp h ⟨hrefuses, husable⟩,
    (hlost hrefuses husable).2⟩

/-- The byte that was read in vain is lost: the next read gets the one after it. -/
theorem byte_lost :
    ¬ ∀ (calls : List Call) (c : Call), c.isRead = true →
      ((Interface.run calls {}).call c).1.status ≠ .success →
      ((Interface.run calls {}).call c).1.status ≠ .incompleteRead →
      ((Interface.run calls {}).call c).2.messages = (Interface.run calls {}).messages := by
  intro h
  have hmessages := h preparing aimless (by decide) (by decide) (by decide)
  exact absurd hmessages (by decide)

example : (((Interface.run preparing {}).call aimless).2.call aimless.usable).1.outputs =
    [.scalar (.byte 9)] := by
  decide

end Abi

end Messaging
