import Messaging.Proofs.Abi.Reading
import Messaging.Proofs.Body.Errors
import Messaging.Proofs.Place

/-!
# Tags of message handles

A message handle has a tag that tells the kind of the message.  The tag is written once, when the
handle is made, while the message behind the handle is replaced many times.  Main statement: the
tag is the kind of the body at any time, so a call for bodies of one kind fails on handles of the
others, and on those of its own kind it never fails because of the kind.
-/

namespace Messaging.Abi

open Effect

variable {α β : Type} {w : Interface}

/-! ## What calls lead to -/

namespace Interface

def Tagged (w : Interface) : Prop := ∀ h ∈ w.messages, h.kind = h.message.kind

/-- Handles are only added, all keep their tags, and tags that are right go on being right. -/
structure Leads (w w' : Interface) : Prop where
  tags : w.messages.map Handle.kind <+: w'.messages.map Handle.kind
  tagged : w.Tagged → w'.Tagged

theorem leads_of_messages {w w' : Interface} (h : w'.messages = w.messages) : w.Leads w' := by
  constructor
  · exact h ▸ List.prefix_refl _
  · rw [Tagged, Tagged, h]
    exact id

namespace Leads

theorem refl (w : Interface) : w.Leads w := leads_of_messages rfl

theorem trans {w w' w'' : Interface} (h : w.Leads w') (h' : w'.Leads w'') : w.Leads w'' :=
  ⟨h.tags.trans h'.tags, h'.tagged ∘ h.tagged⟩

theorem kind_getElem? {w w' : Interface} {i : MessageId} {h : Handle} (hleads : w.Leads w')
    (hh : w.messages[i]? = some h) : ∃ h', w'.messages[i]? = some h' ∧ h'.kind = h.kind := by
  have htag : (w.messages.map Handle.kind)[i]? = some h.kind := by simp [hh]
  obtain ⟨added, hadded⟩ := hleads.tags
  obtain ⟨hlt, -⟩ := List.getElem?_eq_some_iff.mp htag
  rw [← List.getElem?_append_left hlt, hadded] at htag
  simpa using htag

end Leads

end Interface

/-! ### Effects -/

section Effects

@[simp] theorem leads_answer (outputs : List Output) : w.Leads (answer outputs w).2 := .refl w

@[simp] theorem leads_fail (f : Failure) (outputs : List Output) :
    w.Leads (fail f outputs w).2 := .refl w

@[simp] theorem leads_write (out : Out) (o : Output) : w.Leads (write out o w).2 := by
  cases out <;> exact .refl w

@[simp] theorem leads_copy (b : Buffer) (r : Except Error String) : w.Leads (copy b r w).2 := by
  cases r with
  | error e => exact .refl w
  | ok s => cases h : b.copy s <;> simp [copy, h]

@[simp] theorem leads_writeBlock (count : Out) (block : Option (List UInt8)) :
    w.Leads (writeBlock count block w).2 := by
  cases block <;> exact .refl w

@[simp] theorem leads_change (f : Provider → Provider) : w.Leads (change f w).2 :=
  Interface.leads_of_messages rfl

@[simp] theorem leads_perform {f : Provider → Outcome α} {k : α → Effect}
    (hk : ∀ a (w : Interface), w.Leads (k a w).2) : w.Leads (perform f k w).2 := by
  unfold perform
  have hprovider : w.Leads { w with provider := (f w.provider).2 } :=
    Interface.leads_of_messages rfl
  dsimp only
  split
  next a _ => exact hprovider.trans (hk a _)
  next e _ => exact hprovider

@[simp] theorem leads_act (f : Provider → Outcome Unit) : w.Leads (act f w).2 :=
  leads_perform fun _ _ => leads_answer []

theorem leads_hand {h : Handle} (hh : w.Tagged → h.kind = h.message.kind) :
    w.Leads (hand h w).2 := by
  constructor
  · simp [hand]
  · intro hw h' hmem
    rcases List.mem_append.mp hmem with hmem | hmem
    · exact hw h' hmem
    · rw [List.mem_singleton.mp hmem]
      exact hh hw

@[simp] theorem leads_hand_ofMessage (m : Message) : w.Leads (hand (.ofMessage m) w).2 :=
  leads_hand fun _ => rfl

@[simp] theorem leads_receive (missing : Option Failure) (m : Option Message) :
    w.Leads (receive missing m w).2 := by
  cases m with
  | none => exact .refl w
  | some m => exact leads_hand_ofMessage m

theorem leads_store {i : MessageId} {h : Handle} {message : Message} {k : Effect}
    (hh : w.messages[i]? = some h) (hkind : message.kind = h.message.kind)
    (hk : ∀ w : Interface, w.Leads (k w).2) : w.Leads (store i message k w).2 := by
  refine Interface.Leads.trans ⟨?_, fun hw h' hmem => ?_⟩
    (hk { w with messages := w.messages.modify i ({ · with message }) })
  · have hkinds := map_modify_eq (f := ({ · with message })) (g := Handle.kind) (i := i)
      (l := w.messages) fun _ _ => rfl
    exact hkinds ▸ List.prefix_refl _
  · rcases mem_of_mem_modify hmem with hmem | ⟨found, hfound, rfl⟩
    · exact hw h' hmem
    · obtain rfl : h = found := Option.some.inj (hh.symm.trans hfound)
      exact (hw h (List.mem_of_getElem? hh)).trans hkind.symm

end Effects

/-! ### Checks -/

section Checks

@[simp] theorem leads_ok {k : Effect} : w.Leads (settle (.ok k) w).2 ↔ w.Leads (k w).2 := .rfl

@[simp] theorem leads_pure {k : Effect} : w.Leads (settle (pure k) w).2 ↔ w.Leads (k w).2 := .rfl

@[simp] theorem leads_error (f : Failure) : w.Leads (settle (.error f) w).2 := leads_fail f []

@[simp] theorem leads_bind {x : Except Failure α} {f : α → Except Failure Effect} :
    w.Leads (settle (x >>= f) w).2 ↔ ∀ a, x = .ok a → w.Leads (settle (f a) w).2 := by
  cases x with
  | error e => simp
  | ok a => simp

@[simp] theorem leads_map {x : Except Failure α} {f : α → Effect} :
    w.Leads (settle (f <$> x) w).2 ↔ ∀ a, x = .ok a → w.Leads (f a w).2 :=
  leads_bind

@[simp] theorem leads_ite {p : Prop} [Decidable p] {x y : Except Failure Effect} :
    w.Leads (settle (if p then x else y) w).2 ↔
      if p then w.Leads (settle x w).2 else w.Leads (settle y w).2 := by
  split <;> rfl

@[simp] theorem leads_recording {c : ConnectionId} {x : Except Failure Effect}
    (hx : w.Leads (settle x w).2) : w.Leads (recording c x w).2 := by
  unfold recording
  dsimp only
  split
  next => exact hx
  next => exact hx.trans (Interface.leads_of_messages rfl)

end Checks

/-! ### Calls -/

theorem leads_connection [Labels] (c : ConnectionCall) (w : Interface) :
    w.Leads (settle (c.check w) w).2 := by
  cases c <;> simp [ConnectionCall.check]

theorem leads_session (c : SessionCall) (w : Interface) : w.Leads (settle (c.check w) w).2 := by
  cases c <;> simp [SessionCall.check, SessionCall.createWith]

theorem leads_destination (c : DestinationCall) (w : Interface) :
    w.Leads (settle c.check w).2 := by
  have hmade (d : Destination) (w : Interface) : w.Leads (DestinationCall.made d w).2 :=
    leads_answer _
  cases c <;> simp [DestinationCall.check, hmade]

theorem leads_consumer (c : ConsumerCall) (w : Interface) : w.Leads (settle (c.check w) w).2 := by
  cases c <;> simp [ConsumerCall.check, ConsumerCall.createWith, ConsumerCall.wait]

theorem leads_browser (c : BrowserCall) (w : Interface) : w.Leads (settle (c.check w) w).2 := by
  cases c <;> simp [BrowserCall.check]

theorem leads_store_message {m : Option MessageId} {i : MessageId} {message message' : Message}
    {k : Effect} (hm : w.message m = .ok (i, message)) (hkind : message'.kind = message.kind)
    (hk : ∀ w : Interface, w.Leads (k w).2) : w.Leads (store i message' k w).2 := by
  obtain ⟨h, -, hh, rfl⟩ := message_eq_ok.mp hm
  exact leads_store hh hkind hk

theorem leads_setHeaders (m : Option MessageId) (f : Headers → Except Failure Headers) :
    w.Leads (settle (MessageCall.setHeaders m f w) w).2 := by
  refine leads_bind.mpr fun ⟨i, message⟩ hm => leads_bind.mpr fun headers _ => ?_
  exact leads_store_message hm rfl fun _ => leads_answer []

theorem leads_setProperty {m : Option MessageId} {i : MessageId} {message : Message}
    (hm : w.message m = .ok (i, message)) (key : String) (v : Value) :
    w.Leads (settle (do
      let message ← runtime (message.setProperty key v)
      return store i message (answer [])) w).2 := by
  refine leads_bind.mpr fun message' hset => ?_
  obtain ⟨-, -, rfl⟩ := Message.setProperty_eq_ok.mp (runtime_eq_ok.mp hset)
  exact leads_store_message hm rfl fun _ => leads_answer []

theorem leads_message (c : MessageCall) (w : Interface) : w.Leads (settle (c.check w) w).2 := by
  cases c with
  | createPlain | createText | createBytes | createMap | createStream =>
      simp [MessageCall.check, MessageCall.create]
  | clone m out =>
      refine leads_bind.mpr fun ⟨i, h⟩ hh => leads_bind.mpr fun _ _ => ?_
      exact leads_hand fun hw => hw h (List.mem_of_getElem? (handle_eq_ok.mp hh).2)
  | getKind | acknowledge | countProperties | getPropertyNames | hasProperty | getProperty
  | getTextProperty | getText | getInt | getTime =>
      simp [MessageCall.check, writeNames]
  | getDestination h m out =>
      refine leads_bind.mpr fun ⟨i, message⟩ _ => ?_
      dsimp only
      split <;> exact leads_write out _
  | clearBody m =>
      refine leads_bind.mpr fun ⟨i, message⟩ hm => ?_
      exact leads_store_message hm (Message.kind_clearBody message) fun _ => leads_answer []
  | clearProperties m =>
      refine leads_bind.mpr fun ⟨i, message⟩ hm => ?_
      exact leads_store_message hm rfl fun _ => leads_answer []
  | setProperty m key v =>
      refine leads_bind.mpr fun ⟨i, message⟩ hm => leads_bind.mpr fun key _ => ?_
      exact leads_setProperty hm key v
  | setTextProperty m key value =>
      refine leads_bind.mpr fun ⟨i, message⟩ hm => leads_bind.mpr fun key _ => ?_
      exact leads_bind.mpr fun value _ => leads_setProperty hm key (.string value)
  | setText | setInt | setTime | setDestination => simp [MessageCall.check, leads_setHeaders]

theorem leads_text (c : TextCall) (w : Interface) : w.Leads (settle (c.check w) w).2 := by
  cases c with
  | get m b => simp [TextCall.check]
  | set m s =>
      refine leads_bind.mpr fun ⟨i, message⟩ hm => leads_bind.mpr fun s _ => ?_
      refine leads_bind.mpr fun message' hset => ?_
      obtain ⟨h, -, hh, -, rfl⟩ := typed_eq_ok.mp hm
      obtain ⟨⟨old, hold⟩, -, rfl⟩ := Message.setText_eq_ok.mp (runtime_eq_ok.mp hset)
      refine leads_store hh ?_ fun _ => leads_answer []
      rw [Message.kind, Message.kind, hold]
      rfl

theorem leads_put (m : Option MessageId) (key : CString) (v : Value) :
    w.Leads (settle (MapCall.put m key v w) w).2 := by
  refine leads_bind.mpr fun ⟨i, message⟩ hm => leads_bind.mpr fun key _ => ?_
  refine leads_bind.mpr fun table htable => ?_
  obtain ⟨h, -, hh, -, rfl⟩ := typed_eq_ok.mp hm
  obtain ⟨hbody, -⟩ := Message.mapBodyToWrite_eq_ok.mp (runtime_eq_ok.mp htable)
  refine leads_store hh ?_ fun _ => leads_answer []
  rw [Message.kind, Message.kind, hbody]
  rfl

theorem leads_map_call (c : MapCall) (w : Interface) : w.Leads (settle (c.check w) w).2 := by
  cases c with
  | contains | getNames | get | getText => simp [MapCall.check, writeNames]
  | set m key v => exact leads_put m key v
  | setText m key value => exact leads_bind.mpr fun value _ => leads_put m key _

def LeadsFrom (w : Interface) (source : Except Failure (β × (β → Effect → Effect))) : Prop :=
  ∀ b keep, source = .ok (b, keep) → ∀ after k, (∀ w : Interface, w.Leads (k w).2) →
    w.Leads (keep after k w).2

theorem leadsFrom_of_make {get : Message → Except Error β} {make : β → Body}
    (hget : ∀ message b, get message = .ok b → message.body = make b)
    (hmake : ∀ b b', (make b).kind = (make b').kind) (kind : MessageKind) (m : Option MessageId) :
    LeadsFrom w (do
      let (m, message) ← w.typed kind m
      let b ← runtime (get message)
      return (b, fun after => store m { message with body := make after })) := by
  intro b keep h after k hk
  obtain ⟨⟨i, message⟩, htyped, h⟩ := bind_eq_ok.mp h
  obtain ⟨b', hbody, h⟩ := bind_eq_ok.mp h
  cases h
  obtain ⟨found, -, hfound, -, rfl⟩ := typed_eq_ok.mp htyped
  refine leads_store hfound ?_ hk
  rw [Message.kind, Message.kind, hget _ _ (runtime_eq_ok.mp hbody)]
  exact hmake after b

theorem bytes_leadsFrom (m : Option MessageId) : LeadsFrom w (BytesCall.body m w) :=
  leadsFrom_of_make (fun _ _ => Message.bytesBody_eq_ok.mp) (fun _ _ => rfl) .bytes m

theorem stream_leadsFrom (m : Option MessageId) : LeadsFrom w (StreamCall.body m w) :=
  leadsFrom_of_make (fun _ _ => Message.streamBody_eq_ok.mp) (fun _ _ => rfl) .stream m

theorem leads_source {source : Except Failure (β × (β → Effect → Effect))}
    {f : β × (β → Effect → Effect) → Except Failure Effect} (hsource : LeadsFrom w source)
    (hf : ∀ b keep, (∀ after k, (∀ w : Interface, w.Leads (k w).2) → w.Leads (keep after k w).2) →
      w.Leads (settle (f (b, keep)) w).2) : w.Leads (settle (source >>= f) w).2 :=
  leads_bind.mpr fun ⟨b, keep⟩ h => hf b keep (hsource b keep h)

theorem leads_bytes (c : BytesCall) (w : Interface) : w.Leads (settle (c.check w) w).2 := by
  cases c with
  | getLength | reset | read | write | readBlock | writeBlock | writeText | writeUtf =>
      refine leads_source (bytes_leadsFrom _) fun b keep hkeep => ?_
      simp [hkeep]
  | readText m buffer | readUtf m buffer =>
      refine leads_source (bytes_leadsFrom _) fun b keep hkeep => ?_
      dsimp only
      split <;> simp [hkeep]

theorem leads_stream (c : StreamCall) (w : Interface) : w.Leads (settle (c.check w) w).2 := by
  cases c with
  | reset | read | write | readBlock | writeBlock | writeText =>
      refine leads_source (stream_leadsFrom _) fun b keep hkeep => ?_
      simp [hkeep]
  | readText m buffer =>
      refine leads_source (stream_leadsFrom _) fun b keep hkeep => ?_
      dsimp only
      split <;> simp [hkeep]

theorem leads_sendMessage {m : Option MessageId} {i : MessageId} {message : Message}
    (hm : w.message m = .ok (i, message)) (p : ProducerId) (d : Option Destination) (q : Quality) :
    w.Leads (ProducerCall.sendMessage p i message d q w).2 := by
  obtain ⟨headers, hsent⟩ := Message.send_message p d q message w.provider
  rcases hsend : w.provider.send p d q message with ⟨sent, provider⟩
  rw [hsend] at hsent
  simp only [ProducerCall.sendMessage, hsend]
  have hprovider : w.Leads { w with provider } := Interface.leads_of_messages rfl
  have hstill : Interface.message m { w with provider } = .ok (i, message) := hm
  refine hprovider.trans (leads_store_message hstill (hsent ▸ rfl) fun w => ?_)
  cases runtime sent.result <;> simp [Except.map]

theorem leads_producer (c : ProducerCall) (w : Interface) : w.Leads (settle (c.check w) w).2 := by
  cases c with
  | create | close | get | getTimeToLive | setTimeToLive => simp [ProducerCall.check]
  | set x p n => cases x <;> simp [ProducerCall.check, ProducerCall.configure]
  | send p m | sendTo p m | sendDefault p m | sendFor p m =>
      simp only [ProducerCall.check, leads_bind, leads_pure]
      rintro p - ⟨i, message⟩ hm
      simp [leads_sendMessage hm]

/-! ### Turns -/

section AnyLabels

variable [Labels]

theorem leads_call (c : Call) (w : Interface) : w.Leads (w.call c).2 := by
  cases c with
  | connection c => exact leads_connection c w
  | session c => exact leads_session c w
  | destination c => exact leads_destination c w
  | message c => exact leads_message c w
  | text c => exact leads_text c w
  | map c => exact leads_map_call c w
  | bytes c => exact leads_bytes c w
  | stream c => exact leads_stream c w
  | producer c => exact leads_producer c w
  | consumer c => exact leads_consumer c w
  | browser c => exact leads_browser c w
  | destroy o =>
      rcases o with _ | o
      · exact leads_answer []
      · cases o <;> first | exact leads_answer [] | exact leads_change _

theorem leads_receiveDuring (c : Option ConsumerId) (out : Out) (other : Call) (w : Interface) :
    w.Leads (w.receiveDuring c out other).2 := by
  unfold Interface.receiveDuring
  dsimp only
  split
  next => exact (leads_call _ w).trans (leads_call other _)
  next c provider _ =>
    have hprovider : w.Leads { w with provider } := Interface.leads_of_messages rfl
    refine (hprovider.trans (leads_call other _)).trans (leads_perform fun m w => ?_)
    exact leads_receive _ m

/-- What can happen next: a call, two calls of which the first waits, or time passes. -/
inductive Turn where
  | call (c : Call)
  | receiveDuring (c : Option ConsumerId) (out : Out) (other : Call)
  | advance (millis : Int64)

namespace Interface

def turn (t : Turn) (w : Interface) : Interface :=
  match t with
  | .call c => (w.call c).2
  | .receiveDuring c out other => (w.receiveDuring c out other).2
  | .advance millis => { w with provider := w.provider.advance millis }

def after (turns : List Turn) (w : Interface) : Interface := turns.foldl (fun w t => w.turn t) w

theorem after_append (turns later : List Turn) (w : Interface) :
    w.after (turns ++ later) = (w.after turns).after later :=
  List.foldl_append ..

theorem leads_turn (t : Turn) (w : Interface) : w.Leads (w.turn t) := by
  cases t with
  | call c => exact leads_call c w
  | receiveDuring c out other => exact leads_receiveDuring c out other w
  | advance millis => exact leads_of_messages rfl

theorem leads_after (turns : List Turn) (w : Interface) : w.Leads (w.after turns) := by
  induction turns generalizing w with
  | nil => exact .refl w
  | cons t turns ih => exact (leads_turn t w).trans (ih (w.turn t))

end Interface

end AnyLabels

/-! ## Failures about kinds -/

def Failure.aboutKind : Failure → Bool
  | .wrongKind .. => true
  | .runtime e => e.isWrongBody
  | _ => false

theorem Failure.aboutKind_of_status {f : Failure} (h : f.status = .invalidMessageType) :
    f.aboutKind = true := by
  cases f with
  | wrongKind expected found => rfl
  | runtime e =>
      rw [status] at h
      cases hkind : e.kind <;> simp [hkind, Status.ofKind] at h
  | _ => simp [status] at h

def Reply.Fitting (r : Reply) : Prop := ∀ f, r.failure = some f → f.aboutKind = false

theorem Reply.Fitting.status_ne {r : Reply} (h : r.Fitting) : r.status ≠ .invalidMessageType := by
  intro hstatus
  rw [status] at hstatus
  split at hstatus
  next f hf => exact absurd (Failure.aboutKind_of_status hstatus) (by simp [h f hf])
  next => cases hstatus

section Fitting

@[simp] theorem fitting_answer (outputs : List Output) : (answer outputs w).1.Fitting := by
  rintro f ⟨⟩

@[simp] theorem fitting_fail {f : Failure} {outputs : List Output} :
    (fail f outputs w).1.Fitting ↔ f.aboutKind = false := by
  simp [fail, Reply.Fitting]

@[simp] theorem fitting_write (out : Out) (o : Output) : (write out o w).1.Fitting := by
  cases out <;> simp [write, Failure.aboutKind]

@[simp] theorem fitting_copy {b : Buffer} {r : Except Error String} :
    (copy b r w).1.Fitting ↔ Messaging.Fitting r := by
  cases r with
  | error e => simp [copy, Failure.aboutKind]
  | ok s =>
      obtain ⟨isNull, size⟩ := b
      rcases isNull <;> rcases size <;> simp [copy, Buffer.copy, Failure.aboutKind]

@[simp] theorem fitting_writeBlock (count : Out) (block : Option (List UInt8)) :
    (writeBlock count block w).1.Fitting := by
  cases block <;> simp [writeBlock, Failure.aboutKind]

@[simp] theorem fitting_store {i : MessageId} {message : Message} {k : Effect} :
    (store i message k w).1.Fitting ↔
      (k { w with messages := w.messages.modify i ({ · with message }) }).1.Fitting := .rfl

@[simp] theorem fitting_ok {k : Effect} :
    (settle (.ok k) w).1.Fitting ↔ (k w).1.Fitting := .rfl

@[simp] theorem fitting_pure {k : Effect} :
    (settle (pure k) w).1.Fitting ↔ (k w).1.Fitting := .rfl

@[simp] theorem fitting_bind {x : Except Failure α} {f : α → Except Failure Effect} :
    (settle (x >>= f) w).1.Fitting ↔
      Avoids Failure.aboutKind x ∧ ∀ a, x = .ok a → (settle (f a) w).1.Fitting := by
  cases x with
  | error e => exact fitting_fail.trans (by simp)
  | ok a => simp

@[simp] theorem fitting_map {x : Except Failure α} {f : α → Effect} :
    (settle (f <$> x) w).1.Fitting ↔
      Avoids Failure.aboutKind x ∧ ∀ a, x = .ok a → (f a w).1.Fitting :=
  fitting_bind

@[simp] theorem avoids_runtime {x : Except Error α} :
    Avoids Failure.aboutKind (runtime x) ↔ Fitting x := by
  cases x <;> simp [runtime, Failure.aboutKind]

@[simp] theorem avoids_given (o : Option α) : Avoids Failure.aboutKind (given o) := by
  cases o <;> simp [given, Failure.aboutKind]

@[simp] theorem avoids_text (s : CString) : Avoids Failure.aboutKind s.text := by
  refine (avoids_given s).bind fun bytes => ?_
  unfold CString.decode
  split
  · exact avoids_ok _
  · exact avoids_error.mpr rfl

@[simp] theorem avoids_key (s : CString) : Avoids Failure.aboutKind s.key := by
  refine (avoids_text s).bind fun key => ?_
  split
  · exact avoids_error.mpr rfl
  · exact avoids_ok key

@[simp] theorem avoids_out (out : Out) : Avoids Failure.aboutKind out.check := by
  cases out <;> simp [Out.check, Failure.aboutKind]

@[simp] theorem avoids_buffer (b : Buffer) : Avoids Failure.aboutKind b.check := by
  unfold Buffer.check
  split
  · exact avoids_error.mpr rfl
  · exact avoids_ok ()

end Fitting

/-! ## Calls for one kind -/

def TextCall.handle : TextCall → Option MessageId
  | get m _ | set m _ => m

def MapCall.handle : MapCall → Option MessageId
  | contains m .. | getNames m _ | get _ m .. | getText m .. | set m .. | setText m .. => m

def BytesCall.handle : BytesCall → Option MessageId
  | getLength m _ | reset m | read _ m _ | write m _ | readBlock m .. | writeBlock m ..
  | readText m _ | writeText m _ | readUtf m _ | writeUtf m _ => m

def StreamCall.handle : StreamCall → Option MessageId
  | reset m | read _ m _ | write m _ | readBlock m .. | writeBlock m .. | readText m _
  | writeText m _ => m

def Call.accesses? : Call → Option (MessageKind × Option MessageId)
  | text c => some (.text, c.handle)
  | map c => some (.map, c.handle)
  | bytes c => some (.bytes, c.handle)
  | stream c => some (.stream, c.handle)
  | _ => none

section Accessors

variable {i : MessageId} {h : Handle} {kind : MessageKind}

theorem typed_of_kind (hh : w.messages[i]? = some h) :
    w.typed h.kind (some i) = .ok (i, h.message) :=
  typed_eq_ok.mpr ⟨h, rfl, hh, rfl, rfl⟩

theorem typed_of_ne (hh : w.messages[i]? = some h) (hne : h.kind ≠ kind) :
    w.typed kind (some i) = .error (.wrongKind kind h.kind) := by
  rw [Interface.typed, handle_eq_ok.mpr ⟨rfl, hh⟩, ok_bind]
  exact if_neg hne

theorem check_of_ne [Labels] {c : Call} (hc : c.accesses? = some (kind, some i))
    (hh : w.messages[i]? = some h) (hne : h.kind ≠ kind) : ∃ f, c.check w = .error f := by
  cases c with
  | text c =>
      obtain ⟨rfl, hm⟩ := Prod.mk.inj (Option.some.inj hc)
      cases c <;>
        · obtain rfl := hm
          simp [Call.check, TextCall.check, typed_of_ne hh hne]
  | map c =>
      obtain ⟨rfl, hm⟩ := Prod.mk.inj (Option.some.inj hc)
      cases c with
      | setText m key value =>
          obtain rfl := hm
          cases hvalue : value.text <;>
            simp [Call.check, MapCall.check, MapCall.put, hvalue, typed_of_ne hh hne]
      | contains | getNames | get | getText | set =>
          obtain rfl := hm
          simp [Call.check, MapCall.check, MapCall.entries, MapCall.put, typed_of_ne hh hne]
  | bytes c =>
      obtain ⟨rfl, hm⟩ := Prod.mk.inj (Option.some.inj hc)
      cases c <;>
        · obtain rfl := hm
          simp [Call.check, BytesCall.check, BytesCall.body, typed_of_ne hh hne]
  | stream c =>
      obtain ⟨rfl, hm⟩ := Prod.mk.inj (Option.some.inj hc)
      cases c <;>
        · obtain rfl := hm
          simp [Call.check, StreamCall.check, StreamCall.body, typed_of_ne hh hne]
  | _ => cases hc

theorem fitting_readText {source : Except Failure (β × (β → Effect → Effect))}
    {read : β → Except Error (String × β)} {b : β} {make : β → Message}
    (hsource : source = .ok (b, fun after => store i (make after))) (hread : Fitting (read b))
    (buffer : Buffer) :
    (readThen source read (fun s => copy buffer (.ok s)) (fun e => copy buffer (.error e))
      w).1.Fitting := by
  cases hvalue : read b with
  | error e => simpa [readThen, hsource, hvalue] using hread e hvalue
  | ok value => simp [readThen, hsource, hvalue]

variable [Labels]

theorem fitting_bytes {c : BytesCall} {b : BytesBody} {make : BytesBody → Message}
    (hbody : BytesCall.body c.handle w = .ok (b, fun after => store i (make after))) :
    (w.call (.bytes c)).1.Fitting := by
  cases c with
  | getLength | reset | read | write | readBlock | writeText | writeUtf =>
      rw [BytesCall.handle] at hbody
      simp [Interface.call, Call.check, BytesCall.check, hbody]
  | writeBlock m bytes offset length =>
      rw [BytesCall.handle] at hbody
      by_cases hlength : length = 0 <;>
        simp [Interface.call, Call.check, BytesCall.check, hbody, hlength]
  | readText m buffer =>
      rw [call_bytes_readText]
      exact fitting_readText hbody (BytesBody.fitting_readString b) buffer
  | readUtf m buffer =>
      rw [call_bytes_readUtf]
      exact fitting_readText hbody (BytesBody.fitting_readUtf b) buffer

theorem fitting_stream {c : StreamCall} {b : StreamBody} {make : StreamBody → Message}
    (hbody : StreamCall.body c.handle w = .ok (b, fun after => store i (make after))) :
    (w.call (.stream c)).1.Fitting := by
  cases c with
  | reset | read | write | readBlock | writeText =>
      rw [StreamCall.handle] at hbody
      simp [Interface.call, Call.check, StreamCall.check, hbody]
  | writeBlock m bytes offset length =>
      rw [StreamCall.handle] at hbody
      by_cases hlength : length = 0 <;>
        simp [Interface.call, Call.check, StreamCall.check, hbody, hlength]
  | readText m buffer =>
      rw [call_stream_readText]
      exact fitting_readText hbody (StreamBody.fitting_readString b) buffer

theorem fitting_call {c : Call} (hc : c.accesses? = some (h.kind, some i))
    (hh : w.messages[i]? = some h) (htag : h.kind = h.message.kind) : (w.call c).1.Fitting := by
  have htyped := typed_of_kind hh
  cases c with
  | text c =>
      obtain ⟨hkind, hm⟩ := Prod.mk.inj (Option.some.inj hc)
      rw [← hkind] at htag htyped
      obtain ⟨s, hs⟩ := Message.getText_of_kind htag.symm
      cases c <;>
        · obtain rfl := hm
          simp [Interface.call, Call.check, TextCall.check, htyped, hs,
            Message.fitting_setText htag.symm]
  | map c =>
      obtain ⟨hkind, hm⟩ := Prod.mk.inj (Option.some.inj hc)
      rw [← hkind] at htag htyped
      obtain ⟨t, ht⟩ := Message.mapBody_of_kind htag.symm
      cases c <;>
        · obtain rfl := hm
          simp [Interface.call, Call.check, MapCall.check, MapCall.entries, MapCall.put, writeNames,
            htyped, ht, Message.fitting_mapBodyToWrite htag.symm]
  | bytes c =>
      obtain ⟨hkind, hm⟩ := Prod.mk.inj (Option.some.inj hc)
      rw [← hkind] at htag htyped
      obtain ⟨b, hb⟩ := Message.bytesBody_of_kind htag.symm
      have hbody : BytesCall.body c.handle w =
          .ok (b, fun after => store i { h.message with body := .bytes after }) := by
        simp [BytesCall.body, hm, htyped, hb, runtime]
      exact fitting_bytes hbody
  | stream c =>
      obtain ⟨hkind, hm⟩ := Prod.mk.inj (Option.some.inj hc)
      rw [← hkind] at htag htyped
      obtain ⟨b, hb⟩ := Message.streamBody_of_kind htag.symm
      have hbody : StreamCall.body c.handle w =
          .ok (b, fun after => store i { h.message with body := .stream after }) := by
        simp [StreamCall.body, hm, htyped, hb, runtime]
      exact fitting_stream hbody
  | _ => cases hc

end Accessors

/--
Whatever is done to handles, they keep their tags, and the tags are the kinds of the bodies.  A call
for another kind fails, writes nothing and changes nothing, and a call for the kind does not fail
because of the kind, whatever the provider is doing meanwhile.
-/
theorem tag_tells_kind [Labels] (provider meanwhile : Provider) (turns later : List Turn)
    {i : MessageId} {h : Handle} (hh : (Interface.after turns { provider }).messages[i]? = some h) :
    let w := { Interface.after turns { provider } with provider := meanwhile }
    h.kind = h.message.kind ∧
      (∃ h', (Interface.after (turns ++ later) { provider }).messages[i]? = some h' ∧
        h'.kind = h.kind) ∧
      ∀ (c : Call) (kind : MessageKind), c.accesses? = some (kind, some i) →
        (h.kind ≠ kind →
          (w.call c).1.status ≠ .success ∧ (w.call c).1.outputs = [] ∧ (w.call c).2 = w) ∧
        (h.kind = kind →
          (w.call c).1.status ≠ .invalidMessageType ∧
            ∀ b, (w.call c).1.failure ≠ some (.runtime (.wrongBody b))) := by
  intro w
  have hstart : Interface.Tagged { provider } := fun h hmem => nomatch hmem
  have htag := (Interface.leads_after turns _).tagged hstart h (List.mem_of_getElem? hh)
  refine ⟨htag, ?_, fun c kind hc => ⟨fun hne => ?_, fun hkind => ?_⟩⟩
  · rw [Interface.after_append]
    exact (Interface.leads_after later _).kind_getElem? hh
  · obtain ⟨f, hf⟩ := check_of_ne (w := w) hc hh hne
    rw [Interface.call_of_check_error hf]
    exact ⟨f.status_ne_success, rfl, rfl⟩
  · obtain rfl := hkind
    have hfitting := fitting_call (w := w) hc hh htag
    exact ⟨hfitting.status_ne, fun b hb => nomatch hfitting _ hb⟩

def copying : List Turn :=
  List.map Turn.call <|
    preparing ++ [.message (.clone (some 0) .given), .message (.clearBody (some 1))]

theorem tag_tells_kind_copying :
    let w := Interface.after copying {}
    let getText : Call := .text (.get (some 1) { isNull := false, size := 8 })
    let readByte : Call := .bytes (.read .byte (some 1) .given)
    w.messages.map Handle.kind = [.bytes, .bytes] ∧
      (w.call getText).1.status ≠ .success ∧ (w.call getText).2 = w ∧
      (w.call readByte).1.status ≠ .invalidMessageType := by
  intro w getText readByte
  obtain ⟨h, hh, hkind⟩ : ∃ h, w.messages[1]? = some h ∧ h.kind = .bytes := by
    have htags : (w.messages.map Handle.kind)[1]? = some .bytes := by decide
    simpa using htags
  obtain ⟨-, -, hcalls⟩ := tag_tells_kind {} w.provider copying [] hh
  obtain ⟨hother, -⟩ := hcalls getText .text rfl
  obtain ⟨-, hown⟩ := hcalls readByte .bytes rfl
  obtain ⟨hfails, -, hstill⟩ := hother (by simp [hkind])
  exact ⟨by decide, hfails, hstill, (hown hkind).1⟩

end Messaging.Abi
