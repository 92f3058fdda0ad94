import Messaging.Proofs.Body.Cursor
import Messaging.Proofs.Body.Field
import Messaging.Proofs.Fidelity
import Messaging.Proofs.Message

/-!
# Protection of received messages

Who gets a message can use it in any way: set headers, read it, copy it, send it on, acknowledge it.
What it says stays what was received.  Its properties and its body cannot be written before they are
cleared, each of the two by a call of its own.
-/

namespace Messaging

open Memory Provider

/-! ## Uses -/

inductive Use where
  | setHeaders (f : Headers → Headers)
  | setProperty (name : String) (v : Value)
  | clearProperties
  | getText
  | setText (s : String)
  | getEntries
  | setEntry (name : String) (v : Value)
  | clearEntries
  | bytes (c : BytesBody.Call)
  | stream (c : StreamBody.Call)
  | clearBody
  | clone
  | send (p : ProducerId) (requested : Option Destination) (q : Quality) (w : Provider)
  | acknowledge (w : Provider)

namespace Message

/-- The message of the caller after a call, which is the same one if the call failed. -/
def updated (m : Message) : Except Error Message → Except Error Unit × Message
  | .ok m' => (.ok (), m')
  | .error e => (.error e, m)

def perform (u : Use) (m : Message) : Except Error Unit × Message :=
  match u with
  | .setHeaders f => (.ok (), { m with headers := f m.headers })
  | .setProperty name v => m.updated (m.setProperty name v)
  | .clearProperties => (.ok (), m.clearProperties)
  | .getText => (m.getText.map fun _ => (), m)
  | .setText s => m.updated (m.setText s)
  | .getEntries => (m.mapBody.map fun _ => (), m)
  | .setEntry name v => m.updated do
      let t ← m.mapBodyToWrite
      return { m with body := .map (t.insert name v) }
  | .clearEntries => m.updated do
      let _ ← m.mapBodyToWrite
      return { m with body := .map .empty }
  | .bytes c => m.updated do
      let (_, b) ← (← m.bytesBody).perform c
      return { m with body := .bytes b }
  | .stream c => m.updated do
      let (_, b) ← (← m.streamBody).perform c
      return { m with body := .stream b }
  | .clearBody => (.ok (), m.clearBody)
  | .clone => (.ok (), m)
  | .send p requested q w => ((w.send p requested q m).1.result, (w.send p requested q m).1.message)
  | .acknowledge w => ((w.acknowledge m).1, m)

/-! ## What a use changes -/

inductive Changes (u : Use) (m : Message) : Message → Prop where
  | headers (headers : Headers) : Changes u m { m with headers }
  | properties (properties : ValueTable) : m.propertiesFrozen = false →
      Changes u m { m with properties }
  | clearProperties : u = .clearProperties → Changes u m m.clearProperties
  | text {old new : String} : m.bodyFrozen = false → m.body = .text old →
      Changes u m { m with body := .text new }
  | map {old new : ValueTable} : m.bodyFrozen = false → m.body = .map old →
      Changes u m { m with body := .map new }
  | bytes {c : BytesBody.Call} {b : BytesBody} : u = .bytes c → m.body = .bytes b →
      Changes u m { m with body := .bytes (Memory.keeping (BytesBody.perform c) b).2 }
  | stream {c : StreamBody.Call} {b : StreamBody} : u = .stream c → m.body = .stream b →
      Changes u m { m with body := .stream (Memory.keeping (StreamBody.perform c) b).2 }
  | clearBody : u = .clearBody → Changes u m m.clearBody

variable {u : Use} {m : Message}

theorem Changes.none : Changes u m m := .headers m.headers

theorem changes_updated {r : Except Error Message} (h : ∀ m', r = .ok m' → Changes u m m') :
    Changes u m (m.updated r).2 := by
  cases r with
  | ok m' => exact h m' rfl
  | error e => exact .none

theorem perform_bytes {b : BytesBody} (hm : m.body = .bytes b) (c : BytesBody.Call) :
    m.perform (.bytes c) =
      ((Memory.keeping (BytesBody.perform c) b).1.map fun _ => (),
        { m with body := .bytes (Memory.keeping (BytesBody.perform c) b).2 }) := by
  have hself : { m with body := .bytes b } = m := by rw [← hm]
  cases hc : BytesBody.perform c b with
  | ok r =>
      simp [perform, bytesBody, hm, Memory.keeping, hc, updated, Except.map, pure, Except.pure]
  | error e => simp [perform, bytesBody, hm, Memory.keeping, hc, updated, Except.map, hself]

theorem perform_stream {b : StreamBody} (hm : m.body = .stream b) (c : StreamBody.Call) :
    m.perform (.stream c) =
      ((Memory.keeping (StreamBody.perform c) b).1.map fun _ => (),
        { m with body := .stream (Memory.keeping (StreamBody.perform c) b).2 }) := by
  have hself : { m with body := .stream b } = m := by rw [← hm]
  cases hc : StreamBody.perform c b with
  | ok r =>
      simp [perform, streamBody, hm, Memory.keeping, hc, updated, Except.map, pure, Except.pure]
  | error e => simp [perform, streamBody, hm, Memory.keeping, hc, updated, Except.map, hself]

theorem changes_perform (u : Use) (m : Message) : Changes u m (m.perform u).2 := by
  cases u with
  | setHeaders f => exact .headers _
  | setProperty name v =>
      refine changes_updated fun m' h => ?_
      obtain ⟨-, hfrozen, rfl⟩ := setProperty_eq_ok.mp h
      exact .properties _ hfrozen
  | clearProperties => exact .clearProperties rfl
  | getText | getEntries | clone | acknowledge => exact .none
  | setText s =>
      refine changes_updated fun m' h => ?_
      obtain ⟨⟨old, hm⟩, hfrozen, rfl⟩ := setText_eq_ok.mp h
      exact .text hfrozen hm
  | setEntry | clearEntries =>
      refine changes_updated fun m' h => ?_
      obtain ⟨t, ht, heq⟩ := bind_eq_ok.mp h
      obtain ⟨hm, hfrozen⟩ := mapBodyToWrite_eq_ok.mp ht
      cases heq
      exact .map hfrozen hm
  | bytes c =>
      cases hm : m.body with
      | bytes b =>
          rw [perform_bytes hm]
          exact .bytes rfl hm
      | empty | text | map | stream =>
          simp only [perform, bytesBody, hm, updated, error_bind]
          exact .none
  | stream c =>
      cases hm : m.body with
      | stream b =>
          rw [perform_stream hm]
          exact .stream rfl hm
      | empty | text | map | bytes =>
          simp only [perform, streamBody, hm, updated, error_bind]
          exact .none
  | clearBody => exact .clearBody rfl
  | send p requested q w =>
      obtain ⟨headers, hsent⟩ := send_message p requested q m w
      simp only [perform, hsent]
      exact .headers headers

/-! ## Locks -/

theorem Changes.properties_locked {m' : Message} (h : Changes u m m') (hu : u ≠ .clearProperties)
    (hm : m.propertiesFrozen = true) :
    m'.properties = m.properties ∧ m'.propertiesFrozen = true := by
  cases h with
  | properties t hopen => cases hm.symm.trans hopen
  | clearProperties hclear => exact absurd hclear hu
  | headers | text | map | bytes | stream | clearBody => exact ⟨rfl, hm⟩

theorem Changes.properties_open {m' : Message} (h : Changes u m m')
    (hm : m.propertiesFrozen = false) : m'.propertiesFrozen = false := by
  cases h with
  | clearProperties => rfl
  | headers | properties | text | map | bytes | stream | clearBody => exact hm

theorem Changes.kind {m' : Message} (h : Changes u m m') : m'.kind = m.kind := by
  cases h with
  | headers | properties | clearProperties => rfl
  | text _ hm | map _ hm | bytes _ hm | stream _ hm =>
      rw [Message.kind, Message.kind, hm]
      rfl
  | clearBody => exact kind_clearBody m

end Message

/-- A body of bytes or of values is read or written; the other bodies are not in a mode. -/
def Body.inMode (reading : Bool) : Body → Prop
  | .bytes b => b.isReadable = reading
  | .stream b => b.layout.readable = reading
  | .empty | .text _ | .map _ => True

/-- The two places where it is kept whether a body can be written say the same. -/
structure Message.BodyLock (locked : Bool) (m : Message) : Prop where
  flag : m.bodyFrozen = locked
  mode : m.body.inMode locked

def Use.clearsBody : Use → Bool
  | .clearBody | .bytes .clear | .stream .clear => true
  | _ => false

def Use.resets : Use → Bool
  | .bytes .reset | .stream .reset => true
  | _ => false

namespace Message

variable {u : Use} {m m' : Message}

theorem Changes.body_locked (h : Changes u m m') (hu : u.clearsBody = false)
    (hm : m.BodyLock true) : m'.BodyLock true ∧ m'.body.content = m.body.content := by
  obtain ⟨hflag, hmode⟩ := hm
  cases h with
  | text hopen | map hopen => cases hflag.symm.trans hopen
  | clearBody hclear => cases hclear ▸ hu
  | headers | properties | clearProperties => exact ⟨⟨hflag, hmode⟩, rfl⟩
  | @bytes c b hc hbody =>
      have hclear : c ≠ .clear := by
        rintro rfl
        cases hc ▸ hu
      rw [hbody] at hmode ⊢
      cases b with
      | writing => cases hmode
      | reading past ahead =>
          obtain ⟨past', ahead', hstep, hdata⟩ := BytesBody.step_reading hclear past ahead
          rw [hstep]
          exact ⟨⟨hflag, rfl⟩, congrArg Content.bytes hdata⟩
  | @stream c b hc hbody =>
      have hclear : c ≠ .clear := by
        rintro rfl
        cases hc ▸ hu
      rw [hbody] at hmode ⊢
      obtain ⟨hreadable, hvalues⟩ := StreamBody.step_readable hclear hmode
      exact ⟨⟨hflag, hreadable⟩, congrArg Content.stream hvalues⟩

theorem bodyLock_clearBody (m : Message) : m.clearBody.BodyLock false := by
  refine ⟨rfl, ?_⟩
  cases hm : m.body <;> simp [clearBody, hm] <;> first | rfl | trivial

theorem Changes.body_open (h : Changes u m m') (hu : u.resets = false) (hm : m.BodyLock false) :
    m'.BodyLock false := by
  obtain ⟨hflag, hmode⟩ := hm
  cases h with
  | headers | properties | clearProperties => exact ⟨hflag, hmode⟩
  | text | map => exact ⟨hflag, trivial⟩
  | clearBody => exact bodyLock_clearBody m
  | @bytes c b hc hbody =>
      have hreset : c ≠ .reset := by
        rintro rfl
        cases hc ▸ hu
      rw [hbody] at hmode
      cases b with
      | reading => cases hmode
      | writing data =>
          obtain ⟨data', hstep⟩ := BytesBody.step_writing hreset data
          rw [hstep]
          exact ⟨hflag, rfl⟩
  | @stream c b hc hbody =>
      have hreset : c ≠ .reset := by
        rintro rfl
        cases hc ▸ hu
      rw [hbody] at hmode
      cases b with
      | reading | chunked => cases hmode
      | writing values =>
          obtain ⟨values', hstep⟩ := StreamBody.step_writing hreset values
          rw [hstep]
          exact ⟨hflag, rfl⟩

end Message

/-! ## Writes -/

def BodyKind.messageKind : BodyKind → MessageKind
  | .text => .text
  | .bytes => .bytes
  | .map => .map
  | .stream => .stream

def Use.writes? : Use → Option BodyKind
  | .setText _ => some .text
  | .setEntry .. | .clearEntries => some .map
  | .bytes (.write _) => some .bytes
  | .stream (.write _) => some .stream
  | _ => none

/-- What a body holds before and after a write for its kind of an item that can be written. -/
inductive Use.Writes : Use → Content → Content → Prop where
  | text (s old : String) : Writes (.setText s) (.text old) (.text s)
  | entry (name : String) (v : Value) (t : ValueTable) :
      Writes (.setEntry name v) (.map t) (.map (t.insert name v))
  | clearEntries (t : ValueTable) : Writes .clearEntries (.map t) (.map .empty)
  | item {item : BytesBody.Item} (data : List UInt8) : item.Sound →
      Writes (.bytes (.write item)) (.bytes data) (.bytes (data ++ item.encoded))
  | emptyBlock (data : List UInt8) :
      Writes (.bytes (.write (.value (.bytes [])))) (.bytes data) (.bytes data)
  | value (v : Value) (values : List Value) :
      Writes (.stream (.write v)) (.stream values) (.stream (values ++ [v]))

namespace Message

variable {u : Use} {m : Message}

theorem setProperty_locked (hm : m.propertiesFrozen = true) (name : String) (v : Value) :
    m.perform (.setProperty name v) =
      (.error (if name.isEmpty then .emptyPropertyName else .notWriteable), m) := by
  cases hname : name.isEmpty <;> simp [perform, setProperty, hname, hm, updated]

theorem setProperty_open (hm : m.propertiesFrozen = false) {name : String}
    (hname : name.isEmpty = false) (v : Value) :
    m.perform (.setProperty name v) =
      (.ok (), { m with properties := m.properties.insert name v }) := by
  rw [perform, setProperty_eq_ok.mpr ⟨hname, hm, rfl⟩, updated]

theorem write_locked (hm : m.BodyLock true) {k : BodyKind} (hu : u.writes? = some k) :
    m.perform u =
      (.error (if k.messageKind = m.kind then .notWriteable else .wrongBody k), m) := by
  obtain ⟨hflag, hmode⟩ := hm
  cases u with
  | setText s =>
      cases hu
      cases hbody : m.body <;>
        simp [perform, setText, hbody, hflag, updated, kind, Body.kind, BodyKind.messageKind]
  | setEntry | clearEntries =>
      cases hu
      cases hbody : m.body <;>
        simp [perform, mapBodyToWrite, hbody, hflag, updated, kind, Body.kind, BodyKind.messageKind]
  | bytes c =>
      cases c <;> cases hu
      cases hbody : m.body with
      | bytes b =>
          rw [hbody] at hmode
          cases b with
          | writing => cases hmode
          | reading past ahead =>
              simp [perform, bytesBody, hbody, BytesBody.perform, BytesBody.writeItem_reading,
                Except.map, updated, kind, Body.kind, BodyKind.messageKind]
      | empty | text | map | stream =>
          simp [perform, bytesBody, hbody, updated, kind, Body.kind, BodyKind.messageKind]
  | stream c =>
      cases c <;> cases hu
      cases hbody : m.body with
      | stream b =>
          rw [hbody] at hmode
          simp [perform, streamBody, hbody, StreamBody.perform, StreamBody.write_of_readable hmode,
            Except.map, updated, kind, Body.kind, BodyKind.messageKind]
      | empty | text | map | bytes =>
          simp [perform, streamBody, hbody, updated, kind, Body.kind, BodyKind.messageKind]
  | _ => cases hu

theorem perform_write {data data' : List UInt8} {item : BytesBody.Item}
    (hm : m.body = .bytes (.writing data))
    (hwrite : (BytesBody.writing data).writeItem item = .ok (.writing data')) :
    m.perform (.bytes (.write item)) = (.ok (), { m with body := .bytes (.writing data') }) := by
  have hperform :
      BytesBody.perform (.write item) (.writing data) = .ok (.done, .writing data') := by
    simp [BytesBody.perform, hwrite, Except.map]
  rw [perform_bytes hm, keeping_of_ok hperform]
  rfl

theorem write_open (hm : m.BodyLock false) {c : Content} (hu : u.Writes m.body.content c) :
    (m.perform u).1 = .ok () ∧ (m.perform u).2.body.content = c := by
  obtain ⟨hflag, hmode⟩ := hm
  generalize hcontent : m.body.content = before at hu
  cases hbody : m.body with
  | empty =>
      rw [hbody] at hcontent
      cases hcontent
      cases hu
  | text old =>
      rw [hbody] at hcontent
      cases hcontent
      cases hu
      rw [perform, setText_eq_ok.mpr ⟨⟨old, hbody⟩, hflag, rfl⟩]
      exact ⟨rfl, rfl⟩
  | map t =>
      rw [hbody] at hcontent
      cases hcontent
      have hwrite := mapBodyToWrite_eq_ok.mpr ⟨hbody, hflag⟩
      cases hu <;> simp [perform, hwrite, updated, pure, Except.pure, Body.content]
  | bytes b =>
      rw [hbody] at hcontent hmode
      cases b with
      | reading => cases hmode
      | writing data =>
          cases hcontent
          cases hu with
          | item _ hsound =>
              rw [perform_write hbody (BytesBody.writeItem_writing hsound data)]
              exact ⟨rfl, rfl⟩
          | emptyBlock =>
              have hwrite : (BytesBody.writing data).writeItem (.value (.bytes [])) =
                  .ok (.writing (data ++ [])) := rfl
              rw [List.append_nil] at hwrite
              rw [perform_write hbody hwrite]
              exact ⟨rfl, rfl⟩
  | stream b =>
      rw [hbody] at hcontent hmode
      cases b with
      | reading | chunked => cases hmode
      | writing values =>
          cases hcontent
          cases hu
          rw [perform_stream hbody]
          exact ⟨rfl, rfl⟩

end Message

/-! ## Runs of uses -/

def Provider.HandsOut (w : Provider) (m : Message) : Prop :=
  (∃ op, w.received op = some m) ∨ ∃ b, (w.browseNext b).1 = .ok (some m)

theorem mirrors_of_handsOut [Labels] {ops : List Operation} {m : Message}
    (h : (run ops {}).HandsOut m) : ∃ sent, m.Mirrors sent := by
  rcases h with ⟨op, hm⟩ | ⟨b, hm⟩
  · rw [received_eq_handing (coherent_run ops)] at hm
    obtain ⟨g, hg, rfl⟩ := Option.map_eq_some_iff.mp hm
    obtain ⟨-, -, sent, -, -, -, hmirrors⟩ := (received_of_handing hg).copied
    exact ⟨sent, hmirrors⟩
  · obtain ⟨_, e, -, he, rfl⟩ := mem_pending_of_browseNext hm
    obtain ⟨-, -, sent, -, -, -, hmirrors⟩ :=
      (copied_of_mem_custody (List.mem_append_left _ he)).1
    exact ⟨sent, hmirrors⟩

namespace Message

variable {m : Message} {uses : List Use}

theorem Mirrors.bodyLock {sent : Message} (h : m.Mirrors sent) : m.BodyLock true := by
  have hrewound := h.rewound
  refine ⟨h.bodyFrozen, ?_⟩
  cases hm : m.body with
  | empty | text | map => trivial
  | bytes b =>
      rw [hm] at hrewound
      cases b with
      | writing => cases hrewound
      | reading => rfl
  | stream b =>
      rw [hm] at hrewound
      cases b with
      | writing => cases hrewound
      | reading | chunked => rfl

theorem kind_after (m : Message) (uses : List Use) : (after perform uses m).kind = m.kind :=
  after_keeps perform (P := fun s => s.kind = m.kind)
    (fun u s h => (changes_perform u s).kind.trans h) rfl uses

theorem properties_after_locked (hm : m.propertiesFrozen = true)
    (huses : .clearProperties ∉ uses) :
    (after perform uses m).properties = m.properties ∧
      (after perform uses m).propertiesFrozen = true := by
  refine after_keeps_of_mem perform
    (P := fun s => s.properties = m.properties ∧ s.propertiesFrozen = true) ?_ ⟨rfl, hm⟩
  rintro u hu s ⟨hproperties, hfrozen⟩
  have hclear : u ≠ .clearProperties := by
    rintro rfl
    exact huses hu
  obtain ⟨hsame, hstill⟩ := (changes_perform u s).properties_locked hclear hfrozen
  exact ⟨hsame.trans hproperties, hstill⟩

theorem properties_after_open (huses : .clearProperties ∈ uses) :
    (after perform uses m).propertiesFrozen = false := by
  obtain ⟨first, second, rfl⟩ := List.append_of_mem huses
  rw [after_append, after_cons]
  exact after_keeps perform (fun u s => (changes_perform u s).properties_open) rfl second

theorem body_after_locked (hm : m.BodyLock true) (huses : ∀ u ∈ uses, u.clearsBody = false) :
    (after perform uses m).BodyLock true ∧
      (after perform uses m).body.content = m.body.content := by
  refine after_keeps_of_mem perform
    (P := fun s => s.BodyLock true ∧ s.body.content = m.body.content) ?_ ⟨hm, rfl⟩
  rintro u hu s ⟨hlock, hcontent⟩
  obtain ⟨hstill, hsame⟩ := (changes_perform u s).body_locked (huses u hu) hlock
  exact ⟨hstill, hsame.trans hcontent⟩

theorem body_after_open {first second : List Use} (huses : ∀ u ∈ second, u.resets = false) :
    (after perform (first ++ .clearBody :: second) m).BodyLock false := by
  rw [after_append, after_cons]
  refine after_keeps_of_mem perform ?_ (bodyLock_clearBody _)
  exact fun u hu s => (changes_perform u s).body_open (huses u hu)

end Message

/--
Whatever is done with a message that a consumer or a browser returned, its kind stays.  Its
properties stay and cannot be set until they are cleared, and then they can be set.  What its body
holds stays and cannot be written until the body is cleared, and then it can be written until it is
read again.
-/
theorem protection [Labels] {ops : List Operation} {m : Message} (hm : (run ops {}).HandsOut m)
    (uses : List Use) :
    let m' := after Message.perform uses m
    m'.kind = m.kind ∧
    (.clearProperties ∉ uses →
      m'.properties = m.properties ∧
      ∀ name v, m'.perform (.setProperty name v) =
        (.error (if name.isEmpty then .emptyPropertyName else .notWriteable), m')) ∧
    ((∀ u ∈ uses, u.clearsBody = false) →
      m'.body.content = m.body.content ∧
      ∀ u k, u.writes? = some k → m'.perform u =
        (.error (if k.messageKind = m.kind then .notWriteable else .wrongBody k), m')) ∧
    (.clearProperties ∈ uses →
      ∀ name v, name.isEmpty = false → m'.perform (.setProperty name v) =
        (.ok (), { m' with properties := m'.properties.insert name v })) ∧
    ∀ first second, uses = first ++ .clearBody :: second → (∀ u ∈ second, u.resets = false) →
      ∀ u c, u.Writes m'.body.content c →
        (m'.perform u).1 = .ok () ∧ (m'.perform u).2.body.content = c := by
  intro m'
  obtain ⟨sent, hmirrors⟩ := mirrors_of_handsOut hm
  refine ⟨Message.kind_after m uses, fun huses => ?_, fun huses => ?_, fun huses => ?_, ?_⟩
  · obtain ⟨hsame, hfrozen⟩ := Message.properties_after_locked hmirrors.propertiesFrozen huses
    exact ⟨hsame, Message.setProperty_locked hfrozen⟩
  · obtain ⟨hlock, hsame⟩ := Message.body_after_locked hmirrors.bodyLock huses
    refine ⟨hsame, fun u k hu => ?_⟩
    rw [← Message.kind_after m uses]
    exact Message.write_locked hlock hu
  · intro name v hname
    exact Message.setProperty_open (Message.properties_after_open huses) hname v
  · rintro first second rfl huses u c hu
    exact Message.write_open (Message.body_after_open huses) hu

def inspection : List Use :=
  [.bytes (.read (.scalar .byte)), .bytes (.write (.value (.byte 7))), .clone, .clearProperties,
    .bytes .reset]

def emptying : List Use := [.bytes .reset, .clearBody]

theorem protection_forwarding :
    ∃ m inspected emptied, (run forwarding {}).HandsOut m ∧
      inspected = after Message.perform inspection m ∧
      inspected.kind = .bytes ∧ inspected.body.content = .bytes [1, 2] ∧
      inspected.perform (.bytes (.write (.utf "a"))) = (.error .notWriteable, inspected) ∧
      inspected.perform (.setText "a") = (.error (.wrongBody .text), inspected) ∧
      (inspected.perform (.setProperty "a" (.boolean true))).1 = .ok () ∧
      emptied = after Message.perform emptying m ∧
      emptied.perform (.setProperty "a" (.boolean true)) = (.error .notWriteable, emptied) ∧
      (emptied.perform (.bytes (.write (.utf "a")))).2.body.content = .bytes [0, 1, 97] := by
  obtain ⟨m, hm, hkind, hbody⟩ : ∃ m, (run forwarding {}).received (.receiveNow 0) = some m ∧
      m.kind = .bytes ∧ m.body = .bytes (.reading [] [1, 2]) := ⟨_, rfl, rfl, rfl⟩
  have hout : (run forwarding {}).HandsOut m := .inl ⟨_, hm⟩
  obtain ⟨hsame, -, hlocked, hopen, -⟩ := protection hout inspection
  obtain ⟨hcontent, hwrite⟩ := hlocked (by decide)
  obtain ⟨-, hproperties, -, -, hwritten⟩ := protection hout emptying
  have hempty : (after Message.perform emptying m).body.content = .bytes [] := by
    simp [emptying, Message.perform, Message.bytesBody, hbody, BytesBody.perform, Message.updated,
      pure, Except.pure, Message.clearBody, Body.content, BytesBody.clear, BytesBody.data]
  have hitem : Use.Writes (.bytes (.write (.utf "a"))) (.bytes []) (.bytes [0, 1, 97]) :=
    .item [] (by decide)
  refine ⟨m, _, _, hout, rfl, hsame.trans hkind, ?_, ?_, ?_, ?_, rfl, ?_, ?_⟩
  · rw [hcontent, hbody]
    rfl
  · rw [hwrite _ .bytes rfl, hkind]
    rfl
  · rw [hwrite _ .text rfl, hkind]
    rfl
  · rw [hopen (by simp [inspection]) "a" (.boolean true) (by decide)]
  · exact (hproperties (by simp [emptying])).2 "a" (.boolean true)
  · exact (hwritten [.bytes .reset] [] rfl (by simp) _ _ (hempty ▸ hitem)).2

end Messaging
