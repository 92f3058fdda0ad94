import Messaging.Proofs.Name
import Messaging.Proofs.RoundTrip.Job
import Messaging.Proofs.RoundTrip.Opening

/-!
# The lines of a round trip

Whatever its options are, a round trip that gets a connection to a fresh provider sends its messages
and takes all of them back in the same order.  What was sent so far waits in the one store of the run
or in its transaction, and each line tells of one message that went in or came out.
-/

namespace Messaging.RoundTrip

open Provider Job

def wording (i count : Nat) : String := s!"message {i} of {count}"

/-- What is to be printed if the messages get these ids. -/
def transcript (o : Options) (label : String) (ids : List String) : List String :=
  let lines (word : String) := ids.zipIdx 1 |>.map fun (id, i) => s!"{word} {id}: {wording i o.count}"
  [s!"connected {label} to {o.uri}"] ++ ids.map (fun id => s!"sent {id}") ++
    (if o.transacted then [s!"committed {o.count} message(s)"] else []) ++
    (if o.browse then lines "pending" ++ [s!"{o.count} message(s) pending on {o.target.text}"]
      else []) ++
    lines "received" ++ [s!"done: {o.count} message(s) round-tripped through {o.target.text}"]

/-! ## Numbered messages -/

def envelopes (first : Nat) : List Message → List Envelope
  | [] => []
  | m :: ms => ⟨first, m, 0⟩ :: envelopes (first + 1) ms

theorem envelopes_append (first : Nat) (ms ms' : List Message) :
    envelopes first (ms ++ ms') = envelopes first ms ++ envelopes (first + ms.length) ms' := by
  induction ms generalizing first with
  | nil => rfl
  | cons m ms ih =>
      rw [List.cons_append, envelopes, ih, envelopes, List.length_cons, List.cons_append,
        Nat.add_assoc, Nat.add_comm 1]

theorem mem_envelopes {first : Nat} {ms : List Message} {e : Envelope} (h : e ∈ envelopes first ms) :
    e.message ∈ ms ∧ e.seq < first + ms.length := by
  induction ms generalizing first with
  | nil => cases h
  | cons m ms ih =>
      rw [envelopes, List.mem_cons] at h
      obtain rfl | h := h
      · simp
      · obtain ⟨hmem, hseq⟩ := ih h
        refine ⟨List.mem_cons_of_mem _ hmem, ?_⟩
        rw [List.length_cons]
        omega

theorem foldl_push (ms : List Message) (store : Store) :
    ms.foldl (fun store m => store.push m 0) store =
      { pending := store.pending ++ envelopes store.nextSeq ms
        nextSeq := store.nextSeq + ms.length } := by
  induction ms generalizing store with
  | nil => simp [envelopes]
  | cons m ms ih =>
      rw [List.foldl_cons, ih]
      simp [Store.push, envelopes, Nat.add_assoc, Nat.add_comm 1]

theorem findUnseen_shown {store : Store} {shown : List Message}
    (h : store.pending = envelopes 0 shown) :
    store.findUnseen none (List.range shown.length).reverse = none := by
  rw [Store.findUnseen, h, List.find?_eq_none]
  intro e he
  have hseen : (List.range shown.length).reverse.contains e.seq = true := by
    simpa using (mem_envelopes he).2
  rw [hseen]
  simp

theorem findUnseen_envelopes {store : Store} {shown rest : List Message} {m : Message}
    (h : store.pending = envelopes 0 (shown ++ m :: rest)) :
    store.findUnseen none (List.range shown.length).reverse = some ⟨shown.length, m, 0⟩ := by
  have hshown := @findUnseen_shown ⟨envelopes 0 shown, 0⟩ shown rfl
  rw [Store.findUnseen] at hshown
  rw [Store.findUnseen, h, envelopes_append, List.find?_append, hshown, envelopes]
  simp [Selector.admits]

namespace Setting

variable {x : Setting} {s : Progress} {printed : List String}

/-! ## The messages of a run -/

def written (i count : Nat) : Message :=
  { body := .text (wording i count),
    properties := ValueTable.empty.insert "sequence" (.long (.ofNat i)) }

def sent (x : Setting) (count i : Nat) : Message := x.stamped i (written i count)

def kept (x : Setting) (count i : Nat) : Message := sealed (x.sent count i)

def id (x : Setting) (i : Nat) : String := messageId x.connection.label 1 1 i

theorem id_injective (x : Setting) {i j : Nat} (h : x.id i = x.id j) : i = j :=
  (temporaryName_inj h).2

theorem expiration_kept (x : Setting) (count i : Nat) :
    (x.kept count i).headers.expiration = 0 := rfl

theorem messageLine_kept (x : Setting) (word : String) (count i : Nat) :
    messageLine word (x.kept count i) = s!"{word} {x.id i}: {wording i count}" := by
  have hmark : (x.kept count i).headers.redelivered = false := rfl
  have htext : (x.kept count i).getText = .ok (wording i count) := rfl
  have hid : (x.kept count i).headers.messageId = x.id i := rfl
  have hempty : toString "" = "" := rfl
  simp [messageLine, hmark, htext, hid, hempty, Except.toOption]

/-! ## Sending -/

/-- The messages of some numbers were sent, and the producer goes on with the next number. -/
def afterSends (x : Setting) (count : Nat) (is : List Nat) (next : Nat) (s : Progress) : Progress :=
  { s with
    store :=
      if x.transacted then s.store
      else (is.map (x.kept count)).foldl (fun store m => store.push m 0) s.store
    buffered :=
      if x.transacted then s.buffered ++ (is.map (x.sent count)).map (x.destination, ·)
      else s.buffered
    producers := [x.producer next] }

theorem afterSends_cons (count i next : Nat) (is : List Nat) (s : Progress) :
    x.afterSends count (i :: is) next s =
      x.afterSends count is next (x.afterSends count [i] (i + 1) s) := by
  cases h : x.transacted <;> simp [afterSends, h]

theorem yields_sendOne (hx : x.Sound) (count i : Nat) (hs : s.producers = [x.producer i])
    (printed : List String) :
    (sendOne 0 0 count i).Yields ⟨x.world s, printed⟩ ()
      ⟨x.world (x.afterSends count [i] (i + 1) s), printed ++ [s!"sent {x.id i}"]⟩ := by
  have hmade : (x.world s).create 0 (Message.ofText (wording i count)) =
      (.ok (Message.ofText (wording i count)), x.world s) := by
    rw [create, openSession_sender hx, Provider.check]
  have hproperty : (Message.ofText (wording i count)).setProperty "sequence" (.long (.ofNat i)) =
      .ok (written i count) := rfl
  refine (yields_perform hmade).bind ((yields_check hproperty _).bind ((yields_get _).bind ?_))
  simp only [send_world hx i hs (written i count)]
  exact (yields_modify _ _).bind ((yields_check rfl _).bind (yields_print _ _))

theorem yields_sendEach (hx : x.Sound) (count i k : Nat) (hs : s.producers = [x.producer i])
    (printed : List String) :
    (sendEach 0 0 count (List.range' i k)).Yields ⟨x.world s, printed⟩ ()
      ⟨x.world (x.afterSends count (List.range' i k) (i + k) s),
        printed ++ (List.range' i k).map fun i => s!"sent {x.id i}"⟩ := by
  induction k generalizing i s printed with
  | zero =>
      have hnone : x.afterSends count [] i s = s := by
        cases h : x.transacted <;> simp [afterSends, h, ← hs]
      rw [List.range'_zero, Nat.add_zero, hnone, List.map_nil, List.append_nil]
      exact yields_pure () _
  | succ k ih =>
      have hrest := ih (i + 1) (s := x.afterSends count [i] (i + 1) s) rfl
        (printed ++ [s!"sent {x.id i}"])
      rw [List.range'_succ, sendEach, afterSends_cons, List.map_cons, List.append_cons]
      rw [Nat.add_assoc, Nat.add_comm 1] at hrest
      exact (yields_sendOne hx count i hs printed).bind hrest

def sentAll (x : Setting) (count : Nat) : Progress :=
  { x.afterSends count (List.range' 1 count) (1 + count) {} with
    producers := [{ x.producer (1 + count) with closed := true }] }

theorem yields_sendAll (hx : x.Sound) (count : Nat) (printed : List String) :
    (sendAll 0 x.destination count).Yields ⟨x.world {}, printed⟩ ()
      ⟨x.world (x.sentAll count),
        printed ++ (List.range' 1 count).map fun i => s!"sent {x.id i}"⟩ := by
  have hproducer := createProducer_world (s := {}) hx rfl
  have hsends := yields_sendEach (s := { producers := [x.producer 1] }) hx count 1 count rfl printed
  exact (yields_perform hproducer).bind (hsends.bind (yields_change _ _))

def filled (x : Setting) (count : Nat) : Progress :=
  { store := ⟨envelopes 0 ((List.range' 1 count).map (x.kept count)), count⟩
    producers := [{ x.producer (1 + count) with closed := true }] }

theorem foldl_push_kept (count : Nat) :
    ((List.range' 1 count).map (x.kept count)).foldl (fun store m => store.push m 0) {} =
      (x.filled count).store := by
  simp [foldl_push, filled]

theorem sentAll_eq_filled (htransacted : x.transacted = false) (count : Nat) :
    x.sentAll count = x.filled count := by
  simp only [sentAll, afterSends, htransacted, Bool.false_eq_true, if_false, foldl_push_kept]
  rfl

theorem commit_sentAll (hx : x.Sound) (htransacted : x.transacted = true) (count : Nat) :
    (x.world (x.sentAll count)).commit 0 = (.ok (), x.world (x.filled count)) := by
  have hbuffered : (x.sentAll count).buffered =
      ((List.range' 1 count).map (x.sent count)).map (x.destination, ·) := by
    simp [sentAll, afterSends, htransacted]
  have hstore : ((List.range' 1 count).map (x.sent count)).foldl
      (fun store m => store.push (sealed m) 0) {} = (x.filled count).store := by
    rw [← foldl_push_kept, List.foldl_map, List.foldl_map]
    rfl
  rw [commit_world hx htransacted _ hbuffered]
  simp only [sentAll, afterSends, htransacted, if_true, hstore]
  rfl

/-! ## Taking -/

theorem yields_browseEach (hx : x.Sound) (shown rest : List Message)
    (hs : s.browsers = [x.browser (List.range shown.length).reverse])
    (hstore : s.store.pending = envelopes 0 (shown ++ rest))
    (hlasting : ∀ e ∈ s.store.pending, e.message.headers.expiration = 0) (printed : List String) :
    Yields (browseEach 0) ⟨x.world s, printed⟩ rest.length
      ⟨x.world { s with
          browsers := [x.browser (List.range (shown.length + rest.length)).reverse] },
        printed ++ rest.map (messageLine "pending")⟩ := by
  induction rest generalizing shown s printed with
  | nil =>
      have hsame : { s with browsers := [x.browser (List.range (shown.length + 0)).reverse] } = s := by
        rw [Nat.add_zero, ← hs]
      rw [List.append_nil] at hstore
      rw [List.length_nil, hsame, List.map_nil, List.append_nil]
      exact yields_browseEach_of_none
        (browseNext_world_of_none hlasting hx hs (findUnseen_shown hstore))
  | cons m rest ih =>
      have hnext := browseNext_world hlasting hx hs (findUnseen_envelopes hstore)
      have hseen : shown.length :: (List.range shown.length).reverse =
          (List.range (shown ++ [m]).length).reverse := by
        simp [List.range_succ]
      rw [hseen] at hnext
      have hrest := ih (shown ++ [m])
        (s := { s with browsers := [x.browser (List.range (shown ++ [m]).length).reverse] }) rfl
        (by simpa using hstore) hlasting (printed ++ [messageLine "pending" m])
      have hcount : (shown ++ [m]).length + rest.length = shown.length + (m :: rest).length := by
        simp [Nat.add_assoc, Nat.add_comm 1]
      rw [hcount] at hrest
      rw [List.map_cons, List.append_cons]
      exact yields_browseEach_of_some hnext hrest

theorem yields_receiveEach (hx : x.Sound) (first : Nat) (ms : List Message)
    (hstore : s.store.pending = envelopes first ms)
    (hlasting : ∀ e ∈ s.store.pending, e.message.headers.expiration = 0) (printed : List String) :
    (receiveEach 0 ms.length).Yields ⟨x.world s, printed⟩ ms.length
      ⟨x.world { s with store := { s.store with pending := [] } },
        printed ++ ms.map (messageLine "received")⟩ := by
  induction ms generalizing first s printed with
  | nil =>
      have hsame : { s with store := { s.store with pending := [] } } = s := by
        rw [← show s.store.pending = [] from hstore]
      rw [List.length_nil, hsame, List.map_nil, List.append_nil]
      exact yields_pure 0 _
  | cons m ms ih =>
      rw [envelopes] at hstore
      have hnext := receive_world hlasting hx hstore
      rw [hstore, List.forall_mem_cons] at hlasting
      have hrest := ih (first + 1)
        (s := { s with store := { s.store with pending := envelopes (first + 1) ms } }) rfl
        hlasting.2 (printed ++ [messageLine "received" m])
      rw [List.map_cons, List.append_cons]
      exact (yields_perform hnext).bind
        ((yields_print _ _).bind (hrest.bind (yields_pure (ms.length + 1) _)))

theorem expiration_filled (count : Nat) :
    ∀ e ∈ (x.filled count).store.pending, e.message.headers.expiration = 0 := by
  intro e he
  obtain ⟨i, -, hi⟩ := List.mem_map.mp (mem_envelopes he).1
  rw [← hi]
  exact expiration_kept x count i

theorem zipIdx_map_range' (f : Nat → String) (k n : Nat) :
    ((List.range' k n).map f).zipIdx k = (List.range' k n).map fun i => (f i, i) := by
  induction n generalizing k with
  | zero => rfl
  | succ n ih => rw [List.range'_succ, List.map_cons, List.zipIdx_cons, ih, List.map_cons]

theorem lines_kept (word : String) (count : Nat) :
    ((List.range' 1 count).map (x.kept count)).map (messageLine word) =
      (((List.range' 1 count).map x.id).zipIdx 1).map
        fun (id, i) => s!"{word} {id}: {wording i count}" := by
  rw [zipIdx_map_range', List.map_map, List.map_map]
  exact List.map_congr_left fun i _ => messageLine_kept x word count i

theorem yields_browseAll (hx : x.Sound) (hqueue : x.destination.isQueue = true) (count : Nat)
    (printed : List String) :
    (browseAll 1 x.destination).Yields ⟨x.world (x.filled count), printed⟩ ()
      ⟨x.world { x.filled count with
          browsers := [{ x.browser (List.range count).reverse with closed := true }] },
        printed ++ ((List.range' 1 count).map (x.kept count)).map (messageLine "pending") ++
          [s!"{count} message(s) pending on {x.destination.text}"]⟩ := by
  let opened : Progress := { x.filled count with browsers := [x.browser []] }
  have hbrowser : (x.world (x.filled count)).createBrowser 1 x.destination none =
      (.ok 0, x.world opened) := createBrowser_world hx hqueue rfl
  have hlength : ((List.range' 1 count).map (x.kept count)).length = count := by simp
  have hbrowse := yields_browseEach (s := opened) hx [] _ rfl rfl (expiration_filled count) printed
  rw [hlength, List.length_nil, Nat.zero_add] at hbrowse
  exact (yields_perform hbrowser).bind
    (hbrowse.bind ((yields_print _ _).bind (yields_change _ _)))

def emptied (x : Setting) (count : Nat) (browsers : List Browser) : Progress :=
  { x.filled count with store := ⟨[], count⟩, browsers }

theorem yields_receiveAll (hx : x.Sound) (count : Nat) (browsers : List Browser)
    (printed : List String) :
    (receiveEach 0 count).Yields ⟨x.world { x.filled count with browsers }, printed⟩ count
      ⟨x.world (x.emptied count browsers),
        printed ++ ((List.range' 1 count).map (x.kept count)).map (messageLine "received")⟩ := by
  have hreceive := yields_receiveEach (s := { x.filled count with browsers }) hx 0
    ((List.range' 1 count).map (x.kept count)) rfl (expiration_filled count) printed
  have hlength : ((List.range' 1 count).map (x.kept count)).length = count := by simp
  rw [hlength] at hreceive
  exact hreceive

end Setting

/-! ## Runs -/

/-- The end of a run, after the last message was handed to the broker. -/
def takingBack (o : Options) : Job Unit := do
  if o.browse then browseAll 1 o.target
  let received ← receiveEach 0 o.count
  Job.change (·.closeConnection 0)
  if received < o.count then throw (.timedOut received o.count)
  print s!"done: {received} message(s) round-tripped through {o.target.text}"

theorem Job.yields_optional {α : Type} {d d'' : Desk} {a : α} {c : Bool} {j : Job Unit}
    {k : Unit → Job α} (d' : Desk) (hdo : c = true → j.Yields d () d') (hskip : c = false → d = d')
    (hk : (k ()).Yields d' a d'') : (if c = true then j >>= k else k ()).Yields d a d'' := by
  cases c with
  | true => exact (hdo rfl).bind hk
  | false =>
      rw [hskip rfl]
      exact hk

section Runs

variable {x : Setting} {o : Options}

theorem transcript_id (x : Setting) (o : Options) (label : String) :
    transcript o label ((List.range' 1 o.count).map x.id) =
      [s!"connected {label} to {o.uri}"] ++
        (List.range' 1 o.count).map (fun i => s!"sent {x.id i}") ++
        (if o.transacted then [s!"committed {o.count} message(s)"] else []) ++
        (if o.browse then
          ((List.range' 1 o.count).map (x.kept o.count)).map (messageLine "pending") ++
            [s!"{o.count} message(s) pending on {o.target.text}"] else []) ++
        ((List.range' 1 o.count).map (x.kept o.count)).map (messageLine "received") ++
        [s!"done: {o.count} message(s) round-tripped through {o.target.text}"] := by
  rw [Setting.lines_kept, Setting.lines_kept, transcript, List.map_map]
  rfl

theorem yields_takingBack (hx : x.Sound) (hdestination : x.destination = o.target)
    (hqueue : o.browse = true → o.target.isQueue = true) (printed : List String) :
    ∃ w, (takingBack o).Yields ⟨x.world (x.filled o.count), printed⟩ ()
      ⟨w, printed ++
        (if o.browse then
          ((List.range' 1 o.count).map (x.kept o.count)).map (messageLine "pending") ++
            [s!"{o.count} message(s) pending on {o.target.text}"] else []) ++
        ((List.range' 1 o.count).map (x.kept o.count)).map (messageLine "received") ++
        [s!"done: {o.count} message(s) round-tripped through {o.target.text}"]⟩ := by
  let browsers : List Browser :=
    if o.browse then [{ x.browser (List.range o.count).reverse with closed := true }] else []
  let pending : List String :=
    if o.browse then
      ((List.range' 1 o.count).map (x.kept o.count)).map (messageLine "pending") ++
        [s!"{o.count} message(s) pending on {o.target.text}"] else []
  refine ⟨(x.world (x.emptied o.count browsers)).closeConnection 0, ?_⟩
  unfold takingBack
  refine yields_optional ⟨x.world { x.filled o.count with browsers }, printed ++ pending⟩
    (fun hbrowse => ?_) (fun hbrowse => ?_) ?_
  · have hshown := Setting.yields_browseAll hx (hdestination ▸ hqueue hbrowse) o.count printed
    simpa [browsers, pending, hbrowse, hdestination] using hshown
  · simp only [browsers, pending, hbrowse, Bool.false_eq_true, if_false, List.append_nil]
    rfl
  · refine (Setting.yields_receiveAll hx o.count browsers _).bind ((yields_change _ _).bind ?_)
    simp only [Nat.lt_irrefl, if_false]
    exact yields_print _ _

theorem yields_committing (hx : x.Sound) (ho : x.transacted = o.transacted) {d' : Desk}
    {printed : List String}
    (h : (takingBack o).Yields ⟨x.world (x.filled o.count), printed ++
      if o.transacted then [s!"committed {o.count} message(s)"] else []⟩ () d') :
    (if o.transacted = true then do
        perform (·.commit 0)
        print s!"committed {o.count} message(s)"
        takingBack o
      else takingBack o).Yields ⟨x.world (x.sentAll o.count), printed⟩ () d' := by
  cases htransacted : o.transacted with
  | true =>
      have hcommit := Setting.commit_sentAll hx (ho.trans htransacted) o.count
      rw [htransacted] at h
      exact (yields_perform hcommit).bind ((yields_print _ _).bind h)
  | false =>
      rw [Setting.sentAll_eq_filled (ho.trans htransacted)]
      simpa [htransacted] using h

end Runs

/-! ## Whole runs -/

def shownTwice : Options :=
  { uri := "vm://local", destination := "jobs", count := 2, transacted := true, browse := true }

example : transcript shownTwice "ID:c" ["ID:c:1:1:1", "ID:c:1:1:2"] =
    ["connected ID:c to vm://local", "sent ID:c:1:1:1", "sent ID:c:1:1:2", "committed 2 message(s)",
      "pending ID:c:1:1:1: message 1 of 2", "pending ID:c:1:1:2: message 2 of 2",
      "2 message(s) pending on queue://jobs", "received ID:c:1:1:1: message 1 of 2",
      "received ID:c:1:1:2: message 2 of 2", "done: 2 message(s) round-tripped through queue://jobs"] :=
  rfl

end Messaging.RoundTrip
