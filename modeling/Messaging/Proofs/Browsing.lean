import Messaging.Proofs.Conservation
import Messaging.Proofs.Run.Viewing

/-!
# Browsing

A browser shows all that waits in its queue and that it accepts, each message once, however many
messages come, go and come back in between.  Browsing takes nothing away that has not expired.
-/

namespace Messaging

def Operation.browses : Operation → Bool
  | .createBrowser .. | .hasMore _ | .browseNext _ | .closeBrowser _ => true
  | _ => false

/-- The same message of a store, seen twice; it may have come back in between. -/
structure Envelope.Same (v e : Envelope) : Prop where
  seq : v.seq = e.seq
  origin : v.origin = e.origin
  message : v.message.markRedelivered = e.message.markRedelivered

theorem Envelope.Copies.same {v e : Envelope} {posts : List (Message × ConnectionId)}
    (hv : v.Copies posts) (he : e.Copies posts) (hseq : v.seq = e.seq) : v.Same e := by
  obtain ⟨m, hm, hvm⟩ := hv
  obtain ⟨m', hm', hem⟩ := he
  obtain ⟨rfl, horigin⟩ := Prod.mk.inj (Option.some.inj ((hseq ▸ hm).symm.trans hm'))
  have hmark : ∀ {x : Envelope}, x.message = m ∨ x.message = m.markRedelivered →
      x.message.markRedelivered = m.markRedelivered := by
    rintro x (hx | hx) <;> rw [hx]
    rfl
  exact ⟨hseq, horigin, (hmark hvm).trans (hmark hem).symm⟩

theorem Envelope.Copies.append {e : Envelope} {posts : List (Message × ConnectionId)}
    (h : e.Copies posts) (more : List (Message × ConnectionId)) : e.Copies (posts ++ more) := by
  obtain ⟨m, hm, hcopy⟩ := h
  exact ⟨m, (List.getElem?_append_left (List.getElem?_eq_some_iff.mp hm).1).trans hm, hcopy⟩

theorem Store.purge_purge (now : Int64) (s : Store) : (s.purge now).purge now = s.purge now := by
  simp [Store.purge, List.filter_filter]

namespace Provider

/-! ## What browsing leaves alone -/

/-- No message that has not expired is taken away or moved. -/
structure Unharmed (w w' : Provider) : Prop where
  clock : w'.clock = w.clock
  connections : w'.connections = w.connections
  sessions : w'.sessions = w.sessions
  stores : ∀ s, (w'.storeAt s).purge w.now = (w.storeAt s).purge w.now

namespace Unharmed

variable {w w' w'' : Provider}

theorem refl (w : Provider) : w.Unharmed w := ⟨rfl, rfl, rfl, fun _ => rfl⟩

theorem now (h : w.Unharmed w') : w'.now = w.now := by
  rw [Provider.now, Provider.now, h.clock]

theorem trans (h : w.Unharmed w') (h' : w'.Unharmed w'') : w.Unharmed w'' :=
  ⟨h'.clock.trans h.clock, h'.connections.trans h.connections, h'.sessions.trans h.sessions,
    fun s => (h.now ▸ h'.stores s).trans (h.stores s)⟩

theorem check {α β : Type} {r : Except Error α} {f : α → Outcome β}
    (hf : ∀ a, w.Unharmed (f a).2) : w.Unharmed (Provider.check r w f).2 := by
  cases r with
  | error e => exact .refl w
  | ok a => exact hf a

theorem accepted (h : w.Unharmed w') (browser : Browser) :
    w'.accepted browser = w.accepted browser := by
  rw [accepted_eq_purge, accepted_eq_purge, h.now, h.stores]

end Unharmed

section Calls

variable (w : Provider)

theorem unharmed_peek (browser : Browser) : w.Unharmed (w.peek browser).2 := by
  refine ⟨rfl, rfl, rfl, fun s => ?_⟩
  have hstore : (w.peek browser).2 = w.updateStore browser.store (·.purge w.now) :=
    updateStore_const browser.store (·.purge w.now) w
  rw [hstore, storeAt_purge]
  split
  · exact Store.purge_purge w.now _
  · rfl

theorem unharmed_browseNext (b : BrowserId) : w.Unharmed (w.browseNext b).2 := by
  refine .check fun browser => ?_
  have hpeek := unharmed_peek w browser
  cases hfound : w.peek browser with
  | mk found next =>
      rw [hfound] at hpeek
      cases found with
      | none => exact hpeek
      | some e => exact hpeek.trans ⟨rfl, rfl, rfl, fun _ => rfl⟩

theorem unharmed_createBrowser (s : SessionId) (queue : Destination) (text : Option String) :
    w.Unharmed (w.createBrowser s queue text).2 := by
  rcases createBrowser_cases s queue text w with hsame | ⟨_, connection, _, _, _, hcreated⟩
  · rw [hsame]
    exact .refl w
  · have hqueue : w.Unharmed (w.queueStore connection.broker queue).2 := by
      unfold queueStore
      split
      · exact .refl w
      · exact ⟨rfl, rfl, rfl, fun t => congrArg (·.purge w.now) (storeAt_addStore t w)⟩
    rw [hcreated]
    exact hqueue.trans ⟨rfl, rfl, rfl, fun _ => rfl⟩

theorem unharmed_step [Labels] {op : Operation} (hop : op.browses = true) :
    w.Unharmed (w.step op) := by
  cases op with
  | createBrowser s queue text => exact unharmed_createBrowser w s queue text
  | hasMore b => exact .check fun browser => unharmed_peek w browser
  | browseNext b => exact unharmed_browseNext w b
  | closeBrowser b => exact ⟨rfl, rfl, rfl, fun _ => rfl⟩
  | _ => cases hop

end Calls

/-! ## One call after the other -/

section Quiet

variable {b : BrowserId} {browser : Browser} {w : Provider}

theorem openBrowser_congr {w' : Provider} (h : w.Unharmed w')
    (hbrowsers : w'.browsers = w.browsers) : w'.openBrowser b = w.openBrowser b := by
  unfold openBrowser
  rw [hbrowsers]
  cases w.browsers[b]? with
  | none => rfl
  | some x =>
      dsimp only
      rw [openSession_congr h.sessions h.connections]

theorem Unharmed.unshown {w' : Provider} (h : w.Unharmed w') (browser : Browser) :
    w'.unshown browser = w.unshown browser := by
  rw [Provider.unshown, h.accepted]
  rfl

theorem hasMore_eq_browseNext (b : BrowserId) (w : Provider) :
    ((w.hasMore b).2.browseNext b).1.map (·.isSome) = (w.hasMore b).1 := by
  cases hb : w.openBrowser b with
  | error err => simp [hasMore, browseNext, hb, check, Except.map]
  | ok browser =>
      have hpeek := unharmed_peek w browser
      have hopen : (w.peek browser).2.openBrowser b = .ok browser :=
        (openBrowser_congr hpeek rfl).trans hb
      have hmore : w.hasMore b = (.ok (w.peek browser).1.isSome, (w.peek browser).2) := by
        rw [hasMore, hb]
        rfl
      rw [hmore, browseNext_fst, hopen, showing_eq hopen, hpeek.unshown, peek_fst]
      simp [Except.map]

theorem unshown_remember (seqs : List Nat) (browser : Browser) (w : Provider) :
    w.unshown { browser with seen := seqs ++ browser.seen } =
      (w.unshown browser).filter fun e => !seqs.contains e.seq := by
  simp [unshown, accepted, List.filter_filter, Bool.and_assoc]

theorem unshown_browseNext (hb : w.openBrowser b = .ok browser)
    (hnodup : ((w.unshown browser).map (·.seq)).Nodup) :
    ∃ y, (w.browseNext b).2.openBrowser b = .ok y ∧
      (w.browseNext b).2.unshown y = (w.unshown browser).tail := by
  obtain ⟨hget, hclosed, hsession⟩ := openBrowser_eq_ok.mp hb
  have hunharmed := unharmed_browseNext w b
  refine ⟨{ browser with seen := (w.showing b).toList.map (·.seq) ++ browser.seen },
    openBrowser_eq_ok.mpr ⟨?_, hclosed, ?_⟩, ?_⟩
  · rw [browsers_browseNext, List.getElem?_modify, hget]
    simp
  · rw [openSession_congr hunharmed.sessions hunharmed.connections]
    exact hsession
  · rw [hunharmed.unshown, unshown_remember, showing_eq hb]
    cases hrest : w.unshown browser with
    | nil => rfl
    | cons e rest =>
        rw [hrest, List.map_cons, List.nodup_cons] at hnodup
        have hothers : rest.filter (fun v => !(v.seq == e.seq)) = rest := by
          refine List.filter_eq_self.mpr fun v hv => ?_
          have hne : v.seq ≠ e.seq := fun heq => hnodup.1 (heq ▸ List.mem_map_of_mem hv)
          simpa using hne
        simpa using hothers

theorem browseNext_replicate [Labels] (hb : w.openBrowser b = .ok browser)
    (hnodup : ((w.unshown browser).map (·.seq)).Nodup) (k : Nat) :
    ((w.run (List.replicate k (.browseNext b))).browseNext b).1 =
      .ok ((w.unshown browser)[k]?.map (·.message)) := by
  induction k generalizing w browser with
  | zero =>
      rw [List.replicate_zero, run_nil, browseNext_fst, hb, showing_eq hb, List.head?_eq_getElem?]
      rfl
  | succ k ih =>
      obtain ⟨y, hopen, htail⟩ := unshown_browseNext hb hnodup
      have hnodup' : (((w.browseNext b).2.unshown y).map (·.seq)).Nodup := by
        rw [htail]
        exact hnodup.sublist ((List.tail_sublist _).map _)
      rw [List.replicate_succ, run_cons]
      refine (ih hopen hnodup').trans ?_
      rw [htail, List.getElem?_tail]

end Quiet

/-! ## Runs -/

section AnyLabels

variable [Labels]

structure Browsed (b : BrowserId) (browser : Browser) (ops : List Operation) : Prop where
  made : ∃ x ∈ trace ops {}, x.Makes browser
  answers : ∀ x ∈ trace ops {}, x.operation = .browseNext b →
    (x.before.browseNext b).1 =
      (x.before.openBrowser b).map fun _ => (x.shows b).map (·.message)
  accepted : ∀ x ∈ trace ops {}, ∀ e, x.shows b = some e → e ∈ x.before.accepted browser
  /-- Its number tells which of the messages that were put into the store a message is. -/
  copies : ∀ e ∈ shown b (trace ops {}), e.Copies (postsTo browser.store (log ops {}))
  once : ((shown b (trace ops {})).map (·.seq)).Nodup
  complete : ((run ops {}).browseNext b).1 = .ok none →
    ∀ e ∈ (run ops {}).accepted browser, ∃ v ∈ shown b (trace ops {}), v.Same e
  /-- If nothing else happens, it shows one by one what it has not shown, and then no more. -/
  quiet : ((run ops {}).openBrowser b).isOk = true → ∀ k,
    (((run ops {}).run (List.replicate k (.browseNext b))).browseNext b).1 =
      .ok ((((run ops {}).accepted browser).filter fun e =>
        !((shown b (trace ops {})).map (·.seq)).contains e.seq)[k]?.map (·.message))

section Runs

variable {b : BrowserId} {browser : Browser} {ops : List Operation}

theorem copies_of_mem_accepted {e : Envelope} (he : e ∈ (run ops {}).accepted browser) :
    e.Copies (postsTo browser.store (log ops {})) :=
  (conserved_run browser.store ops).copies e (List.mem_append_left _ (mem_accepted.mp he).1)

theorem nodup_unshown (browser : Browser) (ops : List Operation) :
    (((run ops {}).unshown browser).map (·.seq)).Nodup := by
  have hcustody := (List.nodup_append.mp (conserved_run browser.store ops).nodup).1
  rw [custody, List.map_append] at hcustody
  exact (List.nodup_append.mp hcustody).1.sublist
    ((List.filter_sublist.trans List.filter_sublist).map _)

theorem unshown_of_viewed (h : Viewed b (trace ops {}) browser) :
    (run ops {}).unshown browser = ((run ops {}).accepted browser).filter fun e =>
      !((shown b (trace ops {})).map (·.seq)).contains e.seq := by
  rw [Provider.unshown, h.seen]
  simp

theorem copies_of_viewed (h : Viewed b (trace ops {}) browser) {e : Envelope}
    (he : e ∈ shown b (trace ops {})) : e.Copies (postsTo browser.store (log ops {})) := by
  obtain ⟨x, hx, he⟩ := List.mem_filterMap.mp he
  have hmem := h.accepted x hx e he
  obtain ⟨first, second, rfl, hbefore⟩ := exists_of_mem_trace hx
  rw [hbefore] at hmem
  rw [log_append, postsTo_append]
  exact (copies_of_mem_accepted hmem).append _

theorem browsed_run (hb : (run ops {}).browsers[b]? = some browser) : Browsed b browser ops := by
  have hviewed := viewed_run hb
  have hsame : ∀ {y}, (run ops {}).openBrowser b = .ok y → y = browser :=
    fun hopen => Option.some.inj ((openBrowser_eq_ok.mp hopen).1.symm.trans hb)
  constructor
  case made => exact hviewed.made
  case answers =>
    intro x _ hop
    have hshows : x.shows b = x.before.showing b := by simp [Step.shows, hop]
    rw [hshows, browseNext_fst]
  case accepted => exact hviewed.accepted
  case copies => exact fun e he => copies_of_viewed hviewed he
  case once => exact hviewed.once
  case complete =>
    intro hnone e he
    rw [browseNext_fst] at hnone
    cases hopen : (run ops {}).openBrowser b with
    | error err => simp [hopen, Except.map] at hnone
    | ok y =>
        obtain rfl := hsame hopen
        have hnil : (run ops {}).unshown y = [] := by
          simpa [hopen, showing_eq hopen, Except.map] using hnone
        rw [unshown_of_viewed hviewed, List.filter_eq_nil_iff] at hnil
        obtain ⟨v, hv, hseq⟩ := List.mem_map.mp (by simpa using hnil e he)
        exact ⟨v, hv, (copies_of_viewed hviewed hv).same (copies_of_mem_accepted he) hseq⟩
  case quiet =>
    intro hok k
    cases hopen : (run ops {}).openBrowser b with
    | error err => simp [hopen, Except.isOk, Except.toBool] at hok
    | ok y =>
        obtain rfl := hsame hopen
        rw [browseNext_replicate hopen (nodup_unshown y ops), unshown_of_viewed hviewed]

end Runs

/--
In every run, each browser shows what it accepts of what waits in its queue, each message once and
all of them before it says that there are no more; it says that there are more if there are; and
browsing neither takes away nor moves what has not expired.
-/
theorem exhaustive_browsing (ops : List Operation) :
    (∀ b browser, (run ops {}).browsers[b]? = some browser → Browsed b browser ops) ∧
    (∀ b, (((run ops {}).hasMore b).2.browseNext b).1.map (·.isSome) =
      ((run ops {}).hasMore b).1) ∧
    ∀ op, op.browses = true → (run ops {}).Unharmed ((run ops {}).step op) := by
  refine ⟨fun b browser hb => browsed_run hb, fun b => ?_, fun op hop => ?_⟩
  · exact hasMore_eq_browseNext b _
  · exact unharmed_step _ hop

end AnyLabels

def watching : List Operation :=
  [.connect ⟨{ text := "vm://local", broker := "local" }, "", ""⟩ "" "" none, .start 0,
    .createSession 0 .client, .createConsumer 0 ⟨.queue, "jobs"⟩ none false,
    .createProducer 0 (some ⟨.queue, "jobs"⟩), .send 0 none none (.ofText "one"),
    .send 0 none (some ⟨.persistent, 4, 10⟩) (.ofText "two"),
    .send 0 none none (.ofText "three"), .createBrowser 0 ⟨.queue, "jobs"⟩ none,
    .browseNext 0, .receiveNow 0, .advance 10, .recover 0]

def watcher (seen : List Nat) : Browser := ⟨0, ⟨.queue, "jobs"⟩, 0, none, seen, false⟩

theorem exhaustive_browsing_watching :
    ((run watching {}).accepted (watcher [0])).map (·.seq) = [0, 2] ∧
    (shown 0 (trace watching {})).map (·.seq) = [0] ∧
    ((run watching {}).hasMore 0).1 = .ok true ∧
    ((run watching {}).browseNext 0).1.map (·.map (·.body)) = .ok (some (.text "three")) ∧
    (((run watching {}).run [.browseNext 0]).browseNext 0).1 = .ok none ∧
    ∀ e ∈ (run (watching ++ [.browseNext 0]) {}).accepted (watcher [2, 0]),
      ∃ v ∈ shown 0 (trace (watching ++ [.browseNext 0]) {}), v.Same e := by
  obtain ⟨hbrowsed, hmore, -⟩ := exhaustive_browsing watching
  have hb := hbrowsed 0 (watcher [0]) rfl
  have hnext := hb.quiet (by decide) 0
  rw [List.replicate_zero, run_nil] at hnext
  have hend := (hb.quiet (by decide) 1).trans (by decide : _ = .ok none)
  have hdone := (exhaustive_browsing (watching ++ [.browseNext 0])).1 0 (watcher [2, 0]) rfl
  refine ⟨by decide, by decide, (hmore 0).symm.trans (by decide), ?_, hend,
    hdone.complete (by decide)⟩
  rw [hnext]
  decide

end Provider

end Messaging
