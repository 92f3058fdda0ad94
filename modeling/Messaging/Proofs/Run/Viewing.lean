import Messaging.Proofs.Run.Users

/-!
# What browsers show

A browser looks in its store for what it accepts and has not shown yet.  Only its own calls change
what it knows, so the numbers that it passes over are those of the messages that it has shown
in the run.
-/

namespace Messaging

structure Browser.Alike (x y : Browser) : Prop where
  queue : y.queue = x.queue
  store : y.store = x.store
  selector : y.selector = x.selector

namespace Provider

/-! ## What is there to show -/

/-- The messages that wait for a browser and did not expire, in the order of the queue. -/
def accepted (browser : Browser) (w : Provider) : List Envelope :=
  (w.storeAt browser.store).pending.filter fun e =>
    !e.message.isExpired w.now && Selector.admits browser.selector e.message

def unshown (browser : Browser) (w : Provider) : List Envelope :=
  (w.accepted browser).filter fun e => !browser.seen.contains e.seq

def showing (b : BrowserId) (w : Provider) : Option Envelope :=
  match w.openBrowser b with
  | .ok browser => (w.peek browser).1
  | .error _ => none

section Looking

variable {b : BrowserId} {browser : Browser} {w : Provider} {e : Envelope}

theorem mem_accepted : e ∈ w.accepted browser ↔
    e ∈ (w.storeAt browser.store).pending ∧ e.message.isExpired w.now = false ∧
      Selector.admits browser.selector e.message = true := by
  simp [accepted]

theorem accepted_eq_purge (browser : Browser) (w : Provider) :
    w.accepted browser = ((w.storeAt browser.store).purge w.now).pending.filter fun e =>
      Selector.admits browser.selector e.message := by
  simp [accepted, Store.purge, List.filter_filter, Bool.and_comm]

theorem accepted_of_alike {x y : Browser} (h : x.Alike y) (w : Provider) :
    w.accepted y = w.accepted x := by
  rw [accepted, accepted, h.store, h.selector]

theorem peek_fst (browser : Browser) (w : Provider) :
    (w.peek browser).1 = (w.unshown browser).head? := by
  rw [unshown, accepted_eq_purge, List.filter_filter, List.head?_filter]
  rfl

theorem mem_unshown : e ∈ w.unshown browser ↔ e ∈ w.accepted browser ∧ e.seq ∉ browser.seen := by
  simp [unshown]

theorem browseNext_fst (b : BrowserId) (w : Provider) :
    (w.browseNext b).1 = (w.openBrowser b).map fun _ => (w.showing b).map (·.message) := by
  unfold browseNext showing
  cases w.openBrowser b with
  | error err => rfl
  | ok browser =>
      dsimp only [check, Except.map]
      cases hpeek : w.peek browser with
      | mk found next => cases found <;> rfl

theorem showing_eq (hb : w.openBrowser b = .ok browser) :
    w.showing b = (w.unshown browser).head? := by
  rw [showing, hb]
  exact peek_fst browser w

theorem showing_eq_some (h : w.showing b = some e) :
    ∃ browser, w.browsers[b]? = some browser ∧ e ∈ w.unshown browser := by
  cases hb : w.openBrowser b with
  | error err => simp [showing, hb] at h
  | ok browser =>
      rw [showing_eq hb] at h
      exact ⟨browser, (openBrowser_eq_ok.mp hb).1, List.mem_of_head? h⟩

theorem accepted_of_browseNext {m : Message} (h : (w.browseNext b).1 = .ok (some m)) :
    ∃ browser e, w.openBrowser b = .ok browser ∧ e ∈ w.accepted browser ∧ m = e.message := by
  rw [browseNext_fst] at h
  cases hb : w.openBrowser b with
  | error err => simp [hb, Except.map] at h
  | ok browser =>
      obtain ⟨e, he, rfl⟩ : ∃ e, w.showing b = some e ∧ e.message = m := by
        simpa [hb, Except.map] using h
      rw [showing_eq hb] at he
      exact ⟨browser, e, rfl, (mem_unshown.mp (List.mem_of_head? he)).1, rfl⟩

theorem browsers_browseNext (b : BrowserId) (w : Provider) :
    (w.browseNext b).2.browsers = w.browsers.modify b fun x =>
      { x with seen := (w.showing b).toList.map (·.seq) ++ x.seen } := by
  unfold browseNext showing
  cases hb : w.openBrowser b with
  | error err => exact (modify_eq_self fun _ _ => rfl).symm
  | ok browser =>
      dsimp only [check]
      cases hpeek : w.peek browser with
      | mk found next =>
          have hnext : next.browsers = w.browsers := congrArg (·.2.browsers) hpeek.symm
          cases found with
          | none => exact hnext.trans (modify_eq_self fun _ _ => rfl).symm
          | some e =>
              simp only [updateBrowser, hnext]
              refine modify_congr fun x hx => ?_
              rw [Option.some.inj ((openBrowser_eq_ok.mp hb).1.symm.trans hx)]
              rfl

end Looking

end Provider

/-! ## What is shown in a run -/

def Step.Makes [Labels] (x : Step) (y : Browser) : Prop :=
  ∃ s text session connection, x.operation = .createBrowser s y.queue text ∧
    x.before.openSession s = .ok (session, connection) ∧
    Selector.parseOptional text = .ok y.selector ∧
    (x.after.brokerAt connection.broker).queue? y.queue = some y.store

theorem Step.Makes.alike [Labels] {x : Step} {y z : Browser} (h : x.Makes y) (hz : y.Alike z) :
    x.Makes z := by
  obtain ⟨s, text, session, connection, hop, hopen, hselector, hstore⟩ := h
  refine ⟨s, text, session, connection, ?_, hopen, ?_, ?_⟩
  · rw [hop, hz.queue]
  · rw [hselector, hz.selector]
  · rw [hz.queue, hz.store, hstore]

def Step.shows (b : BrowserId) (x : Step) : Option Envelope :=
  match x.operation with
  | .browseNext b' => if b' = b then x.before.showing b else none
  | _ => none

def shown (b : BrowserId) (xs : List Step) : List Envelope := xs.filterMap (·.shows b)

theorem Step.shows_eq_some {b : BrowserId} {x : Step} {e : Envelope} :
    x.shows b = some e ↔ x.operation = .browseNext b ∧ x.before.showing b = some e := by
  obtain ⟨op, w⟩ := x
  cases op with
  | browseNext b' =>
      by_cases hb : b' = b
      · subst hb
        simp [Step.shows]
      · simp [Step.shows, hb]
  | _ => simp [Step.shows]

theorem shown_concat (b : BrowserId) (xs : List Step) (x : Step) :
    shown b (xs ++ [x]) = shown b xs ++ (x.shows b).toList := by
  simp only [shown, List.filterMap_append, List.append_cancel_left_eq]
  cases h : x.shows b <;> simp [h]

theorem Step.shows_eq_none {b : BrowserId} {x : Step} (hb : x.before.browsers[b]? = none) :
    x.shows b = none := by
  refine Option.eq_none_iff_forall_not_mem.mpr fun e he => ?_
  obtain ⟨y, hy, -⟩ := Provider.showing_eq_some (Step.shows_eq_some.mp he).2
  rw [hb] at hy
  cases hy

structure Viewed [Labels] (b : BrowserId) (xs : List Step) (browser : Browser) : Prop where
  made : ∃ x ∈ xs, x.Makes browser
  seen : browser.seen = ((shown b xs).map (·.seq)).reverse
  once : ((shown b xs).map (·.seq)).Nodup
  accepted : ∀ x ∈ xs, ∀ e, x.shows b = some e → e ∈ x.before.accepted browser

/-- What a browser became of another one that showed some messages. -/
structure Browser.Showed (x : Browser) (es : List Envelope) (y : Browser) : Prop where
  alike : x.Alike y
  seen : y.seen = es.map (·.seq) ++ x.seen

namespace Viewed

variable [Labels]
variable {b : BrowserId} {browser : Browser} {xs : List Step}

theorem of_nil (hmade : ∃ x ∈ xs, x.Makes browser) (hseen : browser.seen = [])
    (hxs : shown b xs = []) : Viewed b xs browser := by
  refine ⟨hmade, by simp [hseen, hxs], by simp [hxs], fun x hx e he => ?_⟩
  have hmem : e ∈ shown b xs := List.mem_filterMap.mpr ⟨x, hx, he⟩
  simp [hxs] at hmem

theorem step {x : Step} {y : Browser} (h : Viewed b xs browser)
    (hb : x.before.browsers[b]? = some browser) (hy : browser.Showed (x.shows b).toList y) :
    Viewed b (xs ++ [x]) y := by
  have hstep : ∀ e, x.shows b = some e → e ∈ x.before.unshown browser := by
    intro e he
    obtain ⟨browser', hb', hmem⟩ := Provider.showing_eq_some (Step.shows_eq_some.mp he).2
    rwa [Option.some.inj (hb.symm.trans hb')]
  refine ⟨?_, ?_, ?_, ?_⟩
  · obtain ⟨z, hz, hmakes⟩ := h.made
    exact ⟨z, List.mem_append_left _ hz, hmakes.alike hy.alike⟩
  · rw [shown_concat, hy.seen, h.seen]
    cases x.shows b <;> simp
  · rw [shown_concat]
    cases he : x.shows b with
    | none => simpa using h.once
    | some e =>
        have hnew : e.seq ∉ (shown b xs).map (·.seq) := by
          simpa [h.seen] using (Provider.mem_unshown.mp (hstep e he)).2
        simpa [List.nodup_append] using ⟨h.once, by simpa using hnew⟩
  · intro z hz e he
    rw [Provider.accepted_of_alike hy.alike]
    rcases List.mem_append.mp hz with hz | hz
    · exact h.accepted z hz e he
    · rw [List.mem_singleton.mp hz] at he ⊢
      exact (Provider.mem_unshown.mp (hstep e he)).1

end Viewed

namespace Provider

section Runs

variable {b : BrowserId} {browser : Browser} {w : Provider}

theorem browsers_send (p : ProducerId) (requested : Option Destination) (q : Quality) (m : Message)
    (w : Provider) : (w.send p requested q m).2.browsers = w.browsers := by
  unfold send
  cases w.prepare p requested q m with
  | error err => rfl
  | ok x =>
      obtain ⟨producer, d, m⟩ := x
      refine (spares_sendThrough producer.session d m _).browsers.trans ?_
      unfold countSend
      split <;> rfl

theorem browsers_set (p : ProducerId) (x : ProducerSetting) (w : Provider) :
    (w.set p x).browsers = w.browsers := by
  cases x with
  | deliveryMode | disableMessageId | disableTimestamp => rfl
  | priority | timeToLive =>
      exact check_elim (P := fun r : Outcome Unit => r.2.browsers = w.browsers) (fun _ => rfl)
        fun _ => rfl

theorem createBrowser_cases (s : SessionId) (queue : Destination) (text : Option String)
    (w : Provider) :
    (w.createBrowser s queue text).2 = w ∨
      ∃ session connection selector, w.openSession s = .ok (session, connection) ∧
        Selector.parseOptional text = .ok selector ∧
        (w.createBrowser s queue text).2 =
          { (w.queueStore connection.broker queue).2 with
            browsers := w.browsers ++
              [⟨s, queue, (w.queueStore connection.broker queue).1, selector, [], false⟩] } := by
  unfold createBrowser
  cases hopen : w.openSession s with
  | error err => exact .inl rfl
  | ok x =>
      obtain ⟨session, connection⟩ := x
      cases hselector : Selector.parseOptional text with
      | error err => exact .inl rfl
      | ok selector =>
          dsimp only [check]
          split
          · exact .inl rfl
          · split
            next =>
              have hqueue := (spares_queueStore w connection.broker queue).browsers
              exact .inr ⟨session, connection, selector, rfl, rfl, by rw [hqueue]⟩
            next => exact .inl rfl

variable [Labels]

theorem browsers_createBrowser (hw : w.Coherent) (s : SessionId) (queue : Destination)
    (text : Option String) :
    (w.createBrowser s queue text).2.browsers = w.browsers ∨
      ∃ y, (w.createBrowser s queue text).2.browsers = w.browsers ++ [y] ∧
        (Step.mk (.createBrowser s queue text) w).Makes y ∧ y.seen = [] := by
  rcases createBrowser_cases s queue text w with
    hsame | ⟨session, connection, selector, hopen, hselector, hcreated⟩
  · exact .inl (congrArg Provider.browsers hsame)
  · refine .inr ⟨_, congrArg Provider.browsers hcreated,
      ⟨s, text, session, connection, rfl, hopen, hselector, ?_⟩, rfl⟩
    rw [Step.after, step, hcreated]
    exact queue?_queueStore queue (hw.grounded.lt_of_openSession hopen)

/--
A browser that is there after a step was there before it, and shows what it does in the step; or it
is new and has shown nothing.
-/
theorem browser_step (hw : w.Coherent) {op : Operation} {y : Browser}
    (hy : (w.step op).browsers[b]? = some y) :
    (w.browsers[b]? = none ∧ (Step.mk op w).Makes y ∧ y.seen = []) ∨
      ∃ x, w.browsers[b]? = some x ∧ x.Showed ((Step.mk op w).shows b).toList y := by
  have hsame (hbrowsers : (w.step op).browsers = w.browsers)
      (hnone : (Step.mk op w).shows b = none) :
      ∃ x, w.browsers[b]? = some x ∧ x.Showed ((Step.mk op w).shows b).toList y := by
    refine ⟨y, hbrowsers ▸ hy, ⟨rfl, rfl, rfl⟩, ?_⟩
    rw [hnone]
    rfl
  cases op with
  | send p requested q m => exact .inr (hsame (browsers_send p requested _ m w) rfl)
  | configure p x => exact .inr (hsame (browsers_set p x w) rfl)
  | createProducer s d =>
      have hbrowsers : (w.step (.createProducer s d)).browsers = w.browsers :=
        check_elim (P := fun r : Outcome ProducerId => r.2.browsers = w.browsers) (fun _ => rfl)
          fun _ => rfl
      exact .inr (hsame hbrowsers rfl)
  | createBrowser s queue text =>
      rcases browsers_createBrowser hw s queue text with hbrowsers | ⟨new, hbrowsers, hnew⟩
      · exact .inr (hsame hbrowsers rfl)
      · simp only [step, hbrowsers] at hy
        rcases Nat.lt_trichotomy b w.browsers.length with hlt | rfl | hlt
        · rw [List.getElem?_append_left hlt] at hy
          exact .inr ⟨y, hy, ⟨rfl, rfl, rfl⟩, rfl⟩
        · obtain rfl : new = y := by simpa using hy
          exact .inl ⟨by simp, hnew⟩
        · rw [List.getElem?_eq_none (by simp; omega)] at hy
          cases hy
  | browseNext b' =>
      right
      simp only [step, browsers_browseNext, List.getElem?_modify] at hy
      obtain ⟨x, hx, hxy⟩ := Option.map_eq_some_iff.mp hy
      refine ⟨x, hx, ?_⟩
      by_cases hb : b' = b
      · subst hb
        rw [if_pos rfl] at hxy
        subst hxy
        simp only [Step.shows, if_true]
        exact ⟨⟨rfl, rfl, rfl⟩, rfl⟩
      · rw [if_neg hb] at hxy
        subst hxy
        simp only [Step.shows, if_neg hb]
        exact ⟨⟨rfl, rfl, rfl⟩, rfl⟩
  | closeBrowser b' =>
      right
      simp only [step, closeBrowser, updateBrowser, List.getElem?_modify] at hy
      obtain ⟨x, hx, hxy⟩ := Option.map_eq_some_iff.mp hy
      refine ⟨x, hx, ?_⟩
      split at hxy <;> exact hxy ▸ ⟨⟨rfl, rfl, rfl⟩, rfl⟩
  | closeProducer p => exact .inr (hsame rfl rfl)
  | _ => exact .inr (hsame (spares_step hw rfl).browsers rfl)

theorem shown_eq_nil {ops : List Operation} (hb : (run ops {}).browsers[b]? = none) :
    shown b (trace ops {}) = [] := by
  refine List.filterMap_eq_nil_iff.mpr fun x hx => Step.shows_eq_none ?_
  obtain ⟨first, second, rfl, hbefore⟩ := exists_of_mem_trace hx
  refine Option.eq_none_iff_forall_not_mem.mpr fun y hy => ?_
  have hretains := retains_run (coherent_run first) (x.operation :: second)
  obtain ⟨z, hz, -⟩ := hretains.browsers b y (hbefore ▸ hy)
  rw [run_append, hz] at hb
  cases hb

theorem viewed_run {ops : List Operation} (hb : (run ops {}).browsers[b]? = some browser) :
    Viewed b (trace ops {}) browser := by
  induction ops using List.reverseRecOn generalizing browser with
  | nil => simp at hb
  | append_singleton ops op ih =>
      rw [run_append] at hb
      rw [trace_concat]
      rcases browser_step (coherent_run ops) hb with ⟨hnone, hmakes, hseen⟩ | ⟨x, hx, hshowed⟩
      · refine .of_nil ⟨_, List.mem_append_right _ List.mem_cons_self, hmakes⟩ hseen ?_
        rw [shown_concat, shown_eq_nil hnone, Step.shows_eq_none hnone]
        rfl
      · exact (ih hx).step hx hshowed

end Runs

end Provider

end Messaging
