import Messaging.Proofs.Name
import Messaging.Proofs.Run.Coherence

/-!
# Temporary destinations

A temporary destination is live at one broker, that of the one connection that owns it, and only
while that connection is open.
-/

namespace Messaging.Provider

variable [Labels]

structure Tenanted (w : Provider) : Prop where
  labels : ∀ x ∈ w.connections, ∃ n ≤ w.labels, Labels.request n = .ok x.label
  distinct : (w.connections.map (·.label)).Nodup
  owned : ∀ b, ∀ t ∈ (w.brokerAt b).temporaries, t.1.isTemporary = true ∧
    ∃ x n, w.connections[t.2]? = some x ∧ x.broker = b ∧ x.state ≠ .closed ∧
      n < x.nextTemporary ∧ t.1.name = s!"{x.label}:{n}"
  unique : ∀ b, ((w.brokerAt b).temporaries.map (·.1)).Nodup

theorem Tenanted.init : ({} : Provider).Tenanted := by
  constructor <;> simp [brokerAt]

/-! ## Moves -/

section Moves

variable {w w' : Provider}

theorem Tenanted.of_same (hw : w.Tenanted) (hconnections : w'.connections = w.connections)
    (hlabels : w.labels ≤ w'.labels)
    (htemporaries : ∀ b, (w'.brokerAt b).temporaries = (w.brokerAt b).temporaries) :
    w'.Tenanted := by
  refine ⟨?_, ?_, ?_, ?_⟩
  · rw [hconnections]
    intro x hx
    obtain ⟨n, hn, hlabel⟩ := hw.labels x hx
    exact ⟨n, Nat.le_trans hn hlabels, hlabel⟩
  · rw [hconnections]
    exact hw.distinct
  · intro b
    rw [htemporaries, hconnections]
    exact hw.owned b
  · intro b
    rw [htemporaries]
    exact hw.unique b

theorem Tenanted.updateConnection (hw : w.Tenanted) {c : ConnectionId} {x : Connection}
    (hopen : w.openConnection c = .ok x) {f : Connection → Connection}
    (hlabel : (f x).label = x.label) (hbroker : (f x).broker = x.broker)
    (hstate : (f x).state ≠ .closed) (hnext : x.nextTemporary ≤ (f x).nextTemporary) :
    (w.updateConnection c f).Tenanted := by
  have hc := (openConnection_eq_ok.mp hopen).1
  refine ⟨?_, ?_, ?_, hw.unique⟩
  · intro y hy
    rcases mem_of_mem_modify hy with hy | ⟨z, hz, rfl⟩
    · exact hw.labels y hy
    · obtain rfl : x = z := Option.some.inj (hc.symm.trans hz)
      rw [hlabel]
      exact hw.labels x (List.mem_of_getElem? hc)
  · have hlabels : (w.connections.modify c f).map (·.label) = w.connections.map (·.label) := by
      refine map_modify_eq fun y hy => ?_
      obtain rfl : x = y := Option.some.inj (hc.symm.trans hy)
      exact hlabel
    exact hlabels ▸ hw.distinct
  · intro b t ht
    obtain ⟨hkind, y, n, hy, hb, hopen, hn, hname⟩ := hw.owned b t ht
    refine ⟨hkind, ?_⟩
    by_cases hct : c = t.2
    · subst hct
      obtain rfl : x = y := Option.some.inj (hc.symm.trans hy)
      refine ⟨f x, n, by simp [Provider.updateConnection, hc], hbroker.trans hb, hstate,
        Nat.lt_of_lt_of_le hn hnext, ?_⟩
      rw [hlabel]
      exact hname
    · exact ⟨y, n, (List.getElem?_modify_ne f _ hct).trans hy, hb, hopen, hn, hname⟩

theorem Tenanted.connect (hw : w.Tenanted) (x : Connection)
    (hlabel : Labels.request (w.labels + 1) = .ok x.label) (hlabels : w'.labels = w.labels + 1)
    (hconnections : w'.connections = w.connections ++ [x])
    (htemporaries : ∀ b, (w'.brokerAt b).temporaries = (w.brokerAt b).temporaries) :
    w'.Tenanted := by
  refine ⟨?_, ?_, ?_, ?_⟩
  · rw [hconnections, hlabels]
    intro y hy
    rcases List.mem_append.mp hy with hy | hy
    · obtain ⟨n, hn, hy⟩ := hw.labels y hy
      exact ⟨n, Nat.le_succ_of_le hn, hy⟩
    · rw [List.mem_singleton.mp hy]
      exact ⟨_, Nat.le_refl _, hlabel⟩
  · rw [hconnections, List.map_append, List.nodup_append]
    refine ⟨hw.distinct, by simp, ?_⟩
    intro l hl l' hl' heq
    obtain ⟨y, hy, rfl⟩ := List.mem_map.mp hl
    obtain ⟨n, hn, hy⟩ := hw.labels y hy
    obtain rfl : l' = x.label := by simpa using hl'
    have hsame := Labels.request_injective (heq ▸ hy) hlabel
    omega
  · intro b t ht
    rw [htemporaries] at ht
    obtain ⟨hkind, y, n, hy, hb⟩ := hw.owned b t ht
    rw [hconnections]
    have hlt := (List.getElem?_eq_some_iff.mp hy).1
    exact ⟨hkind, y, n, (List.getElem?_append_left hlt).trans hy, hb⟩
  · intro b
    rw [htemporaries]
    exact hw.unique b

theorem Tenanted.addTemporary (hw : w.Tenanted) {c : ConnectionId} {x : Connection}
    (hopen : w.openConnection c = .ok x) {kind : DestinationKind}
    (hkind : kind.isTemporary = true) :
    ((w.updateConnection c ({ · with nextTemporary := x.nextTemporary + 1 })).updateBroker
      x.broker (·.addTemporary ⟨kind, s!"{x.label}:{x.nextTemporary}"⟩ c)).Tenanted := by
  obtain ⟨hc, hstate⟩ := openConnection_eq_ok.mp hopen
  have hw' := hw.updateConnection hopen (f := ({ · with nextTemporary := x.nextTemporary + 1 }))
    rfl rfl hstate (Nat.le_succ _)
  refine ⟨hw'.labels, hw'.distinct, ?_, ?_⟩
  · intro b t ht
    rw [brokerAt_updateBroker] at ht
    split at ht
    next hb =>
      rcases List.mem_cons.mp ht with rfl | ht
      · refine ⟨hkind, { x with nextTemporary := x.nextTemporary + 1 }, x.nextTemporary, ?_, hb.1,
          hstate, Nat.lt_succ_self _, rfl⟩
        change (w.connections.modify c _)[c]? = _
        rw [List.getElem?_modify_eq, hc]
        rfl
      · exact hw'.owned b t (hb.1 ▸ ht)
    next => exact hw'.owned b t ht
  · intro b
    rw [brokerAt_updateBroker]
    split
    next hb =>
      refine List.nodup_cons.mpr ⟨?_, hw.unique x.broker⟩
      -- the name of an earlier temporary destination has another label or a smaller number
      intro hmem
      obtain ⟨t, ht, heq⟩ := List.mem_map.mp hmem
      obtain ⟨-, y, n, hy, -, -, hn, hname⟩ := hw.owned x.broker t ht
      rw [heq] at hname
      obtain ⟨hlabel, rfl⟩ := temporaryName_inj hname
      have hct : c = t.2 := place_eq_of_nodup hw.distinct hc hy hlabel
      subst hct
      obtain rfl : x = y := Option.some.inj (hc.symm.trans hy)
      exact absurd hn (Nat.lt_irrefl _)
    next => exact hw.unique b

theorem Tenanted.retireConnection (hw : w.Tenanted) {c : ConnectionId} {x : Connection}
    (hopen : w.openConnection c = .ok x) :
    ((w.updateConnection c ({ · with state := .closed })).updateBroker x.broker fun b =>
      (b.releaseTemporaries c).removeClientId x.clientId).Tenanted := by
  have hc := (openConnection_eq_ok.mp hopen).1
  have hlabels : (w.connections.modify c ({ · with state := .closed })).map (·.label) =
      w.connections.map (·.label) := map_modify_eq fun _ _ => rfl
  refine ⟨?_, hlabels ▸ hw.distinct, ?_, ?_⟩
  · intro y hy
    rcases mem_of_mem_modify hy with hy | ⟨z, hz, rfl⟩
    · exact hw.labels y hy
    · exact hw.labels z (List.mem_of_getElem? hz)
  · intro b t ht
    have hkept : t ∈ (w.brokerAt b).temporaries ∧ t.2 ≠ c := by
      rw [brokerAt_updateBroker] at ht
      split at ht
      next hb =>
        obtain ⟨ht, hne⟩ := List.mem_filter.mp ht
        exact ⟨hb.1 ▸ ht, by simpa using hne⟩
      next hb =>
        refine ⟨ht, ?_⟩
        rintro rfl
        obtain ⟨-, y, -, hy, hyb, -⟩ := hw.owned b t ht
        obtain rfl : x = y := Option.some.inj (hc.symm.trans hy)
        refine hb ⟨hyb, hyb ▸ ?_⟩
        by_contra hlt
        simp [brokerAt, hlt] at ht
    obtain ⟨hkind, y, n, hy, hrest⟩ := hw.owned b t hkept.1
    exact ⟨hkind, y, n, (List.getElem?_modify_ne _ _ hkept.2.symm).trans hy, hrest⟩
  · intro b
    rw [brokerAt_updateBroker]
    split
    next hb => exact (hw.unique x.broker).sublist (List.filter_sublist.map _)
    next => exact hw.unique b

end Moves

theorem Move.tenanted {w w' : Provider} {es : List Event} (h : Move w es w') (hw : w.Tenanted) :
    w'.Tenanted := by
  -- what most moves do to a broker does not touch its temporary destinations
  have hframe : ∀ {v : Provider} {b f}, v.brokers = w.brokers.modify b f →
      (∀ x, (f x).temporaries = x.temporaries) →
      ∀ b', (v.brokerAt b').temporaries = (w.brokerAt b').temporaries := fun hv hf =>
    brokerAt_modify_frame (g := (·.temporaries)) hv hf
  cases h with
  | idle _ _ _ _ hlabels => exact hw.of_same rfl hlabels fun _ => rfl
  | shutdown | openSession | numberProducer | keep | post | consume | purge | acknowledge |
      commit | forget | giveBack | retireSession =>
      exact hw.of_same rfl (Nat.le_refl _) fun _ => rfl
  | startBroker name credentials =>
      refine hw.of_same rfl (Nat.le_refl _) ?_
      exact brokerAt_concat_frame (g := (·.temporaries)) (x := { name, credentials }) rfl rfl
  | connect b label id fixed hb hlabel =>
      refine hw.connect _ hlabel rfl rfl ?_
      apply hframe
      · rfl
      · exact fun _ => rfl
  | useConnection c x f hopen hf =>
      exact hw.updateConnection hopen hf.label hf.broker hf.state
        (Nat.le_of_eq hf.nextTemporary.symm)
  | setClientId c x id hopen =>
      have hbroker : (w.updateBroker x.broker fun b =>
          (b.addClientId id).removeClientId x.clientId).Tenanted := by
        refine hw.of_same rfl (Nat.le_refl _) ?_
        apply hframe
        · rfl
        · exact fun _ => rfl
      exact hbroker.updateConnection (c := c) (x := x) hopen rfl rfl
        (openConnection_eq_ok.mp hopen).2 (Nat.le_refl _)
  | addTemporary c x kind hopen hkind => exact hw.addTemporary hopen hkind
  | addQueue | subscribe | unsubscribe =>
      refine hw.of_same rfl (Nat.le_refl _) ?_
      apply hframe
      · rfl
      · exact fun _ => rfl
  | attach s session connection topic name text selector noLocal store next _ _ _ hstore =>
      have hnext : next.connections = w.connections ∧ next.labels = w.labels ∧
          next.brokers = w.brokers := by
        obtain ⟨stores, rfl⟩ := durableStore_frame hstore
        exact ⟨rfl, rfl, rfl⟩
      refine hw.of_same hnext.1 (Nat.le_of_eq hnext.2.1.symm) ?_
      apply hframe
      · rw [← hnext.2.2]
        rfl
      · exact fun _ => Broker.temporaries_activate _ _ _
  | closeConsumer c x =>
      obtain ⟨b, f, heq, hf⟩ := releaseSource_eq x (w.updateConsumer c ({ · with closed := true }))
      rw [heq]
      refine hw.of_same rfl (Nat.le_refl _) ?_
      apply hframe
      · rfl
      · intro y
        rcases hf with rfl | rfl | ⟨key, rfl⟩
        · rfl
        · rfl
        · exact Broker.temporaries_deactivate key y
  | handOut c x session connection e rest hx hopen hsession =>
      rw [deliver_of_open (openSession_eq_ok.mp hsession).2.1]
      split <;> exact hw.of_same rfl (Nat.le_refl _) fun _ => rfl
  | retireConnection c x hopen => exact hw.retireConnection hopen

end Messaging.Provider
