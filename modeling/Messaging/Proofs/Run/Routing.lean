import Messaging.Proofs.Run.Custody
import Messaging.Proofs.Run.Registration

/-!
# Routing

In every run, each broker's directory agrees with the open consumers, and no two brokers feed one
store.
-/

namespace Messaging.Provider

structure Filed (w : Provider) : Prop where
  directory : ∀ b, Directory (w.openAt b) (w.brokerAt b)
  apart : ∀ {b b' s}, s ∈ (w.brokerAt b).fed → s ∈ (w.brokerAt b').fed → b = b'

/-- A queue and a subscription never share a store. -/
theorem Filed.not_attached_of_queue? {w : Provider} (hw : w.Filed) {b : BrokerId} {d : Destination}
    {s : StoreId} (hqueue : (w.brokerAt b).queue? d = some s) (b' : BrokerId) :
    s ∉ (w.brokerAt b').attached.map (·.store) := by
  intro hattached
  have hmem := List.mem_map_of_mem (f := (·.2)) (Broker.queue?_mem hqueue)
  obtain rfl := hw.apart (List.mem_append_left _ hmem) (List.mem_append_right _ hattached)
  exact (List.nodup_append.mp (hw.directory b).fed).2.2 _ hmem _ hattached rfl

theorem Grounded.fed_lt {w : Provider} (hw : w.Grounded) {b : BrokerId} {s : StoreId}
    (hs : s ∈ (w.brokerAt b).fed) : s < w.stores.length := by
  by_cases hb : b < w.brokers.length
  · have hmem := brokerAt_mem hb
    rcases List.mem_append.mp hs with hs | hs
    · obtain ⟨q, hq, rfl⟩ := List.mem_map.mp hs
      exact hw.queues _ hmem q hq
    · obtain ⟨x, hx, rfl⟩ := List.mem_map.mp hs
      exact hw.attached _ hmem x hx
  · simp [brokerAt, hb, Broker.fed] at hs

/-! ## Moves -/

section Moves

variable {w w' : Provider} {es : List Event} {b : BrokerId}

theorem Registration.directory [Labels] (h : Registration b w es w') (hw : w.Grounded)
    (ht : w.Tenanted) (hd : Directory (w.openAt b) (w.brokerAt b)) :
    Directory (w'.openAt b) (w'.brokerAt b) := by
  have hfresh : w.stores.length ∉ (w.brokerAt b).fed := fun hmem =>
    Nat.lt_irrefl _ (hw.fed_lt hmem)
  cases h with
  | quiet h => exact h.openAt ▸ hd.alike h.broker
  | temporary d c hopen hbroker => exact hopen ▸ (hd.addTemporary d c).alike hbroker
  | queue d _ hopen hbroker => exact hopen ▸ (hd.addQueue hfresh).alike hbroker
  | consumed c x hx hqueue hallowed hopen hbroker =>
      exact hopen ▸ (hd.consume hx hqueue hallowed).alike hbroker
  | subscribed c x noLocal hx hstore hallowed hopen hbroker =>
      exact hopen ▸ (hd.subscribe hx (hstore ▸ hfresh) hallowed).alike hbroker
  | attached c x key noLocal hx htopic _ hfree hstore hopen hbroker _ =>
      refine hopen ▸ (hd.attach hx htopic hfree ?_).alike hbroker
      rcases hstore with ⟨hstore, -⟩ | ⟨d, hd, hstore, -⟩
      · exact .inl (hstore ▸ hfresh)
      · exact .inr ⟨d, hd, hstore⟩
  | closed c x before after hopen hopen' hbroker =>
      rw [hopen] at hd
      exact hopen' ▸ hd.close.alike hbroker
  | released c hothers hopen hbroker =>
      refine hopen ▸ (hd.releaseTemporaries hothers ?_ (ht.unique b)).alike hbroker
      exact fun t htemp => (ht.owned b t htemp).1
  | unsubscribed key d hdurable hinactive hopen hbroker _ =>
      exact hopen ▸ (hd.unsubscribe hdurable hinactive).alike hbroker

theorem Registration.fed (h : Registration b w es w')
    (hd : Directory (w.openAt b) (w.brokerAt b)) {s : StoreId} (hs : s ∈ (w'.brokerAt b).fed) :
    s ∈ (w.brokerAt b).fed ∨ s = w.stores.length := by
  have hnew : ∀ {x : Broker}, x.Alike (w'.brokerAt b) → x.queues = (w.brokerAt b).queues →
      (∀ y ∈ x.attached, y.store ∈ (w.brokerAt b).attached.map (·.store) ∨
        y.store = w.stores.length) → s ∈ (w.brokerAt b).fed ∨ s = w.stores.length := by
    intro x hbroker hqueues hattached
    rw [hbroker.fed, Broker.fed, hqueues] at hs
    rcases List.mem_append.mp hs with hs | hs
    · exact .inl (List.mem_append_left _ hs)
    · obtain ⟨y, hy, rfl⟩ := List.mem_map.mp hs
      exact (hattached y hy).imp_left (List.mem_append_right _)
  have hold : ∀ {x : Broker}, x.Alike (w'.brokerAt b) → x.queues ⊆ (w.brokerAt b).queues →
      x.attached ⊆ (w.brokerAt b).attached →
      s ∈ (w.brokerAt b).fed ∨ s = w.stores.length := by
    intro x hbroker hqueues hattached
    rw [hbroker.fed] at hs
    refine .inl (List.mem_append.mpr ((List.mem_append.mp hs).imp ?_ ?_))
    · exact fun hs => List.map_subset _ hqueues hs
    · exact fun hs => List.map_subset _ hattached hs
  cases h with
  | quiet h => exact hold h.broker (List.Subset.refl _) (List.Subset.refl _)
  | temporary d c _ hbroker => exact hold hbroker (List.Subset.refl _) (List.Subset.refl _)
  | queue d _ _ hbroker =>
      rw [hbroker.fed] at hs
      exact (List.mem_cons.mp hs).symm
  | consumed c x _ _ _ _ hbroker =>
      exact hold hbroker (List.Subset.refl _) (List.Subset.refl _)
  | subscribed c x noLocal _ hstore _ _ hbroker =>
      refine hnew hbroker rfl fun y hy => ?_
      rcases List.mem_append.mp hy with hy | hy
      · exact .inl (List.mem_map_of_mem hy)
      · rw [List.mem_singleton.mp hy]
        exact .inr hstore
  | attached c x key noLocal _ _ _ _ hstore _ hbroker _ =>
      refine hnew hbroker (by simp) fun y hy => ?_
      rcases Broker.mem_attached_activate hy with hy | rfl
      · exact .inl (List.mem_map_of_mem hy)
      · rcases hstore with ⟨hstore, -⟩ | ⟨d, hdurable, hstore, -⟩
        · exact .inr hstore
        · rw [hstore]
          exact .inl (hd.store_mem (Broker.durable?_mem hdurable).1)
  | closed c x before after _ _ hbroker =>
      unfold Consumer.release at hbroker
      cases hx : x.source with
      | queue =>
          rw [hx] at hbroker
          exact hold hbroker (List.Subset.refl _) (List.Subset.refl _)
      | topic noLocal =>
          rw [hx] at hbroker
          exact hold hbroker (List.Subset.refl _) (List.filter_subset_self _)
      | durable key noLocal =>
          rw [hx] at hbroker
          refine hnew hbroker (by simp) fun y hy => .inl ?_
          rcases Broker.mem_attached_deactivate hy with hy | ⟨d, hdurable, rfl⟩
          · exact List.mem_map_of_mem hy
          · exact hd.store_mem hdurable
  | released c _ _ hbroker =>
      exact hold hbroker (List.filter_subset_self _) (List.filter_subset_self _)
  | unsubscribed key d _ _ _ hbroker _ =>
      exact hold hbroker (List.Subset.refl _) (List.filter_subset_self _)

theorem Filed.step [Labels] (hf : w.Filed) (h : Move w es w') (hw : w.Coherent)
    (ht : w.Tenanted) : w'.Filed := by
  obtain ⟨b₀, hself, hothers⟩ := h.registered hw
  have hfed : ∀ {b s}, b₀ ≠ b → s ∈ (w'.brokerAt b).fed → s ∈ (w.brokerAt b).fed := fun hb hs =>
    (hothers _ hb).broker.fed ▸ hs
  have hself' := fun {s} => hself.fed (hf.directory b₀) (s := s)
  refine ⟨fun b => ?_, fun {b b' s} hs hs' => ?_⟩
  · by_cases hb : b₀ = b
    · subst hb
      exact hself.directory hw.grounded ht (hf.directory b₀)
    · exact (hothers b hb).openAt ▸ (hf.directory b).alike (hothers b hb).broker
  · -- a store that is new at one broker is fed by no other
    by_cases hb : b₀ = b <;> by_cases hb' : b₀ = b'
    · exact hb.symm.trans hb'
    · subst hb
      have hs' := hfed hb' hs'
      rcases hself' hs with hs | rfl
      · exact hf.apart hs hs'
      · exact absurd (hw.grounded.fed_lt hs') (Nat.lt_irrefl _)
    · subst hb'
      have hs := hfed hb hs
      rcases hself' hs' with hs' | rfl
      · exact hf.apart hs hs'
      · exact absurd (hw.grounded.fed_lt hs) (Nat.lt_irrefl _)
    · exact hf.apart (hfed hb hs) (hfed hb' hs')

end Moves

/-! ## Runs -/

theorem Filed.init : ({} : Provider).Filed := by
  refine ⟨fun b => ?_, fun {b b' s} hs => ?_⟩
  · constructor <;> simp [openAt, brokerAt, Broker.dormant, Broker.fed]
  · simp [brokerAt, Broker.fed] at hs

variable [Labels]

structure Settled (w : Provider) : Prop where
  coherent : w.Coherent
  tenanted : w.Tenanted
  filed : w.Filed

theorem Settled.moves {w w' : Provider} {es : List Event} (hw : w.Settled) (h : Moves w es w') :
    w'.Settled :=
  h.keeps (P := Settled) (fun hmove hw =>
    ⟨hmove.coherent hw.coherent, hmove.tenanted hw.tenanted,
      hw.filed.step hmove hw.coherent hw.tenanted⟩) hw

theorem Settled.step {w : Provider} (hw : w.Settled) (op : Operation) : (w.step op).Settled :=
  hw.moves (moves_step hw.coherent op)

theorem settled_run (ops : List Operation) : (run ops {}).Settled :=
  Settled.moves ⟨.init, .init, .init⟩ (moves_run ops)

end Messaging.Provider
