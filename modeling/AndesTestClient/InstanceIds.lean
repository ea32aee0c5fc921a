import AndesTestClient.ConfigReader
import AndesTestClient.Library.Decimal
import AndesTestClient.Main
import Mathlib.Data.List.Count
import Mathlib.Data.Option.Basic

namespace AndesTestClient

namespace ConfigReader

variable {α κ : Type} {threads : α → Int32} {duplicate : α → Int32 → Option α}
  {settle : α → Option α} {copyKey : α → Int32 → κ}

/-- The walk seen through one field: however it ends, the entries keep theirs and the copies have
those that their numbers give them. -/
theorem createDuplicates_keys (key : α → κ)
    (hcopy : ∀ c t copy, duplicate c t = some copy → key copy = copyKey c t)
    (hsettle : ∀ c settled, settle c = some settled → key settled = key c) (pre tail : List α)
    {result : List α}
    (h : createDuplicates threads duplicate settle pre.length (pre ++ tail) = some result) :
    result.map key = (pre ++ tail).map key ++
      pre.reverse.flatMap fun c ↦ (copyNumbers (threads c)).map (copyKey c) := by
  rw [createDuplicates_fields key key hcopy hsettle pre tail h, List.map_append]

def copyIds (c : PubSubConfig) : List (Option String) :=
  (copyNumbers c.parallelThreads).map fun t ↦
    some (concatenated c.id ++ "__" ++ integerToString t)

theorem duplicateSubscriber_id {uuid : Int32 → String} {c copy : SubscriberConfig} {t : Int32}
    (h : duplicateSubscriber uuid c t = some copy) :
    copy.id = some (concatenated c.id ++ "__" ++ integerToString t) := by
  obtain ⟨q, -, h⟩ := Option.bind_eq_some_iff.mp h
  cases h
  simp only
  split <;> rfl

theorem settleSubscriber_id {c settled : SubscriberConfig} (h : settleSubscriber c = some settled) :
    settled.id = c.id := by
  obtain ⟨q, -, h⟩ := Option.bind_eq_some_iff.mp h
  cases h
  simp only
  split <;> rfl

theorem duplicatePublisher_id {uuid : Int32 → String} {c copy : PublisherConfig} {t : Int32}
    (h : duplicatePublisher uuid c t = some copy) :
    copy.id = some (concatenated c.id ++ "__" ++ integerToString t) := by
  obtain ⟨q, -, h⟩ := Option.bind_eq_some_iff.mp h
  cases h
  rfl

theorem settlePublisher_id {c settled : PublisherConfig} (h : settlePublisher c = some settled) :
    settled.id = c.id := by
  obtain ⟨q, -, h⟩ := Option.bind_eq_some_iff.mp h
  cases h
  rfl

theorem addGlobalConfigurations_id (tc : TestConfiguration) (c : PubSubConfig) :
    (c.addGlobalConfigurationsIfAbsent tc).id = c.id := by
  simp only [PubSubConfig.addGlobalConfigurationsIfAbsent, apply_ite PubSubConfig.id, ite_self]

theorem addGlobalConfigurations_parallelThreads (tc : TestConfiguration) (c : PubSubConfig) :
    (c.addGlobalConfigurationsIfAbsent tc).parallelThreads = c.parallelThreads := by
  simp only [PubSubConfig.addGlobalConfigurationsIfAbsent, apply_ite PubSubConfig.parallelThreads,
    ite_self]

theorem copyIds_addGlobal (tc : TestConfiguration) (c : PubSubConfig) :
    copyIds (c.addGlobalConfigurationsIfAbsent tc) = copyIds c := by
  rw [copyIds, addGlobalConfigurations_id, addGlobalConfigurations_parallelThreads, copyIds]

def IdsExpand (before after : List PubSubConfig) : Prop :=
  (after.map (·.id)).Perm (before.map (·.id) ++ before.flatMap copyIds)

theorem createDuplicates_idsExpand (config : α → PubSubConfig) (fill : α → α)
    (tc : TestConfiguration)
    (hfill : ∀ c, config (fill c) = (config c).addGlobalConfigurationsIfAbsent tc)
    (hcopy : ∀ c t copy, duplicate c t = some copy →
      (config copy).id = some (concatenated (config c).id ++ "__" ++ integerToString t))
    (hsettle : ∀ c settled, settle c = some settled → (config settled).id = (config c).id)
    {list result : List α}
    (h : createDuplicates (fun c ↦ (config c).parallelThreads) duplicate settle
      (list.map fill).length (list.map fill) = some result) :
    IdsExpand (list.map config) (result.map config) := by
  have hkeys := createDuplicates_keys (fun c ↦ (config c).id) hcopy hsettle (list.map fill) []
    (by rwa [List.append_nil])
  have hcopies : ∀ c, (copyNumbers (config (fill c)).parallelThreads).map (fun t ↦
      some (concatenated (config (fill c)).id ++ "__" ++ integerToString t)) =
        copyIds (config c) := by
    intro c
    rw [← copyIds_addGlobal tc (config c), hfill, copyIds]
  rw [List.append_nil, List.map_map, ← List.map_reverse, List.flatMap_map] at hkeys
  simp only [hcopies] at hkeys
  rw [IdsExpand, List.map_map, List.map_map, List.flatMap_map]
  refine (List.Perm.of_eq hkeys).trans (List.Perm.append (List.Perm.of_eq ?_) ?_)
  · simp [hfill, addGlobalConfigurations_id, Function.comp_def]
  · exact (List.reverse_perm list).flatMap_right _

theorem subscribers_idsExpand {uuid : Int32 → String} {tc : TestConfiguration}
    {list result : List SubscriberConfig}
    (h : createDuplicateSubscribersIfNeeded uuid
      (list.map (·.addGlobalConfigurationsIfAbsent tc)) = some result) :
    IdsExpand (list.map (·.toPubSubConfig)) (result.map (·.toPubSubConfig)) :=
  createDuplicates_idsExpand SubscriberConfig.toPubSubConfig
    (SubscriberConfig.addGlobalConfigurationsIfAbsent tc) tc
    (SubscriberConfig.addGlobalConfigurations_pubSub tc)
    (fun _ _ _ ↦ duplicateSubscriber_id) (fun _ _ ↦ settleSubscriber_id) h

theorem publishers_idsExpand {uuid : Int32 → String} {tc : TestConfiguration}
    {list result : List PublisherConfig}
    (h : createDuplicatePublishersIfNeeded uuid
      (list.map (·.addGlobalConfigurationsIfAbsent tc)) = some result) :
    IdsExpand (list.map (·.toPubSubConfig)) (result.map (·.toPubSubConfig)) :=
  createDuplicates_idsExpand PublisherConfig.toPubSubConfig
    (PublisherConfig.addGlobalConfigurationsIfAbsent tc) tc
    (PublisherConfig.addGlobalConfigurations_pubSub tc)
    (fun _ _ _ ↦ duplicatePublisher_id) (fun _ _ ↦ settlePublisher_id) h

theorem IdsExpand.append {before before' after after' : List PubSubConfig}
    (h : IdsExpand before after) (h' : IdsExpand before' after') :
    IdsExpand (before ++ before') (after ++ after') := by
  rw [IdsExpand, List.map_append, List.map_append, List.flatMap_append]
  refine (List.Perm.append h h').trans (List.perm_iff_count.mpr fun id ↦ ?_)
  simp only [List.count_append]
  omega

def configs (tc : TestConfiguration) : List PubSubConfig := (Main.endpoints tc).map (·.config)

theorem configs_eq (tc : TestConfiguration) : configs tc =
    tc.topicSubscribers.map (·.toPubSubConfig) ++ tc.queueSubscribers.map (·.toPubSubConfig) ++
      tc.durableTopicSubscribers.map (·.toPubSubConfig) ++
      tc.topicPublishers.map (·.toPubSubConfig) ++ tc.queuePublishers.map (·.toPubSubConfig) := by
  simp only [configs, Main.endpoints, List.map_append, List.map_map]
  rfl

theorem preProcess_idsExpand {uuid : Int32 → String} {tc tc' : TestConfiguration}
    (h : preProcess uuid tc = some tc') : IdsExpand (configs tc) (configs tc') := by
  obtain ⟨tc₁, h₁, h⟩ := Option.bind_eq_some_iff.mp h
  obtain ⟨tc₂, h₂, h⟩ := Option.bind_eq_some_iff.mp h
  obtain ⟨tc₃, h₃, h⟩ := Option.bind_eq_some_iff.mp h
  obtain ⟨tc₄, h₄, h₅⟩ := Option.bind_eq_some_iff.mp h
  obtain ⟨topicPublishers, hp, ⟨⟩⟩ := Option.bind_eq_some_iff.mp h₁
  obtain ⟨queuePublishers, hq, ⟨⟩⟩ := Option.bind_eq_some_iff.mp h₂
  obtain ⟨topicSubscribers, hs, ⟨⟩⟩ := Option.bind_eq_some_iff.mp h₃
  obtain ⟨queueSubscribers, hr, ⟨⟩⟩ := Option.bind_eq_some_iff.mp h₄
  obtain ⟨durableTopicSubscribers, hd, ⟨⟩⟩ := Option.bind_eq_some_iff.mp h₅
  rw [configs_eq, configs_eq]
  exact ((((subscribers_idsExpand hs).append (subscribers_idsExpand hr)).append
    (subscribers_idsExpand hd)).append (publishers_idsExpand hp)).append (publishers_idsExpand hq)

theorem copyNumbers_nodup (threads : Int32) : (copyNumbers threads).Nodup := by
  have hcount : (threads - 1).toInt.toNat < 2 ^ 31 := by
    have := (threads - 1).toInt_lt
    omega
  refine List.Nodup.map_on (fun i hi j hj h ↦ ?_) List.nodup_range
  rw [List.mem_range] at hi hj
  have hij := congrArg Int32.toInt ((Int32.add_left_inj 2).mp h)
  rw [Imperative.toInt_ofNat (by omega), Imperative.toInt_ofNat (by omega)] at hij
  exact_mod_cast hij

/-- An id that is configured is also the id of a copy. -/
def CopyClash (tc : TestConfiguration) : Prop :=
  ∃ c ∈ configs tc, ∃ t ∈ copyNumbers c.parallelThreads, ∃ d ∈ configs tc,
    d.id = some (concatenated c.id ++ "__" ++ integerToString t)

instance (tc : TestConfiguration) : Decidable (CopyClash tc) :=
  inferInstanceAs (Decidable (∃ c ∈ configs tc, ∃ t ∈ copyNumbers c.parallelThreads,
    ∃ d ∈ configs tc, d.id = some (concatenated c.id ++ "__" ++ integerToString t)))

theorem id_eq_some {c : PubSubConfig} (h : isEmpty c.id = false) :
    c.id = some (concatenated c.id) ∧ concatenated c.id ≠ "" := by
  cases hid : c.id with
  | none => exact absurd h (by simp [hid, isEmpty])
  | some s => exact ⟨rfl, by simpa [hid, isEmpty, concatenated] using h⟩

theorem instance_id_nonempty {uuid : Int32 → String} {tc tc' : TestConfiguration}
    (hids : ∀ c ∈ configs tc, isEmpty c.id = false) (h : preProcess uuid tc = some tc')
    {c : PubSubConfig} (hc : c ∈ configs tc') : isEmpty c.id = false := by
  rcases List.mem_append.mp ((preProcess_idsExpand h).mem_iff.mp (List.mem_map_of_mem hc)) with
    hid | hid
  · obtain ⟨d, hd, hdc⟩ := List.mem_map.mp hid
    exact hdc ▸ hids d hd
  · obtain ⟨d, -, hid⟩ := List.mem_flatMap.mp hid
    obtain ⟨t, -, hid⟩ := List.mem_map.mp hid
    rw [← hid]
    simp [isEmpty]

theorem instanceIds_nodup_iff {uuid : Int32 → String} {tc tc' : TestConfiguration}
    (hids : ∀ c ∈ configs tc, isEmpty c.id = false) (hnodup : ((configs tc).map (·.id)).Nodup)
    (h : preProcess uuid tc = some tc') :
    ((configs tc').map (·.id)).Nodup ↔ ¬ CopyClash tc := by
  have hsome : ∀ c ∈ configs tc, c.id = some (concatenated c.id) :=
    fun c hc ↦ (id_eq_some (hids c hc)).1
  have hmap : (configs tc).map (·.id) =
      ((configs tc).map fun c ↦ concatenated c.id).map some := by
    rw [List.map_map]
    exact List.map_congr_left hsome
  have hcopies : (configs tc).flatMap copyIds =
      ((configs tc).flatMap fun c ↦ ((copyNumbers c.parallelThreads).map Int32.toInt).map
        fun n ↦ concatenated c.id ++ "__" ++ toString n).map some := by
    simp only [List.map_flatMap, List.map_map]
    rfl
  rw [hmap, List.nodup_map_iff (Option.some_injective _)] at hnodup
  rw [(preProcess_idsExpand h).nodup_iff, hmap, hcopies, ← List.map_append,
    List.nodup_map_iff (Option.some_injective _),
    Decimal.nodup_numbered_iff '_' ['_'] rfl (by decide) (by decide) _ _ hnodup]
  · constructor
    · intro hne hclash
      obtain ⟨c, hc, t, ht, d, hd, hclash⟩ := hclash
      rw [hsome d hd, Option.some.injEq] at hclash
      exact hne c hc t.toInt (List.mem_map_of_mem ht) d hd hclash
    · intro hclash c hc n hn d hd heq
      obtain ⟨t, ht, rfl⟩ := List.mem_map.mp hn
      exact hclash ⟨c, hc, t, ht, d, hd, (hsome d hd).trans (congrArg some heq)⟩
  · exact fun c _ ↦ (copyNumbers_nodup _).map fun _ _ ↦ Int32.toInt.inj

end ConfigReader

end AndesTestClient
