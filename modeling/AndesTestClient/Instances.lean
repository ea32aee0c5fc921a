import AndesTestClient.Expansion

namespace AndesTestClient

namespace ConfigReader

open Expansion

/-- The copy of `c` with the number `t`. The id of an entry without one is printed as text. -/
def numberedPublisher (c : PublisherConfig) (t : Int32) : PublisherConfig :=
  { publisherInstance (integerToString t) c with
    id := some (concatenated c.id ++ "__" ++ integerToString t) }

def numberedSubscriber (c : SubscriberConfig) (t : Int32) : SubscriberConfig :=
  { subscriberInstance (integerToString t) c with
    id := some (concatenated c.id ++ "__" ++ integerToString t) }

def publisherInstances (c : PublisherConfig) : List PublisherConfig :=
  publisherInstance "1" c :: (copyNumbers c.parallelThreads).map (numberedPublisher c)

def subscriberInstances (c : SubscriberConfig) : List SubscriberConfig :=
  subscriberInstance "1" c :: (copyNumbers c.parallelThreads).map (numberedSubscriber c)

/-- The list `out` has the originals of `list` in their places, and behind them the copies of the
last entry, of the one before it, and so on. -/
def HasInstances {α : Type} (instances : α → List α) (list out : List α) : Prop :=
  out = list.flatMap (fun c ↦ (instances c).take 1) ++
    list.reverse.flatMap fun c ↦ (instances c).drop 1

theorem hasInstances_iff {α : Type} {original : α → α} {copies : α → List α} {list out : List α} :
    HasInstances (fun c ↦ original c :: copies c) list out ↔
      out = list.map original ++ list.reverse.flatMap copies := by
  rw [List.map_eq_flatMap]
  rfl

theorem duplicatePublisher_numbered {uuid : Int32 → String} {c copy : PublisherConfig} {t : Int32}
    (h : duplicatePublisher uuid c t = some copy) : copy = numberedPublisher c t := by
  obtain ⟨q, hq, h⟩ := Option.bind_eq_some_iff.mp h
  cases h
  simp [numberedPublisher, publisherInstance, hq]

theorem settlePublisher_instance {c settled : PublisherConfig}
    (h : settlePublisher c = some settled) : settled = publisherInstance "1" c := by
  obtain ⟨q, hq, h⟩ := Option.bind_eq_some_iff.mp h
  cases h
  simp [publisherInstance, hq]

theorem duplicateSubscriber_numbered {uuid : Int32 → String} {c copy : SubscriberConfig} {t : Int32}
    (h : duplicateSubscriber uuid c t = some copy) : copy = numberedSubscriber c t := by
  obtain ⟨q, hq, h⟩ := Option.bind_eq_some_iff.mp h
  cases h
  cases hb : isBlank c.subscriptionID <;>
    simp [numberedSubscriber, subscriberInstance, hq, hb]

theorem settleSubscriber_instance {c settled : SubscriberConfig}
    (h : settleSubscriber c = some settled) : settled = subscriberInstance "1" c := by
  by_cases hq : c.queueName = none
  · cases hb : isBlank c.subscriptionID <;> simp [settleSubscriber, hq, hb] at h
  · rw [settleSubscriber_eq hq] at h
    cases h
    rfl

variable {uuid : Int32 → String}

theorem publishers_instances {list out : List PublisherConfig}
    (h : createDuplicatePublishersIfNeeded uuid list = some out) :
    HasInstances publisherInstances list out := by
  have hfields := createDuplicates_fields id (publisherInstance "1")
    (fun _ _ _ ↦ duplicatePublisher_numbered) (fun _ _ ↦ settlePublisher_instance) list []
    (by rwa [List.append_nil])
  rw [List.map_id, List.map_nil, List.append_nil] at hfields
  exact hasInstances_iff.mpr hfields

theorem subscribers_instances {list out : List SubscriberConfig}
    (h : createDuplicateSubscribersIfNeeded uuid list = some out) :
    HasInstances subscriberInstances list out := by
  have hfields := createDuplicates_fields id (subscriberInstance "1")
    (fun _ _ _ ↦ duplicateSubscriber_numbered) (fun _ _ ↦ settleSubscriber_instance) list []
    (by rwa [List.append_nil])
  rw [List.map_id, List.map_nil, List.append_nil] at hfields
  exact hasInstances_iff.mpr hfields

theorem createDuplicates_settles {α : Type} {threads : α → Int32} {duplicate : α → Int32 → Option α}
    {settle : α → Option α} {list out : List α}
    (h : createDuplicates threads duplicate settle list.length list = some out) :
    ∀ c ∈ list, (settle c).isSome = true := by
  have hfields := @createDuplicates_fields α Bool threads duplicate settle (fun _ _ ↦ true)
    (fun _ ↦ true) (fun c ↦ (settle c).isSome) (fun _ _ _ _ ↦ rfl)
    (fun c settled hsettled ↦ by rw [hsettled]; rfl) list [] out (by rwa [List.append_nil])
  intro c hc
  have hmem : (settle c).isSome ∈ out.map fun _ ↦ true := by
    rw [hfields, List.map_nil, List.append_nil]
    exact List.mem_append_left _ (List.mem_map_of_mem hc)
  obtain ⟨_, -, heq⟩ := List.mem_map.mp hmem
  exact heq.symm

theorem settlePublisher_isSome (c : PublisherConfig) :
    (settlePublisher c).isSome = c.queueName.isSome := by
  cases hq : c.queueName <;> simp [settlePublisher, hq]

theorem settleSubscriber_isSome (c : SubscriberConfig) :
    (settleSubscriber c).isSome = c.queueName.isSome := by
  cases hq : c.queueName <;> cases hb : isBlank c.subscriptionID <;> simp [settleSubscriber, hq, hb]

theorem createDuplicates_isSome_iff {α : Type} (threads : α → Int32) {duplicate : α → Int32 → Option α}
    {settle : α → Option α} {copy : α → Int32 → α} {instanceOf : α → α} {list : List α} {P : α → Prop}
    (hsettles : ∀ c, (settle c).isSome = true → P c)
    (hcopy : ∀ c, P c → ∀ t, duplicate c t = some (copy c t))
    (hsettle : ∀ c, P c → settle c = some (instanceOf c)) :
    (createDuplicates threads duplicate settle list.length list).isSome = true ↔ ∀ c ∈ list, P c := by
  constructor
  · intro h c hc
    obtain ⟨out, hout⟩ := Option.isSome_iff_exists.mp h
    exact hsettles c (createDuplicates_settles hout c hc)
  · intro h
    have hwalk := createDuplicates_walk threads copy list [] (fun c hc ↦ hcopy c (h c hc))
      (fun c hc ↦ hsettle c (h c hc))
    rw [List.append_nil] at hwalk
    rw [hwalk]
    rfl

theorem publishers_isSome_iff {list : List PublisherConfig} :
    (createDuplicatePublishersIfNeeded uuid list).isSome = true ↔
      ∀ c ∈ list, c.queueName.isSome = true := by
  have hcopy : ∀ c : PublisherConfig, c.queueName.isSome = true →
      ∀ t, duplicatePublisher uuid c t = some (numberedPublisher c t) := by
    intro c hc t
    obtain ⟨q, hq⟩ := Option.isSome_iff_exists.mp hc
    simp [duplicatePublisher, numberedPublisher, publisherInstance, hq]
  have hsettle : ∀ c : PublisherConfig, c.queueName.isSome = true →
      settlePublisher c = some (publisherInstance "1" c) := by
    intro c hc
    obtain ⟨q, hq⟩ := Option.isSome_iff_exists.mp hc
    simp [settlePublisher, publisherInstance, hq]
  exact createDuplicates_isSome_iff (·.parallelThreads)
    (fun c h ↦ by rwa [settlePublisher_isSome] at h) hcopy hsettle

theorem subscribers_isSome_iff {list : List SubscriberConfig} :
    (createDuplicateSubscribersIfNeeded uuid list).isSome = true ↔
      ∀ c ∈ list, c.queueName.isSome = true := by
  have hcopy : ∀ c : SubscriberConfig, c.queueName.isSome = true →
      ∀ t, duplicateSubscriber uuid c t = some (numberedSubscriber c t) := by
    intro c hc t
    obtain ⟨q, hq⟩ := Option.isSome_iff_exists.mp hc
    cases hb : isBlank c.subscriptionID <;>
      simp [duplicateSubscriber, numberedSubscriber, subscriberInstance, hq, hb]
  have hsettle : ∀ c : SubscriberConfig, c.queueName.isSome = true →
      settleSubscriber c = some (subscriberInstance "1" c) := by
    intro c hc
    obtain ⟨q, hq⟩ := Option.isSome_iff_exists.mp hc
    exact settleSubscriber_eq (by simp [hq])
  exact createDuplicates_isSome_iff (·.parallelThreads)
    (fun c h ↦ by rwa [settleSubscriber_isSome] at h) hcopy hsettle

end ConfigReader

end AndesTestClient
