import AndesTestClient.Instances

namespace AndesTestClient

def orGlobal {α : Type} (unset : α → Bool) (own global : α) : α :=
  if unset own then global else own

theorem orGlobal_idem {α : Type} (unset : α → Bool) (own global : α) :
    orGlobal unset (orGlobal unset own global) global = orGlobal unset own global := by
  unfold orGlobal
  split_ifs <;> rfl

attribute [ext] PubSubConfig

namespace PubSubConfig

/-- The nine guards fill nine different fields, each from the global field of its own name. -/
theorem addGlobalConfigurationsIfAbsent_eq (tc : TestConfiguration) (c : PubSubConfig) :
    c.addGlobalConfigurationsIfAbsent tc =
      { c with
        port := orGlobal (· == 0) c.port tc.port
        hostname := orGlobal isBlank c.hostname tc.hostname
        username := orGlobal isBlank c.username tc.username
        password := orGlobal isBlank c.password tc.password
        initialContextFactory :=
          orGlobal isBlank c.initialContextFactory tc.initialContextFactory
        connectionFactoryPrefix :=
          orGlobal isBlank c.connectionFactoryPrefix tc.connectionFactoryPrefix
        connectionFactoryName :=
          orGlobal isBlank c.connectionFactoryName tc.connectionFactoryName
        clientID := orGlobal isBlank c.clientID tc.clientID
        virtualHostName := orGlobal isBlank c.virtualHostName tc.virtualHostName } := by
  unfold addGlobalConfigurationsIfAbsent orGlobal
  ext1
  case port => simp only [apply_ite port, ite_self, beq_iff_eq]
  case hostname => simp only [apply_ite hostname, ite_self]
  case username => simp only [apply_ite username, ite_self]
  case password => simp only [apply_ite password, ite_self]
  case initialContextFactory => simp only [apply_ite initialContextFactory, ite_self]
  case connectionFactoryPrefix => simp only [apply_ite connectionFactoryPrefix, ite_self]
  case connectionFactoryName => simp only [apply_ite connectionFactoryName, ite_self]
  case clientID => simp only [apply_ite clientID, ite_self]
  case virtualHostName => simp only [apply_ite virtualHostName, ite_self]
  case messageCount => simp only [apply_ite messageCount, ite_self]
  case parallelThreads => simp only [apply_ite parallelThreads, ite_self]
  case queueName => simp only [apply_ite queueName, ite_self]
  case id => simp only [apply_ite PubSubConfig.id, ite_self]
  case isTransactional => simp only [apply_ite isTransactional, ite_self]
  case transactionBatchSize => simp only [apply_ite transactionBatchSize, ite_self]
  case failoverParams => simp only [apply_ite failoverParams, ite_self]
  case delayBetweenMsgs => simp only [apply_ite delayBetweenMsgs, ite_self]
  case messagesPerSecond => simp only [apply_ite messagesPerSecond, ite_self]

theorem addGlobalConfigurationsIfAbsent_idem (tc : TestConfiguration) (c : PubSubConfig) :
    (c.addGlobalConfigurationsIfAbsent tc).addGlobalConfigurationsIfAbsent tc =
      c.addGlobalConfigurationsIfAbsent tc := by
  simp only [addGlobalConfigurationsIfAbsent_eq, orGlobal_idem]

/-- The nine connection fields of an instance `i` of the entry `c`. -/
structure Connects (tc : TestConfiguration) (c i : PubSubConfig) : Prop where
  port_eq : i.port = if c.port ≠ 0 then c.port else tc.port
  hostname_eq : i.hostname = if isBlank c.hostname then tc.hostname else c.hostname
  username_eq : i.username = if isBlank c.username then tc.username else c.username
  password_eq : i.password = if isBlank c.password then tc.password else c.password
  initialContextFactory_eq : i.initialContextFactory =
    if isBlank c.initialContextFactory then tc.initialContextFactory else c.initialContextFactory
  connectionFactoryPrefix_eq : i.connectionFactoryPrefix =
    if isBlank c.connectionFactoryPrefix then tc.connectionFactoryPrefix
    else c.connectionFactoryPrefix
  connectionFactoryName_eq : i.connectionFactoryName =
    if isBlank c.connectionFactoryName then tc.connectionFactoryName else c.connectionFactoryName
  clientID_eq : i.clientID = if isBlank c.clientID then tc.clientID else c.clientID
  virtualHostName_eq : i.virtualHostName =
    if isBlank c.virtualHostName then tc.virtualHostName else c.virtualHostName

def reconnect (c i : PubSubConfig) : PubSubConfig :=
  { i with
    port := c.port
    hostname := c.hostname
    username := c.username
    password := c.password
    initialContextFactory := c.initialContextFactory
    connectionFactoryPrefix := c.connectionFactoryPrefix
    connectionFactoryName := c.connectionFactoryName
    clientID := c.clientID
    virtualHostName := c.virtualHostName }

theorem addGlobal_connects (tc : TestConfiguration) {c i : PubSubConfig}
    (h : c.reconnect i = i) : Connects tc c (i.addGlobalConfigurationsIfAbsent tc) := by
  rw [← h, addGlobalConfigurationsIfAbsent_eq]
  refine ⟨?_, rfl, rfl, rfl, rfl, rfl, rfl, rfl, rfl⟩
  by_cases hport : c.port = 0 <;> simp [orGlobal, reconnect, hport]

theorem reconnect_addGlobal (tc : TestConfiguration) (c : PubSubConfig) :
    c.reconnect (c.addGlobalConfigurationsIfAbsent tc) = c := by
  rw [addGlobalConfigurationsIfAbsent_eq, reconnect]

end PubSubConfig

namespace ConfigReader

variable {α : Type} {threads : α → Int32} {duplicate : α → Int32 → Option α}
  {settle : α → Option α} {f : α → α}

theorem appendCopies_map (hduplicate : ∀ c t, duplicate (f c) t = (duplicate c t).map f) (sc : α)
    (copyCount : Int32) (list : List α) :
    appendCopies duplicate (f sc) copyCount (list.map f) =
      (appendCopies duplicate sc copyCount list).map (List.map f) := by
  unfold appendCopies
  generalize List.range copyCount.toInt.toNat = numbers
  induction numbers generalizing list with
  | nil => rfl
  | cons j numbers ih =>
    rw [List.foldlM_cons, List.foldlM_cons, hduplicate]
    cases duplicate sc (Int32.ofNat j + 2) with
    | none => rfl
    | some copy =>
      have h := ih (list ++ [copy])
      rw [List.map_append] at h
      exact h

/-- A change of the entries that the two loop bodies respect can be made before the walk or after
it. -/
theorem createDuplicates_map (hthreads : ∀ c, threads (f c) = threads c)
    (hduplicate : ∀ c t, duplicate (f c) t = (duplicate c t).map f)
    (hsettle : ∀ c, settle (f c) = (settle c).map f) (i : ℕ) (list : List α) :
    createDuplicates threads duplicate settle i (list.map f) =
      (createDuplicates threads duplicate settle i list).map (List.map f) := by
  induction i generalizing list with
  | zero => rfl
  | succ i ih =>
    rw [createDuplicates, createDuplicates, List.getElem?_map]
    cases list[i]? with
    | none => rfl
    | some sc =>
      simp only [Option.map_some, Option.bind_eq_bind, Option.bind_some, hthreads,
        appendCopies_map hduplicate, hsettle]
      cases appendCopies duplicate sc (threads sc - 1) list with
      | none => rfl
      | some grown =>
        cases settle sc with
        | none => rfl
        | some settled =>
          simp only [Option.map_some, Option.bind_some, ← List.map_set]
          exact ih _

variable (tc : TestConfiguration) (uuid : Int32 → String)

theorem fillPublishers_expand (list : List PublisherConfig) :
    createDuplicatePublishersIfNeeded uuid (list.map (·.addGlobalConfigurationsIfAbsent tc)) =
      (createDuplicatePublishersIfNeeded uuid list).map
        (List.map (·.addGlobalConfigurationsIfAbsent tc)) := by
  rw [createDuplicatePublishersIfNeeded, List.length_map]
  apply createDuplicates_map
  · intro c
    simp only [PublisherConfig.addGlobalConfigurationsIfAbsent,
      PubSubConfig.addGlobalConfigurationsIfAbsent_eq]
  · intro c t
    simp only [duplicatePublisher, PublisherConfig.addGlobalConfigurationsIfAbsent,
      PubSubConfig.addGlobalConfigurationsIfAbsent_eq, PublisherConfig.copy_eq]
    cases c.queueName <;> rfl
  · intro c
    simp only [settlePublisher, PublisherConfig.addGlobalConfigurationsIfAbsent,
      PubSubConfig.addGlobalConfigurationsIfAbsent_eq]
    cases c.queueName <;> rfl

theorem fillSubscribers_expand (list : List SubscriberConfig) :
    createDuplicateSubscribersIfNeeded uuid (list.map (·.addGlobalConfigurationsIfAbsent tc)) =
      (createDuplicateSubscribersIfNeeded uuid list).map
        (List.map (·.addGlobalConfigurationsIfAbsent tc)) := by
  rw [createDuplicateSubscribersIfNeeded, List.length_map]
  apply createDuplicates_map
  · intro c
    simp only [SubscriberConfig.addGlobalConfigurationsIfAbsent,
      PubSubConfig.addGlobalConfigurationsIfAbsent_eq]
  · intro c t
    simp only [duplicateSubscriber, SubscriberConfig.addGlobalConfigurationsIfAbsent,
      PubSubConfig.addGlobalConfigurationsIfAbsent_eq, SubscriberConfig.copy_eq]
    cases c.queueName <;> cases isBlank c.subscriptionID <;> rfl
  · intro c
    simp only [settleSubscriber, SubscriberConfig.addGlobalConfigurationsIfAbsent,
      PubSubConfig.addGlobalConfigurationsIfAbsent_eq]
    cases hq : c.queueName <;> cases isBlank c.subscriptionID <;> simp [hq]

theorem addGlobal_queueName (c : PubSubConfig) :
    (c.addGlobalConfigurationsIfAbsent tc).queueName = c.queueName := by
  rw [PubSubConfig.addGlobalConfigurationsIfAbsent_eq]

theorem fillPublishers_isSome_iff {list : List PublisherConfig} :
    (createDuplicatePublishersIfNeeded uuid
      (list.map (·.addGlobalConfigurationsIfAbsent tc))).isSome = true ↔
      ∀ c ∈ list, c.queueName.isSome = true := by
  rw [publishers_isSome_iff, List.forall_mem_map]
  simp only [PublisherConfig.addGlobalConfigurations_pubSub, addGlobal_queueName]

theorem fillSubscribers_isSome_iff {list : List SubscriberConfig} :
    (createDuplicateSubscribersIfNeeded uuid
      (list.map (·.addGlobalConfigurationsIfAbsent tc))).isSome = true ↔
      ∀ c ∈ list, c.queueName.isSome = true := by
  rw [subscribers_isSome_iff, List.forall_mem_map]
  simp only [SubscriberConfig.addGlobalConfigurations_pubSub, addGlobal_queueName]

theorem publisherInstance_reconnect {c i : PublisherConfig} (hi : i ∈ publisherInstances c) :
    c.toPubSubConfig.reconnect i.toPubSubConfig = i.toPubSubConfig := by
  rcases List.mem_cons.mp hi with rfl | hi
  · rfl
  · obtain ⟨t, -, rfl⟩ := List.mem_map.mp hi
    rfl

theorem subscriberInstance_reconnect {c i : SubscriberConfig} (hi : i ∈ subscriberInstances c) :
    c.toPubSubConfig.reconnect i.toPubSubConfig = i.toPubSubConfig := by
  rcases List.mem_cons.mp hi with rfl | hi
  · rfl
  · obtain ⟨t, -, rfl⟩ := List.mem_map.mp hi
    rfl

/-- In any order of the two steps a list whose entries have queue names expands, and no other does:
every instance connects as its entry says, or where the entry says nothing as the test configuration
does, and is otherwise what expansion alone makes of it. -/
theorem defaults_expand (uuid : Int32 → String) (tc : TestConfiguration)
    (pubs : List PublisherConfig) (subs : List SubscriberConfig) :
    (∀ c : PublisherConfig, (c.addGlobalConfigurationsIfAbsent tc).addGlobalConfigurationsIfAbsent tc =
      c.addGlobalConfigurationsIfAbsent tc) ∧
    (∀ c : SubscriberConfig, (c.addGlobalConfigurationsIfAbsent tc).addGlobalConfigurationsIfAbsent tc =
      c.addGlobalConfigurationsIfAbsent tc) ∧
    ((createDuplicatePublishersIfNeeded uuid pubs).isSome = true ↔
      ∀ c ∈ pubs, c.queueName.isSome = true) ∧
    ((createDuplicatePublishersIfNeeded uuid
        (pubs.map (·.addGlobalConfigurationsIfAbsent tc))).isSome = true ↔
      ∀ c ∈ pubs, c.queueName.isSome = true) ∧
    ((createDuplicateSubscribersIfNeeded uuid subs).isSome = true ↔
      ∀ c ∈ subs, c.queueName.isSome = true) ∧
    ((createDuplicateSubscribersIfNeeded uuid
        (subs.map (·.addGlobalConfigurationsIfAbsent tc))).isSome = true ↔
      ∀ c ∈ subs, c.queueName.isSome = true) ∧
    createDuplicatePublishersIfNeeded uuid (pubs.map (·.addGlobalConfigurationsIfAbsent tc)) =
      (createDuplicatePublishersIfNeeded uuid pubs).map
        (List.map (·.addGlobalConfigurationsIfAbsent tc)) ∧
    createDuplicateSubscribersIfNeeded uuid (subs.map (·.addGlobalConfigurationsIfAbsent tc)) =
      (createDuplicateSubscribersIfNeeded uuid subs).map
        (List.map (·.addGlobalConfigurationsIfAbsent tc)) ∧
    (∀ out, createDuplicatePublishersIfNeeded uuid pubs = some out →
      HasInstances publisherInstances pubs out ∧
      ∀ c ∈ pubs, ∀ i ∈ publisherInstances c,
        let filled := i.addGlobalConfigurationsIfAbsent tc
        PubSubConfig.Connects tc c.toPubSubConfig filled.toPubSubConfig ∧
        { filled with toPubSubConfig := i.toPubSubConfig.reconnect filled.toPubSubConfig } = i) ∧
    (∀ out, createDuplicateSubscribersIfNeeded uuid subs = some out →
      HasInstances subscriberInstances subs out ∧
      ∀ c ∈ subs, ∀ i ∈ subscriberInstances c,
        let filled := i.addGlobalConfigurationsIfAbsent tc
        PubSubConfig.Connects tc c.toPubSubConfig filled.toPubSubConfig ∧
        { filled with toPubSubConfig := i.toPubSubConfig.reconnect filled.toPubSubConfig } = i) := by
  refine ⟨?_, ?_, publishers_isSome_iff, fillPublishers_isSome_iff tc uuid, subscribers_isSome_iff,
    fillSubscribers_isSome_iff tc uuid, fillPublishers_expand tc uuid pubs,
    fillSubscribers_expand tc uuid subs, ?_, ?_⟩
  · intro c
    simp only [PublisherConfig.addGlobalConfigurationsIfAbsent,
      PubSubConfig.addGlobalConfigurationsIfAbsent_idem]
  · intro c
    simp only [SubscriberConfig.addGlobalConfigurationsIfAbsent,
      PubSubConfig.addGlobalConfigurationsIfAbsent_idem]
  · intro out hout
    refine ⟨publishers_instances hout, ?_⟩
    intro c _ i hi
    simp only [PublisherConfig.addGlobalConfigurationsIfAbsent, PubSubConfig.reconnect_addGlobal]
    exact ⟨PubSubConfig.addGlobal_connects tc (publisherInstance_reconnect hi), trivial⟩
  · intro out hout
    refine ⟨subscribers_instances hout, ?_⟩
    intro c _ i hi
    simp only [SubscriberConfig.addGlobalConfigurationsIfAbsent, PubSubConfig.reconnect_addGlobal]
    exact ⟨PubSubConfig.addGlobal_connects tc (subscriberInstance_reconnect hi), trivial⟩

end ConfigReader

end AndesTestClient
