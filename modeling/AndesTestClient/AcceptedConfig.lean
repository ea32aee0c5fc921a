import AndesTestClient.GlobalDefaults
import AndesTestClient.Startup

namespace AndesTestClient

open Imperative

namespace ConfigReader

open Expansion

section Walk

variable {α : Type} {threads : α → Int32} {duplicate : α → Int32 → Option α} {settle : α → Option α}
  {list out : List α}

theorem createDuplicates_all (named : α → Bool)
    (hcopy : ∀ c t copy, duplicate c t = some copy → named copy = true)
    (hsettle : ∀ c settled, settle c = some settled → named settled = true)
    (h : createDuplicates threads duplicate settle list.length list = some out) :
    ∀ i ∈ out, named i = true := by
  have hfields := @createDuplicates_fields α Bool threads duplicate settle (fun _ _ ↦ true) named
    (fun _ ↦ true) hcopy hsettle list [] out (by rwa [List.append_nil])
  intro i hi
  have hmem : named i ∈ out.map named := List.mem_map_of_mem hi
  rw [hfields] at hmem
  simp only [List.map_nil, List.append_nil, List.mem_append, List.mem_map, List.mem_flatMap] at hmem
  rcases hmem with ⟨_, -, heq⟩ | ⟨_, -, _, -, heq⟩
  · exact heq.symm
  · exact heq.symm

theorem createDuplicates_forall {β : Type} (field : α → β)
    (hcopy : ∀ c t copy, duplicate c t = some copy → field copy = field c)
    (hsettle : ∀ c settled, settle c = some settled → field settled = field c)
    (h : createDuplicates threads duplicate settle list.length list = some out) (P : β → Prop) :
    (∀ i ∈ out, P (field i)) ↔ ∀ c ∈ list, P (field c) := by
  have hfields := @createDuplicates_fields α β threads duplicate settle (fun c _ ↦ field c) field
    field hcopy hsettle list [] out (by rwa [List.append_nil])
  rw [List.map_nil, List.append_nil] at hfields
  rw [← List.forall_mem_map (f := field), hfields, List.forall_mem_append, List.forall_mem_map]
  refine and_iff_left_of_imp fun hall ↦ ?_
  intro x hx
  obtain ⟨c, hc, hx⟩ := List.mem_flatMap.mp hx
  obtain ⟨_, -, rfl⟩ := List.mem_map.mp hx
  exact hall c (List.mem_reverse.mp hc)

end Walk

variable {uuid : Int32 → String} {tc tc' : TestConfiguration}

/-- After reading, a setting is absent in some instance only where neither its entry nor the whole
configuration has it. -/
def Provided (globalSetting : Option String) (setting : PubSubConfig → Option String)
    (list out : List PubSubConfig) : Prop :=
  (∀ i ∈ out, (setting i).isSome = true) ↔
    globalSetting.isSome = true ∨ ∀ c ∈ list, isBlank (setting c) = false

structure Settled (tc : TestConfiguration) (list out : List PubSubConfig) : Prop where
  named : ∀ i ∈ out, i.queueName.isSome = true
  factory : Provided tc.initialContextFactory PubSubConfig.initialContextFactory list out
  factoryName : Provided tc.connectionFactoryName PubSubConfig.connectionFactoryName list out

theorem isSome_of_not_isBlank {s : Option String} (h : isBlank s = false) : s.isSome = true := by
  cases s with
  | none => simp [isBlank] at h
  | some s => rfl

theorem orGlobal_isSome (own globalSetting : Option String) :
    (orGlobal isBlank own globalSetting).isSome = true ↔
      globalSetting.isSome = true ∨ isBlank own = false := by
  cases hb : isBlank own with
  | true => simp [orGlobal, hb]
  | false => simp [orGlobal, hb, isSome_of_not_isBlank hb]

theorem provided_fill {globalSetting : Option String} {setting : PubSubConfig → Option String}
    (hfill : ∀ c : PubSubConfig, setting (c.addGlobalConfigurationsIfAbsent tc) =
      orGlobal isBlank (setting c) globalSetting) (list : List PubSubConfig) :
    Provided globalSetting setting list (list.map (·.addGlobalConfigurationsIfAbsent tc)) := by
  rw [Provided, List.forall_mem_map]
  simp only [hfill, orGlobal_isSome]
  by_cases hglobal : globalSetting.isSome = true <;> simp [hglobal]

theorem addGlobal_factory (tc : TestConfiguration) (c : PubSubConfig) :
    (c.addGlobalConfigurationsIfAbsent tc).initialContextFactory =
      orGlobal isBlank c.initialContextFactory tc.initialContextFactory := by
  rw [PubSubConfig.addGlobalConfigurationsIfAbsent_eq]

theorem addGlobal_factoryName (tc : TestConfiguration) (c : PubSubConfig) :
    (c.addGlobalConfigurationsIfAbsent tc).connectionFactoryName =
      orGlobal isBlank c.connectionFactoryName tc.connectionFactoryName := by
  rw [PubSubConfig.addGlobalConfigurationsIfAbsent_eq]

theorem createDuplicates_provided {α : Type} {threads : α → Int32} {duplicate : α → Int32 → Option α}
    {settle : α → Option α} {list out : List α} {pubSub : α → PubSubConfig} {fill : α → α}
    {globalSetting : Option String} {setting : PubSubConfig → Option String}
    (hcopy : ∀ c t copy, duplicate c t = some copy → setting (pubSub copy) = setting (pubSub c))
    (hsettle : ∀ c settled, settle c = some settled → setting (pubSub settled) = setting (pubSub c))
    (hpubSub : ∀ c, pubSub (fill c) = (pubSub c).addGlobalConfigurationsIfAbsent tc)
    (hfill : ∀ c : PubSubConfig, setting (c.addGlobalConfigurationsIfAbsent tc) =
      orGlobal isBlank (setting c) globalSetting)
    (h : createDuplicates threads duplicate settle (list.map fill).length (list.map fill) = some out) :
    Provided globalSetting setting (list.map pubSub) (out.map pubSub) := by
  have hkept := createDuplicates_forall (fun i ↦ setting (pubSub i)) hcopy hsettle h (·.isSome = true)
  have hfilled := provided_fill hfill (list.map pubSub)
  rw [Provided, List.forall_mem_map, List.forall_mem_map] at hfilled
  rw [Provided, List.forall_mem_map, hkept, ← hfilled, List.forall_mem_map]
  simp only [hpubSub]

theorem publishers_provided {list out : List PublisherConfig} {globalSetting : Option String}
    {setting : PubSubConfig → Option String}
    (h : createDuplicatePublishersIfNeeded uuid
      (list.map (·.addGlobalConfigurationsIfAbsent tc)) = some out)
    (hnumbered : ∀ (c : PublisherConfig) t,
      setting (numberedPublisher c t).toPubSubConfig = setting c.toPubSubConfig)
    (hinstance : ∀ c : PublisherConfig,
      setting (Expansion.publisherInstance "1" c).toPubSubConfig = setting c.toPubSubConfig)
    (hfill : ∀ c : PubSubConfig, setting (c.addGlobalConfigurationsIfAbsent tc) =
      orGlobal isBlank (setting c) globalSetting) :
    Provided globalSetting setting (list.map (·.toPubSubConfig)) (out.map (·.toPubSubConfig)) :=
  createDuplicates_provided
    (fun c t copy hcopy ↦ by rw [duplicatePublisher_numbered hcopy, hnumbered])
    (fun c settled hsettle ↦ by rw [settlePublisher_instance hsettle, hinstance])
    (PublisherConfig.addGlobalConfigurations_pubSub tc) hfill h

theorem subscribers_provided {list out : List SubscriberConfig} {globalSetting : Option String}
    {setting : PubSubConfig → Option String}
    (h : createDuplicateSubscribersIfNeeded uuid
      (list.map (·.addGlobalConfigurationsIfAbsent tc)) = some out)
    (hnumbered : ∀ (c : SubscriberConfig) t,
      setting (numberedSubscriber c t).toPubSubConfig = setting c.toPubSubConfig)
    (hinstance : ∀ c : SubscriberConfig,
      setting (Expansion.subscriberInstance "1" c).toPubSubConfig = setting c.toPubSubConfig)
    (hfill : ∀ c : PubSubConfig, setting (c.addGlobalConfigurationsIfAbsent tc) =
      orGlobal isBlank (setting c) globalSetting) :
    Provided globalSetting setting (list.map (·.toPubSubConfig)) (out.map (·.toPubSubConfig)) :=
  createDuplicates_provided
    (fun c t copy hcopy ↦ by rw [duplicateSubscriber_numbered hcopy, hnumbered])
    (fun c settled hsettle ↦ by rw [settleSubscriber_instance hsettle, hinstance])
    (SubscriberConfig.addGlobalConfigurations_pubSub tc) hfill h

theorem publishers_settled {list out : List PublisherConfig}
    (h : createDuplicatePublishersIfNeeded uuid
      (list.map (·.addGlobalConfigurationsIfAbsent tc)) = some out) :
    Settled tc (list.map (·.toPubSubConfig)) (out.map (·.toPubSubConfig)) where
  named := by
    rw [List.forall_mem_map]
    have hcopy : ∀ c t copy, duplicatePublisher uuid c t = some copy → copy.queueName.isSome = true := by
      intro c t copy hcopy
      obtain ⟨q, -, ⟨⟩⟩ := Option.bind_eq_some_iff.mp hcopy
      rfl
    have hsettle : ∀ c settled, settlePublisher c = some settled → settled.queueName.isSome = true := by
      intro c settled hsettle
      obtain ⟨q, -, ⟨⟩⟩ := Option.bind_eq_some_iff.mp hsettle
      rfl
    exact createDuplicates_all (fun i ↦ i.queueName.isSome) hcopy hsettle h
  factory := publishers_provided h (fun _ _ ↦ rfl) (fun _ ↦ rfl) (addGlobal_factory tc)
  factoryName := publishers_provided h (fun _ _ ↦ rfl) (fun _ ↦ rfl) (addGlobal_factoryName tc)

theorem subscribers_settled {list out : List SubscriberConfig}
    (h : createDuplicateSubscribersIfNeeded uuid
      (list.map (·.addGlobalConfigurationsIfAbsent tc)) = some out) :
    Settled tc (list.map (·.toPubSubConfig)) (out.map (·.toPubSubConfig)) where
  named := by
    rw [List.forall_mem_map]
    have hcopy : ∀ c t copy, duplicateSubscriber uuid c t = some copy →
        copy.queueName.isSome = true := by
      intro c t copy hcopy
      obtain ⟨q, -, ⟨⟩⟩ := Option.bind_eq_some_iff.mp hcopy
      rfl
    have hsettle : ∀ c settled, settleSubscriber c = some settled →
        settled.queueName.isSome = true := by
      intro c settled hsettle
      have hsome := settleSubscriber_isSome c
      rw [hsettle] at hsome
      rw [settleSubscriber_instance hsettle, subscriberInstance, Option.isSome_map, ← hsome]
      rfl
    exact createDuplicates_all (fun i ↦ i.queueName.isSome) hcopy hsettle h
  factory := subscribers_provided h (fun _ _ ↦ rfl) (fun _ ↦ rfl) (addGlobal_factory tc)
  factoryName := subscribers_provided h (fun _ _ ↦ rfl) (fun _ ↦ rfl) (addGlobal_factoryName tc)

theorem Provided.append {globalSetting : Option String} {setting : PubSubConfig → Option String}
    {list list' out out' : List PubSubConfig} (h : Provided globalSetting setting list out)
    (h' : Provided globalSetting setting list' out') :
    Provided globalSetting setting (list ++ list') (out ++ out') := by
  rw [Provided] at h h' ⊢
  rw [List.forall_mem_append, List.forall_mem_append, h, h', or_and_left]

theorem Settled.append {list list' out out' : List PubSubConfig} (h : Settled tc list out)
    (h' : Settled tc list' out') : Settled tc (list ++ list') (out ++ out') where
  named := List.forall_mem_append.mpr ⟨h.named, h'.named⟩
  factory := h.factory.append h'.factory
  factoryName := h.factoryName.append h'.factoryName

/-- The five lists are read one after the other, and none of them changes what another is read with. -/
theorem preProcess_eq (uuid : Int32 → String) (tc : TestConfiguration) : preProcess uuid tc = (do
    let topicPublishers ← createDuplicatePublishersIfNeeded uuid
      (tc.topicPublishers.map (·.addGlobalConfigurationsIfAbsent tc))
    let queuePublishers ← createDuplicatePublishersIfNeeded uuid
      (tc.queuePublishers.map (·.addGlobalConfigurationsIfAbsent tc))
    let topicSubscribers ← createDuplicateSubscribersIfNeeded uuid
      (tc.topicSubscribers.map (·.addGlobalConfigurationsIfAbsent tc))
    let queueSubscribers ← createDuplicateSubscribersIfNeeded uuid
      (tc.queueSubscribers.map (·.addGlobalConfigurationsIfAbsent tc))
    let durableTopicSubscribers ← createDuplicateSubscribersIfNeeded uuid
      (tc.durableTopicSubscribers.map (·.addGlobalConfigurationsIfAbsent tc))
    pure { tc with
      topicPublishers := topicPublishers
      queuePublishers := queuePublishers
      topicSubscribers := topicSubscribers
      queueSubscribers := queueSubscribers
      durableTopicSubscribers := durableTopicSubscribers }) := by
  simp only [preProcess, preProcessTopicPublishers, preProcessQueuePublishers,
    preProcessTopicSubscribers, preProcessQueueSubscribers, preProcessDurableTopicSubscribers,
    bind_assoc, pure_bind]
  rfl

theorem preProcess_settled (h : preProcess uuid tc = some tc') : Settled tc (configs tc) (configs tc') := by
  rw [preProcess_eq] at h
  obtain ⟨tp, hp, h⟩ := Option.bind_eq_some_iff.mp h
  obtain ⟨qp, hq, h⟩ := Option.bind_eq_some_iff.mp h
  obtain ⟨ts, hs, h⟩ := Option.bind_eq_some_iff.mp h
  obtain ⟨qs, hr, h⟩ := Option.bind_eq_some_iff.mp h
  obtain ⟨ds, hd, ⟨⟩⟩ := Option.bind_eq_some_iff.mp h
  rw [configs_eq, configs_eq]
  exact ((((subscribers_settled hs).append (subscribers_settled hr)).append
    (subscribers_settled hd)).append (publishers_settled hp)).append (publishers_settled hq)

theorem isSome_bind_of {α β : Type} {x : Option α} {f : α → Option β} {P : Prop}
    (h : ∀ a, (f a).isSome = true ↔ P) : (x >>= f).isSome = true ↔ x.isSome = true ∧ P := by
  cases x with
  | none => simp
  | some a => simpa using h a

theorem preProcess_isSome_iff (uuid : Int32 → String) (tc : TestConfiguration) :
    (preProcess uuid tc).isSome = true ↔ ∀ c ∈ configs tc, c.queueName.isSome = true := by
  rw [preProcess_eq]
  rw [isSome_bind_of fun _ ↦ isSome_bind_of fun _ ↦ isSome_bind_of fun _ ↦ isSome_bind_of fun _ ↦
    isSome_bind_of fun _ ↦ iff_of_true rfl trivial]
  rw [fillPublishers_isSome_iff, fillPublishers_isSome_iff, fillSubscribers_isSome_iff,
    fillSubscribers_isSome_iff, fillSubscribers_isSome_iff, configs_eq]
  simp only [List.forall_mem_append, List.forall_mem_map]
  tauto

end ConfigReader

namespace Setup

variable {environment : Environment} {message : String} {kind : Option String} {conf : PubSubConfig}
  {done last made : List SetupCall} {c : SetupCall} {t : SetupThrown}

theorem publisherSession_ne_lookup (conf : PublisherConfig) (name : Option String) :
    .lookup name ≠ publisherSession conf := by
  unfold publisherSession
  split_ifs <;> exact SetupCall.noConfusion

theorem subscriberSession_ne_lookup (conf : SubscriberConfig) (name : Option String) :
    .lookup name ≠ subscriberSession conf := by
  unfold subscriberSession
  split_ifs <;> exact SetupCall.noConfusion

theorem raised_ne_null (hc : c ≠ .lookup none) (h : raised environment done c = some t) :
    caught message conf t ≠ .thrown .nullPointerException := by
  rw [raised, if_neg hc] at h
  cases hanswer : environment done c with
  | returns => simp [hanswer] at h
  | raises =>
    simp only [hanswer, Option.some.injEq] at h
    rw [← h]
    cases c <;> simp [SetupCall.exception, caught]
  | raisesUnchecked =>
    simp only [hanswer, Option.some.injEq] at h
    rw [← h]
    simp [caught]

theorem raised_returns (h : raised (fun _ _ ↦ .returns) done c = some t) :
    t = .thrown .nullPointerException := by
  by_cases hc : c = .lookup none
  · rw [hc, raised_lookup_none] at h
    cases h
    rfl
  · rw [raised_of_present hc rfl] at h
    cases h

theorem Fails.ne_null (h : Fails environment message kind last conf t made)
    (hpresent : ¬ Missing conf kind)
    (hlookup : .lookup none ∉ plan conf (contextProperties conf kind) last) :
    t ≠ .thrown .nullPointerException := by
  cases h with
  | missing hmissing => exact absurd hmissing hpresent
  | stopped _ hstops =>
    obtain ⟨c, hc, hraised⟩ := hstops.raises
    exact raised_ne_null (fun hnull ↦ hlookup (hnull ▸ List.mem_of_getElem? hc)) hraised

theorem Fails.eq_null (h : Fails (fun _ _ ↦ .returns) message kind last conf t made) :
    t = .thrown .nullPointerException := by
  cases h with
  | missing => rfl
  | stopped _ hstops =>
    obtain ⟨c, -, hraised⟩ := hstops.raises
    rw [raised_returns hraised]
    rfl

end Setup

namespace JmsEndpoint

variable {environment : Environment} {e : JmsEndpoint} {s : Setup}

theorem setUp_ne_null (hpresent : ¬ Setup.Missing e.endpointConfig.config e.destinationKind)
    (hlookup : .lookup none ∉ e.calls) :
    exec (e.setUp environment) {} ≠ some (.error (.thrown .nullPointerException), s) := by
  rw [setUp_eq]
  rcases Setup.connect_outcome environment e.message e.destinationKind e.lastCalls
    e.endpointConfig.config with ⟨-, s', hrun, -⟩ | ⟨-, t, s', hrun, hfails⟩
  · rw [hrun]
    intro h
    cases h
  · rw [hrun]
    intro h
    simp only [Option.some.injEq, Prod.mk.injEq, Except.error.injEq] at h
    exact hfails.ne_null hpresent hlookup h.1

theorem setUp_null (h : Setup.Missing e.endpointConfig.config e.destinationKind ∨
    .lookup none ∈ e.calls) :
    ∃ s, exec (e.setUp fun _ _ ↦ .returns) {} = some (.error (.thrown .nullPointerException), s) := by
  rw [setUp_eq]
  rcases Setup.connect_outcome (fun _ _ ↦ .returns) e.message e.destinationKind e.lastCalls
    e.endpointConfig.config with ⟨hconnects, -⟩ | ⟨-, t, s, hrun, hfails⟩
  · obtain ⟨k, hk⟩ := List.getElem?_of_mem (h.resolve_left hconnects.present)
    have hreturns := hconnects.returns k _ hk
    rw [Setup.raised_lookup_none] at hreturns
    cases hreturns
  · rw [hfails.eq_null] at hrun
    exact ⟨s, hrun⟩

/-- Once its queue has a name, an endpoint comes to a null over the context factory or over the name
of the connection factory. -/
theorem null_iff (hname : e.endpointConfig.config.queueName.isSome = true) :
    Setup.Missing e.endpointConfig.config e.destinationKind ∨ .lookup none ∈ e.calls ↔
      ¬ (e.endpointConfig.config.initialContextFactory.isSome = true ∧
        e.endpointConfig.config.connectionFactoryName.isSome = true) := by
  obtain ⟨q, hq⟩ := Option.isSome_iff_exists.mp hname
  have hmissing : Setup.Missing e.endpointConfig.config e.destinationKind ↔
      e.endpointConfig.config.initialContextFactory = none := by
    simp [Setup.Missing, hq]
  have hlast : .lookup none ∉ e.lastCalls := by
    rcases e with ⟨kind, conf⟩ | ⟨kind, conf⟩
    · have hqueue : conf.queueName = some q := hq
      cases kind <;> simp [lastCalls, hqueue, Setup.subscriberSession_ne_lookup]
    · have hqueue : conf.queueName = some q := hq
      cases kind <;> simp [lastCalls, hqueue, Setup.publisherSession_ne_lookup]
  have hlookup : .lookup none ∈ e.calls ↔ e.endpointConfig.config.connectionFactoryName = none := by
    rw [calls, Setup.plan, List.mem_append, or_iff_left hlast]
    simp [eq_comm]
  rw [hmissing, hlookup, not_and_or, Option.not_isSome_iff_eq_none, Option.not_isSome_iff_eq_none]

end JmsEndpoint

namespace ConfigReader

variable {uuid : Int32 → String} {tc tc' : TestConfiguration}

/-- A configuration is read exactly when each entry has a queue name. Of one that has been read, no
set-up ever comes to a null, whatever JNDI and JMS answer, exactly when for the context factory and
for the name of the connection factory there is a global value or each entry has its own. -/
theorem null_settings_iff (uuid : Int32 → String) (tc : TestConfiguration) :
    ((preProcess uuid tc).isSome = true ↔ ∀ c ∈ configs tc, c.queueName.isSome = true) ∧
    ∀ tc', preProcess uuid tc = some tc' →
      ((∀ e ∈ Main.jmsEndpoints tc', ∀ (environment : Environment) s,
          exec (e.setUp environment) {} ≠ some (.error (.thrown .nullPointerException), s)) ↔
        (tc.initialContextFactory.isSome = true ∨
          ∀ c ∈ configs tc, isBlank c.initialContextFactory = false) ∧
        (tc.connectionFactoryName.isSome = true ∨
          ∀ c ∈ configs tc, isBlank c.connectionFactoryName = false)) := by
  refine ⟨preProcess_isSome_iff uuid tc, fun tc' h ↦ ?_⟩
  have hsettled := preProcess_settled h
  have hfactory : (∀ i ∈ configs tc', i.initialContextFactory.isSome = true) ↔ _ := hsettled.factory
  have hfactoryName : (∀ i ∈ configs tc', i.connectionFactoryName.isSome = true) ↔ _ :=
    hsettled.factoryName
  rw [← hfactory, ← hfactoryName]
  have hmem : ∀ e ∈ Main.jmsEndpoints tc', e.endpointConfig.config ∈ configs tc' :=
    fun e he ↦ List.mem_map_of_mem (Main.mem_endpoints he)
  constructor
  · intro hnever
    have hboth : ∀ i ∈ configs tc', i.initialContextFactory.isSome = true ∧
        i.connectionFactoryName.isSome = true := by
      intro i hi
      rw [configs, ← Main.jmsEndpoints_configs, List.map_map] at hi
      obtain ⟨e, he, rfl⟩ := List.mem_map.mp hi
      by_contra hnull
      obtain ⟨s, hs⟩ := e.setUp_null ((e.null_iff (hsettled.named _ (hmem e he))).mpr hnull)
      exact hnever e he _ s hs
    exact ⟨fun i hi ↦ (hboth i hi).1, fun i hi ↦ (hboth i hi).2⟩
  · rintro ⟨hfactories, hnames⟩ e he environment s
    have hnull : ¬ (Setup.Missing e.endpointConfig.config e.destinationKind ∨ .lookup none ∈ e.calls) := by
      rw [e.null_iff (hsettled.named _ (hmem e he)), not_not]
      exact ⟨hfactories _ (hmem e he), hnames _ (hmem e he)⟩
    obtain ⟨hpresent, hlookup⟩ := not_or.mp hnull
    exact e.setUp_ne_null hpresent hlookup

end ConfigReader

end AndesTestClient
