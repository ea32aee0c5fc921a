import AndesTestClient.ConfigReader

namespace AndesTestClient

namespace Expansion

variable {α : Type}

/-- The reference: entries in their order, settled as instance 1, then for the entries from the
last to the first the copies `2, …, parallelThreads` of the template. -/
def reference (threads : α → Int32) (instanceOf copyOf : String → α → α) (list : List α) :
    List α :=
  list.map (instanceOf "1") ++
    list.reverse.flatMap fun c ↦
      (List.range' 2 ((threads c).toInt.toNat - 1)).map fun t ↦ copyOf (toString t) c

structure Expandable (c : PubSubConfig) : Prop where
  id_ne_null : c.id ≠ none
  queueName_ne_null : c.queueName ≠ none
  threads_ne_min : c.parallelThreads ≠ Int32.minValue

theorem copyNumbers_toInt {threads : Int32} (h : threads ≠ Int32.minValue) :
    (ConfigReader.copyNumbers threads).map Int32.toInt =
      (List.range' 2 (threads.toInt.toNat - 1)).map Nat.cast := by
  have hlow := threads.le_toInt
  have hhigh := threads.toInt_lt
  have hne : threads.toInt ≠ -2 ^ 31 := fun he ↦ h (Int32.toInt.inj (by rw [he]; decide))
  have hcount : (threads - 1).toInt = threads.toInt - 1 := by
    rw [Int32.toInt_sub, Int.bmod_eq_of_le] <;> simp <;> omega
  have hn : (threads.toInt - 1).toNat = threads.toInt.toNat - 1 := by omega
  rw [ConfigReader.copyNumbers, hcount, hn, List.range'_eq_map_range, List.map_map, List.map_map]
  apply List.map_congr_left
  intro j hj
  rw [List.mem_range] at hj
  have hj' : (Int32.ofNat j).toInt = j := Imperative.toInt_ofNat (by omega)
  rw [Function.comp_apply, Function.comp_apply, Int32.toInt_add, hj', Int.bmod_eq_of_le]
  · simp [Int.add_comm]
  · simp; omega
  · simp; omega

theorem reference_length {threads : α → Int32} (instanceOf copyOf : String → α → α)
    (list : List α) :
    ((reference threads instanceOf copyOf list).length : ℤ) =
      (list.map fun c ↦ max 1 (threads c).toInt).sum := by
  have hone : ∀ c : α, (1 + (((threads c).toInt.toNat - 1 : ℕ) : ℤ)) = max 1 (threads c).toInt := by
    intro c
    omega
  have hsum : ∀ l : List α, (l.length : ℤ) +
      ((l.flatMap fun c ↦ (List.range' 2 ((threads c).toInt.toNat - 1)).map
        fun t ↦ copyOf (toString t) c).length : ℤ) = (l.map fun c ↦ max 1 (threads c).toInt).sum := by
    intro l
    induction l with
    | nil => rfl
    | cons c l ih =>
      rw [List.map_cons, List.sum_cons, ← ih, ← hone c]
      simp
      omega
  have hrev := hsum list.reverse
  rw [List.length_reverse, List.map_reverse, List.sum_reverse] at hrev
  rw [reference, List.length_append, List.length_map, Int.natCast_add]
  exact hrev

theorem copies_eq {threads : α → Int32} {c : α} (h : threads c ≠ Int32.minValue)
    (copyOf : String → α → α) :
    (ConfigReader.copyNumbers (threads c)).map (fun t ↦ copyOf (integerToString t) c) =
      (List.range' 2 ((threads c).toInt.toNat - 1)).map fun t ↦ copyOf (toString t) c := by
  have hmap := congrArg (List.map fun n : ℤ ↦ copyOf (toString n) c) (copyNumbers_toInt h)
  rw [List.map_map, List.map_map] at hmap
  exact hmap

theorem createDuplicates_eq {threads : α → Int32} {duplicate : α → Int32 → Option α}
    {settle : α → Option α} {instanceOf copyOf : String → α → α} {list : List α}
    (hthreads : ∀ c ∈ list, threads c ≠ Int32.minValue)
    (hcopy : ∀ c ∈ list, ∀ t, duplicate c t = some (copyOf (integerToString t) c))
    (hsettle : ∀ c ∈ list, settle c = some (instanceOf "1" c)) :
    ConfigReader.createDuplicates threads duplicate settle list.length list =
      some (reference threads instanceOf copyOf list) := by
  have hwalk := ConfigReader.createDuplicates_walk threads
    (fun c t ↦ copyOf (integerToString t) c) list [] hcopy hsettle
  rw [List.append_nil, List.append_nil] at hwalk
  rw [hwalk, reference]
  congr 2
  apply List.flatMap_congr
  intro c hc
  exact copies_eq (hthreads c (List.mem_reverse.mp hc)) copyOf

def publisherInstance (number : String) (c : PublisherConfig) : PublisherConfig :=
  { c with queueName := c.queueName.map (replaceMarker · number) }

def publisherCopy (number : String) (c : PublisherConfig) : PublisherConfig :=
  { publisherInstance number c with id := c.id.map (· ++ "__" ++ number) }

def subscriberInstance (number : String) (c : SubscriberConfig) : SubscriberConfig :=
  { c with
    queueName := c.queueName.map (replaceMarker · number)
    subscriptionID :=
      if isBlank c.subscriptionID then c.subscriptionID
      else c.subscriptionID.map (replaceMarker · number) }

def subscriberCopy (number : String) (c : SubscriberConfig) : SubscriberConfig :=
  { subscriberInstance number c with id := c.id.map (· ++ "__" ++ number) }

theorem duplicatePublisher_eq {c : PublisherConfig} (hid : c.id ≠ none) (hq : c.queueName ≠ none)
    (uuid : Int32 → String) (t : Int32) :
    ConfigReader.duplicatePublisher uuid c t = some (publisherCopy (integerToString t) c) := by
  obtain ⟨i, hi⟩ := Option.ne_none_iff_exists'.mp hid
  obtain ⟨q, hq⟩ := Option.ne_none_iff_exists'.mp hq
  simp [ConfigReader.duplicatePublisher, publisherCopy, publisherInstance, hi, hq, concatenated]

theorem settlePublisher_eq {c : PublisherConfig} (hq : c.queueName ≠ none) :
    ConfigReader.settlePublisher c = some (publisherInstance "1" c) := by
  obtain ⟨q, hq⟩ := Option.ne_none_iff_exists'.mp hq
  simp [ConfigReader.settlePublisher, publisherInstance, hq]

theorem duplicateSubscriber_eq {c : SubscriberConfig} (hid : c.id ≠ none)
    (hq : c.queueName ≠ none) (uuid : Int32 → String) (t : Int32) :
    ConfigReader.duplicateSubscriber uuid c t = some (subscriberCopy (integerToString t) c) := by
  obtain ⟨i, hi⟩ := Option.ne_none_iff_exists'.mp hid
  obtain ⟨q, hq⟩ := Option.ne_none_iff_exists'.mp hq
  cases hb : isBlank c.subscriptionID <;>
    simp [ConfigReader.duplicateSubscriber, subscriberCopy, subscriberInstance, hi, hq, hb,
      concatenated]

theorem settleSubscriber_eq {c : SubscriberConfig} (hq : c.queueName ≠ none) :
    ConfigReader.settleSubscriber c = some (subscriberInstance "1" c) := by
  obtain ⟨q, hq⟩ := Option.ne_none_iff_exists'.mp hq
  cases hb : isBlank c.subscriptionID <;>
    simp [ConfigReader.settleSubscriber, subscriberInstance, hq, hb]

def publishers (list : List PublisherConfig) : List PublisherConfig :=
  reference (·.parallelThreads) publisherInstance publisherCopy list

def subscribers (list : List SubscriberConfig) : List SubscriberConfig :=
  reference (·.parallelThreads) subscriberInstance subscriberCopy list

theorem createDuplicatePublishers_eq {list : List PublisherConfig}
    (h : ∀ c ∈ list, Expandable c.toPubSubConfig) (uuid : Int32 → String) :
    ConfigReader.createDuplicatePublishersIfNeeded uuid list = some (publishers list) :=
  createDuplicates_eq (fun c hc ↦ (h c hc).threads_ne_min)
    (fun c hc t ↦ duplicatePublisher_eq (h c hc).id_ne_null (h c hc).queueName_ne_null uuid t)
    (fun c hc ↦ settlePublisher_eq (h c hc).queueName_ne_null)

theorem createDuplicateSubscribers_eq {list : List SubscriberConfig}
    (h : ∀ c ∈ list, Expandable c.toPubSubConfig) (uuid : Int32 → String) :
    ConfigReader.createDuplicateSubscribersIfNeeded uuid list = some (subscribers list) :=
  createDuplicates_eq (fun c hc ↦ (h c hc).threads_ne_min)
    (fun c hc t ↦ duplicateSubscriber_eq (h c hc).id_ne_null (h c hc).queueName_ne_null uuid t)
    (fun c hc ↦ settleSubscriber_eq (h c hc).queueName_ne_null)

theorem reference_map {β : Type} {threads : α → Int32} {instanceOf copyOf : String → α → α}
    {threads' : β → Int32} {instanceOf' copyOf' : String → β → β} (f : α → β)
    (ht : ∀ c, threads' (f c) = threads c)
    (hi : ∀ n c, f (instanceOf n c) = instanceOf' n (f c))
    (hc : ∀ n c, f (copyOf n c) = copyOf' n (f c)) (list : List α) :
    (reference threads instanceOf copyOf list).map f =
      reference threads' instanceOf' copyOf' (list.map f) := by
  simp only [reference, List.map_append, List.map_map, List.map_flatMap, ← List.map_reverse,
    List.flatMap_map, ht]
  congr 1
  · exact List.map_congr_left fun c _ ↦ hi "1" c
  · apply List.flatMap_congr
    intro c _
    exact List.map_congr_left fun t _ ↦ hc (toString t) c

def pubSubInstance (number : String) (c : PubSubConfig) : PubSubConfig :=
  { c with queueName := c.queueName.map (replaceMarker · number) }

def pubSubCopy (number : String) (c : PubSubConfig) : PubSubConfig :=
  { pubSubInstance number c with id := c.id.map (· ++ "__" ++ number) }

theorem publishers_pubSub (list : List PublisherConfig) :
    (publishers list).map (·.toPubSubConfig) =
      reference (·.parallelThreads) pubSubInstance pubSubCopy (list.map (·.toPubSubConfig)) :=
  reference_map PublisherConfig.toPubSubConfig (fun _ ↦ rfl) (fun _ _ ↦ rfl) (fun _ _ ↦ rfl) list

theorem subscribers_pubSub (list : List SubscriberConfig) :
    (subscribers list).map (·.toPubSubConfig) =
      reference (·.parallelThreads) pubSubInstance pubSubCopy (list.map (·.toPubSubConfig)) :=
  reference_map SubscriberConfig.toPubSubConfig (fun _ ↦ rfl) (fun _ _ ↦ rfl) (fun _ _ ↦ rfl) list

/-- Both walks over the growing list end with the reference expansion, whose length is the sum
of the thread counts, and treat the fields they have in common alike. -/
theorem createDuplicates_expand (uuid : Int32 → String) (pubs : List PublisherConfig)
    (subs : List SubscriberConfig) (hpubs : ∀ c ∈ pubs, Expandable c.toPubSubConfig)
    (hsubs : ∀ c ∈ subs, Expandable c.toPubSubConfig) :
    ConfigReader.createDuplicatePublishersIfNeeded uuid pubs = some (publishers pubs) ∧
    ConfigReader.createDuplicateSubscribersIfNeeded uuid subs = some (subscribers subs) ∧
    ((publishers pubs).length : ℤ) = (pubs.map fun c ↦ max 1 c.parallelThreads.toInt).sum ∧
    ((subscribers subs).length : ℤ) = (subs.map fun c ↦ max 1 c.parallelThreads.toInt).sum ∧
    (pubs.map (·.toPubSubConfig) = subs.map (·.toPubSubConfig) →
      (publishers pubs).map (·.toPubSubConfig) = (subscribers subs).map (·.toPubSubConfig)) := by
  refine ⟨createDuplicatePublishers_eq hpubs uuid, createDuplicateSubscribers_eq hsubs uuid,
    reference_length _ _ _, reference_length _ _ _, fun h ↦ ?_⟩
  rw [publishers_pubSub, subscribers_pubSub, h]

theorem createDuplicates_expand_games :
    ConfigReader.createDuplicatePublishersIfNeeded (fun _ ↦ "")
        [{ id := some "p", queueName := some "games_%d", parallelThreads := 2 }] =
      some [{ id := some "p", queueName := some "games_1", parallelThreads := 2 },
        { id := some "p__2", queueName := some "games_2", parallelThreads := 2 }] := by
  have hp : ∀ c ∈ [({ id := some "p", queueName := some "games_%d", parallelThreads := 2 } :
      PublisherConfig)], Expandable c.toPubSubConfig := by
    intro c hc
    rw [List.mem_singleton.mp hc]
    exact ⟨by decide, by decide, by decide⟩
  rw [(createDuplicates_expand (fun _ ↦ "") _ [] hp (by simp)).1]
  decide

end Expansion

end AndesTestClient
