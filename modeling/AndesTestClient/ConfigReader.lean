import AndesTestClient.Config
import Mathlib.Algebra.BigOperators.Group.List.Basic
import Mathlib.Data.List.Induction

namespace AndesTestClient

namespace ConfigReader

variable {α : Type}

/-- `for (int j = 0; j < copyCount; j++)`: pass `j` appends the copy numbered `j + 2`. A null
dereference makes the whole call `none`. -/
def appendCopies (duplicate : α → Int32 → Option α) (sc : α) (copyCount : Int32)
    (list : List α) : Option (List α) :=
  (List.range copyCount.toInt.toNat).foldlM (fun list j ↦ do
    let copy ← duplicate sc (Int32.ofNat j + 2)
    pure (list ++ [copy])) list

/-- The walk from entry `i - 1` down to entry `0` over a list that grows at its end. The entries
are distinct objects, so assigning to a field of one is `List.set`. -/
def createDuplicates (parallelThreads : α → Int32) (duplicate : α → Int32 → Option α)
    (settle : α → Option α) : ℕ → List α → Option (List α)
  | 0, list => some list
  | i + 1, list => do
    let sc ← list[i]?
    let list ← appendCopies duplicate sc (parallelThreads sc - 1) list
    let sc ← settle sc
    createDuplicates parallelThreads duplicate settle i (list.set i sc)

def duplicateSubscriber (uuid : Int32 → String) (sc : SubscriberConfig) (number : Int32) :
    Option SubscriberConfig := do
  let copy := sc.copy (uuid number)
  let copy := { copy with id := some (concatenated sc.id ++ "__" ++ integerToString number) }
  let copy := if !isBlank sc.subscriptionID then
      { copy with
        subscriptionID := sc.subscriptionID.map (replaceMarker · (integerToString number)) }
    else copy
  let queueName ← sc.queueName
  pure { copy with queueName := some (replaceMarker queueName (integerToString number)) }

def settleSubscriber (sc : SubscriberConfig) : Option SubscriberConfig := do
  let sc := if !isBlank sc.subscriptionID then
      { sc with subscriptionID := sc.subscriptionID.map (replaceMarker · "1") }
    else sc
  let queueName ← sc.queueName
  pure { sc with queueName := some (replaceMarker queueName "1") }

def createDuplicateSubscribersIfNeeded (uuid : Int32 → String)
    (subscriberConfigList : List SubscriberConfig) : Option (List SubscriberConfig) :=
  createDuplicates (·.parallelThreads) (duplicateSubscriber uuid) settleSubscriber
    subscriberConfigList.length subscriberConfigList

def duplicatePublisher (uuid : Int32 → String) (sc : PublisherConfig) (number : Int32) :
    Option PublisherConfig := do
  let copy := sc.copy (uuid number)
  let copy := { copy with id := some (concatenated sc.id ++ "__" ++ integerToString number) }
  let queueName ← sc.queueName
  pure { copy with queueName := some (replaceMarker queueName (integerToString number)) }

def settlePublisher (sc : PublisherConfig) : Option PublisherConfig := do
  let queueName ← sc.queueName
  pure { sc with queueName := some (replaceMarker queueName "1") }

def createDuplicatePublishersIfNeeded (uuid : Int32 → String)
    (publisherList : List PublisherConfig) : Option (List PublisherConfig) :=
  createDuplicates (·.parallelThreads) (duplicatePublisher uuid) settlePublisher
    publisherList.length publisherList

def preProcessTopicPublishers (uuid : Int32 → String) (tc : TestConfiguration) :
    Option TestConfiguration := do
  let list ← createDuplicatePublishersIfNeeded uuid
    (tc.topicPublishers.map (·.addGlobalConfigurationsIfAbsent tc))
  pure { tc with topicPublishers := list }

def preProcessQueuePublishers (uuid : Int32 → String) (tc : TestConfiguration) :
    Option TestConfiguration := do
  let list ← createDuplicatePublishersIfNeeded uuid
    (tc.queuePublishers.map (·.addGlobalConfigurationsIfAbsent tc))
  pure { tc with queuePublishers := list }

def preProcessTopicSubscribers (uuid : Int32 → String) (tc : TestConfiguration) :
    Option TestConfiguration := do
  let list ← createDuplicateSubscribersIfNeeded uuid
    (tc.topicSubscribers.map (·.addGlobalConfigurationsIfAbsent tc))
  pure { tc with topicSubscribers := list }

def preProcessQueueSubscribers (uuid : Int32 → String) (tc : TestConfiguration) :
    Option TestConfiguration := do
  let list ← createDuplicateSubscribersIfNeeded uuid
    (tc.queueSubscribers.map (·.addGlobalConfigurationsIfAbsent tc))
  pure { tc with queueSubscribers := list }

def preProcessDurableTopicSubscribers (uuid : Int32 → String) (tc : TestConfiguration) :
    Option TestConfiguration := do
  let list ← createDuplicateSubscribersIfNeeded uuid
    (tc.durableTopicSubscribers.map (·.addGlobalConfigurationsIfAbsent tc))
  pure { tc with durableTopicSubscribers := list }

def preProcess (uuid : Int32 → String) (tc : TestConfiguration) : Option TestConfiguration := do
  let tc ← preProcessTopicPublishers uuid tc
  let tc ← preProcessQueuePublishers uuid tc
  let tc ← preProcessTopicSubscribers uuid tc
  let tc ← preProcessQueueSubscribers uuid tc
  preProcessDurableTopicSubscribers uuid tc

def copyNumbers (parallelThreads : Int32) : List Int32 :=
  (List.range (parallelThreads - 1).toInt.toNat).map fun j ↦ Int32.ofNat j + 2

theorem appendCopies_eq {duplicate : α → Int32 → Option α} {copyOf : Int32 → α} {sc : α}
    (h : ∀ t, duplicate sc t = some (copyOf t)) (threads : Int32) (list : List α) :
    appendCopies duplicate sc (threads - 1) list =
      some (list ++ (copyNumbers threads).map copyOf) := by
  have hfold : ∀ n, (List.range n).foldlM (fun list j ↦ do
      let copy ← duplicate sc (Int32.ofNat j + 2)
      pure (list ++ [copy])) list =
        some (list ++ ((List.range n).map fun j ↦ Int32.ofNat j + 2).map copyOf) := by
    intro n
    induction n with
    | zero => simp
    | succ n ih =>
      rw [List.range_succ, List.foldlM_append, ih]
      simp [h, List.append_assoc]
  exact hfold _

/-- Loop invariant of the walk: the entries before `pre.length` are still the templates, and
`tail` holds the settled entries followed by all copies made so far. -/
theorem createDuplicates_walk (parallelThreads : α → Int32) {duplicate : α → Int32 → Option α}
    {settle : α → Option α} (copyOf : α → Int32 → α) {settled : α → α} (pre tail : List α)
    (hcopy : ∀ c ∈ pre, ∀ t, duplicate c t = some (copyOf c t))
    (hsettle : ∀ c ∈ pre, settle c = some (settled c)) :
    createDuplicates parallelThreads duplicate settle pre.length (pre ++ tail) =
      some (pre.map settled ++ tail ++
        pre.reverse.flatMap fun c ↦ (copyNumbers (parallelThreads c)).map (copyOf c)) := by
  induction pre using List.reverseRecOn generalizing tail with
  | nil => simp [createDuplicates]
  | append_singleton pre c ih =>
    have hc : c ∈ pre ++ [c] := by simp
    have hget : (pre ++ [c] ++ tail)[pre.length]? = some c := by simp
    have happend := appendCopies_eq (hcopy c hc) (parallelThreads c) (pre ++ [c] ++ tail)
    have hset : (pre ++ [c] ++ tail ++ (copyNumbers (parallelThreads c)).map (copyOf c)).set
        pre.length (settled c) =
        pre ++ (settled c :: tail ++ (copyNumbers (parallelThreads c)).map (copyOf c)) := by
      simp
    rw [List.length_append, List.length_singleton, createDuplicates, hget]
    simp only [Option.bind_eq_bind, Option.bind_some, happend, hsettle c hc, hset]
    rw [ih _ (fun d hd ↦ hcopy d (by simp [hd])) (fun d hd ↦ hsettle d (by simp [hd]))]
    simp [List.append_assoc]

variable {κ : Type} {threads : α → Int32} {duplicate : α → Int32 → Option α}
  {settle : α → Option α} {copyKey : α → Int32 → κ}

theorem appendCopies_keys {key : α → κ} {sc : α}
    (hcopy : ∀ t copy, duplicate sc t = some copy → key copy = copyKey sc t)
    {list result : List α} (h : appendCopies duplicate sc (threads sc - 1) list = some result) :
    ∃ copies, result = list ++ copies ∧
      copies.map key = (copyNumbers (threads sc)).map (copyKey sc) := by
  have hfold : ∀ n result, (List.range n).foldlM (fun list j ↦ do
      let copy ← duplicate sc (Int32.ofNat j + 2)
      pure (list ++ [copy])) list = some result → ∃ copies, result = list ++ copies ∧
        copies.map key = ((List.range n).map fun j ↦ Int32.ofNat j + 2).map (copyKey sc) := by
    intro n
    induction n with
    | zero =>
      intro result h
      cases h
      exact ⟨[], by simp, rfl⟩
    | succ n ih =>
      intro result h
      rw [List.range_succ, List.foldlM_append] at h
      obtain ⟨before, hbefore, hlast⟩ := Option.bind_eq_some_iff.mp h
      obtain ⟨copies, rfl, hkeys⟩ := ih before hbefore
      rw [List.foldlM_cons] at hlast
      obtain ⟨after, hafter, hnil⟩ := Option.bind_eq_some_iff.mp hlast
      obtain ⟨copy, hdup, happend⟩ := Option.bind_eq_some_iff.mp hafter
      cases happend
      cases hnil
      refine ⟨copies ++ [copy], by rw [List.append_assoc], ?_⟩
      rw [List.range_succ, List.map_append, List.map_append, List.map_append, hkeys]
      simp [hcopy _ _ hdup]
  exact hfold _ _ h

theorem createDuplicates_fields (key settledKey : α → κ)
    (hcopy : ∀ c t copy, duplicate c t = some copy → key copy = copyKey c t)
    (hsettle : ∀ c settled, settle c = some settled → key settled = settledKey c)
    (pre tail : List α) {result : List α}
    (h : createDuplicates threads duplicate settle pre.length (pre ++ tail) = some result) :
    result.map key = pre.map settledKey ++ tail.map key ++
      pre.reverse.flatMap fun c ↦ (copyNumbers (threads c)).map (copyKey c) := by
  induction pre using List.reverseRecOn generalizing tail with
  | nil =>
    cases h
    simp
  | append_singleton pre c ih =>
    rw [List.length_append, List.length_singleton, createDuplicates] at h
    obtain ⟨sc, hget, h⟩ := Option.bind_eq_some_iff.mp h
    obtain ⟨list, happend, h⟩ := Option.bind_eq_some_iff.mp h
    obtain ⟨settled, hsettled, h⟩ := Option.bind_eq_some_iff.mp h
    have hsc : sc = c := by simpa using hget.symm
    subst hsc
    obtain ⟨copies, rfl, hkeys⟩ := appendCopies_keys (hcopy sc) happend
    have hset : (pre ++ [sc] ++ tail ++ copies).set pre.length settled =
        pre ++ (settled :: tail ++ copies) := by
      simp
    rw [hset] at h
    rw [ih _ h]
    simp [hsettle _ _ hsettled, hkeys, List.append_assoc]

end ConfigReader

end AndesTestClient
