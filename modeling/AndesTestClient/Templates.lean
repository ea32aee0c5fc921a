import AndesTestClient.Instances
import AndesTestClient.Library.Decimal
import AndesTestClient.Library.Template

namespace AndesTestClient

open Template

theorem replaceScan_eq (replacement s : List Char) :
    replaceScan replacement s = replacement.intercalate (pieces '%' 'd' s) := by
  fun_induction pieces '%' 'd' s with
  | case1 => rfl
  | case2 c => simp [replaceScan]
  | case3 c c' rest hmark ih =>
    obtain ⟨rfl, rfl⟩ := hmark
    rw [replaceScan, ih, List.intercalate_cons_of_ne_nil (pieces_ne_nil '%' 'd' rest)]
    rfl
  | case4 c c' rest hmark ih =>
    have hscan : replaceScan replacement (c :: c' :: rest) =
        c :: replaceScan replacement (c' :: rest) := by
      rw [replaceScan]
      intro rest' hc hrest
      rw [List.cons.injEq] at hrest
      exact hmark ⟨hc, hrest.1⟩
    obtain ⟨x, xs, hx⟩ := List.exists_cons_of_ne_nil (pieces_ne_nil '%' 'd' (c' :: rest))
    rw [hscan, ih, hx]
    cases xs <;> simp

def HasMarker (s : String) : Prop := ['%', 'd'] <:+: s.toList

instance (s : String) : Decidable (HasMarker s) :=
  inferInstanceAs (Decidable (['%', 'd'] <:+: s.toList))

theorem replaceMarker_inj {s r r' : String} (hs : HasMarker s)
    (h : replaceMarker s r = replaceMarker s r') : r = r' := by
  have hl := congrArg String.toList h
  rw [replaceMarker, replaceMarker, String.toList_ofList, String.toList_ofList, replaceScan_eq,
    replaceScan_eq] at hl
  exact String.toList_inj.mp (intercalate_inj (two_le_pieces '%' 'd' hs) hl)

theorem replaceMarker_eq_self {s : String} (hs : ¬ HasMarker s) (r : String) :
    replaceMarker s r = s := by
  rw [replaceMarker, replaceScan_eq, pieces_eq_singleton '%' 'd' hs, List.intercalate_singleton,
    String.ofList_toList]

def numberedNames (p : ℕ) (s : String) : List String :=
  (List.range' 1 p).map fun n ↦ replaceMarker s (toString n)

theorem numberedNames_nodup {s : String} (hs : HasMarker s) (p : ℕ) :
    (numberedNames p s).Nodup := by
  apply List.Nodup.map
  · intro m n h
    exact Decimal.repr_inj (replaceMarker_inj hs h)
  · exact List.nodup_range'

theorem numberedNames_eq {s n : String} (hs : ¬ HasMarker s) {p : ℕ} (hn : n ∈ numberedNames p s) :
    n = s := by
  obtain ⟨k, -, rfl⟩ := List.mem_map.mp hn
  exact replaceMarker_eq_self hs _

namespace ConfigReader

variable {α : Type}

/-- The names that the instances of an entry get from the template `s` under a field. -/
structure Separates (s : String) (names : List (Option String)) : Prop where
  names_eq : names = (numberedNames names.length s).map some
  distinct : HasMarker s → names.Nodup
  equal : ¬ HasMarker s → ∀ n ∈ names, n = some s

theorem separates_numbered (s : String) (p : ℕ) :
    Separates s ((numberedNames p s).map some) where
  names_eq := by simp [numberedNames]
  distinct hs := (numberedNames_nodup hs p).map (Option.some_injective _)
  equal hs n hn := by
    obtain ⟨name, hname, rfl⟩ := List.mem_map.mp hn
    exact congrArg some (numberedNames_eq hs hname)

theorem copyNumbers_map {p : Int32} (hp : 2 ≤ p.toInt) {β : Type} (f : String → β) :
    f "1" :: (copyNumbers p).map (fun t ↦ f (integerToString t)) =
      (List.range' 1 p.toInt.toNat).map fun n ↦ f (toString n) := by
  have hne : p ≠ Int32.minValue := by
    intro h
    rw [h] at hp
    exact absurd hp (by decide)
  have hcopies := congrArg (List.map fun n : ℤ ↦ f (toString n)) (Expansion.copyNumbers_toInt hne)
  rw [List.map_map, List.map_map] at hcopies
  have hsucc : p.toInt.toNat = p.toInt.toNat - 1 + 1 := by omega
  rw [hsucc, List.range'_succ, List.map_cons]
  congr 1

theorem copyNumbers_length {p : Int32} (hp : 2 ≤ p.toInt) :
    (((copyNumbers p).length + 1 : ℕ) : ℤ) = p.toInt := by
  have hlength := congrArg List.length (copyNumbers_map hp fun number ↦ number)
  simp only [List.length_cons, List.length_map, List.length_range'] at hlength
  omega

theorem publisherNames_eq {c : PublisherConfig} {s : String} (hp : 2 ≤ c.parallelThreads.toInt)
    (hs : c.queueName = some s) :
    (publisherInstances c).map (·.queueName) =
      (numberedNames c.parallelThreads.toInt.toNat s).map some := by
  have hnames := copyNumbers_map hp fun number ↦ some (replaceMarker s number)
  rw [numberedNames, List.map_map]
  simpa [publisherInstances, numberedPublisher, Expansion.publisherInstance, hs,
    Function.comp_def] using hnames

theorem subscriberNames_eq {c : SubscriberConfig} {s : String} (hp : 2 ≤ c.parallelThreads.toInt)
    (hs : c.queueName = some s) :
    (subscriberInstances c).map (·.queueName) =
      (numberedNames c.parallelThreads.toInt.toNat s).map some := by
  have hnames := copyNumbers_map hp fun number ↦ some (replaceMarker s number)
  rw [numberedNames, List.map_map]
  simpa [subscriberInstances, numberedSubscriber, Expansion.subscriberInstance, hs,
    Function.comp_def] using hnames

theorem subscriptionIDs_eq {c : SubscriberConfig} {s : String} (hp : 2 ≤ c.parallelThreads.toInt)
    (hs : c.subscriptionID = some s) (hblank : isBlank (some s) = false) :
    (subscriberInstances c).map (·.subscriptionID) =
      (numberedNames c.parallelThreads.toInt.toNat s).map some := by
  have hnames := copyNumbers_map hp fun number ↦ some (replaceMarker s number)
  rw [numberedNames, List.map_map]
  simpa [subscriberInstances, numberedSubscriber, Expansion.subscriberInstance, hs, hblank,
    Function.comp_def] using hnames

/-- A list expands exactly when its entries have queue names. For every entry with at least two
threads and every template, the names of its instances are the template with their numbers in place
of the markers, pairwise distinct if there is a marker and all equal to the template otherwise. -/
theorem templates_separate (uuid : Int32 → String) (pubs : List PublisherConfig)
    (subs : List SubscriberConfig) :
    ((createDuplicatePublishersIfNeeded uuid pubs).isSome = true ↔
      ∀ c ∈ pubs, c.queueName.isSome = true) ∧
    ((createDuplicateSubscribersIfNeeded uuid subs).isSome = true ↔
      ∀ c ∈ subs, c.queueName.isSome = true) ∧
    (∀ out, createDuplicatePublishersIfNeeded uuid pubs = some out →
      HasInstances publisherInstances pubs out) ∧
    (∀ out, createDuplicateSubscribersIfNeeded uuid subs = some out →
      HasInstances subscriberInstances subs out) ∧
    (∀ c ∈ pubs, 2 ≤ c.parallelThreads.toInt →
      ((publisherInstances c).length : ℤ) = c.parallelThreads.toInt ∧
      ∀ s, c.queueName = some s → Separates s ((publisherInstances c).map (·.queueName))) ∧
    (∀ c ∈ subs, 2 ≤ c.parallelThreads.toInt →
      ((subscriberInstances c).length : ℤ) = c.parallelThreads.toInt ∧
      (∀ s, c.queueName = some s → Separates s ((subscriberInstances c).map (·.queueName))) ∧
      (∀ s, c.subscriptionID = some s → isBlank (some s) = false →
        Separates s ((subscriberInstances c).map (·.subscriptionID)))) := by
  refine ⟨publishers_isSome_iff, subscribers_isSome_iff, fun _ ↦ publishers_instances,
    fun _ ↦ subscribers_instances, ?_, ?_⟩
  · intro c _ hp
    refine ⟨?_, ?_⟩
    · rw [publisherInstances, List.length_cons, List.length_map]
      exact copyNumbers_length hp
    · intro s hs
      rw [publisherNames_eq hp hs]
      exact separates_numbered s _
  · intro c _ hp
    refine ⟨?_, ?_, ?_⟩
    · rw [subscriberInstances, List.length_cons, List.length_map]
      exact copyNumbers_length hp
    · intro s hs
      rw [subscriberNames_eq hp hs]
      exact separates_numbered s _
    · intro s hs hblank
      rw [subscriptionIDs_eq hp hs hblank]
      exact separates_numbered s _

theorem templates_separate_two :
    let pub : PublisherConfig :=
      { id := some "p", queueName := some "%d%d_%", parallelThreads := 2 }
    let sub : SubscriberConfig :=
      { id := some "s", queueName := some "q", subscriptionID := some "1%d", parallelThreads := 2 }
    ((publisherInstances pub).map (·.queueName)).Nodup ∧
      (publisherInstances pub).map (·.queueName) = [some "11_%", some "22_%"] ∧
    ((subscriberInstances sub).map (·.subscriptionID)).Nodup ∧
      (subscriberInstances sub).map (·.subscriptionID) = [some "11", some "12"] := by
  intro pub sub
  have h := templates_separate (fun _ ↦ "") [pub] [sub]
  have hqueue := (h.2.2.2.2.1 pub List.mem_cons_self (by decide)).2 _ rfl
  have hsubscription := (h.2.2.2.2.2 sub List.mem_cons_self (by decide)).2.2 _ rfl (by decide)
  exact ⟨hqueue.distinct (by decide), by decide, hsubscription.distinct (by decide), by decide⟩

end ConfigReader

end AndesTestClient
