import AndesTestClient.InstanceIds

namespace AndesTestClient

open ConfigReader Imperative

namespace MetricRegistry

theorem append_part {builder part : String} (hb : builder ≠ "") (hp : part ≠ "") :
    append builder (some part) = builder ++ "." ++ part := by
  simp [append, hb, hp]

theorem append_ne_empty {builder : String} (hb : builder ≠ "") (part : Option String) :
    append builder part ≠ "" := by
  cases part with
  | none => exact hb
  | some part =>
    by_cases hp : part = ""
    · simpa [append, hp] using hb
    · simp [append_part hb hp]

end MetricRegistry

def queuePart (queueName : Option String) : String :=
  if isEmpty queueName then "" else concatenated queueName ++ "."

theorem append_queueName {builder : String} (hb : builder ≠ "") (queueName : Option String) :
    MetricRegistry.append builder queueName ++ "." = builder ++ "." ++ queuePart queueName := by
  cases queueName with
  | none => simp [MetricRegistry.append, queuePart, isEmpty]
  | some q =>
    by_cases hq : q = ""
    · simp [MetricRegistry.append, queuePart, isEmpty, hq]
    · rw [MetricRegistry.append_part hb hq]
      simp [queuePart, isEmpty, hq, concatenated, String.append_assoc]

theorem consumerGauge_eq {c : PubSubConfig} (h : isEmpty c.id = false) :
    ConsumerThread.gaugeName c =
      "org.atc.ConsumerThread." ++ concatenated c.id ++ ".receiving-stats" := by
  obtain ⟨hid, hne⟩ := id_eq_some h
  have hclass : MetricRegistry.append "" (some "org.atc.ConsumerThread") = "org.atc.ConsumerThread" :=
    rfl
  rw [ConsumerThread.gaugeName, hid, MetricRegistry.name, List.foldl_cons, List.foldl_cons,
    List.foldl_nil, hclass, MetricRegistry.append_part (by decide) hne,
    MetricRegistry.append_part (by simp) (by decide)]
  simp [concatenated, String.append_assoc]

theorem publisherGauge_eq (c : PubSubConfig) :
    PublisherThread.gaugeName c =
      "Publisher." ++ queuePart c.queueName ++ "publisher id " ++ concatenated c.id ++ ".gauge" := by
  have hclass : MetricRegistry.append "" (some "Publisher") = "Publisher" := rfl
  have hqueue : MetricRegistry.append "Publisher" c.queueName ≠ "" :=
    MetricRegistry.append_ne_empty (by decide) _
  rw [PublisherThread.gaugeName, MetricRegistry.name, List.foldl_cons, List.foldl_cons,
    List.foldl_cons, List.foldl_nil, hclass,
    MetricRegistry.append_part (MetricRegistry.append_ne_empty hqueue _) (by decide),
    MetricRegistry.append_part hqueue (by simp), append_queueName (by decide)]
  simp [String.append_assoc]

theorem gauges_ne {c d : PubSubConfig} (h : isEmpty c.id = false) :
    ConsumerThread.gaugeName c ≠ PublisherThread.gaugeName d := by
  intro heq
  rw [consumerGauge_eq h, publisherGauge_eq] at heq
  have hhead := congrArg (fun s ↦ s.toList.head?) heq
  simp at hhead

theorem consumerGauge_inj {c d : PubSubConfig} (hc : isEmpty c.id = false)
    (hd : isEmpty d.id = false) (h : ConsumerThread.gaugeName c = ConsumerThread.gaugeName d) :
    c.id = d.id := by
  rw [consumerGauge_eq hc, consumerGauge_eq hd] at h
  rw [(id_eq_some hc).1, (id_eq_some hd).1]
  have hl := congrArg String.toList h
  simp only [String.toList_append, List.append_assoc] at hl
  rw [List.append_cancel_left_eq, List.append_cancel_right_eq] at hl
  rw [String.toList_inj.mp hl]

/-- The queue name of `d` and the id of `c` share a text that each of the two names can hold. -/
def GaugesMeet (c d : PubSubConfig) : Prop :=
  ∃ x, c.id = some (x ++ ".publisher id " ++ concatenated d.id) ∧
    d.queueName = some (queuePart c.queueName ++ "publisher id " ++ x)

theorem GaugesMeet.gauge_eq {c d : PubSubConfig} (h : GaugesMeet c d) :
    PublisherThread.gaugeName c = PublisherThread.gaugeName d := by
  obtain ⟨x, hid, hqueue⟩ := h
  have hpart : queuePart d.queueName = queuePart c.queueName ++ "publisher id " ++ x ++ "." := by
    rw [hqueue, queuePart]
    simp [isEmpty, concatenated]
  rw [publisherGauge_eq, publisherGauge_eq, hpart, hid]
  simp [concatenated, String.append_assoc]

theorem GaugesMeet.ids_ne {c d : PubSubConfig} (h : GaugesMeet c d) : c.id ≠ d.id := by
  obtain ⟨x, hid, -⟩ := h
  intro heq
  have hlength := congrArg (fun id ↦ (concatenated id).length) (hid.symm.trans heq)
  simp [concatenated] at hlength

theorem queuePart_eq_append {queueName : Option String} {us : List Char} {c : Char}
    (h : (queuePart queueName).toList = us ++ [c]) :
    c = '.' ∧ queueName = some (String.ofList us) := by
  cases queueName with
  | none => simp [queuePart, isEmpty] at h
  | some q =>
    by_cases hq : q = ""
    · simp [queuePart, isEmpty, hq] at h
    · have hlast : q.toList ++ ['.'] = us ++ [c] := by
        rw [← h]
        simp [queuePart, isEmpty, hq, concatenated]
      obtain ⟨rfl, hdot⟩ := List.append_inj' hlast rfl
      exact ⟨by simpa using hdot.symm, by simp⟩

theorem meet_of_split (words : String) {c d : PubSubConfig} (hc : isEmpty c.id = false)
    {ws : List Char}
    (hid : (concatenated c.id).toList =
      ws ++ (words ++ " ").toList ++ (concatenated d.id).toList)
    (hqueue : (queuePart d.queueName).toList =
      (queuePart c.queueName).toList ++ (words ++ " ").toList ++ ws) :
    ∃ x, c.id = some (x ++ "." ++ (words ++ " ") ++ concatenated d.id) ∧
      d.queueName = some (queuePart c.queueName ++ (words ++ " ") ++ x) := by
  rcases List.eq_nil_or_concat ws with rfl | ⟨vs, last, rfl⟩
  · -- the queue part ends with a dot and never with the blank of the text before an id
    have hblank : (queuePart d.queueName).toList =
        (queuePart c.queueName).toList ++ words.toList ++ [' '] := by
      rw [hqueue]
      simp
    exact absurd (queuePart_eq_append hblank).1 (by decide)
  · rw [List.concat_eq_append, ← List.append_assoc] at hqueue
    obtain ⟨rfl, hname⟩ := queuePart_eq_append hqueue
    refine ⟨String.ofList vs, ?_, ?_⟩
    · rw [(id_eq_some hc).1, Option.some.injEq, ← String.toList_inj, hid]
      simp
    · rw [hname, Option.some.injEq, ← String.toList_inj]
      simp

theorem gaugesMeet_of_split {c d : PubSubConfig} (hc : isEmpty c.id = false) {ws : List Char}
    (hid : (concatenated c.id).toList =
      ws ++ "publisher id ".toList ++ (concatenated d.id).toList)
    (hqueue : (queuePart d.queueName).toList =
      (queuePart c.queueName).toList ++ "publisher id ".toList ++ ws) : GaugesMeet c d := by
  obtain ⟨x, hid, hqueue⟩ := meet_of_split "publisher id" hc hid hqueue
  exact ⟨x, by rw [hid]; simp [String.append_assoc], hqueue⟩

theorem publisherGauge_inj {c d : PubSubConfig} (hc : isEmpty c.id = false)
    (hd : isEmpty d.id = false) (h : PublisherThread.gaugeName c = PublisherThread.gaugeName d) :
    c.id = d.id ∨ GaugesMeet c d ∨ GaugesMeet d c := by
  rw [publisherGauge_eq, publisherGauge_eq] at h
  have hl := congrArg String.toList h
  simp only [String.toList_append, List.append_cancel_right_eq] at hl
  simp only [List.append_assoc, List.append_cancel_left_eq] at hl
  simp only [← List.append_assoc] at hl
  have hmarker : 'p' ∉ "ublisher id ".toList := by decide
  rcases Delimited.marker_cases hmarker hl with
    ⟨-, hid⟩ | ⟨ws, hid, hqueue⟩ | ⟨ws, hid, hqueue⟩
  · rw [(id_eq_some hc).1, (id_eq_some hd).1, String.toList_inj.mp hid]
    exact .inl rfl
  · exact .inr (.inl (gaugesMeet_of_split hc hid hqueue))
  · exact .inr (.inr (gaugesMeet_of_split hd hid hqueue))

def GaugeClash (tc : TestConfiguration) : Prop :=
  ∃ c ∈ tc.topicPublishers ++ tc.queuePublishers, ∃ d ∈ tc.topicPublishers ++ tc.queuePublishers,
    GaugesMeet c.toPubSubConfig d.toPubSubConfig

theorem gaugeNames_nodup_iff {tc : TestConfiguration}
    (hids : ∀ c ∈ configs tc, isEmpty c.id = false) (hnodup : ((configs tc).map (·.id)).Nodup) :
    ((Main.endpoints tc).map (·.gaugeName)).Nodup ↔ ¬ GaugeClash tc := by
  rw [configs, List.map_map] at hnodup
  have hid := List.inj_on_of_nodup_map hnodup
  have hconfig : ∀ e ∈ Main.endpoints tc, isEmpty e.config.id = false :=
    fun e he ↦ hids e.config (List.mem_map_of_mem he)
  have hpublisher : ∀ c, EndpointConfig.publisher c ∈ Main.endpoints tc ↔
      c ∈ tc.topicPublishers ++ tc.queuePublishers := by
    simp [Main.endpoints]
  rw [List.nodup_map_iff_inj_on (List.Nodup.of_map _ hnodup)]
  constructor
  · intro hinj hclash
    obtain ⟨c, hc, d, hd, hmeet⟩ := hclash
    have heq := hinj (.publisher c) ((hpublisher c).mpr hc) (.publisher d) ((hpublisher d).mpr hd)
      hmeet.gauge_eq
    exact hmeet.ids_ne (congrArg (fun e ↦ e.config.id) heq)
  · intro hclash d hd e he heq
    apply hid hd he
    cases d with
    | subscriber c =>
      cases e with
      | subscriber c' => exact consumerGauge_inj (hconfig _ hd) (hconfig _ he) heq
      | publisher c' => exact absurd heq (gauges_ne (hconfig _ hd))
    | publisher c =>
      cases e with
      | subscriber c' => exact absurd heq.symm (gauges_ne (hconfig _ he))
      | publisher c' =>
        rcases publisherGauge_inj (hconfig _ hd) (hconfig _ he) heq with h | h | h
        · exact h
        · exact absurd ⟨c, (hpublisher c).mp hd, c', (hpublisher c').mp he, h⟩ hclash
        · exact absurd ⟨c', (hpublisher c').mp he, c, (hpublisher c).mp hd, h⟩ hclash

/-- Expansion keeps the ids of all instances apart exactly when no configured id is the id of a
copy, and then the gauges get new names exactly when those of no two publishers meet. -/
theorem instances_distinct_iff (uuid : Int32 → String) (tc : TestConfiguration)
    {tc' : TestConfiguration}
    (hids : ∀ c ∈ configs tc, isEmpty c.id = false) (hnodup : ((configs tc).map (·.id)).Nodup)
    (h : preProcess uuid tc = some tc') :
    (((configs tc').map (·.id)).Nodup ↔ ¬ CopyClash tc) ∧
    (¬ CopyClash tc → ((∀ accepts, Main.NeverRaises (Main.startEndpoints accepts tc') {}) ↔
      ¬ GaugeClash tc')) := by
  have hinstances := instanceIds_nodup_iff hids hnodup h
  refine ⟨hinstances, fun hclash ↦ ?_⟩
  rw [Main.neverRaises_iff,
    gaugeNames_nodup_iff (fun _ ↦ instance_id_nonempty hids h) (hinstances.mpr hclash)]

theorem instances_distinct_iff_pair : ∃ tc',
    preProcess (fun _ ↦ "")
      { queueSubscribers := [{ id := some "a", queueName := some "q_%d", parallelThreads := 2 }]
        queuePublishers := [{ id := some "b", queueName := some "q_1", parallelThreads := 1 }] } =
      some tc' ∧
    ((configs tc').map (·.id)).Nodup ∧
    ∀ accepts, Main.NeverRaises (Main.startEndpoints accepts tc') {} := by
  refine ⟨_, rfl, ?_⟩
  have h := instances_distinct_iff (fun _ ↦ "")
    { queueSubscribers := [{ id := some "a", queueName := some "q_%d", parallelThreads := 2 }]
      queuePublishers := [{ id := some "b", queueName := some "q_1", parallelThreads := 1 }] }
    (by decide) (by decide) rfl
  refine ⟨h.1.mpr (by decide), (h.2 (by decide)).mpr ?_⟩
  intro hclash
  obtain ⟨c, hc, d, hd, hmeet⟩ := hclash
  rw [List.mem_singleton.mp hc, List.mem_singleton.mp hd] at hmeet
  exact hmeet.ids_ne rfl

def takenCopyId : TestConfiguration :=
  { queueSubscribers :=
      [{ id := some "a", queueName := some "q", parallelThreads := 2 },
        { id := some "a__2", queueName := some "q", parallelThreads := 1 }] }

def meetingGauges : TestConfiguration :=
  { queuePublishers :=
      [{ id := some "x.publisher id b", queueName := some "q", parallelThreads := 1 },
        { id := some "b", queueName := some "q.publisher id x", parallelThreads := 1 }] }

/-- With either configuration Main stops at a gauge name that is taken; with the second one all
instances have ids of their own. -/
theorem instances_clash :
    ((∀ c ∈ configs takenCopyId, isEmpty c.id = false) ∧
      ((configs takenCopyId).map (·.id)).Nodup ∧
      ∃ tc', preProcess (fun _ ↦ "") takenCopyId = some tc' ∧
        ¬ ((configs tc').map (·.id)).Nodup ∧
        exec (Main.startEndpoints (fun _ ↦ true) tc') {} =
          some (.error .illegalArgumentException,
            { names := ["org.atc.ConsumerThread.a.receiving-stats",
                "org.atc.ConsumerThread.a__2.receiving-stats"] })) ∧
    ((∀ c ∈ configs meetingGauges, isEmpty c.id = false) ∧
      ((configs meetingGauges).map (·.id)).Nodup ∧
      ∃ tc', preProcess (fun _ ↦ "") meetingGauges = some tc' ∧
        ((configs tc').map (·.id)).Nodup ∧
        exec (Main.startEndpoints (fun _ ↦ true) tc') {} =
          some (.error .illegalArgumentException,
            { names := ["Publisher.q.publisher id x.publisher id b.gauge"] })) := by
  refine ⟨⟨by decide, by decide, _, rfl, by decide, ?_⟩,
    ⟨by decide, by decide, _, rfl, by decide, ?_⟩⟩ <;> decide +kernel

end AndesTestClient
