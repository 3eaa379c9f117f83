import ModbusGateway.Gateway.Origin

/-!
# Everything read is published, and nothing else

From the reads of a window to the points of its batches. The three traversals of
the configuration, to set up the accumulators, to poll and decode, and to
regroup at a flush, agree on names: no delivery is ignored, and a point is
published exactly if a reading of it was received.
-/
namespace ModbusGateway

open Foundation

/-- The points some batches carry a value for. -/
def publishedIds (batches : List AggregatedBatch) : List PointId :=
  (contents batches).map fun published => ⟨published.1, published.2.name⟩

/-- A window begins with the run or after a tick. -/
def Opens (earlier : List GatewayEvent) : Prop :=
  earlier = [] ∨ ∃ events handledAt refusedAt batches,
    earlier = events ++ [.tick handledAt refusedAt batches]

/-- Not a tick, and no reading dropped on a full channel. -/
def GatewayEvent.Inside (event : GatewayEvent) : Prop :=
  (∀ handledAt refusedAt batches, event ≠ .tick handledAt refusedAt batches) ∧
    ∀ connection actions, event ≠ .poll connection (.trySend .full) actions

variable {config : Config}

theorem windowDeliveries_of_opens {earlier : List GatewayEvent} (opens : Opens earlier) :
    windowDeliveries earlier = [] := by
  rcases opens with rfl | ⟨events, handledAt, refusedAt, batches, rfl⟩
  · rfl
  · rw [windowDeliveries_snoc]

/-- A window's deliveries are those received since it opened. -/
theorem windowDeliveries_window {earlier window : List GatewayEvent} (opens : Opens earlier)
    (inside : ∀ event ∈ window, event.Inside) :
    windowDeliveries (earlier ++ window) = window.flatMap GatewayEvent.received := by
  induction window using List.reverseRecOn with
  | nil => simpa using windowDeliveries_of_opens opens
  | append_singleton window event ih =>
    have before := ih fun event member => inside event (List.mem_append_left _ member)
    have now := inside event (List.mem_append_right _ List.mem_cons_self)
    rw [← List.append_assoc, windowDeliveries_snoc, List.flatMap_append, List.flatMap_singleton]
    cases event with
    | tick => exact absurd rfl (now.1 _ _ _)
    | _ => simp [before, GatewayEvent.received]

/-- While the aggregator runs, only a full channel refuses a reading. -/
theorem keeps_of_running {gateway gateway' : Gateway} {window : List GatewayEvent}
    (run : Run (GatewayStep config) gateway window gateway') {loop : AggregatorLoop}
    (running : gateway'.aggregator = .running loop)
    (inside : ∀ event ∈ window, event.Inside) : ∀ event ∈ window, event.Keeps := by
  induction run generalizing loop with
  | refl => simp
  | @snoc t u window event before moved ih =>
    have now := inside event (List.mem_append_right _ List.mem_cons_self)
    have held : (∃ loop', t.aggregator = .running loop') ∧ event.Keeps := by
      cases moved with
      | poll _ _ connection _ _ input actions channel aggregator answered =>
        cases running
        refine ⟨⟨loop, rfl⟩, ?_⟩
        rintro _ outcome _ ⟨⟩
        -- The aggregator runs, so the channel is open: it took the reading or was full.
        have answer := answered outcome rfl
        simp only [trySend] at answer
        split at answer
        · exact answer
        · subst answer
          exact absurd rfl (now.2 connection actions)
      | respawn => exact ⟨⟨loop, running⟩, by simp [GatewayEvent.Keeps]⟩
      | shutdown => exact ⟨⟨loop, running⟩, by simp [GatewayEvent.Keeps]⟩
      | receive _ _ _ _ _ _ moved | inputClosed _ _ _ _ _ moved | tick _ _ _ _ _ _ _ _ moved =>
        cases moved <;> exact ⟨⟨_, rfl⟩, by simp [GatewayEvent.Keeps]⟩
    obtain ⟨⟨loop', earlier⟩, kept⟩ := held
    intro event member
    rcases List.mem_append.mp member with member | member
    · exact ih earlier (fun event member => inside event (List.mem_append_left _ member))
        event member
    · rw [List.mem_singleton.mp member]
      exact kept

/-! ### Points of a read -/

/-- A full reply has a reading for each point of its block. -/
theorem exists_delivery {host : Host} (accepted : validate host config = .ok ())
    {read : BlockRead} (within : read.Within config)
    (full : read.words.length = read.block.count.toNat) {point : PointConfig}
    (listed : point ∈ read.block.points) :
    ∃ delivery ∈ read.deliveries, delivery.reading.pointId = ⟨read.device.id, point.name⟩ := by
  have good := (wellFormed_of_validate accepted within.connection).blocks read.device
    within.device read.block within.block
  obtain ⟨values, decoded, names⟩ := decode_full good full
  have named : point.name ∈ values.map Prod.fst := names ▸ List.mem_map_of_mem listed
  obtain ⟨value, member, same⟩ := List.mem_map.mp named
  refine ⟨⟨read, ⟨⟨read.device.id, value.1⟩, value.2⟩⟩, ?_, by rw [← same]⟩
  rw [BlockRead.deliveries, decoded]
  exact List.mem_map_of_mem member

/-- The points that full replies have readings of are those of their blocks. -/
theorem exists_delivery_iff {host : Host} (accepted : validate host config = .ok ())
    {reads : List BlockRead} (within : ∀ read ∈ reads, read.Within config)
    (full : ∀ read ∈ reads, read.words.length = read.block.count.toNat) (pointId : PointId) :
    (∃ delivery ∈ reads.flatMap BlockRead.deliveries, delivery.reading.pointId = pointId) ↔
      ∃ read ∈ reads, ∃ point ∈ read.block.points, pointId = ⟨read.device.id, point.name⟩ := by
  constructor
  · rintro ⟨delivery, member, rfl⟩
    obtain ⟨read, listed, decoded⟩ := List.mem_flatMap.mp member
    obtain ⟨rfl, configured, configured_listed, measures⟩ :=
      exists_measures (within read listed) decoded
    have place := mem_configuredPoints.mp configured_listed
    refine ⟨delivery.toBlockRead, listed, configured.point, ?_, ?_⟩
    · rw [measures.block]
      exact place.2.2.2
    · rw [measures.device]
      exact measures.pointId
  · rintro ⟨read, listed, point, inBlock, rfl⟩
    obtain ⟨delivery, decoded, named⟩ :=
      exists_delivery accepted (within read listed) (full read listed) inBlock
    exact ⟨delivery, List.mem_flatMap.mpr ⟨read, listed, decoded⟩, named⟩

/-- What the tick of a window publishes: the known points with a delivery in it. -/
theorem mem_publishedIds {gateway₀ gateway gateway' : Gateway} {nowUnix : Duration}
    {startedAt handledAt : Instant} {events : List GatewayEvent}
    {batches : List AggregatedBatch}
    (started : Gateway.start config nowUnix startedAt = some gateway₀)
    (run : Run (GatewayStep config) gateway₀ events gateway)
    (ticked : GatewayStep config gateway (.tick handledAt none batches) gateway')
    (few : ∀ pointId, (valuesOf pointId
      ((windowDeliveries events).map Delivery.reading)).length < 2 ^ 32) (pointId : PointId) :
    pointId ∈ publishedIds batches ↔ pointId ∈ initFromConfig config ∧
      ∃ delivery ∈ windowDeliveries events, delivery.reading.pointId = pointId := by
  have published := tick_contents started run ticked
  simp only [flushedPoint_accumulated _ _ _ (few _)] at published
  simp only [windowPoint, valuesOf_deliveries, List.map_eq_nil_iff] at published
  rw [publishedIds, (published.map _).mem_iff]
  simp only [List.mem_map, List.mem_filterMap]
  constructor
  · rintro ⟨shown, ⟨e, entry, found⟩, rfl⟩
    -- Only a key with a value yields a point.
    split at found
    · cases found
    next some_delivery =>
      cases found
      obtain ⟨delivery, member⟩ := List.exists_mem_of_ne_nil _ some_delivery
      obtain ⟨received, own⟩ := List.mem_filter.mp member
      exact ⟨List.mem_keys_of_mem entry, delivery, received, of_decide_eq_true own⟩
  · rintro ⟨known, delivery, received, rfl⟩
    obtain ⟨pointAgg, entry⟩ := List.exists_of_mem_keys known
    refine ⟨_, ⟨_, entry, if_neg ?_⟩, rfl⟩
    exact List.ne_nil_of_mem (List.mem_filter.mpr ⟨received, decide_eq_true rfl⟩)

/-- Between two ticks nothing that was read is lost. -/
theorem conserved_of_inside {gateway gateway' gateway'' : Gateway} {window : List GatewayEvent}
    {handledAt : Instant} {batches : List AggregatedBatch}
    (run : Run (GatewayStep config) gateway window gateway')
    (inside : ∀ event ∈ window, event.Inside)
    (ticked : GatewayStep config gateway' (.tick handledAt none batches) gateway'') :
    (window.flatMap GatewayEvent.received ++ gateway'.inTransit).Perm
      (gateway.inTransit ++
        (window.flatMap GatewayEvent.blockReads).flatMap BlockRead.deliveries) := by
  have running : ∃ loop, gateway'.aggregator = .running loop := by
    cases ticked with
    | tick _ _ _ _ _ _ _ _ moved => cases moved <;> exact ⟨_, rfl⟩
  obtain ⟨loop, running⟩ := running
  obtain ⟨lost, conserved, nothing⟩ := conservation run
  rwa [nothing (keeps_of_running run running inside), List.append_nil] at conserved

/-- Each window publishes exactly the points whose readings were received in it: a
configured point of a block with a successful read behind every published name, and
no delivery ignored. A read received as a whole has all its points published. In a
window that cuts through no read, the points published are those of the blocks read
successfully in it. -/
theorem window_completeness {host : Host} (accepted : validate host config = .ok ())
    {nowUnix : Duration} {startedAt handledAt : Instant}
    {gateway₀ gateway₁ gateway gateway' : Gateway} {earlier window : List GatewayEvent}
    {batches : List AggregatedBatch}
    (started : Gateway.start config nowUnix startedAt = some gateway₀)
    (before : Run (GatewayStep config) gateway₀ earlier gateway₁) (opens : Opens earlier)
    (run : Run (GatewayStep config) gateway₁ window gateway)
    (inside : ∀ event ∈ window, event.Inside)
    (ticked : GatewayStep config gateway (.tick handledAt none batches) gateway')
    (full : ∀ read ∈ (earlier ++ window).flatMap GatewayEvent.blockReads,
      read.words.length = read.block.count.toNat)
    (few : ∀ pointId, (valuesOf pointId
      ((window.flatMap GatewayEvent.received).map Delivery.reading)).length < 2 ^ 32) :
    (∀ pointId, pointId ∈ publishedIds batches ↔
      ∃ configured ∈ configuredPoints config, configured.pointId = pointId ∧
        ∃ delivery ∈ window.flatMap GatewayEvent.received, configured.Measures delivery ∧
          delivery.toBlockRead ∈ (earlier ++ window).flatMap GatewayEvent.blockReads) ∧
    (∀ read ∈ (earlier ++ window).flatMap GatewayEvent.blockReads,
      read.deliveries ⊆ window.flatMap GatewayEvent.received →
      ∀ point ∈ read.block.points, ⟨read.device.id, point.name⟩ ∈ publishedIds batches) ∧
    (window.flatMap GatewayEvent.received ++ gateway.inTransit).Perm
      (gateway₁.inTransit ++
        (window.flatMap GatewayEvent.blockReads).flatMap BlockRead.deliveries) ∧
    (gateway₁.inTransit = [] → gateway.inTransit = [] → ∀ pointId,
      pointId ∈ publishedIds batches ↔ ∃ read ∈ window.flatMap GatewayEvent.blockReads,
        ∃ point ∈ read.block.points, pointId = ⟨read.device.id, point.name⟩) ∧
    ∀ delivery ∈ window.flatMap GatewayEvent.received,
      delivery.reading.pointId ∈ initFromConfig config := by
  have whole := before.append run
  have received := windowDeliveries_window opens inside
  -- Polling uses the names of the configuration ...
  have measured : ∀ delivery ∈ window.flatMap GatewayEvent.received,
      delivery.toBlockRead ∈ (earlier ++ window).flatMap GatewayEvent.blockReads ∧
        ∃ configured ∈ configuredPoints config, configured.Measures delivery := by
    intro delivery member
    apply received_measured started whole
    rw [List.flatMap_append]
    exact List.mem_append_right _ member
  -- ... under which the accumulators were set up, so no delivery is ignored.
  have known : ∀ delivery ∈ window.flatMap GatewayEvent.received,
      delivery.reading.pointId ∈ initFromConfig config := by
    intro delivery member
    obtain ⟨_, configured, listed, measures⟩ := measured delivery member
    exact mem_initFromConfig.mpr ⟨configured, listed, measures.pointId.symm⟩
  have published : ∀ pointId, pointId ∈ publishedIds batches ↔
      ∃ delivery ∈ window.flatMap GatewayEvent.received, delivery.reading.pointId = pointId := by
    intro pointId
    have some_known := mem_publishedIds started whole ticked (received.symm ▸ few) pointId
    rw [received] at some_known
    refine some_known.trans ⟨fun both => both.2, fun delivered => ⟨?_, delivered⟩⟩
    obtain ⟨delivery, member, rfl⟩ := delivered
    exact known delivery member
  have within := blockReads_within started whole
  have conserved := conserved_of_inside run inside ticked
  refine ⟨fun pointId => ?_, ?_, conserved, ?_, known⟩
  · rw [published]
    constructor
    · rintro ⟨delivery, member, rfl⟩
      obtain ⟨read, configured, listed, measures⟩ := measured delivery member
      exact ⟨configured, listed, measures.pointId.symm, delivery, member, measures, read⟩
    · rintro ⟨configured, listed, rfl, delivery, member, measures, _⟩
      exact ⟨delivery, member, measures.pointId⟩
  · intro read member complete point listed
    obtain ⟨delivery, decoded, named⟩ :=
      exists_delivery accepted (within read member) (full read member) listed
    exact (published _).mpr ⟨delivery, complete decoded, named⟩
  · intro opened closed pointId
    -- Nothing in transit at either end: received is what was read in between.
    rw [opened, closed, List.append_nil, List.nil_append] at conserved
    have later : window.flatMap GatewayEvent.blockReads ⊆
        (earlier ++ window).flatMap GatewayEvent.blockReads := by
      rw [List.flatMap_append]
      exact List.subset_append_right _ _
    rw [published, ← exists_delivery_iff accepted (fun read member => within read (later member))
      (fun read member => full read (later member)) pointId]
    simp only [conserved.mem_iff]

/-- Both values of the sensor were read, and nothing else is published. -/
theorem window_completeness_tempSensor :
    ∃ gateway batches gateway',
      Run (GatewayStep exampleConfig) (.startOfMinute exampleConfig) tempSensorEvents gateway ∧
      GatewayStep exampleConfig gateway (.tick ⟨60 * 10 ^ 9⟩ none batches) gateway' ∧
      ∀ pointId, pointId ∈ publishedIds batches ↔
        pointId ∈ [⟨"tempsensor1", "temperature"⟩, ⟨"tempsensor1", "humidity"⟩] := by
  obtain ⟨gateway, batches, gateway', run, ticked, settled⟩ := tempSensorEvents_run
  have inside : ∀ event ∈ tempSensorEvents, event.Inside := by
    simp [tempSensorEvents, GatewayEvent.Inside]
  have few (pointId : PointId) : (valuesOf pointId
      ((tempSensorEvents.flatMap GatewayEvent.received).map Delivery.reading)).length <
        2 ^ 32 :=
    (List.length_filterMap_le _ _).trans_lt (by decide)
  have complete := (window_completeness exampleConfig_accepted (start_eq_startOfMinute rfl)
    (.refl _) (.inl rfl) run inside ticked (by decide) few).2.2.2.1 rfl settled
  refine ⟨gateway, batches, gateway', run, ticked, fun pointId => (complete pointId).trans ?_⟩
  simp [tempSensorEvents, GatewayEvent.blockReads, blockReads, PollerAction.blockRead?,
    tempSensorBlock, tempSensor]

end ModbusGateway
