import ModbusGateway.Gateway.Origin
import ModbusGateway.Senml

/-!
# Which packs are all numbers

A register pattern that is no number, a scale that is none or a product beyond the
range of an `f64` makes the sum of its window one that is none, and so does a sum
that gets beyond the range itself. The pack then carries `null` for it.
-/
namespace ModbusGateway

open Foundation

/-- Decoding this point from these words gives this number: the registers hold one, the
scale is one, and their product is within the range. -/
def PointConfig.Yields (p : PointConfig) (wordOrder : WordOrder) (words : List UInt16)
    (number : ℚ) : Prop :=
  ∃ raw scale : ℚ, extractRaw words p.offset p.dataType wordOrder = some (.finite raw) ∧
    p.scale = .finite scale ∧ |raw * scale| < F64.overflow ∧
    number = if p.absolute then |raw * scale| else raw * scale

/-- Decoding this point from these words gives a number: the scale is one, an `f32` does
not have all exponent bits set, and the product of the two is within the range. -/
def PointConfig.Harmless (p : PointConfig) (wordOrder : WordOrder) (words : List UInt16) :
    Prop :=
  p.scale.isFinite ∧ (p.dataType = .f32 → ∀ bits,
    combineU32 words p.offset.toNat wordOrder = some bits → bits.toNat / 2 ^ 23 % 2 ^ 8 ≠ 255) ∧
  ∀ raw scale : ℚ, extractRaw words p.offset p.dataType wordOrder = some (.finite raw) →
    p.scale = .finite scale → |raw * scale| < F64.overflow

theorem scaled_eq_finite_iff {p : PointConfig} {raw : F64} {number : ℚ} :
    p.scaled raw = .finite number ↔ ∃ q scale : ℚ, raw = .finite q ∧ p.scale = .finite scale ∧
      |q * scale| < F64.overflow ∧ number = if p.absolute then |q * scale| else q * scale := by
  have product {r : ℚ} := F64.mul_eq_finite_iff (a := raw) (b := p.scale) (r := r)
  simp only [PointConfig.scaled]
  constructor
  · intro scaled
    obtain ⟨r, finite⟩ : ∃ r, raw * p.scale = .finite r := by
      refine F64.isFinite_iff.mp ?_
      split at scaled
      · rw [← F64.isFinite_abs, scaled]
        rfl
      · rw [scaled]
        rfl
    obtain ⟨q, scale, rawIs, scaleIs, rfl, inRange⟩ := product.mp finite
    refine ⟨q, scale, rawIs, scaleIs, inRange, ?_⟩
    rw [finite] at scaled
    split_ifs at scaled ⊢ <;> exact (F64.finite.inj scaled).symm
  · rintro ⟨q, scale, rawIs, scaleIs, inRange, rfl⟩
    rw [product.mpr ⟨q, scale, rawIs, scaleIs, rfl, inRange⟩]
    split_ifs <;> rfl

/-- A decoded value is a number exactly as the registers and the scale say. -/
theorem decodePoint_eq_finite_iff {p : PointConfig} {wordOrder : WordOrder}
    {words : List UInt16} {value : String × F64}
    (decoded : decodePoint wordOrder words p = some value) (number : ℚ) :
    value.2 = .finite number ↔ p.Yields wordOrder words number := by
  simp only [decodePoint, Option.bind_eq_bind, Option.bind_eq_some_iff, pure,
    Option.some.injEq] at decoded
  obtain ⟨raw, extracted, rfl⟩ := decoded
  rw [scaled_eq_finite_iff]
  simp only [PointConfig.Yields, extracted, Option.some.injEq]

/-- Only an `f32` can hold what is no number. -/
theorem isFinite_extractRaw {p : PointConfig} {wordOrder : WordOrder} {words : List UInt16}
    {raw : F64} (extracted : extractRaw words p.offset p.dataType wordOrder = some raw) :
    raw.isFinite ↔ (p.dataType = .f32 → ∀ bits,
      combineU32 words p.offset.toNat wordOrder = some bits →
        bits.toNat / 2 ^ 23 % 2 ^ 8 ≠ 255) := by
  unfold extractRaw at extracted
  cases type : p.dataType with
  | u16 | i16 | u32 | i32 =>
    simp only [type] at extracted
    obtain ⟨_, _, rfl⟩ := Option.map_eq_some_iff.mp extracted
    simp
  | f32 =>
    simp only [type] at extracted
    obtain ⟨bits, combined, rfl⟩ := Option.map_eq_some_iff.mp extracted
    simp [combined, F64.isFinite_ofF32Bits]

theorem exists_yields_iff {p : PointConfig} {wordOrder : WordOrder} {words : List UInt16}
    {value : String × F64} (decoded : decodePoint wordOrder words p = some value) :
    (∃ number, p.Yields wordOrder words number) ↔ p.Harmless wordOrder words := by
  obtain ⟨raw, extracted, _⟩ := Option.bind_eq_some_iff.mp decoded
  have pattern := isFinite_extractRaw extracted
  constructor
  · rintro ⟨number, q, scale, holds, scaleIs, inRange, _⟩
    obtain rfl := Option.some.inj (extracted.symm.trans holds)
    refine ⟨by rw [scaleIs]; rfl, pattern.mp rfl, fun q' scale' holds' scaleIs' => ?_⟩
    cases holds.symm.trans holds'
    cases scaleIs.symm.trans scaleIs'
    exact inRange
  · rintro ⟨finite, bits, inRange⟩
    obtain ⟨scale, scaleIs⟩ := F64.isFinite_iff.mp finite
    obtain ⟨q, rfl⟩ := F64.isFinite_iff.mp (pattern.mpr bits)
    exact ⟨_, q, scale, extracted, scaleIs, inRange q scale extracted scaleIs, rfl⟩

/-- A mean is a number exactly if its values are and their sums stay within the range, as
long as the count does not wrap to 0. -/
theorem isFinite_flushedPoint (pointId : PointId) (unit : String) (values : List F64) :
    (∀ shown ∈ flushedPoint pointId (.accumulated unit values), shown.2.mean.isFinite) ↔
      (values.length % 2 ^ 32 ≠ 0 →
        ∃ numbers, values = numbers.map .finite ∧ F64.InRange numbers) := by
  have count : (PointAgg.accumulated unit values).count.toNat = values.length % 2 ^ 32 := by
    rw [PointAgg.accumulated_count]
    rfl
  have wrapped : (PointAgg.accumulated unit values).count = 0 ↔ values.length % 2 ^ 32 = 0 := by
    rw [← UInt32.toNat_inj, count]
    rfl
  simp only [flushedPoint, wrapped, count, PointAgg.accumulated_sum]
  generalize values.length % 2 ^ 32 = counted
  by_cases empty : counted = 0
  · simp [empty]
  have nonzero : (counted : ℤ) ≠ 0 := by exact_mod_cast empty
  -- Dividing by a count keeps a number a number, and nothing else becomes one.
  have divided : (F64.sum values / .ofInt counted).isFinite = true ↔
      ∃ numbers, values = numbers.map .finite ∧ F64.InRange numbers := by
    constructor
    · intro finite
      have sum : (F64.sum values).isFinite = true := by
        by_contra notFinite
        rw [F64.isFinite_div_ofInt_of_not (Bool.eq_false_iff.mpr notFinite)] at finite
        cases finite
      obtain ⟨r, sum⟩ := F64.isFinite_iff.mp sum
      obtain ⟨numbers, all, inRange, _⟩ := F64.sum_eq_finite_iff.mp sum
      exact ⟨numbers, all, inRange⟩
    · rintro ⟨numbers, all, inRange⟩
      rw [F64.sum_eq_finite_iff.mpr ⟨numbers, all, inRange, rfl⟩,
        F64.finite_div_ofInt inRange.sum_lt nonzero]
      rfl
  simp [empty, divided]

/-- Packs are all numbers when the means they carry are. -/
theorem numbers_contents_iff (batches : List AggregatedBatch) (baseNamePrefix : String) :
    (∀ batch ∈ batches, ∀ record ∈ encodeSenml batch baseNamePrefix, record.v.toJson.isSome) ↔
      ∀ shown ∈ contents batches, shown.2.mean.isFinite := by
  simp only [numbers_encodeSenml]
  constructor
  · intro all shown member
    obtain ⟨batch, listed, inside⟩ := List.mem_flatMap.mp member
    obtain ⟨point, carried, rfl⟩ := List.mem_map.mp inside
    exact all batch listed point carried
  · intro all batch listed point carried
    exact all (batch.deviceId, point)
      (List.mem_flatMap.mpr ⟨batch, listed, List.mem_map_of_mem carried⟩)

variable {config : Config}

/-- Each of these deliveries is of a configured point whose registers and scale give the
number listed for it. -/
def Numbered (config : Config) (deliveries : List Delivery) (numbers : List ℚ) : Prop :=
  List.Forall₂ (fun delivery number => ∃ configured ∈ configuredPoints config,
    configured.Measures delivery ∧
    configured.point.Yields configured.block.wordOrder delivery.words number) deliveries numbers

theorem Numbered.values {deliveries : List Delivery} {numbers : List ℚ}
    (numbered : Numbered config deliveries numbers) :
    (deliveries.map fun delivery => delivery.reading.value) = numbers.map .finite := by
  induction numbered with
  | nil => rfl
  | cons first _ ih =>
    obtain ⟨configured, _, measures, yields⟩ := first
    rw [List.map_cons, List.map_cons, ih]
    exact congrArg (· :: _) ((decodePoint_eq_finite_iff measures.value _).mpr yields)

/-- Deliveries that are measured have the numbers of their values. -/
theorem numbered_of_values {deliveries : List Delivery} {numbers : List ℚ}
    (measured : ∀ delivery ∈ deliveries, ∃ configured ∈ configuredPoints config,
      configured.Measures delivery)
    (values : (deliveries.map fun delivery => delivery.reading.value) = numbers.map .finite) :
    Numbered config deliveries numbers := by
  induction deliveries generalizing numbers with
  | nil =>
    cases numbers with
    | nil => exact .nil
    | cons => cases values
  | cons delivery deliveries ih =>
    cases numbers with
    | nil => cases values
    | cons number numbers =>
      obtain ⟨first, rest⟩ := List.cons.inj values
      obtain ⟨configured, listed, measures⟩ := measured delivery List.mem_cons_self
      exact .cons ⟨configured, listed, measures,
          (decodePoint_eq_finite_iff measures.value number).mp first⟩
        (ih (fun delivery member => measured delivery (List.mem_cons_of_mem _ member)) rest)

/-- Every record of every pack of a window has a number for a value exactly if for every
point each reading delivered in it is one, as the registers and the scale say, and the
sums of these numbers stay within the range of an `f64`. The readings of a point whose
number is a multiple of `2 ^ 32` are not published. -/
theorem values_are_numbers_iff {nowUnix : Duration} {startedAt handledAt : Instant}
    {gateway₀ gateway gateway' : Gateway} {events : List GatewayEvent}
    {batches : List AggregatedBatch}
    (started : Gateway.start config nowUnix startedAt = some gateway₀)
    (run : Run (GatewayStep config) gateway₀ events gateway)
    (ticked : GatewayStep config gateway (.tick handledAt none batches) gateway') :
    (∀ batch ∈ batches, ∀ record ∈ encodeSenml batch config.gateway.baseNamePrefix,
      record.v.toJson.isSome) ↔
    ∀ configured ∈ configuredPoints config,
      (configured.deliveriesIn events).length % 2 ^ 32 ≠ 0 →
      (∀ delivery ∈ windowDeliveries events, configured.Measures delivery →
        configured.point.Harmless configured.block.wordOrder delivery.words) ∧
      ∀ numbers, Numbered config (configured.deliveriesIn events) numbers →
        F64.InRange numbers := by
  have published := tick_contents started run ticked
  simp only [valuesOf_deliveries] at published
  have measured (pointId : PointId) :
      ∀ delivery ∈ (windowDeliveries events).filter (fun d => d.reading.pointId = pointId),
        ∃ configured ∈ configuredPoints config, configured.Measures delivery := by
    intro delivery member
    obtain ⟨_, configured, listed, measures⟩ := received_measured started run
      (windowDeliveries_subset events (List.mem_filter.mp member).1)
    exact ⟨configured, listed, measures⟩
  -- The packs are judged by the accumulators, and those by what was delivered to them.
  rw [numbers_contents_iff]
  constructor
  · intro all configured listed counted
    have known := mem_initFromConfig.mpr ⟨configured, listed, rfl⟩
    obtain ⟨pointAgg, entry⟩ := List.exists_of_mem_keys known
    have finite := (isFinite_flushedPoint configured.pointId pointAgg.unit
      ((configured.deliveriesIn events).map fun delivery => delivery.reading.value)).mp
      fun shown flushed => all shown
        (published.mem_iff.mpr (List.mem_filterMap.mpr ⟨_, entry, flushed⟩))
    rw [List.length_map] at finite
    obtain ⟨numbers, values, inRange⟩ := finite counted
    refine ⟨fun delivery received measures => ?_, fun numbers' numbered => ?_⟩
    · have own : delivery ∈ configured.deliveriesIn events :=
        List.mem_filter.mpr ⟨received, decide_eq_true measures.pointId⟩
      have listed' := List.mem_map_of_mem (f := fun delivery => delivery.reading.value) own
      rw [values] at listed'
      obtain ⟨number, _, same⟩ := List.mem_map.mp listed'
      exact (exists_yields_iff measures.value).mp
        ⟨number, (decodePoint_eq_finite_iff measures.value number).mp same.symm⟩
    · have same := numbered.values.symm.trans values
      rwa [List.map_injective_iff.mpr (fun _ _ => F64.finite.inj) same]
  · intro harmless shown member
    obtain ⟨e, entry, flushed⟩ := List.mem_filterMap.mp (published.mem_iff.mp member)
    refine (isFinite_flushedPoint e.1 e.2.unit _).mpr ?_ shown flushed
    rw [List.length_map]
    intro counted
    obtain ⟨configured, listed, same⟩ :=
      mem_initFromConfig.mp (List.mem_keys_of_mem entry)
    obtain ⟨_, inRange⟩ := harmless configured listed (by
      rw [ConfiguredPoint.deliveriesIn, same]; exact counted)
    rw [ConfiguredPoint.deliveriesIn, same] at inRange
    -- Every value under the entry's key was delivered for a configured point of these names.
    have numbers : ∀ delivery ∈ (windowDeliveries events).filter
        (fun d => d.reading.pointId = e.1), delivery.reading.value.isFinite = true := by
      intro delivery own
      obtain ⟨other, listed', measures⟩ := measured e.1 delivery own
      obtain ⟨received, named⟩ := List.mem_filter.mp own
      have same' : other.pointId = e.1 := measures.pointId.symm.trans (of_decide_eq_true named)
      have good := (harmless other listed' (by
        rw [ConfiguredPoint.deliveriesIn, same']; exact counted)).1 delivery received measures
      obtain ⟨number, yields⟩ := (exists_yields_iff measures.value).mpr good
      exact F64.isFinite_iff.mpr ⟨number, (decodePoint_eq_finite_iff measures.value _).mpr yields⟩
    obtain ⟨exact, values⟩ := F64.exists_map_finite fun value member => by
      obtain ⟨delivery, own, rfl⟩ := List.mem_map.mp member
      exact numbers delivery own
    exact ⟨exact, values, inRange exact (numbered_of_values (measured e.1) values)⟩

/-- Integer registers and a small scale are harmless, whatever the registers hold. -/
theorem values_are_numbers_iff_tempSensor :
    ∃ gateway batches gateway',
      Run (GatewayStep exampleConfig) (.startOfMinute exampleConfig) tempSensorEvents gateway ∧
      GatewayStep exampleConfig gateway (.tick ⟨60 * 10 ^ 9⟩ none batches) gateway' ∧
      ∀ batch ∈ batches,
        ∀ record ∈ encodeSenml batch exampleConfig.gateway.baseNamePrefix,
          record.v.toJson.isSome := by
  obtain ⟨gateway, batches, gateway', run, ticked, _⟩ := tempSensorEvents_run
  refine ⟨gateway, batches, gateway', run, ticked,
    (values_are_numbers_iff (start_eq_startOfMinute rfl) run ticked).mpr ?_⟩
  intro configured listed _
  have values : ∀ delivery ∈ windowDeliveries tempSensorEvents,
      delivery.reading.value.isFinite = true := by decide +kernel
  refine ⟨fun delivery received measures => ?_, fun numbers numbered => ?_⟩
  · obtain ⟨number, finite⟩ := F64.isFinite_iff.mp (values delivery received)
    exact (exists_yields_iff measures.value).mp
      ⟨number, (decodePoint_eq_finite_iff measures.value number).mp finite⟩
  · have sums : ∀ configured ∈ configuredPoints exampleConfig,
        F64.InRange (((configured.deliveriesIn tempSensorEvents).map fun delivery =>
          delivery.reading.value).filterMap F64.toJson) := by decide +kernel
    have inRange := sums configured listed
    have number : F64.toJson ∘ F64.finite = some := rfl
    rwa [numbered.values, List.filterMap_map, number, List.filterMap_some] at inRange

/-- A meter that returns an `f32` NaN for its voltage: the record published has no number. -/
theorem null_published_meterTcp1 :
    validate exampleHost exampleConfig = .ok () ∧
    ∃ gateway₀ events gateway handledAt batches gateway',
      Gateway.start exampleConfig ⟨0, by decide⟩ ⟨0⟩ = some gateway₀ ∧
      Run (GatewayStep exampleConfig) gateway₀ events gateway ∧
      GatewayStep exampleConfig gateway (.tick handledAt none batches) gateway' ∧
      (events.flatMap GatewayEvent.blockReads).map BlockRead.words =
        [[0x7fc0, 0, 0, 0, 0, 0, 0, 0]] ∧
      ∃ batch ∈ batches, ∃ record ∈
        encodeSenml batch exampleConfig.gateway.baseNamePrefix,
        record.n = "voltage_l1" ∧ record.v.toJson = none := by
  refine ⟨exampleConfig_accepted, _,
    [.poll meterTcp1 (.connect true) _, .poll meterTcp1 .tick _,
      .poll meterTcp1 (.response (some (.ok (.ok [0x7fc0, 0, 0, 0, 0, 0, 0, 0])))) _,
      .poll meterTcp1 (.trySend .ok) _, .receive _],
    _, ⟨60 * 10 ^ 9⟩, _, _, start_eq_startOfMinute rfl,
    .cons (.poll [] [_] _ _ _ _ _ _ _ (by simp) rfl)
      (.cons (.poll [] [_] _ _ _ _ _ _ _ (by simp) rfl)
      (.cons (.poll [] [_] _ _ _ _ _ _ _ (by simp) rfl)
      (.cons (.poll [] [_] _ _ _ _ _ _ _ (trySend_ok (by decide)) rfl)
      (.single (.receive _ _ _ _ _ _ (.reading _ _)))))),
    .tick _ _ _ _ _ _ _ _
      (.tick _ _ _ _ (le_refl _) ⟨_, List.Perm.refl _, List.Perm.refl _⟩ secondMinute),
    ?_, ?_⟩
  · decide +kernel
  · decide +kernel

end ModbusGateway
