import ModbusGateway.Config.WellFormed
import Mathlib.Data.List.Permutation

/-!
# What a configuration error names

The errors of `validate` about connections, each with the defect it reports. The
names in an error come out of what the loops have gathered: ids seen before,
tuples sorted by offset, ports entered by earlier connections. Each is traced
back to the configuration.
-/
namespace ModbusGateway

open Foundation

/-- Two elements at different places of a list. -/
def TwoOf {α : Type*} (xs : List α) (a b : α) : Prop :=
  ∃ i j : ℕ, i ≠ j ∧ xs[i]? = some a ∧ xs[j]? = some b

theorem TwoOf.symm {α : Type*} {xs : List α} {a b : α} (two : TwoOf xs a b) : TwoOf xs b a := by
  obtain ⟨i, j, apart, first, second⟩ := two
  exact ⟨j, i, apart.symm, second, first⟩

theorem twoOf_of_sublist {α : Type*} {xs : List α} {a b : α} (within : [a, b].Sublist xs) :
    TwoOf xs a b := by
  obtain ⟨before, after, rfl, first, second⟩ := List.cons_sublist_iff.mp within
  obtain ⟨i, hi⟩ := List.mem_iff_getElem?.mp first
  obtain ⟨j, hj⟩ := List.mem_iff_getElem?.mp (List.singleton_sublist.mp second)
  have inside := (List.getElem?_eq_some_iff.mp hi).1
  refine ⟨i, before.length + j, by omega, ?_, ?_⟩
  · rw [List.getElem?_append_left inside, hi]
  · rw [List.getElem?_append_right (by omega), Nat.add_sub_cancel_left, hj]

/-- What holds of any two elements, in either order, holds of these. -/
theorem TwoOf.rel {α : Type*} {R : α → α → Prop} {xs : List α} {a b : α} (two : TwoOf xs a b)
    (symm : ∀ {a b}, R a b → R b a) (pairwise : xs.Pairwise R) : R a b := by
  obtain ⟨i, j, apart, first, second⟩ := two
  obtain ⟨hi, rfl⟩ := List.getElem?_eq_some_iff.mp first
  obtain ⟨hj, rfl⟩ := List.getElem?_eq_some_iff.mp second
  have ordered := List.pairwise_iff_getElem.mp pairwise
  rcases Nat.lt_or_gt_of_ne apart with before | after
  · exact ordered i j hi hj before
  · exact symm (ordered j i hj hi after)

/-- Two neighbours of a list are two elements of any other order of it. -/
theorem twoOf_of_perm {α : Type*} {xs before after : List α} {a b : α}
    (perm : (before ++ a :: b :: after).Perm xs) : TwoOf xs a b := by
  have within : [a, b].Sublist (before ++ a :: b :: after) :=
    (List.prefix_append [a, b] after).sublist.trans (List.sublist_append_right before _)
  obtain ⟨pair, same, within'⟩ := within.subperm.trans perm.subperm
  rcases List.perm_pair.mp same with rfl | rfl
  · exact twoOf_of_sublist within'
  · exact (twoOf_of_sublist within').symm

/-! ### The defects -/

/-- An error about a connection, behind the connections that `validate` passed before it, with
the defect that it names. -/
inductive Blames (earlier : List ConnectionConfig) (conn : ConnectionConfig) :
    ValidationError → Prop where
  | zeroInterval (zero : conn.pollIntervalSecs = 0) :
      Blames earlier conn (.zeroInterval s!"connection '{conn.id}': poll_interval_secs")
  | duplicateUnitId (first second : DeviceConfig) (two : TwoOf conn.devices first second)
      (same : first.unitId = second.unitId) :
      Blames earlier conn (.duplicateUnitId conn.id second.unitId)
  | dataBits (serialPort : String) (baudRate : UInt32) (dataBits : UInt8) (parity : Parity)
      (stopBits : UInt8) (interFrameDelayMs : UInt64)
      (transport : conn.transport =
        .rtu serialPort baudRate dataBits parity stopBits interFrameDelayMs)
      (unsupported : ¬(5 ≤ dataBits ∧ dataBits ≤ 8)) :
      Blames earlier conn (.unsupportedSerialSetting conn.id "data_bits" dataBits "5, 6, 7, 8")
  | stopBits (serialPort : String) (baudRate : UInt32) (dataBits : UInt8) (parity : Parity)
      (stopBits : UInt8) (interFrameDelayMs : UInt64)
      (transport : conn.transport =
        .rtu serialPort baudRate dataBits parity stopBits interFrameDelayMs)
      (unsupported : ¬(1 ≤ stopBits ∧ stopBits ≤ 2)) :
      Blames earlier conn (.unsupportedSerialSetting conn.id "stop_bits" stopBits "1, 2")
  | duplicateSerialPort (serialPort : String) (first : ConnectionConfig) (member : first ∈ earlier)
      (uses : first.transport.serialPort? = some serialPort)
      (usesAgain : conn.transport.serialPort? = some serialPort) :
      Blames earlier conn (.duplicateSerialPort serialPort first.id conn.id)
  | blockTooLarge (device : DeviceConfig) (block : BlockConfig) (owner : device ∈ conn.devices)
      (member : block ∈ device.blocks) (large : 125 < block.count.toNat) :
      Blames earlier conn (.blockTooLarge conn.id device.id block.start block.count)
  | pointOutOfBounds (device : DeviceConfig) (block : BlockConfig) (p : PointConfig)
      (owner : device ∈ conn.devices) (member : block ∈ device.blocks) (point : p ∈ block.points)
      (outside : block.count.toNat < p.offset.toNat + p.dataType.wordCount.toNat) :
      Blames earlier conn (.pointOutOfBounds conn.id device.id block.start p.name p.offset
        p.dataType.wordCount block.count)
  | overlappingPoints (device : DeviceConfig) (block : BlockConfig) (a b : PointConfig)
      (owner : device ∈ conn.devices) (member : block ∈ device.blocks)
      (two : TwoOf block.points a b) (overlap : (a.span.points ∩ b.span.points).Nonempty) :
      Blames earlier conn (.overlappingPoints conn.id device.id block.start a.name b.name)

/-- A defect of a connection, given those before it: what it says of itself, or a serial port
that one of them uses. -/
def Defective (earlier : List ConnectionConfig) (conn : ConnectionConfig) : Prop :=
  ¬ conn.WellFormed ∨ ∃ serialPort, conn.transport.serialPort? = some serialPort ∧
    ∃ first ∈ earlier, first.transport.serialPort? = some serialPort

/-- The errors about connections; those about intervals are told apart by the field. -/
def ValidationError.AboutConnections : ValidationError → Prop
  | .zeroInterval field => field ≠ "gateway.aggregation_window_secs"
  | .duplicateUnitId .. | .duplicateSerialPort .. | .unsupportedSerialSetting ..
  | .blockTooLarge .. | .pointOutOfBounds .. | .overlappingPoints .. => True
  | .invalidQos _ | .invalidLogLevel _ | .caCertUnreadable .. | .caCertEmpty _
  | .caCertUnparseable .. => False

/-! ### One connection -/

theorem checkUnitIds_error {connection : String} {devices : List DeviceConfig}
    {seen : List UInt8} {e : ValidationError}
    (failed : checkUnitIds connection devices seen = .error e) :
    ∃ before device after, devices = before ++ device :: after ∧
      (device.unitId ∈ seen ∨ ∃ first ∈ before, first.unitId = device.unitId) ∧
      e = .duplicateUnitId connection device.unitId := by
  induction devices generalizing seen with
  | nil => cases failed
  | cons device devices ih =>
    rw [checkUnitIds, ite_error_error_iff] at failed
    rcases failed with ⟨again, rfl⟩ | ⟨_, rest⟩
    · exact ⟨[], device, devices, rfl, .inl again, rfl⟩
    · obtain ⟨before, second, after, rfl, again, rfl⟩ := ih rest
      refine ⟨device :: before, second, after, rfl, ?_, rfl⟩
      -- What is seen by then is this device or one that was seen before the list.
      rcases again with known | ⟨first, member, same⟩
      · rcases List.mem_cons.mp known with same | earlier
        · exact .inr ⟨device, List.mem_cons_self, same.symm⟩
        · exact .inl earlier
      · exact .inr ⟨first, List.mem_cons_of_mem device member, same⟩

theorem twoOf_of_mem {α : Type*} {before after : List α} {a b : α} (member : a ∈ before) :
    TwoOf (before ++ b :: after) a b :=
  twoOf_of_sublist (List.Sublist.append (List.singleton_sublist.mpr member)
    (List.singleton_sublist.mpr List.mem_cons_self))

theorem blames_of_checkUnitIds {earlier : List ConnectionConfig} {conn : ConnectionConfig}
    {e : ValidationError} (failed : checkUnitIds conn.id conn.devices [] = .error e) :
    Blames earlier conn e := by
  obtain ⟨before, second, after, devices, again, rfl⟩ := checkUnitIds_error failed
  rcases again with known | ⟨first, member, same⟩
  · cases known
  · exact .duplicateUnitId first second (devices ▸ twoOf_of_mem member) same

/-- The ports entered are those of the connections passed, under the ids of their users. -/
def Entered (earlier : List ConnectionConfig) (ports : HashMap String String) : Prop :=
  ∀ serialPort id, ports.lookup serialPort = some id →
    ∃ first ∈ earlier, first.transport.serialPort? = some serialPort ∧ first.id = id

theorem blames_of_checkTransport {earlier : List ConnectionConfig} {conn : ConnectionConfig}
    {ports : HashMap String String} {e : ValidationError} (entered : Entered earlier ports)
    (failed : checkTransport ports conn = .error e) : Blames earlier conn e := by
  unfold checkTransport at failed
  split at failed
  next => cases failed
  next serialPort baudRate dataBits parity stopBits interFrameDelayMs shape =>
    simp only [ite_error_error_iff] at failed
    rcases failed with ⟨unsupported, rfl⟩ | ⟨_, ⟨unsupported, rfl⟩ | ⟨_, found⟩⟩
    · exact .dataBits _ _ _ _ _ _ shape unsupported
    · exact .stopBits _ _ _ _ _ _ shape unsupported
    · split at found
      next first lookup =>
        cases found
        obtain ⟨user, member, uses, rfl⟩ := entered serialPort first lookup
        exact .duplicateSerialPort serialPort user member uses (by rw [shape]; rfl)
      next => cases found

/-! ### One block -/

theorem collectSpans_error {connection device : String} {block : BlockConfig}
    {points : List PointConfig} {spans : List (UInt16 × UInt16 × String)} {e : ValidationError}
    (failed : collectSpans connection device block points spans = .error e) :
    ∃ p ∈ points, block.count.toNat < p.offset.toNat + p.dataType.wordCount.toNat ∧
      e = .pointOutOfBounds connection device block.start p.name p.offset p.dataType.wordCount
        block.count := by
  induction points generalizing spans with
  | nil => cases failed
  | cons p points ih =>
    rw [collectSpans, ite_error_error_iff, pointEnd_gt_iff] at failed
    rcases failed with ⟨outside, rfl⟩ | ⟨_, rest⟩
    · exact ⟨p, List.mem_cons_self, outside, rfl⟩
    · obtain ⟨q, member, later⟩ := ih rest
      exact ⟨q, List.mem_cons_of_mem p member, later⟩

theorem checkNeighbours_error {connection device : String} {block : BlockConfig}
    {spans : List (UInt16 × UInt16 × String)} {e : ValidationError}
    (failed : checkNeighbours connection device block spans = .error e) :
    ∃ before a b after, spans = before ++ a :: b :: after ∧ b.1 < a.2.1 ∧
      e = .overlappingPoints connection device block.start a.2.2 b.2.2 := by
  induction spans with
  | nil => cases failed
  | cons a spans ih =>
    cases spans with
    | nil => cases failed
    | cons b spans =>
      rw [checkNeighbours, ite_error_error_iff] at failed
      rcases failed with ⟨overlap, rfl⟩ | ⟨_, rest⟩
      · exact ⟨[], a, b, spans, rfl, overlap, rfl⟩
      · obtain ⟨before, a', b', after, shape, later⟩ := ih rest
        exact ⟨a :: before, a', b', after, by rw [shape, List.cons_append], later⟩

/-- Sorted neighbours are two points of the block, and where the later one starts both are. -/
theorem exists_overlap {block : BlockConfig} {before after : List (UInt16 × UInt16 × String)}
    {s t : UInt16 × UInt16 × String}
    (fits : ∀ p ∈ block.points, p.offset.toNat + p.dataType.wordCount.toNat ≤ block.count.toNat)
    (shape : (block.points.map spanTuple).insertionSort (fun s t => s.1 ≤ t.1) =
      before ++ s :: t :: after) (overlap : t.1 < s.2.1) :
    ∃ a b, TwoOf block.points a b ∧ (a.span.points ∩ b.span.points).Nonempty ∧
      a.name = s.2.2 ∧ b.name = t.2.2 := by
  rw [sorted_spans] at shape
  have perm := List.perm_insertionSort (fun p q : PointConfig => p.offset ≤ q.offset) block.points
  have sorted := pairwise_insertionSort_offset block.points
  -- The two spans are those of points, in the order of their offsets.
  obtain ⟨before', rest, points, rfl, behind⟩ := List.map_eq_append_iff.mp shape
  obtain ⟨a, rest', rfl, rfl, behind'⟩ := List.map_eq_cons_iff.mp behind
  obtain ⟨b, after', rfl, rfl, rfl⟩ := List.map_eq_cons_iff.mp behind'
  rw [points] at perm sorted
  have member : a ∈ block.points := perm.subset (by simp)
  have ordered : a.offset ≤ b.offset :=
    List.rel_of_pairwise_cons (List.pairwise_append.mp sorted).2.1 List.mem_cons_self
  refine ⟨a, b, twoOf_of_perm perm, ⟨b.offset.toNat, ⟨?_, ?_⟩, Nat.le_refl _, ?_⟩, rfl, rfl⟩
  · exact UInt16.le_iff_toNat_le.mp ordered
  · have sum := toNat_offset_add_wordCount a block (fits a member)
    have before := UInt16.lt_iff_toNat_lt.mp overlap
    rw [spanTuple, spanTuple] at before
    dsimp only at before
    rw [sum] at before
    exact before
  · exact b.span.nonempty

theorem blames_of_checkBlock {earlier : List ConnectionConfig} {conn : ConnectionConfig}
    {device : DeviceConfig} {block : BlockConfig} {e : ValidationError}
    (owner : device ∈ conn.devices) (member : block ∈ device.blocks)
    (failed : checkBlock conn.id device.id block = .error e) : Blames earlier conn e := by
  rw [checkBlock, ite_error_error_iff, bind_error_iff] at failed
  rcases failed with ⟨large, rfl⟩ | ⟨_, outside | ⟨spans, collected, overlap⟩⟩
  · exact .blockTooLarge device block owner member (UInt16.lt_iff_toNat_lt.mp large)
  · obtain ⟨p, point, beyond, rfl⟩ := collectSpans_error outside
    exact .pointOutOfBounds device block p owner member point beyond
  · obtain ⟨fits, rfl⟩ := (collectSpans_ok_iff _ _ _ _ _ _).mp collected
    obtain ⟨before, s, t, after, shape, starts, rfl⟩ := checkNeighbours_error overlap
    obtain ⟨a, b, two, meet, first, second⟩ := exists_overlap fits shape starts
    rw [← first, ← second]
    exact .overlappingPoints device block a b owner member two meet

theorem blames_of_validateConnection {earlier : List ConnectionConfig} {conn : ConnectionConfig}
    {ports : HashMap String String} {e : ValidationError} (entered : Entered earlier ports)
    (failed : validateConnection ports conn = .error e) : Blames earlier conn e := by
  simp only [validateConnection, ite_error_error_iff, bind_error_iff] at failed
  rcases failed with ⟨zero, rfl⟩ | ⟨_, units | ⟨_, _, transport | ⟨_, _, blocks | ⟨_, _, done⟩⟩⟩⟩
  · exact .zeroInterval zero
  · exact blames_of_checkUnitIds units
  · exact blames_of_checkTransport entered transport
  · obtain ⟨device, owner, failed⟩ := exists_of_forM_error blocks
    obtain ⟨block, member, failed⟩ := exists_of_forM_error failed
    exact blames_of_checkBlock owner member failed
  · cases done

theorem Blames.defective {earlier : List ConnectionConfig} {conn : ConnectionConfig}
    {e : ValidationError} (blames : Blames earlier conn e) : Defective earlier conn := by
  cases blames with
  | zeroInterval zero =>
    refine .inl fun good => ?_
    have positive := good.poll_interval_pos
    rw [zero] at positive
    exact absurd positive (by decide)
  | duplicateUnitId first second two same =>
    refine .inl fun good => ?_
    have distinct := List.pairwise_map.mp good.unit_ids_distinct
    exact two.rel (fun different => different.symm) distinct same
  | dataBits serialPort baudRate dataBits parity stopBits delay transport unsupported =>
    refine .inl fun good => unsupported ?_
    have settings := good.transport
    rw [transport] at settings
    exact settings.1
  | stopBits serialPort baudRate dataBits parity stopBits delay transport unsupported =>
    refine .inl fun good => unsupported ?_
    have settings := good.transport
    rw [transport] at settings
    exact settings.2
  | duplicateSerialPort serialPort first member uses usesAgain =>
    exact .inr ⟨serialPort, usesAgain, first, member, uses⟩
  | blockTooLarge device block owner member large =>
    refine .inl fun good => ?_
    have small := (good.blocks device owner block member).count_le
    omega
  | pointOutOfBounds device block p owner member point outside =>
    refine .inl fun good => ?_
    have inside := (good.blocks device owner block member).in_bounds p point
    omega
  | overlappingPoints device block a b owner member two overlap =>
    refine .inl fun good => ?_
    have disjoint := (good.blocks device owner block member).disjoint
    have apart := two.rel (fun apart => apart.symm) disjoint
    exact Set.not_disjoint_iff_nonempty_inter.mpr overlap apart

/-! ### The loop over the connections -/

theorem Entered.enter {earlier : List ConnectionConfig} {conn : ConnectionConfig}
    {ports ports' : HashMap String String} (entered : Entered earlier ports)
    (enters : conn.transport.Enters conn.id ports ports') :
    Entered (earlier ++ [conn]) ports' := by
  intro serialPort id lookup
  cases shape : conn.transport with
  | tcp host port =>
    rw [shape] at enters
    obtain rfl := enters
    obtain ⟨first, member, uses⟩ := entered serialPort id lookup
    exact ⟨first, List.mem_append_left _ member, uses⟩
  | rtu own baudRate dataBits parity stopBits interFrameDelayMs =>
    rw [shape] at enters
    obtain ⟨_, rfl⟩ := enters
    by_cases same : serialPort = own
    · subst same
      rw [AList.lookup_insert] at lookup
      cases lookup
      exact ⟨conn, List.mem_append_right _ List.mem_cons_self, by rw [shape]; rfl, rfl⟩
    · rw [AList.lookup_insert_ne same] at lookup
      obtain ⟨first, member, uses⟩ := entered serialPort id lookup
      exact ⟨first, List.mem_append_left _ member, uses⟩

theorem Entered.enterAll {earlier conns : List ConnectionConfig}
    {ports ports' : HashMap String String} (entered : Entered earlier ports)
    (passed : conns.foldlM validateConnection ports = .ok ports') :
    Entered (earlier ++ conns) ports' := by
  induction conns generalizing earlier ports with
  | nil =>
    cases passed
    rwa [List.append_nil]
  | cons conn conns ih =>
    rw [List.foldlM_cons, bind_ok_iff] at passed
    obtain ⟨ports'', first, rest⟩ := passed
    have entered' := entered.enter ((validateConnection_ok_iff _ _ _).mp first).2
    rw [← List.singleton_append, ← List.append_assoc]
    exact ih entered' rest

/-- Connections that the loop has passed have no defect. -/
theorem not_defective_of_passed {earlier before after : List ConnectionConfig}
    {other : ConnectionConfig} {ports : HashMap String String}
    (passed : earlier.foldlM validateConnection ∅ = .ok ports)
    (split : earlier = before ++ other :: after) : ¬ Defective before other := by
  obtain ⟨good, distinct, _⟩ := (validateConnections_ok_iff earlier ∅).mp ⟨ports, passed⟩
  subst split
  rintro (bad | ⟨serialPort, usesAgain, first, member, uses⟩)
  · exact bad (good other (by simp))
  · rw [List.filterMap_append, List.nodup_append] at distinct
    exact distinct.2.2 serialPort (List.mem_filterMap.mpr ⟨first, member, uses⟩) serialPort
      (List.mem_filterMap.mpr ⟨other, List.mem_cons_self, usesAgain⟩) rfl

/-- The errors of the certificate are about no connection. -/
theorem not_about_of_validateCaCert {host : Host} {path : String} {e : ValidationError}
    (failed : validateCaCert host path = .error e) : ¬ e.AboutConnections := by
  unfold validateCaCert at failed
  cases read : host.readFile path with
  | error source =>
    rw [read] at failed
    cases failed
    exact id
  | ok bytes =>
    cases parsed : host.pemCerts bytes with
    | error source =>
      simp only [read, parsed] at failed
      cases failed
      exact id
    | ok certs =>
      simp only [read, parsed] at failed
      split at failed
      next => cases failed; exact id
      next => cases failed

/-- An error about connections names things that exist and the defect they have, and it is the
first connection with any defect that it is about. -/
theorem error_names_culprit (host : Host) (config : Config) (e : ValidationError)
    (rejected : validate host config = .error e) (about : e.AboutConnections) :
    ∃ earlier conn later, config.connections = earlier ++ conn :: later ∧
      Blames earlier conn e ∧ Defective earlier conn ∧
      ∀ before other after, earlier = before ++ other :: after → ¬ Defective before other := by
  simp only [validate, ite_error_error_iff, bind_error_iff] at rejected
  rcases rejected with ⟨_, rfl⟩ | ⟨_, ⟨_, rfl⟩ | ⟨_, ⟨_, rfl⟩ | ⟨_, failed | ⟨_, _, cert⟩⟩⟩⟩
  · exact absurd rfl about
  · cases about
  · cases about
  · obtain ⟨earlier, conn, later, ports, split, passed, failed⟩ := exists_of_foldlM_error failed
    have nothing : Entered [] ∅ := by
      intro serialPort id lookup
      cases lookup
    have blames : Blames earlier conn e :=
      blames_of_validateConnection (nothing.enterAll passed) failed
    exact ⟨earlier, conn, later, split, blames, blames.defective,
      fun before other after shape => not_defective_of_passed passed shape⟩
  · exact absurd about (not_about_of_validateCaCert cert)

/-- Two buses on one port, and behind them a connection with a defect of its own. -/
def sharedPortConfig : Config :=
  { exampleConfig with
    connections := [meterTcp1, rs485Bus1, { rs485Bus1 with id := "rs485-bus2" },
      { meterTcp1 with pollIntervalSecs := 0 }] }

theorem error_names_culprit_sharedPort :
    ∃ earlier conn later, sharedPortConfig.connections = earlier ++ conn :: later ∧
      Blames earlier conn (.duplicateSerialPort
        "/dev/serial/by-id/usb-FTDI_USB-RS485-if00-port0" "rs485-bus1" "rs485-bus2") ∧
      Defective earlier conn ∧
      ∀ before other after, earlier = before ++ other :: after → ¬ Defective before other :=
  error_names_culprit exampleHost sharedPortConfig _ (by decide) trivial

end ModbusGateway
