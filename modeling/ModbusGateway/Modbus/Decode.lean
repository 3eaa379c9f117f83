import ModbusGateway.Config.WellFormed
import ModbusGateway.Foundation.Layout

/-!
# Decoding register blocks

Indexing outside the words panics in the source and has no result here. The
other direction, raw values laid out in registers, is not in the source: it
says what decoding is for, and decoding is proved to undo it.
-/
namespace ModbusGateway

open Foundation

/-- Combines two consecutive registers per the block's word order. -/
def combineU32 (words : List UInt16) (idx : Nat) (wordOrder : WordOrder) : Option UInt32 := do
  -- In big-endian order the lower address holds the high word.
  let (hi, lo) ← match wordOrder with
    | .bigEndian => do pure (← words[idx]?, ← words[idx + 1]?)
    | .littleEndian => do pure (← words[idx + 1]?, ← words[idx]?)
  return hi.toUInt32 <<< 16 ||| lo.toUInt32

def extractRaw (words : List UInt16) (offset : UInt16) (dataType : DataType)
    (wordOrder : WordOrder) : Option F64 :=
  let idx := offset.toNat
  match dataType with
  | .u16 => words[idx]?.map fun w => .ofInt w.toNat
  | .i16 => words[idx]?.map fun w => .ofInt w.toInt16.toInt
  | .u32 => (combineU32 words idx wordOrder).map fun v => .ofInt v.toNat
  | .i32 => (combineU32 words idx wordOrder).map fun v => .ofInt v.toInt32.toInt
  | .f32 => (combineU32 words idx wordOrder).map .ofF32Bits

def PointConfig.scaled (p : PointConfig) (raw : F64) : F64 :=
  let value := raw * p.scale
  if p.absolute then value.abs else value

def decodePoint (wordOrder : WordOrder) (words : List UInt16) (p : PointConfig) :
    Option (String × F64) := do
  let raw ← extractRaw words p.offset p.dataType wordOrder
  return (p.name, p.scaled raw)

def decode (block : BlockConfig) (words : List UInt16) : Option (List (String × F64)) :=
  block.points.mapM (decodePoint block.wordOrder words)

/-! ### Raw values and their registers -/

/-- What the registers of a type hold; an `f32` is its bit pattern. -/
inductive Raw : DataType → Type where
  | u16 (v : UInt16) : Raw .u16
  | i16 (v : Int16) : Raw .i16
  | u32 (v : UInt32) : Raw .u32
  | i32 (v : Int32) : Raw .i32
  | f32 (bits : UInt32) : Raw .f32

/-- The two registers of a 32-bit value, lower address first. -/
def splitU32 (v : UInt32) : WordOrder → List UInt16
  | .bigEndian => [(v >>> 16).toUInt16, v.toUInt16]
  | .littleEndian => [v.toUInt16, (v >>> 16).toUInt16]

namespace Raw

def registers (wordOrder : WordOrder) {t : DataType} : Raw t → List UInt16
  | u16 v => [v]
  | i16 v => [v.toUInt16]
  | u32 v => splitU32 v wordOrder
  | i32 v => splitU32 v.toUInt32 wordOrder
  | f32 bits => splitU32 bits wordOrder

def toF64 {t : DataType} : Raw t → F64
  | u16 v => .ofInt v.toNat
  | i16 v => .ofInt v.toInt
  | u32 v => .ofInt v.toNat
  | i32 v => .ofInt v.toInt
  | f32 bits => .ofF32Bits bits

end Raw

theorem length_splitU32 (v : UInt32) (wordOrder : WordOrder) :
    (splitU32 v wordOrder).length = 2 := by
  cases wordOrder <;> rfl

theorem Raw.length_registers (wordOrder : WordOrder) {t : DataType} (raw : Raw t) :
    (raw.registers wordOrder).length = t.wordCount.toNat := by
  cases raw with
  | u16 | i16 => rfl
  | u32 | i32 | f32 => exact length_splitU32 _ _

/-- Halving a 32-bit value and putting the halves together again. -/
theorem combine_halves (v : UInt32) :
    (v >>> 16).toUInt16.toUInt32 <<< 16 ||| v.toUInt16.toUInt32 = v := by
  apply UInt32.toNat_inj.mp
  have bound := v.toNat_lt
  have low : v.toNat % 2 ^ 16 < 2 ^ 16 := Nat.mod_lt _ (by decide)
  have high : v.toNat / 2 ^ 16 < 2 ^ 16 := by omega
  simp only [UInt32.toNat_or, UInt32.toNat_shiftLeft, UInt16.toNat_toUInt32,
    UInt32.toNat_toUInt16, UInt32.toNat_shiftRight, Nat.shiftRight_eq_div_pow,
    UInt32.reduceToNat, Nat.reduceMod, Nat.shiftLeft_eq]
  rw [Nat.mod_eq_of_lt high, Nat.mod_eq_of_lt (by omega), Nat.mul_comm,
    ← Nat.two_pow_add_eq_or_of_lt low]
  omega

theorem combineU32_splitU32 (words : List UInt16) (idx : Nat) (wordOrder : WordOrder)
    (v : UInt32) (first : words[idx]? = (splitU32 v wordOrder)[0]?)
    (second : words[idx + 1]? = (splitU32 v wordOrder)[1]?) :
    combineU32 words idx wordOrder = some v := by
  have whole := combine_halves v
  cases wordOrder <;>
    simp only [splitU32, List.getElem?_cons_zero, List.getElem?_cons_succ] at first second <;>
    simp only [combineU32, first, second, pure, Option.bind_eq_bind, Option.bind_some, whole]

/-- Extraction is the inverse of laying out. -/
theorem extractRaw_registers (words : List UInt16) (offset : UInt16) {t : DataType}
    (wordOrder : WordOrder) (raw : Raw t)
    (laid : ∀ i < t.wordCount.toNat, words[offset.toNat + i]? = (raw.registers wordOrder)[i]?) :
    extractRaw words offset t wordOrder = some raw.toF64 := by
  have first := laid 0 t.wordCount_pos
  rw [Nat.add_zero] at first
  -- One register decides the 16-bit types; the others need the next one as well.
  cases raw with
  | u16 | i16 =>
    simp only [Raw.registers, List.getElem?_cons_zero] at first
    simp [extractRaw, first, Raw.toF64]
  | u32 | i32 | f32 =>
    have second := laid 1 (by decide)
    simp only [Raw.registers] at first second
    simp [extractRaw, combineU32_splitU32 words _ wordOrder _ first second, Raw.toF64]

/-! ### Images of a block -/

namespace BlockConfig

/-- The registers of each point's raw value, at the point's offset. -/
def segments (block : BlockConfig) (raw : (p : PointConfig) → Raw p.dataType) :
    List (Segment UInt16) :=
  block.points.map fun p => ⟨p.offset.toNat, (raw p).registers block.wordOrder⟩

end BlockConfig

theorem cell?_isSome_iff_mem_span (p : PointConfig) (wordOrder : WordOrder)
    (raw : Raw p.dataType) (i : Nat) :
    (Segment.cell? ⟨p.offset.toNat, raw.registers wordOrder⟩ i).isSome ↔
      i ∈ p.span.points := by
  rw [Segment.cell?_isSome_iff, Raw.length_registers]
  rfl

theorem segments_apart {block : BlockConfig} (good : block.WellFormed)
    (raw : (p : PointConfig) → Raw p.dataType) :
    (block.segments raw).Pairwise Segment.Apart := by
  refine List.pairwise_map.mpr (good.disjoint.imp fun {p q} apart i => ?_)
  by_contra both
  rw [not_or, ← Ne.eq_def, ← Ne.eq_def, ← Option.isSome_iff_ne_none,
    ← Option.isSome_iff_ne_none, cell?_isSome_iff_mem_span, cell?_isSome_iff_mem_span] at both
  exact Set.disjoint_left.mp apart both.1 both.2

theorem segments_inside {block : BlockConfig} (good : block.WellFormed)
    (raw : (p : PointConfig) → Raw p.dataType) :
    ∀ s ∈ block.segments raw, s.start + s.cells.length ≤ block.count.toNat := by
  intro s member
  obtain ⟨p, listed, rfl⟩ := List.mem_map.mp member
  simpa only [Raw.length_registers] using good.in_bounds p listed

/-- Decoding an image gives back the laid out values. -/
theorem decode_image {block : BlockConfig} {raw : (p : PointConfig) → Raw p.dataType}
    {filler : Nat → UInt16} {words : List UInt16}
    (image : Segment.IsImage (block.segments raw) filler block.count.toNat words) :
    decode block words =
      some (block.points.map fun p => (p.name, p.scaled ((raw p).toF64))) := by
  rw [decode, mapM_eq_some_iff, List.map_map]
  apply List.map_congr_left
  intro p listed
  have extracted : extractRaw words p.offset p.dataType block.wordOrder =
      some (raw p).toF64 := by
    apply extractRaw_registers
    intro i inside
    -- At the point's offset the image holds the cells of the point's own segment.
    have segment : ⟨p.offset.toNat, (raw p).registers block.wordOrder⟩ ∈
        block.segments raw := List.mem_map_of_mem listed
    rw [← (raw p).length_registers block.wordOrder] at inside
    rw [List.getElem?_eq_getElem inside]
    apply image.cells_eq _ segment
    rw [Segment.cell?_start_add]
    exact List.getElem?_eq_getElem inside
  simp [decodePoint, extracted]

/-! ### Blocks of any contents -/

theorem decodePoint_congr (wordOrder : WordOrder) {words words' : List UInt16} (p : PointConfig)
    (same : ∀ i ∈ p.span.points, words[i]? = words'[i]?) :
    decodePoint wordOrder words p = decodePoint wordOrder words' p := by
  have first : words[p.offset.toNat]? = words'[p.offset.toNat]? :=
    same _ ⟨le_refl _, p.span.nonempty⟩
  have second : p.dataType.wordCount.toNat = 2 →
      words[p.offset.toNat + 1]? = words'[p.offset.toNat + 1]? := by
    intro width
    apply same
    simp only [Span.points, PointConfig.span, width, Set.mem_Ico]
    omega
  unfold decodePoint extractRaw combineU32
  cases type : p.dataType with
  | u16 | i16 => simp only [first]
  | u32 | i32 | f32 =>
    rw [type] at second
    simp only [first, second rfl]

theorem isSome_combineU32_iff (words : List UInt16) (idx : Nat) (wordOrder : WordOrder) :
    (combineU32 words idx wordOrder).isSome ↔ idx + 1 < words.length := by
  have second : (words[idx + 1]?).isSome ↔ idx + 1 < words.length := by simp
  have first : (words[idx + 1]?).isSome → (words[idx]?).isSome := by
    simp only [isSome_getElem?]
    omega
  rw [← second]
  unfold combineU32
  generalize words[idx]? = low at first ⊢
  generalize words[idx + 1]? = high at first ⊢
  cases wordOrder <;> cases low <;> cases high <;> simp_all

/-- A point decodes from the replies that reach to its last register. -/
theorem isSome_decodePoint_iff (wordOrder : WordOrder) (words : List UInt16) (p : PointConfig) :
    (decodePoint wordOrder words p).isSome ↔
      p.offset.toNat + p.dataType.wordCount.toNat ≤ words.length := by
  have extracted : (decodePoint wordOrder words p).isSome =
      (extractRaw words p.offset p.dataType wordOrder).isSome := by
    unfold decodePoint
    cases extractRaw words p.offset p.dataType wordOrder <;> rfl
  rw [extracted]
  unfold extractRaw
  cases p.dataType with
  | u16 | i16 =>
    simp only [Option.isSome_map, isSome_getElem?, DataType.wordCount, UInt16.reduceToNat]
    exact Nat.lt_iff_add_one_le
  | u32 | i32 | f32 =>
    simp only [Option.isSome_map, isSome_combineU32_iff, DataType.wordCount, UInt16.reduceToNat]
    exact Nat.lt_iff_add_one_le

theorem name_of_decodePoint {wordOrder : WordOrder} {words : List UInt16} {p : PointConfig}
    {value : String × F64} (decoded : decodePoint wordOrder words p = some value) :
    value.1 = p.name := by
  obtain ⟨raw, _, shape⟩ := Option.bind_eq_some_iff.mp decoded
  rw [← Option.some.inj shape]

/-- Whether every point of a block lies within a reply. -/
def BlockConfig.Covered (block : BlockConfig) (words : List UInt16) : Prop :=
  ∀ p ∈ block.points, p.offset.toNat + p.dataType.wordCount.toNat ≤ words.length

instance (block : BlockConfig) (words : List UInt16) : Decidable (block.Covered words) :=
  inferInstanceAs (Decidable (∀ p ∈ block.points, _))

theorem exists_decode_iff (block : BlockConfig) (words : List UInt16) :
    (∃ values, decode block words = some values) ↔ block.Covered words := by
  rw [decode, exists_mapM_eq_some_iff]
  exact forall₂_congr fun p _ => isSome_decodePoint_iff block.wordOrder words p

/-- There is one value for each point. -/
theorem names_of_decode {block : BlockConfig} {words : List UInt16}
    {values : List (String × F64)} (decoded : decode block words = some values) :
    values.map Prod.fst = block.points.map PointConfig.name := by
  have each := (exists_mapM_eq_some_iff _ _).mp ⟨values, decoded⟩
  rw [decode, mapM_eq_some_iff] at decoded
  -- Forgetting the values on both sides leaves the names in the order of the points.
  have names := congrArg (List.map (Option.map Prod.fst)) decoded
  simp only [List.map_map, Function.comp_def, Option.map_some] at names
  apply List.map_injective_iff.mpr (Option.some_injective _)
  rw [List.map_map, List.map_map, Function.comp_def, ← names]
  apply List.map_congr_left
  intro p listed
  obtain ⟨value, found⟩ := Option.isSome_iff_exists.mp (each p listed)
  simp [found, name_of_decodePoint found]

/-- A full reply decodes, to one value for each point. -/
theorem decode_full {block : BlockConfig} (good : block.WellFormed) {words : List UInt16}
    (full : words.length = block.count.toNat) :
    ∃ values, decode block words = some values ∧
      values.map Prod.fst = block.points.map PointConfig.name := by
  have covered : block.Covered words := fun p listed => full ▸ good.in_bounds p listed
  obtain ⟨values, decoded⟩ := (exists_decode_iff block words).mpr covered
  exact ⟨values, decoded, names_of_decode decoded⟩

/-- On every block of an accepted configuration, any assignment of raw values has
exactly one register image for a given filler, and decoding it returns each
point's own value. Replies that agree on a point's span decode to the same
value for that point. -/
theorem decode_undoes_layout {host : Host} {config : Config}
    (accepted : validate host config = .ok ()) {conn : ConnectionConfig}
    (connected : conn ∈ config.connections) {device : DeviceConfig}
    (configured : device ∈ conn.devices) {block : BlockConfig} (listed : block ∈ device.blocks) :
    (∀ (raw : (p : PointConfig) → Raw p.dataType) (filler : Nat → UInt16),
      ∃ words, Segment.IsImage (block.segments raw) filler block.count.toNat words ∧
        (∀ other, Segment.IsImage (block.segments raw) filler block.count.toNat other →
          other = words) ∧
        decode block words =
          some (block.points.map fun p => (p.name, p.scaled (raw p).toF64))) ∧
    (∀ words words' : List UInt16, words.length = block.count.toNat →
      words'.length = block.count.toNat →
      ∀ (k : Nat) (p : PointConfig), block.points[k]? = some p →
      (∀ i ∈ p.span.points, words[i]? = words'[i]?) →
      ∃ values values', decode block words = some values ∧ decode block words' = some values' ∧
        values[k]? = values'[k]? ∧ (values[k]?).isSome) := by
  have good := (wellFormed_of_validate accepted connected).blocks device configured block listed
  constructor
  · intro raw filler
    obtain ⟨words, image, unique⟩ := Segment.existsUnique_isImage (block.segments raw) filler
      block.count.toNat (segments_apart good raw) (segments_inside good raw)
    exact ⟨words, image, unique, decode_image image⟩
  · intro words words' full full' k p position same
    obtain ⟨values, decoded, names⟩ := decode_full good full
    obtain ⟨values', decoded', _⟩ := decode_full good full'
    refine ⟨values, values', decoded, decoded', ?_, ?_⟩
    · -- The `k`-th value is that of the `k`-th point, in either reply.
      have entry : ∀ {ws vs}, decode block ws = some vs →
          (vs[k]?).map some = some (decodePoint block.wordOrder ws p) := by
        intro ws vs found
        rw [decode, mapM_eq_some_iff] at found
        rw [← List.getElem?_map, ← found, List.getElem?_map, position, Option.map_some]
      have both := entry decoded
      rw [decodePoint_congr block.wordOrder p same, ← entry decoded'] at both
      exact Option.map_injective (Option.some_injective _) both
    · have bound : k < values.length := by
        have sizes := congrArg List.length names
        simp only [List.length_map] at sizes
        have := (List.getElem?_eq_some_iff.mp position).1
        omega
      simp [List.getElem?_eq_getElem bound]

theorem decode_undoes_layout_tempSensor :
    ∃ words, decode tempSensorBlock words =
      some [("temperature", .finite (-123 / 10)), ("humidity", .finite (456 / 10))] := by
  let raw : (p : PointConfig) → Raw p.dataType := fun p =>
    match p.dataType with
    | .u16 => .u16 456
    | .i16 => .i16 (-123)
    | .u32 => .u32 0
    | .i32 => .i32 0
    | .f32 => .f32 0
  have sensor : tempSensor "tempsensor1" 5 ∈ rs485Bus1.devices := List.mem_cons_self
  have listed : tempSensorBlock ∈ (tempSensor "tempsensor1" 5).blocks := List.mem_cons_self
  obtain ⟨words, _, _, decoded⟩ :=
    (decode_undoes_layout exampleConfig_accepted rs485Bus1_mem sensor listed).1 raw fun _ => 0
  refine ⟨words, decoded.trans ?_⟩
  decide +kernel

end ModbusGateway
