import ModbusGateway.Foundation.Json
import ModbusGateway.Senml.Resolve

/-!
# The bytes of a pack

What `serde_json` makes of the records of a pack, and what a receiver makes of
the bytes: it reads the text, takes the fields of each record by their labels,
and resolves the base fields. How a finite `f64` is written is a parameter.
-/
namespace ModbusGateway

open Foundation BaseFields

variable {formatF64 : ℚ → List Char} {parseF64 : List Char → Option ℚ}

/-! ### Writing -/

def F64.json (formatF64 : ℚ → List Char) (a : F64) : Json :=
  match a.toJson with
  | some q => .number (formatF64 q)
  | none => .null

def jsonU64 (n : UInt64) : Json := .number (Nat.toDigits 10 n.toNat)

def jsonString (s : String) : Json := .string s.toList

/-- A field with `skip_serializing_if = "Option::is_none"`. -/
def skipNone {α : Type} (label : String) (json : α → Json) :
    Option α → List (List Char × Json)
  | some value => [(label.toList, json value)]
  | none => []

/-- `Serialize` of a record, under the labels it renames its fields to. -/
def SenmlRecord.json (formatF64 : ℚ → List Char) (record : SenmlRecord) : Json :=
  .object <|
    skipNone "bn" jsonString record.baseName ++
    skipNone "bt" jsonU64 record.baseTime ++
    skipNone "bu" jsonString record.baseUnit ++
    [("n".toList, jsonString record.n), ("u".toList, jsonString record.u),
      ("v".toList, record.v.json formatF64)]

/-- `encode_senml`, with its records written out. -/
def encodeSenmlBytes (formatF64 : ℚ → List Char) (batch : AggregatedBatch)
    (baseNamePrefix : String) : ByteArray :=
  let records := (encodeSenml batch baseNamePrefix).map (SenmlRecord.json formatF64)
  (String.ofList (Json.array records).print).toUTF8

/-! ### Receiving -/

/-- The value of the only field with this label; none where there is no such field. -/
def fieldOf (label : String) (fields : List (List Char × Json)) : Option Json :=
  match fields.filter fun field => field.1 = label.toList with
  | [(_, value)] => some value
  | _ => none

def readText : Json → Option String
  | .string text => some (.ofList text)
  | _ => none

def readU64 : Json → Option UInt64
  | .number text =>
    let n := Nat.ofDigitChars 10 text 0
    if text.all Char.isDigit ∧ n < UInt64.size then some (.ofNat n) else none
  | _ => none

/-- A measured value: none where the record has `null`. -/
def readMean (parseF64 : List Char → Option ℚ) : Json → Option (Option ℚ)
  | .number text => (parseF64 text).map some
  | .null => some none
  | _ => none

/-- A field that may be missing, but is read where it is there. -/
def optional {α : Type} (read : Json → Option α) : Option Json → Option (Option α)
  | some json => (read json).map some
  | none => some none

def receiveRecord (parseF64 : List Char → Option ℚ) :
    Json → Option (BaseFields.Record String UInt64 String (Option ℚ))
  | .object fields => do
    return {
      baseName := ← optional readText (fieldOf "bn" fields)
      baseTime := ← optional readU64 (fieldOf "bt" fields)
      baseUnit := ← optional readText (fieldOf "bu" fields)
      name := ← optional readText (fieldOf "n" fields)
      unit := ← optional readText (fieldOf "u" fields)
      -- Every record of a mean has a value, if only `null`.
      value := ← (fieldOf "v" fields).bind (readMean parseF64) }
  | _ => none

/-- The measurements of a payload, resolved; none where it is no pack. -/
def receivePack (parseF64 : List Char → Option ℚ) (bytes : ByteArray) :
    Option (List (Entry String UInt64 String (Option ℚ))) := do
  let text ← String.fromUTF8? bytes
  match ← Json.parse text.toList with
  | .array records => return resolve .unset (← records.mapM (receiveRecord parseF64))
  | _ => none

/-! ### What is received -/

/-- A record as its receiver finds it. -/
def SenmlRecord.received (record : SenmlRecord) :
    BaseFields.Record String UInt64 String (Option ℚ) where
  baseName := record.baseName
  baseTime := record.baseTime
  baseUnit := record.baseUnit
  name := some record.n
  unit := some record.u
  value := record.v.toJson

/-- A point on its own: its full name, the window's start, its unit, and its mean if that is a
number. -/
def AggregatedPoint.received (batch : AggregatedBatch) (baseNamePrefix : String)
    (point : AggregatedPoint) : Entry String UInt64 String (Option ℚ) where
  name := some (baseNamePrefix ++ batch.deviceId ++ ":" ++ point.name)
  time := some batch.windowStart
  unit := some point.unit
  value := point.mean.toJson

/-- The writer of numbers and a reader agree on a number. -/
structure WrittenExactly (formatF64 : ℚ → List Char) (parseF64 : List Char → Option ℚ)
    (q : ℚ) : Prop where
  number : Json.IsNumber (formatF64 q)
  read : parseF64 (formatF64 q) = some q

theorem isNumber_toDigits (n : Nat) : Json.IsNumber (Nat.toDigits 10 n) := by
  refine ⟨Nat.toDigits_ne_nil, ?_⟩
  intro c member
  simp [Json.isNumberChar, Nat.isDigit_of_mem_toDigits (by decide) (by decide) member]

theorem readU64_jsonU64 (n : UInt64) : readU64 (jsonU64 n) = some n := by
  have digits : (Nat.toDigits 10 n.toNat).all Char.isDigit = true :=
    List.all_eq_true.mpr fun c member =>
      Nat.isDigit_of_mem_toDigits (by decide) (by decide) member
  have value : Nat.ofDigitChars 10 (Nat.toDigits 10 n.toNat) 0 = n.toNat :=
    Nat.ofDigitChars_ten_toDigits
  simp [readU64, jsonU64, digits, value, UInt64.toNat_lt_size]

theorem readText_jsonString (s : String) : readText (jsonString s) = some s := by
  simp [readText, jsonString]

theorem readMean_json {a : F64}
    (exact : ∀ q, a = .finite q → WrittenExactly formatF64 parseF64 q) :
    readMean parseF64 (a.json formatF64) = some a.toJson := by
  cases a with
  | finite q =>
    have read := (exact q rfl).read
    simp [F64.json, F64.toJson, readMean, read]
  | inf negative => rfl
  | nan => rfl

theorem F64.numeric_json {a : F64}
    (exact : ∀ q, a = .finite q → WrittenExactly formatF64 parseF64 q) :
    (a.json formatF64).Numeric := by
  cases a with
  | finite q => exact (exact q rfl).number
  | inf negative => trivial
  | nan => trivial

theorem SenmlRecord.numeric_json {record : SenmlRecord}
    (exact : ∀ q, record.v = .finite q → WrittenExactly formatF64 parseF64 q) :
    (record.json formatF64).Numeric := by
  have mean := F64.numeric_json exact
  obtain ⟨baseName, baseTime, baseUnit, n, u, v⟩ := record
  cases baseName <;> cases baseTime <;> cases baseUnit <;>
    simp [SenmlRecord.json, skipNone, Json.Numeric, Json.FieldsNumeric, jsonString, jsonU64,
      isNumber_toDigits, mean]

theorem receiveRecord_json {record : SenmlRecord}
    (exact : ∀ q, record.v = .finite q → WrittenExactly formatF64 parseF64 q) :
    receiveRecord parseF64 (record.json formatF64) = some record.received := by
  have mean := readMean_json exact
  obtain ⟨baseName, baseTime, baseUnit, n, u, v⟩ := record
  cases baseName <;> cases baseTime <;> cases baseUnit <;>
    simp [SenmlRecord.json, receiveRecord, skipNone, fieldOf, optional, readText_jsonString,
      readU64_jsonU64, mean, SenmlRecord.received]

/-- The records a receiver finds resolve to the points, under the base values of the first. -/
theorem resolve_received (batch : AggregatedBatch) (baseNamePrefix : String) :
    resolve .unset ((encodeSenml batch baseNamePrefix).map SenmlRecord.received) =
      batch.points.map (AggregatedPoint.received batch baseNamePrefix) := by
  cases first : batch.points with
  | nil => simp [encodeSenml, first, resolve]
  | cons point points =>
    -- All base fields are in the first record.
    have plain : ∀ record ∈ (points.map AggregatedPoint.record).map SenmlRecord.received,
        record.Plain := by
      intro record member
      obtain ⟨_, listed, rfl⟩ := List.mem_map.mp member
      obtain ⟨point, _, rfl⟩ := List.mem_map.mp listed
      exact ⟨rfl, rfl, rfl⟩
    rw [encodeSenml_of_cons first, List.map_cons, resolve_cons_of_plain _ _ plain]
    simp [Record.entry, Base.override, SenmlRecord.received, AggregatedPoint.record,
      AggregatedPoint.received, Function.comp_def, String.append_assoc]

/-- The means of the records are those of the points. -/
theorem mean_of_mem_encodeSenml {batch : AggregatedBatch} {baseNamePrefix : String}
    {record : SenmlRecord} (member : record ∈ encodeSenml batch baseNamePrefix) :
    ∃ point ∈ batch.points, point.mean = record.v :=
  have point := List.mem_map_of_mem (f := fun record =>
    AggregatedPoint.mk record.n record.u record.v) member
  ⟨_, records_encodeSenml batch baseNamePrefix ▸ point, rfl⟩

theorem receiveRecords_json {records : List SenmlRecord}
    (exact : ∀ record ∈ records, ∀ q, record.v = .finite q →
      WrittenExactly formatF64 parseF64 q) :
    (records.map (SenmlRecord.json formatF64)).mapM (receiveRecord parseF64) =
      some (records.map SenmlRecord.received) := by
  induction records with
  | nil => rfl
  | cons record records ih =>
    have first := receiveRecord_json (exact record List.mem_cons_self)
    have others := ih fun record member => exact record (List.mem_cons_of_mem _ member)
    simp [first, others]

theorem fromUTF8_toUTF8 (s : String) : String.fromUTF8? s.toUTF8 = some s := by
  have valid : s.toUTF8.IsValidUTF8 := s.isValidUTF8
  rw [String.fromUTF8?, dif_pos valid]
  rfl

/-- A receiver that reads the numbers of a batch as they were written finds in its payload one
measurement for each point, in their order, and nothing else: under its full name, at the start
of the window, with its own unit, and with its mean, or `null` where that is no number. -/
theorem receivePack_encodeSenml (batch : AggregatedBatch) (baseNamePrefix : String)
    (exact : ∀ point ∈ batch.points, ∀ q, point.mean = .finite q →
      WrittenExactly formatF64 parseF64 q) :
    receivePack parseF64 (encodeSenmlBytes formatF64 batch baseNamePrefix) =
      some (batch.points.map (AggregatedPoint.received batch baseNamePrefix)) := by
  have exact' : ∀ record ∈ encodeSenml batch baseNamePrefix, ∀ q, record.v = .finite q →
      WrittenExactly formatF64 parseF64 q := by
    intro record member q finite
    obtain ⟨point, listed, mean⟩ := mean_of_mem_encodeSenml member
    exact exact point listed q (mean.trans finite)
  have numeric : (Json.array ((encodeSenml batch baseNamePrefix).map
      (SenmlRecord.json formatF64))).Numeric := by
    apply Json.numeric_array
    intro item member
    obtain ⟨record, listed, rfl⟩ := List.mem_map.mp member
    exact SenmlRecord.numeric_json (exact' record listed)
  simp only [receivePack, encodeSenmlBytes, fromUTF8_toUTF8, String.toList_ofList,
    Option.bind_eq_bind, Option.bind_some, Json.parse_print numeric,
    receiveRecords_json exact',
    resolve_received]
  rfl

/-- Numbers with one decimal. -/
def formatTenths (q : ℚ) : List Char :=
  let tenths := (q * 10).floor.natAbs
  Nat.toDigits 10 (tenths / 10) ++ '.' :: Nat.toDigits 10 (tenths % 10)

def parseTenths (text : List Char) : Option ℚ :=
  some (Nat.ofDigitChars 10 (text.filter (· != '.')) 0 / 10)

/-- Of the meter's two values one is no number. -/
def meterBatch : AggregatedBatch where
  deviceId := "meter1"
  windowStart := 1758447120
  windowEnd := 1758447180
  points := [⟨"voltage_l1", "V", .finite (2314 / 10)⟩, ⟨"current_l1", "A", .nan⟩]

theorem receivePack_encodeSenml_meterBatch :
    receivePack parseTenths (encodeSenmlBytes formatTenths meterBatch "urn:dev:gw-router1:") =
      some [⟨some "urn:dev:gw-router1:meter1:voltage_l1", some 1758447120, some "V",
          some (2314 / 10)⟩,
        ⟨some "urn:dev:gw-router1:meter1:current_l1", some 1758447120, some "A", none⟩] := by
  apply receivePack_encodeSenml meterBatch "urn:dev:gw-router1:"
  intro point member q finite
  simp only [meterBatch, List.mem_cons, List.not_mem_nil, or_false] at member
  rcases member with rfl | rfl
  · cases finite
    exact ⟨by decide +kernel, by decide +kernel⟩
  · cases finite

end ModbusGateway
