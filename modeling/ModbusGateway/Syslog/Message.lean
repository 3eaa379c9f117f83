import ModbusGateway.Foundation.Runs
import ModbusGateway.Syslog

/-!
# The text of a log message

`FieldVisitor`, and the layer's callbacks for spans and events, up to the
message that `emit` gets; and the line of a message as a syslog daemon reads it.
The registry keeps the open spans, latest first; a closed one is not named any
more, so its entry does no harm. The calendar is a parameter.
-/
namespace ModbusGateway

open Foundation

/-! ### Fields -/

/-- A field of a span or an event, with what its value is written as: a string as it is, anything
else by `Debug`. -/
structure Field where
  name : String
  value : String

def Field.text (field : Field) : String :=
  if field.name = "message" then field.value else s!"{field.name}={field.value}"

structure FieldVisitor where
  out : String
  start : Nat

namespace FieldVisitor

def new (out : String) : FieldVisitor := ⟨out, out.utf8ByteSize⟩

def separator (visitor : FieldVisitor) : FieldVisitor :=
  -- What was there before this visitor is followed without a blank.
  if visitor.start < visitor.out.utf8ByteSize then { visitor with out := visitor.out ++ " " }
  else visitor

/-- `record_str` and `record_debug`. -/
def record (visitor : FieldVisitor) (field : Field) : FieldVisitor :=
  let visitor := visitor.separator
  { visitor with out := visitor.out ++ field.text }

/-- What a visitor leaves in `out` after these fields. -/
def visit (out : String) (fields : List Field) : String :=
  (fields.foldl record (new out)).out

end FieldVisitor

/-! ### Spans and events -/

/-- An open span; `fields` is its `SpanFields`. -/
structure Span where
  name : String
  parent : Option Nat
  fields : String

/-- The span of an id with those around it, from the root. -/
def eventScope : List (Nat × Span) → Option Nat → List Span
  | _, none => []
  | [], some _ => []
  | (id, span) :: older, some current =>
    -- What is around a span was opened before it.
    if id = current then eventScope older span.parent ++ [span] else eventScope older (some current)

def Span.heading (span : Span) : String :=
  span.name ++ (if span.fields = "" then "" else "\x7b" ++ span.fields ++ "\x7d") ++ ": "

/-- A callback of the layer. -/
inductive LayerCall where
  | newSpan (id : Nat) (parent : Option Nat) (name : String) (attrs : List Field)
  | record (id : Nat) (values : List Field)
  | event (current : Option Nat) (level : Level) (fields : List Field)

def onNewSpan (spans : List (Nat × Span)) (id : Nat) (parent : Option Nat) (name : String)
    (attrs : List Field) : List (Nat × Span) :=
  (id, ⟨name, parent, FieldVisitor.visit "" attrs⟩) :: spans

def onRecord (spans : List (Nat × Span)) (id : Nat) (values : List Field) :
    List (Nat × Span) :=
  spans.map fun entry =>
    if entry.1 = id then
      (entry.1, { entry.2 with fields := FieldVisitor.visit entry.2.fields values })
    else entry

/-- The message that `emit` gets. -/
def onEvent (spans : List (Nat × Span)) (current : Option Nat) (fields : List Field) : String :=
  FieldVisitor.visit (String.join ((eventScope spans current).map Span.heading)) fields

/-- Callbacks, labelled with the message of an event. The registry gives out an id once, and
names only spans that it has given out. -/
inductive LayerStep : List (Nat × Span) → LayerCall × Option String → List (Nat × Span) → Prop where
  | newSpan (spans : List (Nat × Span)) (id : Nat) (parent : Option Nat) (name : String)
      (attrs : List Field) (fresh : id ∉ spans.map Prod.fst)
      (around : ∀ outer, parent = some outer → outer ∈ spans.map Prod.fst) :
      LayerStep spans (.newSpan id parent name attrs, none) (onNewSpan spans id parent name attrs)
  | record (spans : List (Nat × Span)) (id : Nat) (values : List Field)
      (opened : id ∈ spans.map Prod.fst) :
      LayerStep spans (.record id values, none) (onRecord spans id values)
  | event (spans : List (Nat × Span)) (current : Option Nat) (level : Level)
      (fields : List Field) (inside : ∀ id, current = some id → id ∈ spans.map Prod.fst) :
      LayerStep spans (.event current level fields, some (onEvent spans current fields)) spans

/-! ### What a visitor writes -/

/-- Texts with a blank between them; nothing stands before the first that is not empty. -/
def spaced (texts : List String) : String := " ".intercalate (texts.dropWhile (· = ""))

/-- A visitor that has written this behind a text. -/
structure Wrote (base written : String) (visitor : FieldVisitor) : Prop where
  out : visitor.out = base ++ written
  start : visitor.start = base.utf8ByteSize

theorem Wrote.record {base written : String} {visitor : FieldVisitor}
    (wrote : Wrote base written visitor) (field : Field) :
    Wrote base (if written = "" then field.text else written ++ " " ++ field.text)
      (visitor.record field) := by
  obtain ⟨out, start⟩ := visitor
  obtain ⟨rfl, rfl⟩ := wrote
  have size : base.utf8ByteSize < (base ++ written).utf8ByteSize ↔ written ≠ "" := by
    rw [String.utf8ByteSize_append, ne_eq, ← String.utf8ByteSize_eq_zero_iff]
    omega
  unfold FieldVisitor.record FieldVisitor.separator
  by_cases empty : written = ""
  · subst empty
    exact ⟨by simp, by simp⟩
  · simp only [size, ne_eq, empty, not_false_eq_true, if_true, if_false]
    exact ⟨by simp [String.append_assoc], rfl⟩

/-- Behind a text that is not empty every field stands after a blank. -/
theorem Wrote.records {base written : String} {visitor : FieldVisitor}
    (wrote : Wrote base written visitor) (nonempty : written ≠ "") (fields : List Field) :
    (fields.foldl FieldVisitor.record visitor).out =
      base ++ " ".intercalate (written :: fields.map Field.text) := by
  induction fields generalizing written visitor with
  | nil => simp [wrote.out]
  | cons field fields ih =>
    have next := wrote.record field
    rw [if_neg nonempty] at next
    rw [List.foldl_cons, ih next (by simp), List.map_cons, String.intercalate_cons_append,
      String.intercalate_cons_cons]

theorem visit_eq (out : String) (fields : List Field) :
    FieldVisitor.visit out fields = out ++ spaced (fields.map Field.text) := by
  have start : Wrote out "" (FieldVisitor.new out) := ⟨(String.append_empty).symm, rfl⟩
  rw [FieldVisitor.visit]
  generalize FieldVisitor.new out = visitor at start
  induction fields generalizing visitor with
  | nil => simp [start.out, spaced]
  | cons field fields ih =>
    have next := start.record field
    rw [if_pos rfl] at next
    rw [List.foldl_cons]
    -- An empty text leaves the visitor at its start.
    by_cases empty : field.text = ""
    · rw [empty] at next
      rw [ih _ next, List.map_cons, empty]
      simp [spaced]
    · rw [next.records empty]
      simp [spaced, empty]

/-! ### What was recorded -/

/-- The fields that a call gives a span. -/
def LayerCall.recorded? (id : Nat) : LayerCall → Option (List Field)
  | .newSpan opened _ _ attrs => if opened = id then some attrs else none
  | .record opened values => if opened = id then some values else none
  | .event .. => none

/-- The text of a span after these calls: what its opening and each later record give it, one
right behind the other. -/
def recorded (calls : List (LayerCall × Option String)) (id : Nat) : String :=
  String.join ((calls.filterMap fun call => call.1.recorded? id).map fun fields =>
    spaced (fields.map Field.text))

/-- The ids and names of the spans around a call, from the root. -/
inductive Around (calls : List (LayerCall × Option String)) :
    Option Nat → List (Nat × String) → Prop where
  | root : Around calls none []
  | span (id : Nat) (parent : Option Nat) (name : String) (attrs : List Field)
      (path : List (Nat × String)) (opened : (.newSpan id parent name attrs, none) ∈ calls)
      (outer : Around calls parent path) : Around calls (some id) (path ++ [(id, name)])

theorem Around.mono {calls calls' : List (LayerCall × Option String)} (more : calls ⊆ calls')
    {current : Option Nat} {path : List (Nat × String)} (around : Around calls current path) :
    Around calls' current path := by
  induction around with
  | root => exact .root
  | span id parent name attrs path opened _ ih =>
    exact .span id parent name attrs path (more opened) ih

theorem recorded_snoc (calls : List (LayerCall × Option String))
    (call : LayerCall × Option String) (id : Nat) :
    recorded (calls ++ [call]) id = recorded calls id ++
      ((call.1.recorded? id).map fun fields => spaced (fields.map Field.text)).getD "" := by
  rw [recorded, recorded, List.filterMap_append]
  cases given : call.1.recorded? id <;> simp [given]

/-- The spans are those that were opened, each inside an earlier one, with what was recorded. -/
inductive Holds (calls : List (LayerCall × Option String)) : List (Nat × Span) → Prop where
  | nil : Holds calls []
  | cons (id : Nat) (span : Span) (attrs : List Field) (older : List (Nat × Span))
      (opened : (.newSpan id span.parent span.name attrs, none) ∈ calls)
      (fields : span.fields = recorded calls id)
      (around : ∀ outer, span.parent = some outer → outer ∈ older.map Prod.fst)
      (rest : Holds calls older) : Holds calls ((id, span) :: older)

/-- The scope of an event is made of the spans around it. -/
theorem Holds.eventScope {calls : List (LayerCall × Option String)} {spans : List (Nat × Span)}
    (holds : Holds calls spans) {current : Option Nat}
    (inside : ∀ id, current = some id → id ∈ spans.map Prod.fst) :
    ∃ path, Around calls current path ∧
      (ModbusGateway.eventScope spans current).map Span.heading =
        path.map fun entry => Span.heading ⟨entry.2, none, recorded calls entry.1⟩ := by
  induction holds generalizing current with
  | nil =>
    cases current with
    | none => exact ⟨[], .root, rfl⟩
    | some id => exact absurd (inside id rfl) List.not_mem_nil
  | cons id span attrs older opened fields around _ ih =>
    cases current with
    | none => exact ⟨[], .root, by simp [ModbusGateway.eventScope]⟩
    | some current =>
      rw [ModbusGateway.eventScope]
      by_cases here : id = current
      · subst here
        obtain ⟨path, outer, texts⟩ := ih around
        refine ⟨path ++ [(id, span.name)], .span id _ _ attrs path opened outer, ?_⟩
        rw [if_pos rfl, List.map_append, List.map_append, texts]
        simp [Span.heading, fields]
      · have deeper : current ∈ older.map Prod.fst := by
          rcases List.mem_cons.mp (inside current rfl) with same | member
          · exact absurd same.symm here
          · exact member
        rw [if_neg here]
        apply ih
        rintro _ ⟨⟩
        exact deeper

/-- Nothing was recorded for an id that is not given out. -/
structure Registered (calls : List (LayerCall × Option String)) (spans : List (Nat × Span)) :
    Prop where
  holds : Holds calls spans
  fresh : ∀ id, id ∉ spans.map Prod.fst → recorded calls id = ""
  distinct : (spans.map Prod.fst).Nodup

/-- Entries that a call does not touch. -/
theorem Holds.later {calls : List (LayerCall × Option String)} {spans : List (Nat × Span)}
    (holds : Holds calls spans) (call : LayerCall × Option String)
    (others : ∀ id ∈ spans.map Prod.fst, call.1.recorded? id = none) :
    Holds (calls ++ [call]) spans := by
  induction holds with
  | nil => exact .nil
  | cons id span attrs older opened fields around _ ih =>
    have own := others id (by simp)
    refine .cons id span attrs older (List.mem_append_left _ opened) ?_ around
      (ih fun id member => others id (List.mem_cons_of_mem _ member))
    rw [recorded_snoc, own, fields]
    simp

theorem ids_onRecord (spans : List (Nat × Span)) (id : Nat) (values : List Field) :
    (onRecord spans id values).map Prod.fst = spans.map Prod.fst := by
  rw [onRecord, List.map_map]
  apply List.map_congr_left
  intro entry _
  simp only [Function.comp_apply]
  split <;> rfl

theorem Holds.record {calls : List (LayerCall × Option String)} {spans : List (Nat × Span)}
    (holds : Holds calls spans) (id : Nat) (values : List Field) :
    Holds (calls ++ [(.record id values, none)]) (onRecord spans id values) := by
  induction holds with
  | nil => exact .nil
  | cons opened span attrs older mem fields around _ ih =>
    have around' : ∀ outer, span.parent = some outer →
        outer ∈ (onRecord older id values).map Prod.fst := by
      rw [ids_onRecord]
      exact around
    have text := recorded_snoc calls (.record id values, none) opened
    by_cases same : opened = id
    · subst same
      have shape : onRecord ((opened, span) :: older) opened values =
          (opened, { span with fields := FieldVisitor.visit span.fields values }) ::
            onRecord older opened values := by
        simp [onRecord]
      rw [shape]
      refine .cons opened _ attrs _ (List.mem_append_left _ mem) ?_ around' ih
      rw [text, visit_eq, fields]
      simp [LayerCall.recorded?]
    · have shape : onRecord ((opened, span) :: older) id values =
          (opened, span) :: onRecord older id values := by
        simp [onRecord, same]
      rw [shape]
      refine .cons opened span attrs _ (List.mem_append_left _ mem) ?_ around' ih
      rw [text, fields]
      simp [LayerCall.recorded?, Ne.symm same]

theorem registered_step {calls : List (LayerCall × Option String)} {spans spans' : List (Nat × Span)}
    {call : LayerCall × Option String} (registered : Registered calls spans)
    (step : LayerStep spans call spans') : Registered (calls ++ [call]) spans' := by
  obtain ⟨holds, fresh, distinct⟩ := registered
  cases step with
  | newSpan id parent name attrs new around =>
    -- The id is new, so the spans so far keep what they have.
    have others : ∀ opened ∈ spans.map Prod.fst,
        (LayerCall.newSpan id parent name attrs).recorded? opened = none := by
      intro opened member
      have apart : id ≠ opened := fun same => new (same ▸ member)
      simp [LayerCall.recorded?, apart]
    have own := recorded_snoc calls (.newSpan id parent name attrs, none) id
    refine ⟨.cons id _ attrs spans (by simp) ?_ around (holds.later _ others), ?_, ?_⟩
    · rw [own, fresh id new, visit_eq]
      simp [LayerCall.recorded?]
    · intro other missing
      simp only [onNewSpan, List.map_cons, List.mem_cons, not_or] at missing
      rw [recorded_snoc, fresh other missing.2]
      simp [LayerCall.recorded?, Ne.symm missing.1]
    · exact List.nodup_cons.mpr ⟨new, distinct⟩
  | record id values opened =>
    refine ⟨holds.record id values, ?_, ?_⟩
    · intro other missing
      rw [ids_onRecord] at missing
      have apart : id ≠ other := fun same => missing (same ▸ opened)
      rw [recorded_snoc, fresh other missing]
      simp [LayerCall.recorded?, apart]
    · rw [ids_onRecord]
      exact distinct
  | event current level fields inside =>
    refine ⟨holds.later _ fun _ _ => rfl, ?_, distinct⟩
    intro other missing
    rw [recorded_snoc, fresh other missing]
    rfl

/-- The message of an event names the spans around it from the root, each with all that was
recorded for it until then and nothing else, and then has the fields of the event, in order. -/
theorem message_of_event (events : List (LayerCall × Option String)) (spans : List (Nat × Span))
    (run : Run LayerStep [] events spans) (before after : List (LayerCall × Option String))
    (current : Option Nat) (level : Level) (fields : List Field) (message : Option String)
    (occurs : events = before ++ (.event current level fields, message) :: after) :
    ∃ path, Around before current path ∧
      message = some (String.join (path.map fun entry =>
        Span.heading ⟨entry.2, none, recorded before entry.1⟩) ++
          spaced (fields.map Field.text)) := by
  subst occurs
  obtain ⟨spans', _, reached, step, _⟩ := run.step_at
  have start : Registered [] [] := ⟨.nil, fun _ _ => rfl, List.nodup_nil⟩
  have registered := reached.history (fun calls spans => Registered calls spans) start
    fun _ _ _ _ held moved => registered_step held moved
  cases step with
  | event _ _ _ inside =>
    obtain ⟨path, around, headings⟩ := registered.holds.eventScope inside
    exact ⟨path, around, by rw [onEvent, visit_eq, headings]⟩

def ioTimeout : List Field := [⟨"message", "io timeout"⟩, ⟨"device", "meter1"⟩, ⟨"retry_in", "2s"⟩]

theorem message_of_event_ioTimeout :
    ∃ path, Around [(.newSpan 0 none "conn" [⟨"connection", "meter-tcp1"⟩], none)] (some 0) path ∧
      some "conn\x7bconnection=meter-tcp1\x7d: io timeout device=meter1 retry_in=2s" =
        some (String.join (path.map fun entry => Span.heading ⟨entry.2, none,
          recorded [(.newSpan 0 none "conn" [⟨"connection", "meter-tcp1"⟩], none)] entry.1⟩) ++
            spaced (ioTimeout.map Field.text)) := by
  have run : Run LayerStep [] _ _ :=
    .cons (.newSpan [] 0 none "conn" [⟨"connection", "meter-tcp1"⟩] (by simp) (by simp))
      (.single (.event _ (some 0) .warn ioTimeout (by simp [onNewSpan])))
  exact message_of_event _ _ run [_] [] (some 0) .warn ioTimeout _ rfl

/-! ### The line of a message -/

/-- A date and time of day without the year. -/
structure CivilTime where
  month : Fin 12
  day : Fin 32
  hour : Fin 24
  minute : Fin 60
  second : Fin 60

def monthName (month : Fin 12) : String :=
  ["Jan", "Feb", "Mar", "Apr", "May", "Jun", "Jul", "Aug", "Sep", "Oct", "Nov", "Dec"].get month

def twoDigits (pad : Char) (n : Nat) : String := .ofList ((Nat.toDigits 10 n).leftpad 2 pad)

/-- `Mmm dd hh:mm:ss`, with the day padded by a blank. -/
def CivilTime.rfc3164 (t : CivilTime) : String :=
  monthName t.month ++ " " ++ twoDigits ' ' t.day ++ " " ++ twoDigits '0' t.hour ++ ":" ++
    twoDigits '0' t.minute ++ ":" ++ twoDigits '0' t.second

/-- What a syslog daemon finds in a line. -/
structure Frame where
  facility : Nat
  severity : Nat
  timestamp : String
  tag : String
  pid : Nat
  message : String

def readFrame (line : List Char) : Option Frame :=
  match line with
  | '<' :: rest =>
    let priority := Nat.ofDigitChars 10 (rest.takeWhile Char.isDigit) 0
    match rest.dropWhile Char.isDigit with
    | '>' :: rest =>
      -- The timestamp has blanks of its own, but always the same length.
      match rest.drop 15 with
      | ' ' :: tagged =>
        match tagged.dropWhile (· != '[') with
        | '[' :: numbered =>
          match numbered.dropWhile Char.isDigit with
          | ']' :: ':' :: ' ' :: message =>
            some {
              facility := priority / 8
              severity := priority % 8
              timestamp := .ofList (rest.take 15)
              tag := .ofList (tagged.takeWhile (· != '['))
              pid := Nat.ofDigitChars 10 (numbered.takeWhile Char.isDigit) 0
              message := .ofList message }
          | _ => none
        | _ => none
      | _ => none
    | _ => none
  | _ => none

theorem length_monthName (month : Fin 12) : (monthName month).toList.length = 3 := by
  revert month
  decide

theorem length_twoDigits (pad : Char) (n : Nat) (small : n < 100) :
    (twoDigits pad n).toList.length = 2 := by
  have digits : (Nat.toDigits 10 n).length ≤ 2 :=
    (Nat.length_toDigits_le_iff (by decide) (by decide)).mpr small
  simp only [twoDigits, String.toList_ofList, List.leftpad, List.length_append,
    List.length_replicate]
  omega

theorem length_rfc3164 (t : CivilTime) : t.rfc3164.toList.length = 15 := by
  have month := length_monthName t.month
  have day := length_twoDigits ' ' t.day (by omega)
  have hour := length_twoDigits '0' t.hour (by omega)
  have minute := length_twoDigits '0' t.minute (by omega)
  have second := length_twoDigits '0' t.second (by omega)
  simp only [CivilTime.rfc3164, String.toList_append, List.length_append, month, day, hour, minute,
    second]
  rfl

/-- A stretch of characters up to one that is none of them. -/
theorem stretch (p : Char → Bool) {text : List Char} (c : Char) (rest : List Char)
    (all : ∀ c ∈ text, p c = true) (stop : p c = false) :
    (text ++ c :: rest).takeWhile p = text ∧ (text ++ c :: rest).dropWhile p = c :: rest := by
  rw [List.takeWhile_append_of_pos all, List.dropWhile_append_of_pos all]
  simp [stop]

theorem digits_toDigits (n : Nat) : ∀ c ∈ Nat.toDigits 10 n, c.isDigit = true :=
  fun _ member => Nat.isDigit_of_mem_toDigits (by decide) (by decide) member

/-- A daemon reads from a line what went into it, where the tag has no bracket. -/
theorem readFrame_formatRfc3164 (civil : OffsetDateTime → CivilTime) (level : Level)
    (timestamp : OffsetDateTime) (tag : String) (pid : UInt32) (message : String)
    (plain : '[' ∉ tag.toList) :
    readFrame (formatRfc3164 (fun t => (civil t).rfc3164) level timestamp tag pid message).toList =
      some {
        facility := facilityDaemon.toNat
        severity := (severity level).toNat
        timestamp := (civil timestamp).rfc3164
        tag, pid := pid.toNat, message } := by
  have shape : (formatRfc3164 (fun t => (civil t).rfc3164) level timestamp tag pid message).toList =
      '<' :: (Nat.toDigits 10 (facilityDaemon * 8 + severity level).toNat ++ '>' ::
        ((civil timestamp).rfc3164.toList ++ ' ' :: (tag.toList ++ '[' ::
          (Nat.toDigits 10 pid.toNat ++ ']' :: ':' :: ' ' :: message.toList)))) := by
    simp only [formatRfc3164, String.toList_append, Nat.toString_eq_ofList_toDigits,
      String.toList_ofList, List.append_assoc]
    rfl
  have others : ∀ c ∈ tag.toList, (c != '[') = true := by
    intro c member
    rw [bne_iff_ne]
    rintro rfl
    exact plain member
  have pri := stretch Char.isDigit '>' ((civil timestamp).rfc3164.toList ++ ' ' ::
    (tag.toList ++ '[' :: (Nat.toDigits 10 pid.toNat ++ ']' :: ':' :: ' ' :: message.toList)))
    (digits_toDigits (facilityDaemon * 8 + severity level).toNat) rfl
  have named := stretch (· != '[') '['
    (Nat.toDigits 10 pid.toNat ++ ']' :: ':' :: ' ' :: message.toList) others rfl
  have numbered := stretch Char.isDigit ']' (':' :: ' ' :: message.toList)
    (digits_toDigits pid.toNat) rfl
  have time := length_rfc3164 (civil timestamp)
  rw [shape, readFrame]
  simp only [pri, named, numbered, ← time, List.drop_left, List.take_left,
    Nat.ofDigitChars_ten_toDigits, String.ofList_toList]
  cases level <;> rfl

theorem readFrame_formatRfc3164_gwRouter1 :
    readFrame (formatRfc3164 (fun _ => CivilTime.rfc3164 ⟨8, 3, 4, 5, 6⟩) .info ⟨0⟩ "gw-router1"
        42 "hello").toList =
      some ⟨3, 6, "Sep  3 04:05:06", "gw-router1", 42, "hello"⟩ := by
  have found := readFrame_formatRfc3164 (fun _ => ⟨8, 3, 4, 5, 6⟩) .info ⟨0⟩ "gw-router1" 42 "hello"
    (by decide)
  have time : CivilTime.rfc3164 ⟨8, 3, 4, 5, 6⟩ = "Sep  3 04:05:06" := by decide
  rw [found, time]
  rfl

end ModbusGateway
