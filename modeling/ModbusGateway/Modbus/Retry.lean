import ModbusGateway.Foundation.Since
import ModbusGateway.Modbus.PollTick

/-!
# Retry delays

`Backoff` on its own, under any calls of its two operations; `supervise`, which
respawns a task after each panic; and the delays before the reconnects of a
poller, which double from one failure to the next until a block is read.
-/
namespace ModbusGateway

open Foundation

/-! ### `Backoff` -/

namespace Backoff

inductive Call where
  | wait
  | reset
  deriving DecidableEq

/-- What `wait` sleeps in a sequence of calls; a `wait` that panics ends it. -/
def slept (backoff : Backoff) : List Call → List Duration
  | [] => []
  | .reset :: calls => backoff.reset.slept calls
  | .wait :: calls =>
    backoff.current :: match backoff.wait with
      | some backoff => backoff.slept calls
      | none => []

theorem wait_eq_some {backoff backoff' : Backoff} (waited : backoff.wait = some backoff') :
    backoff'.min = backoff.min ∧ backoff'.max = backoff.max ∧
      backoff'.current.nanos = Nat.min (backoff.current.nanos * 2) backoff.max.nanos := by
  obtain ⟨doubled, product, rfl⟩ := Option.map_eq_some_iff.mp waited
  unfold Duration.mul? at product
  split at product
  · obtain rfl := Option.some.inj product
    refine ⟨rfl, rfl, ?_⟩
    simp only [Duration.min, Nat.min_def]
    split <;> rfl
  · cases product

/-- Doubling overflows only where the delay is half the range of a `Duration`. -/
theorem wait_isSome {backoff : Backoff} (small : backoff.current.nanos < 2 ^ 63 * 10 ^ 9) :
    ∃ backoff', backoff.wait = some backoff' := by
  have fits : backoff.current.nanos * 2 < 2 ^ 64 * 10 ^ 9 := by omega
  exact ⟨_, by rw [wait, Duration.mul?, dif_pos fits, Option.map_some]⟩

/-- A delay within the maximum leaves one within it, whatever is called. -/
theorem slept_le_max (backoff : Backoff) (calls : List Call)
    (lower : backoff.min.nanos ≤ backoff.max.nanos)
    (within : backoff.current.nanos ≤ backoff.max.nanos) :
    ∀ delay ∈ backoff.slept calls, delay.nanos ≤ backoff.max.nanos := by
  induction calls generalizing backoff with
  | nil => simp [slept]
  | cons call calls ih =>
    cases call with
    | reset => exact ih backoff.reset lower lower
    | wait =>
      intro delay member
      rcases List.mem_cons.mp member with rfl | later
      · exact within
      cases waited : backoff.wait with
      | none => simp [waited] at later
      | some backoff' =>
        obtain ⟨sameMin, sameMax, current⟩ := wait_eq_some waited
        simp only [waited] at later
        rw [← sameMax]
        apply ih backoff' (by rw [sameMin, sameMax]; exact lower) ?_ delay later
        rw [current, sameMax]
        exact Nat.min_le_right _ _

/-- Without a `wait` before it, the first `wait` sleeps for the minimum. -/
theorem min_mem_slept (min max : Duration) {calls : List Call} (waits : .wait ∈ calls) :
    min ∈ (new min max).slept calls := by
  induction calls with
  | nil => simp at waits
  | cons call calls ih =>
    cases call with
    | wait => exact List.mem_cons_self
    | reset =>
      have later : Call.wait ∈ calls := by simpa using waits
      exact ih later

theorem slept_eq_nil (backoff : Backoff) {calls : List Call} (idle : .wait ∉ calls) :
    backoff.slept calls = [] := by
  induction calls generalizing backoff with
  | nil => rfl
  | cons call calls ih =>
    rw [List.mem_cons, not_or] at idle
    cases call with
    | wait => exact absurd rfl idle.1
    | reset => exact ih backoff.reset idle.2

theorem slept_le_max_iff (min max : Duration) (calls : List Call) :
    (∀ delay ∈ (new min max).slept calls, delay.nanos ≤ max.nanos) ↔
      min.nanos ≤ max.nanos ∨ .wait ∉ calls := by
  constructor
  · intro capped
    by_cases waits : .wait ∈ calls
    · exact .inl (capped min (min_mem_slept min max waits))
    · exact .inr waits
  · rintro (ordered | idle)
    · exact slept_le_max (new min max) calls ordered ordered
    · simp [slept_eq_nil _ idle]

end Backoff

/-! ### `supervise` -/

/-- How a spawned task ends. -/
inductive TaskEnd where
  | exited
  | panicked
  | cancelled
  deriving DecidableEq

/-- What `supervise` sleeps, for the ends of the tasks it spawns one after the other. -/
def supervise (backoff : Backoff) : List TaskEnd → List Duration
  | [] => []
  | .exited :: _ | .cancelled :: _ => []
  | .panicked :: ends =>
    backoff.current :: match backoff.wait with
      | some backoff => supervise backoff ends
      | none => []

/-- It waits once for each panic, up to the first task that ends otherwise. -/
theorem supervise_eq_slept (backoff : Backoff) (ends : List TaskEnd) :
    supervise backoff ends =
      backoff.slept ((ends.takeWhile fun e => e = .panicked).map fun _ => .wait) := by
  induction ends generalizing backoff with
  | nil => rfl
  | cons taskEnd ends ih =>
    cases taskEnd with
    | exited | cancelled => rfl
    | panicked =>
      simp only [supervise, decide_true, List.takeWhile_cons_of_pos, List.map_cons, Backoff.slept]
      cases backoff.wait with
      | none => rfl
      | some backoff' => exact congrArg (backoff.current :: ·) (ih backoff')

theorem supervise_le_max_iff (min max : Duration) (ends : List TaskEnd) :
    (∀ delay ∈ supervise (.new min max) ends, delay.nanos ≤ max.nanos) ↔
      min.nanos ≤ max.nanos ∨ ends.head? ≠ some .panicked := by
  rw [supervise_eq_slept, Backoff.slept_le_max_iff]
  cases ends with
  | nil => simp
  | cons taskEnd ends => cases taskEnd <;> simp

/-- The maximum bounds every retry delay exactly where the minimum does not exceed it, or
nothing is slept at all: the first delay is always the minimum. -/
theorem retry_delays_le_max_iff (min max : Duration) :
    (∀ calls, (∀ delay ∈ (Backoff.new min max).slept calls, delay.nanos ≤ max.nanos) ↔
      min.nanos ≤ max.nanos ∨ .wait ∉ calls) ∧
    ∀ ends, (∀ delay ∈ supervise (.new min max) ends, delay.nanos ≤ max.nanos) ↔
      min.nanos ≤ max.nanos ∨ ends.head? ≠ some .panicked :=
  ⟨Backoff.slept_le_max_iff min max, supervise_le_max_iff min max⟩

/-- A maximum of 30 s below a minimum of 60 s does not cap the first delay. -/
theorem retry_delay_above_max :
    ∃ (min max : Duration) (calls : List Backoff.Call),
      ¬∀ delay ∈ (Backoff.new min max).slept calls, delay.nanos ≤ max.nanos :=
  ⟨.fromSecs 60, .fromSecs 30, [.wait], by decide +kernel⟩

/-! ### The delays of a poller -/

def PollerInput.isSlept : PollerInput → Bool
  | .slept => true
  | _ => false

/-- A step in which a block was read. -/
def ReadsBlock (event : PollerInput × List PollerAction) : Prop :=
  ∃ device block words, .read device block (.words words) ∈ event.2

/-- What a step does to the backoff: a read block resets it, the end of a delay doubles it,
and nothing else changes it. -/
theorem Poller.Moves.backoff {cfg : ConnectionConfig} {poller poller' : Poller}
    {input : PollerInput} {actions : List PollerAction}
    (moves : Poller.Moves cfg poller input poller' actions) :
    (ReadsBlock (input, actions) ∧ input.isSlept = false ∧
      poller'.backoff = poller.backoff.reset) ∨
    (¬ReadsBlock (input, actions) ∧ input.isSlept = true ∧
      (poller.backoff.wait = some poller'.backoff ∨ poller.backoff.wait = none)) ∨
    (¬ReadsBlock (input, actions) ∧ input.isSlept = false ∧ poller'.backoff = poller.backoff) := by
  have reading : ReadsBlock (input, actions) → ∃ response words,
      input = .response response ∧ readBlock response = .words words := by
    rintro ⟨device, block, words, member⟩
    obtain ⟨_, response, _, same, _, _, result⟩ := moves.result_of_read member
    exact ⟨response, words, same, result.symm⟩
  cases moves with
  | words backoff cursor response words values result =>
    exact .inl ⟨⟨cursor.device, cursor.block, words, List.mem_cons_self⟩, rfl, rfl⟩
  | undecodable backoff cursor response words result =>
    exact .inl ⟨⟨cursor.device, cursor.block, words, List.mem_cons_self⟩, rfl, rfl⟩
  | slept backoff backoff' doubled =>
    exact .inr (.inl ⟨fun reads => by simpa using reading reads, rfl, .inl doubled⟩)
  | overflowed backoff overflow =>
    exact .inr (.inl ⟨fun reads => by simpa using reading reads, rfl, .inr overflow⟩)
  | connected | connectFailed | ticked | refused | offered =>
    exact .inr (.inr ⟨fun reads => by simpa using reading reads, rfl, rfl⟩)
  | failed backoff cursor response result reason read problem =>
    refine .inr (.inr ⟨fun reads => ?_, rfl, rfl⟩)
    obtain ⟨_, words, same, found⟩ := reading reads
    cases same
    rw [← read, found] at problem
    cases problem
  | fatal backoff cursor response result =>
    refine .inr (.inr ⟨fun reads => ?_, rfl, rfl⟩)
    obtain ⟨_, words, same, found⟩ := reading reads
    cases same
    rw [result] at found
    cases found

/-- Backing off begins with the report of the disconnect and the current delay. -/
theorem Poller.Moves.backs_off {cfg : ConnectionConfig} {poller poller' : Poller}
    {input : PollerInput} {actions : List PollerAction}
    (moves : Poller.Moves cfg poller input poller' actions)
    (backing : poller'.phase = .backingOff) :
    ∃ did, actions = did ++ [.report (.connectionDown cfg.id), .sleep poller.backoff.current] := by
  have moving {phase : PollerPhase} (inTick : phase.InTick = true) : phase ≠ .backingOff := by
    rintro rfl
    cases inTick
  cases moves with
  | connectFailed backoff => exact ⟨[], rfl⟩
  | fatal backoff cursor response result => exact ⟨_, rfl⟩
  | connected | slept | overflowed | undecodable | refused => cases backing
  | ticked => exact absurd backing (moving (pollDevices_inTick cfg _))
  | words backoff cursor response words values =>
    exact absurd backing (moving (offerValues_inTick cfg cursor words values))
  | failed backoff cursor => exact absurd backing (moving (pollDevices_inTick cfg cursor.devices))
  | offered backoff cursor words value values =>
    exact absurd backing (moving (offerValues_inTick cfg cursor words values))

/-- The seconds slept before a reconnect that `k` others in a row preceded. -/
def reconnectDelay (cfg : ConnectionConfig) (k : Nat) : Nat :=
  Nat.min cfg.reconnectBackoffMaxSecs.toNat (cfg.reconnectBackoffMinSecs.toNat * 2 ^ k)

theorem reconnectDelay_succ (cfg : ConnectionConfig) (k : Nat) :
    reconnectDelay cfg (k + 1) =
      Nat.min (reconnectDelay cfg k * 2) cfg.reconnectBackoffMaxSecs.toNat := by
  have doubled : cfg.reconnectBackoffMinSecs.toNat * 2 ^ (k + 1) =
      cfg.reconnectBackoffMinSecs.toNat * 2 ^ k * 2 := by
    rw [Nat.pow_succ, Nat.mul_assoc]
  unfold reconnectDelay
  rw [doubled]
  simp only [Nat.min_def]
  split <;> split <;> split <;> omega

theorem reconnectDelay_le_succ (cfg : ConnectionConfig) (k : Nat) :
    reconnectDelay cfg k ≤ reconnectDelay cfg (k + 1) := by
  have capped : reconnectDelay cfg k ≤ cfg.reconnectBackoffMaxSecs.toNat := Nat.min_le_left _ _
  rw [reconnectDelay_succ]
  exact Nat.le_min.mpr ⟨by omega, capped⟩

/-- The delays slept since a block was last read. -/
def delaysTaken (events : List (PollerInput × List PollerAction)) : Nat :=
  events.countP fun event => event.1.isSlept

/-- A backoff that stands for `k` delays since a block was last read. -/
structure Backoff.At (cfg : ConnectionConfig) (k : Nat) (backoff : Backoff) : Prop where
  min : backoff.min = .fromSecs cfg.reconnectBackoffMinSecs
  max : backoff.max = .fromSecs cfg.reconnectBackoffMaxSecs
  current : backoff.current.nanos = reconnectDelay cfg k * 10 ^ 9

section

variable {cfg : ConnectionConfig}
  (ordered : cfg.reconnectBackoffMinSecs ≤ cfg.reconnectBackoffMaxSecs)
  (bounded : cfg.reconnectBackoffMaxSecs.toNat < 2 ^ 63)

include ordered in
theorem reconnectDelay_zero :
    reconnectDelay cfg 0 = cfg.reconnectBackoffMinSecs.toNat := by
  have least : cfg.reconnectBackoffMinSecs.toNat ≤ cfg.reconnectBackoffMaxSecs.toNat :=
    UInt64.le_iff_toNat_le.mp ordered
  rw [reconnectDelay, Nat.pow_zero, Nat.mul_one]
  exact Nat.min_eq_right least

namespace Backoff.At

variable {k : Nat} {backoff backoff' : Backoff} (at_k : backoff.At cfg k)

include at_k

include ordered in
theorem reset : backoff.reset.At cfg 0 where
  min := at_k.min
  max := at_k.max
  current := by
    rw [reconnectDelay_zero ordered, Backoff.reset, at_k.min, Duration.nanos_fromSecs]

theorem wait (waited : backoff.wait = some backoff') : backoff'.At cfg (k + 1) := by
  obtain ⟨sameMin, sameMax, current⟩ := wait_eq_some waited
  refine ⟨sameMin.trans at_k.min, sameMax.trans at_k.max, ?_⟩
  rw [current, at_k.current, at_k.max, Duration.nanos_fromSecs, reconnectDelay_succ]
  simp only [Nat.min_def]
  split <;> split <;> omega

include bounded in
theorem small : backoff.current.nanos < 2 ^ 63 * 10 ^ 9 := by
  have capped : reconnectDelay cfg k ≤ cfg.reconnectBackoffMaxSecs.toNat := Nat.min_le_left _ _
  rw [at_k.current]
  omega

end Backoff.At

include ordered bounded

/-- The history fixes the backoff: it doubled once for each delay since a block was read. -/
theorem backoff_of_run {events : List (PollerInput × List PollerAction)} {poller : Poller}
    (run : Run (Poller.Step cfg) (Poller.start cfg) events poller) :
    ∀ before after, Since (fun _ => ReadsBlock) events before after →
      poller.backoff.At cfg (delaysTaken after) := by
  refine Run.history (fun events poller => ∀ before after,
    Since (fun _ => ReadsBlock) events before after →
      poller.backoff.At cfg (delaysTaken after)) ?_ ?_ run
  · intro before after cut
    obtain rfl : after = [] := (List.append_eq_nil_iff.mp cut.split.symm).2
    refine ⟨rfl, rfl, ?_⟩
    exact (congrArg (· * 10 ^ 9) (reconnectDelay_zero ordered)).symm
  · intro events poller event poller' held moved before after cut
    have moves := Poller.moves_of_next moved
    rcases cut.snoc_cases with ⟨reads, rfl, rfl⟩ | ⟨rest, other, rfl, earlier⟩
    · -- A read block resets whatever the delays before it came to.
      obtain ⟨before, after, past⟩ := Since.exists_since (fun _ => ReadsBlock) events
      rcases moves.backoff with ⟨_, _, reset⟩ | ⟨other, _⟩ | ⟨other, _⟩
      · rw [reset]
        exact (held before after past).reset ordered
      · exact absurd reads other
      · exact absurd reads other
    · have at_k := held before rest earlier
      rw [delaysTaken, List.countP_append, ← delaysTaken]
      rcases moves.backoff with ⟨reads, _⟩ | ⟨_, slept, waited⟩ | ⟨_, awake, same⟩
      · exact absurd reads other
      · obtain ⟨backoff', fits⟩ := Backoff.wait_isSome (at_k.small bounded)
        rcases waited with waited | overflow
        · simpa [slept] using at_k.wait waited
        · rw [fits] at overflow
          cases overflow
      · simpa [awake, same] using at_k

/-- Every reconnect delay is `min * 2 ^ k`, at most `max`, for `k` delays slept since a block
was last read. Only reading a block makes it shorter, and doubling it never overflows. -/
theorem reconnect_delay_doubles {events : List (PollerInput × List PollerAction)}
    {event : PollerInput × List PollerAction} {poller poller' : Poller}
    (run : Run (Poller.Step cfg) (Poller.start cfg) events poller)
    (moved : Poller.Step cfg poller event poller') :
    (poller'.phase = .backingOff →
      ∃ did delay, event.2 = did ++ [.report (.connectionDown cfg.id), .sleep delay] ∧
        ∀ before after, Since (fun _ => ReadsBlock) events before after →
          delay.nanos = reconnectDelay cfg (delaysTaken after) * 10 ^ 9) ∧
    (¬ReadsBlock event → poller.backoff.current.nanos ≤ poller'.backoff.current.nanos) ∧
    ∃ backoff, poller.backoff.wait = some backoff := by
  have moves := Poller.moves_of_next moved
  obtain ⟨before, after, cut⟩ := Since.exists_since (fun _ => ReadsBlock) events
  have at_k := backoff_of_run ordered bounded run before after cut
  have fits := Backoff.wait_isSome (at_k.small bounded)
  refine ⟨?_, ?_, fits⟩
  · intro backing
    obtain ⟨did, actions⟩ := moves.backs_off backing
    refine ⟨did, _, actions, fun before after cut => ?_⟩
    exact (backoff_of_run ordered bounded run before after cut).current
  · intro unread
    rcases moves.backoff with ⟨reads, _⟩ | ⟨_, _, waited⟩ | ⟨_, _, same⟩
    · exact absurd reads unread
    · obtain ⟨backoff, doubled⟩ := fits
      have next := (waited.resolve_right (by simp [doubled]))
      rw [at_k.current, (at_k.wait next).current]
      exact Nat.mul_le_mul_right _ (reconnectDelay_le_succ cfg _)
    · rw [same]

end

/-- A first failed connect of the bus, and the delay after it. -/
def exampleOutageOfBus : List (PollerInput × List PollerAction) :=
  [(.connect false, [.report (.connectionDown "rs485-bus1"), .sleep (.fromSecs 1)]), (.slept, [])]

theorem reconnect_delay_doubles_rs485Bus1 :
    ∃ (poller poller' : Poller) (actions : List PollerAction) (delay : Duration),
      Run (Poller.Step rs485Bus1) (Poller.start rs485Bus1) exampleOutageOfBus poller ∧
      Poller.Step rs485Bus1 poller (.connect false, actions) poller' ∧
      .sleep delay ∈ actions ∧ delay.nanos = 2 * 10 ^ 9 := by
  have run : Run (Poller.Step rs485Bus1) (Poller.start rs485Bus1) exampleOutageOfBus
      ⟨.connecting, ⟨.fromSecs 1, .fromSecs 30, .fromSecs 2⟩⟩ :=
    .cons rfl (.single rfl)
  have moved : Poller.Step rs485Bus1 ⟨.connecting, ⟨.fromSecs 1, .fromSecs 30, .fromSecs 2⟩⟩
      (.connect false, _) _ := rfl
  have cut : Since (fun _ => ReadsBlock) exampleOutageOfBus [] exampleOutageOfBus :=
    (Since.nil.extend (by simp [ReadsBlock])).extend (by simp [ReadsBlock])
  obtain ⟨did, delay, actions, doubled⟩ :=
    (reconnect_delay_doubles (by decide) (by decide) run moved).1 rfl
  have slept : .sleep delay ∈
      did ++ [PollerAction.report (.connectionDown rs485Bus1.id), .sleep delay] := by
    simp
  rw [← actions] at slept
  exact ⟨_, _, _, delay, run, moved, slept, (doubled _ _ cut).trans (by decide +kernel)⟩

end ModbusGateway
