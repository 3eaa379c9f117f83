import ModbusGateway.Foundation.Runs
import ModbusGateway.Syslog

/-!
# The pace of the connects to syslog

What a call does where no time overflows, and from it what holds over any calls:
every message reaches one sink, and an attempt to connect keeps the distance that
the one before it asks for. The backoff is that of the failures in a row.
-/
namespace ModbusGateway

open Foundation

theorem Duration.mul?_two {d : Duration} (fits : d.nanos * 2 < 2 ^ 64 * 10 ^ 9) :
    ∃ doubled, d.mul? 2 = some doubled ∧ doubled.nanos = d.nanos * 2 :=
  ⟨⟨d.nanos * 2, fits⟩, dif_pos fits, rfl⟩

theorem nanos_min (a b : Duration) : (a.min b).nanos = min a.nanos b.nanos := by
  rw [Duration.min]
  split
  next shorter => exact (Nat.min_eq_left shorter).symm
  next longer => exact (Nat.min_eq_right (by omega)).symm

namespace SyslogConnection

/-- The backoff can be added to the time, and doubled. -/
structure Delays (conn : SyslogConnection) (latest now : Instant) : Prop where
  added : now.nanos + conn.backoff.nanos ≤ latest.nanos
  doubled : conn.backoff.nanos * 2 < 2 ^ 64 * 10 ^ 9

/-- An attempt to connect that does not overflow. -/
inductive Tries (conn : SyslogConnection) (now : Instant) : Bool → SyslogConnection → Prop where
  | connected (socket : UnixDatagram) :
      Tries conn now true { conn with socket := some socket, backoff := conn.min }
  | failed (doubled : Duration) (twice : doubled.nanos = conn.backoff.nanos * 2) :
      Tries conn now false
        { conn with nextAttempt := now.add conn.backoff, backoff := doubled.min conn.max }

/-- The start of a call, with an attempt where one is due. -/
inductive Retries (conn : SyslogConnection) (now : Instant) :
    Option Bool → SyslogConnection → Prop where
  | early (waits : conn.due now = false) : Retries conn now none conn
  | tries (success : Bool) (conn' : SyslogConnection) (free : conn.socket = none)
      (due : conn.nextAttempt.nanos ≤ now.nanos) (tries : Tries conn now success conn') :
      Retries conn now (some success) conn'

/-- The rest of a call: what is sent, where the message goes, and what becomes of the socket. -/
inductive Sends (conn : SyslogConnection) (now : Instant) (line fallback : String) :
    Option (UnixDatagram × SendOutcome) → Emission → SyslogConnection → Prop where
  | unsent (free : conn.socket = none) :
      Sends conn now line fallback none ⟨[], [fallback], false⟩ conn
  | sent (socket : UnixDatagram) (current : conn.socket = some socket) :
      Sends conn now line fallback (some (socket, .sent)) ⟨[line], [], false⟩ conn
  | wouldBlock (socket : UnixDatagram) (current : conn.socket = some socket) :
      Sends conn now line fallback (some (socket, .wouldBlock)) ⟨[], [fallback], false⟩ conn
  | failed (socket : UnixDatagram) (current : conn.socket = some socket) :
      Sends conn now line fallback (some (socket, .failed)) ⟨[], [fallback], false⟩
        { conn with socket := none, backoff := conn.min, nextAttempt := now.add conn.min }

variable {latest : Instant} {conn : SyslogConnection} {now : Instant}

theorem tryConnect_cases (opened : Option UnixDatagram)
    (delays : opened.isSome = false → conn.Delays latest now) :
    ∃ conn', conn.tryConnect latest now opened = .ok conn' ∧
      Tries conn now opened.isSome conn' := by
  unfold tryConnect
  cases opened with
  | some socket => exact ⟨_, rfl, .connected socket⟩
  | none =>
    obtain ⟨sum, double⟩ := delays rfl
    obtain ⟨doubled, found, twice⟩ := Duration.mul?_two double
    simp only [Instant.add?_eq_some sum, found]
    exact ⟨_, rfl, .failed doubled twice⟩

theorem retry_cases (opened : Option UnixDatagram)
    (delays : (if conn.due now then some opened.isSome else none) = some false →
      conn.Delays latest now) :
    ∃ conn', conn.retry latest now opened = .ok conn' ∧
      Retries conn now (if conn.due now then some opened.isSome else none) conn' := by
  unfold retry
  cases due : conn.due now with
  | false => exact ⟨conn, rfl, .early due⟩
  | true =>
    rw [due] at delays
    obtain ⟨conn', tried, tries⟩ := tryConnect_cases opened fun failed =>
      delays (congrArg some failed)
    simp only [SyslogConnection.due, Bool.and_eq_true, Option.isNone_iff_eq_none,
      decide_eq_true_eq] at due
    exact ⟨conn', tried, .tries _ conn' due.1 due.2 tries⟩

theorem Tries.settings {success : Bool} {conn' : SyslogConnection}
    (tries : Tries conn now success conn') : conn'.min = conn.min ∧ conn'.max = conn.max := by
  cases tries <;> exact ⟨rfl, rfl⟩

theorem Retries.settings {attempt : Option Bool} {conn' : SyslogConnection}
    (retries : Retries conn now attempt conn') :
    conn'.min = conn.min ∧ conn'.max = conn.max := by
  cases retries with
  | early => exact ⟨rfl, rfl⟩
  | tries success conn' free due tries => exact tries.settings

end SyslogConnection

namespace SyslogLayer

section

variable {formatTimestamp : OffsetDateTime → String} {latest : Instant} {layer : SyslogLayer}

theorem attempt_of_emit {conn conn' : SyslogConnection} {turn : SyslogTurn} {level : Level}
    {msg : String} {now : Instant} {utc : OffsetDateTime} {opened : Option UnixDatagram}
    {outcome : SendOutcome}
    (emitted : emit formatTimestamp latest layer conn level msg now utc opened outcome =
      (conn', turn)) :
    turn.time = now ∧ turn.attempt = if conn.due now then some opened.isSome else none := by
  unfold emit at emitted
  dsimp only at emitted
  split at emitted
  next => cases emitted; exact ⟨rfl, rfl⟩
  next retried =>
    split at emitted
    next => cases emitted; exact ⟨rfl, rfl⟩
    next =>
      cases outcome with
      | sent | wouldBlock => cases emitted; exact ⟨rfl, rfl⟩
      | failed =>
        dsimp only at emitted
        split at emitted <;> cases emitted <;> exact ⟨rfl, rfl⟩

/-- What a call does, where the sums that it forms have a representation. -/
theorem emit_cases {conn conn' : SyslogConnection} {turn : SyslogTurn} {level : Level}
    {msg : String} {now : Instant} {utc : OffsetDateTime} {opened : Option UnixDatagram}
    {outcome : SendOutcome}
    (emitted : emit formatTimestamp latest layer conn level msg now utc opened outcome =
      (conn', turn))
    (delays : turn.attempt = some false → conn.Delays latest now)
    (retry : turn.sent.map Prod.snd = some .failed → now.nanos + conn.min.nanos ≤ latest.nanos) :
    turn.time = now ∧ ∃ retried, SyslogConnection.Retries conn now turn.attempt retried ∧
      SyslogConnection.Sends retried now
        (formatRfc3164 formatTimestamp level utc layer.tag layer.pid msg)
        (fallbackLine level msg) turn.sent turn.emission conn' := by
  obtain ⟨time, attempt⟩ := attempt_of_emit emitted
  rw [attempt] at delays
  obtain ⟨retried, retrying, retries⟩ := SyslogConnection.retry_cases opened delays
  refine ⟨time, retried, attempt ▸ retries, ?_⟩
  unfold emit at emitted
  rw [retrying] at emitted
  dsimp only at emitted
  cases socket : retried.socket with
  | none =>
    rw [socket] at emitted
    cases emitted
    exact .unsent socket
  | some current =>
    rw [socket] at emitted
    cases outcome with
    | sent =>
      cases emitted
      exact .sent current socket
    | wouldBlock =>
      cases emitted
      exact .wouldBlock current socket
    | failed =>
      -- Whether or not the addition fits, the send has failed.
      have sent : turn.sent.map Prod.snd = some .failed := by
        dsimp only at emitted
        split at emitted <;> cases emitted <;> rfl
      have later : now.nanos + retried.min.nanos ≤ latest.nanos := by
        rw [retries.settings.1]
        exact retry sent
      simp only [SyslogConnection.disconnect, Instant.add?_eq_some later] at emitted
      cases emitted
      exact .failed current socket

end

/-! ### Failures in a row -/

/-- A call with what it did. -/
abbrev SyslogEvent := SyslogCall × SyslogTurn

/-- How an attempt changes the number of failures in a row. -/
def retryStreak (failures : Nat) : Option Bool → Nat
  | none => failures
  | some true => 0
  | some false => failures + 1

def nextStreak (failures : Nat) (turn : SyslogTurn) : Nat :=
  if turn.sent.map Prod.snd = some .failed then 0 else retryStreak failures turn.attempt

/-- The failed attempts since the layer was made, the last successful connect or the last
disconnect. -/
def streak (log : List SyslogEvent) : Nat :=
  log.foldl (fun failures event => nextStreak failures event.2) 0

theorem streak_snoc (log : List SyslogEvent) (event : SyslogEvent) :
    streak (log ++ [event]) = nextStreak (streak log) event.2 := by
  simp [streak]

section

variable (retryMin retryMax : Duration)

/-- The delay after one failure more than `failures` in a row. -/
def delay (failures : Nat) : Nat := min retryMax.nanos (retryMin.nanos * 2 ^ failures)

variable {retryMin retryMax : Duration} (ordered : retryMin.nanos ≤ retryMax.nanos)

include ordered in
theorem delay_zero : delay retryMin retryMax 0 = retryMin.nanos := by
  rw [delay, Nat.pow_zero, Nat.mul_one, Nat.min_eq_right ordered]

theorem delay_succ (failures : Nat) :
    delay retryMin retryMax (failures + 1) =
      min (delay retryMin retryMax failures * 2) retryMax.nanos := by
  rw [delay, delay, Nat.pow_succ, ← Nat.mul_assoc]
  omega

include ordered in
theorem le_delay (failures : Nat) : retryMin.nanos ≤ delay retryMin retryMax failures := by
  have grows : retryMin.nanos * 1 ≤ retryMin.nanos * 2 ^ failures :=
    Nat.mul_le_mul_left _ Nat.one_le_two_pow
  rw [delay]
  omega

variable (retryMin retryMax)

/-- The distance that an attempt asks of the next one. -/
def gap (before : List SyslogEvent) (success : Bool) : Nat :=
  if success then retryMin.nanos else delay retryMin retryMax (streak before)

/-- From a time on, all attempts so far allow another. -/
def Allows (log : List SyslogEvent) (now : Nat) : Prop :=
  ∀ before event after success, log = before ++ event :: after →
    event.2.attempt = some success →
    event.2.time.nanos + gap retryMin retryMax before success ≤ now

/-- What the connection has kept of the calls so far. -/
structure Paced (log : List SyslogEvent) (conn : SyslogConnection) : Prop where
  min_eq : conn.min = retryMin
  max_eq : conn.max = retryMax
  backoff_eq : conn.backoff.nanos = delay retryMin retryMax (streak log)
  waiting : conn.socket = none → Allows retryMin retryMax log conn.nextAttempt.nanos
  linked : conn.socket ≠ none → ∀ now, (∀ event ∈ log, event.2.time.nanos ≤ now) →
    Allows retryMin retryMax log (now + retryMin.nanos)

variable {retryMin retryMax} {log : List SyslogEvent} {conn : SyslogConnection} {now : Instant}

theorem allows_nil (now : Nat) : Allows retryMin retryMax [] now := by
  intro before event after success split
  simp at split

theorem Allows.mono {now now' : Nat} (allows : Allows retryMin retryMax log now)
    (later : now ≤ now') : Allows retryMin retryMax log now' := by
  intro before event after success split attempt
  exact Nat.le_trans (allows before event after success split attempt) later

theorem Allows.snoc {now : Nat} {event : SyslogEvent} (allows : Allows retryMin retryMax log now)
    (last : ∀ success, event.2.attempt = some success →
      event.2.time.nanos + gap retryMin retryMax log success ≤ now) :
    Allows retryMin retryMax (log ++ [event]) now := by
  intro before event' after success split attempt
  -- The attempt is that of the new event, or it was there before.
  rcases List.eq_nil_or_concat after with rfl | ⟨middle, final, rfl⟩
  · obtain ⟨rfl, same⟩ := List.append_inj' split rfl
    cases same
    exact last success attempt
  · rw [List.concat_eq_append, ← List.cons_append, ← List.append_assoc] at split
    obtain ⟨rfl, _⟩ := List.append_inj' split rfl
    exact allows before event' middle success rfl attempt

/-- An attempt that fails doubles the backoff, and one that succeeds takes it back. -/
theorem backoff_of_tries {failures : Nat} {success : Bool} {conn' : SyslogConnection}
    (ordered : retryMin.nanos ≤ retryMax.nanos) (min_eq : conn.min = retryMin)
    (max_eq : conn.max = retryMax)
    (backoff_eq : conn.backoff.nanos = delay retryMin retryMax failures)
    (tries : SyslogConnection.Tries conn now success conn') :
    conn'.backoff.nanos = delay retryMin retryMax (retryStreak failures (some success)) := by
  cases tries with
  | connected => rw [retryStreak, delay_zero ordered, min_eq]
  | failed doubled twice =>
    rw [retryStreak, delay_succ, nanos_min, twice, backoff_eq, max_eq]

/-- What a connection allows once a call has tried to connect, or had no reason to. -/
structure Retried (retryMin retryMax : Duration) (log : List SyslogEvent) (now : Instant)
    (attempt : Option Bool) (event : SyslogEvent) (conn : SyslogConnection) : Prop where
  min_eq : conn.min = retryMin
  max_eq : conn.max = retryMax
  backoff_eq : conn.backoff.nanos = delay retryMin retryMax (retryStreak (streak log) attempt)
  waiting : conn.socket = none →
    Allows retryMin retryMax (log ++ [event]) conn.nextAttempt.nanos
  linked : conn.socket ≠ none → ∀ later, now.nanos ≤ later →
    Allows retryMin retryMax (log ++ [event]) (later + retryMin.nanos)

theorem retried_of_tries {success : Bool} {conn' : SyslogConnection} {event : SyslogEvent}
    (ordered : retryMin.nanos ≤ retryMax.nanos) (min_eq : conn.min = retryMin)
    (max_eq : conn.max = retryMax)
    (backoff_eq : conn.backoff.nanos = delay retryMin retryMax (streak log))
    (free : conn.socket = none) (tries : SyslogConnection.Tries conn now success conn')
    (allows : Allows retryMin retryMax log now.nanos) (time : event.2.time = now)
    (attempt : event.2.attempt = some success) :
    Retried retryMin retryMax log now (some success) event conn' := by
  refine ⟨tries.settings.1.trans min_eq, tries.settings.2.trans max_eq,
    backoff_of_tries ordered min_eq max_eq backoff_eq tries, ?_, ?_⟩
  · intro waits
    cases tries with
    | connected socket => cases waits
    | failed doubled twice =>
      rw [Instant.nanos_add, backoff_eq]
      apply (allows.mono (by omega)).snoc
      intro success' same
      cases attempt.symm.trans same
      rw [time, gap, if_neg (by decide)]
  · intro linked later after
    cases tries with
    | connected socket =>
      apply (allows.mono (by omega)).snoc
      intro success' same
      cases attempt.symm.trans same
      rw [time, gap, if_pos rfl]
      omega
    | failed => exact absurd free linked

theorem Paced.retried {attempt : Option Bool} {conn' : SyslogConnection} {event : SyslogEvent}
    (ordered : retryMin.nanos ≤ retryMax.nanos) (paced : Paced retryMin retryMax log conn)
    (retries : SyslogConnection.Retries conn now attempt conn')
    (clock : ∀ earlier ∈ log, earlier.2.time.nanos ≤ now.nanos) (time : event.2.time = now)
    (same : event.2.attempt = attempt) :
    Retried retryMin retryMax log now attempt event conn' := by
  cases retries with
  | early =>
    -- A call without an attempt adds no distance to keep.
    have silent : ∀ success, event.2.attempt = some success →
        ∀ bound, event.2.time.nanos + gap retryMin retryMax log success ≤ bound := by
      intro success attempt
      rw [same] at attempt
      cases attempt
    refine ⟨paced.min_eq, paced.max_eq, paced.backoff_eq, fun waits => ?_,
      fun linked later after => ?_⟩
    · exact (paced.waiting waits).snoc fun success attempt => silent success attempt _
    · apply Allows.snoc _ fun success attempt => silent success attempt _
      exact paced.linked linked later fun earlier member =>
        Nat.le_trans (clock earlier member) after
  | tries success conn' free due tries =>
    exact retried_of_tries ordered paced.min_eq paced.max_eq paced.backoff_eq free tries
      ((paced.waiting free).mono due) time same

/-- Without a disconnect the connection stays as it is. -/
theorem Retried.stays {attempt : Option Bool} {event : SyslogEvent}
    (retried : Retried retryMin retryMax log now attempt event conn) (time : event.2.time = now)
    (same : event.2.attempt = attempt) (other : event.2.sent.map Prod.snd ≠ some .failed) :
    Paced retryMin retryMax (log ++ [event]) conn := by
  refine ⟨retried.min_eq, retried.max_eq, ?_, retried.waiting, fun linked later after => ?_⟩
  · rw [streak_snoc, nextStreak, if_neg other, same]
    exact retried.backoff_eq
  · apply retried.linked linked
    rw [← time]
    exact after event (List.mem_append_right _ List.mem_cons_self)

/-- The send decides whether the connection stays; a disconnect starts over. -/
theorem Retried.paced {attempt : Option Bool} {conn' : SyslogConnection} {event : SyslogEvent}
    {line fallback : String} (ordered : retryMin.nanos ≤ retryMax.nanos)
    (retried : Retried retryMin retryMax log now attempt event conn)
    (sends : SyslogConnection.Sends conn now line fallback event.2.sent event.2.emission conn')
    (time : event.2.time = now) (same : event.2.attempt = attempt) :
    Paced retryMin retryMax (log ++ [event]) conn' := by
  generalize event.2.emission = emission at sends
  generalize sent_eq : event.2.sent = sent at sends
  cases sends with
  | unsent => exact retried.stays time same (by rw [sent_eq]; simp)
  | sent => exact retried.stays time same (by rw [sent_eq]; simp)
  | wouldBlock => exact retried.stays time same (by rw [sent_eq]; simp)
  | failed socket current =>
    -- The socket was open until now, so every attempt so far is old enough for `retry_min`.
    have streak_eq : streak (log ++ [event]) = 0 := by
      rw [streak_snoc, nextStreak, sent_eq]
      exact if_pos rfl
    refine ⟨retried.min_eq, retried.max_eq, ?_, fun _ => ?_, fun linked => absurd rfl linked⟩
    · rw [streak_eq, delay_zero ordered, retried.min_eq]
    · rw [Instant.nanos_add, retried.min_eq]
      exact retried.linked (by rw [current]; simp) now.nanos (Nat.le_refl _)

/-! ### Over any calls -/

/-- The clock never goes back from one call to the next. -/
def InOrder (log : List SyslogEvent) : Prop :=
  (log.map fun event => event.2.time.nanos).Pairwise (· ≤ ·)

theorem InOrder.snoc {event : SyslogEvent} (order : InOrder (log ++ [event])) :
    InOrder log ∧ ∀ earlier ∈ log, earlier.2.time.nanos ≤ event.2.time.nanos := by
  rw [InOrder, List.map_append, List.pairwise_append] at order
  exact ⟨order.1, fun earlier member => order.2.2 _ (List.mem_map_of_mem member) _ (by simp)⟩

theorem InOrder.of_append {rest : List SyslogEvent} (order : InOrder (log ++ rest)) :
    InOrder log := by
  rw [InOrder, List.map_append, List.pairwise_append] at order
  exact order.1

/-- The sums that the calls form have a representation: after a connect that failed its time with
the delay of the failures in a row, and twice this delay; after a send that failed its time with
`retry_min`. -/
structure Representable (latest : Instant) (retryMin retryMax : Duration)
    (log : List SyslogEvent) : Prop where
  delayed : ∀ before event after, log = before ++ event :: after →
    event.2.attempt = some false →
      event.2.time.nanos + delay retryMin retryMax (streak before) ≤ latest.nanos ∧
        delay retryMin retryMax (streak before) * 2 < 2 ^ 64 * 10 ^ 9
  disconnected : ∀ event ∈ log, event.2.sent.map Prod.snd = some .failed →
    event.2.time.nanos + retryMin.nanos ≤ latest.nanos

theorem Representable.of_append {latest : Instant} {rest : List SyslogEvent}
    (fits : Representable latest retryMin retryMax (log ++ rest)) :
    Representable latest retryMin retryMax log where
  delayed := by
    rintro before event after rfl
    exact fits.delayed before event (after ++ rest) (by simp)
  disconnected event member := fits.disconnected event (List.mem_append_left _ member)

/-- What the range says of the last call, where the connection is paced before it. -/
theorem Paced.delays {latest : Instant} {event : SyslogEvent}
    (paced : Paced retryMin retryMax log conn)
    (fits : Representable latest retryMin retryMax (log ++ [event])) :
    (event.2.attempt = some false → conn.Delays latest event.2.time) ∧
    (event.2.sent.map Prod.snd = some .failed →
      event.2.time.nanos + conn.min.nanos ≤ latest.nanos) := by
  constructor
  · intro failed
    obtain ⟨added, doubled⟩ := fits.delayed log event [] rfl failed
    rw [← paced.backoff_eq] at added doubled
    exact ⟨added, doubled⟩
  · intro failed
    rw [paced.min_eq]
    exact fits.disconnected event (List.mem_append_right _ List.mem_cons_self) failed

variable {formatTimestamp : OffsetDateTime → String} {latest : Instant} {layer : SyslogLayer}

/-- The layer has kept pace with the calls so far; before the first there is none. -/
def PacedState (retryMin retryMax : Duration) (log : List SyslogEvent) :
    Option SyslogConnection → Prop
  | none => log = []
  | some conn => Paced retryMin retryMax log conn

theorem exists_new (ordered : retryMin.nanos ≤ retryMax.nanos) (socketPath : String)
    (created : Instant) (opened : Option UnixDatagram) (call : SyslogCall)
    (delays : opened.isSome = false → SyslogConnection.Delays
      ⟨socketPath, none, retryMin, retryMax, retryMin, created⟩ latest now) :
    ∃ conn, SyslogConnection.new latest socketPath retryMin retryMax created now opened =
        .ok conn ∧
      Paced retryMin retryMax [(call, ⟨now, some opened.isSome, none, [], [], false⟩)] conn := by
  -- The first attempt is made with the least backoff.
  obtain ⟨conn, made, tries⟩ := SyslogConnection.tryConnect_cases opened delays
  have retried : Retried retryMin retryMax [] now (some opened.isSome)
      (call, ⟨now, some opened.isSome, none, [], [], false⟩) conn :=
    retried_of_tries ordered rfl rfl (delay_zero ordered).symm rfl tries (allows_nil _) rfl rfl
  exact ⟨conn, made, retried.stays rfl rfl (by simp)⟩

theorem turn_of_new {state state' : Option SyslogConnection} {turn : SyslogTurn}
    {socketPath : String} {created : Instant} {opened : Option UnixDatagram}
    (moved : Step formatTimestamp latest layer retryMin retryMax state
      (.new socketPath created now opened, turn) state') :
    turn.time = now ∧ turn.attempt = some opened.isSome ∧ turn.sent = none := by
  cases state with
  | some conn => cases moved
  | none =>
    unfold Step next at moved
    cases made : SyslogConnection.new latest socketPath retryMin retryMax created now opened with
    | ok conn =>
      simp only [made] at moved
      cases moved
      exact ⟨rfl, rfl, rfl⟩
    | error conn =>
      simp only [made] at moved
      cases moved
      exact ⟨rfl, rfl, rfl⟩

theorem step_emit {state' : Option SyslogConnection} {turn : SyslogTurn} {level : Level}
    {msg : String} {utc : OffsetDateTime} {opened : Option UnixDatagram} {outcome : SendOutcome}
    (moved : Step formatTimestamp latest layer retryMin retryMax (some conn)
      (.emit level msg now utc opened outcome, turn) state') :
    turn.time = now ∧ ∃ conn', state' = some conn' ∧
      emit formatTimestamp latest layer conn level msg now utc opened outcome = (conn', turn) := by
  unfold Step next at moved
  cases moved
  exact ⟨(attempt_of_emit rfl).1, _, rfl, rfl⟩

/-- A call in a run: what it does, where the sums that it forms have a representation. -/
theorem emit_of_paced {state' : Option SyslogConnection} {turn : SyslogTurn} {level : Level}
    {msg : String} {utc : OffsetDateTime} {opened : Option UnixDatagram} {outcome : SendOutcome}
    (paced : Paced retryMin retryMax log conn)
    (fits : Representable latest retryMin retryMax
      (log ++ [(.emit level msg now utc opened outcome, turn)]))
    (moved : Step formatTimestamp latest layer retryMin retryMax (some conn)
      (.emit level msg now utc opened outcome, turn) state') :
    turn.time = now ∧ ∃ retried conn', SyslogConnection.Retries conn now turn.attempt retried ∧
      SyslogConnection.Sends retried now
        (formatRfc3164 formatTimestamp level utc layer.tag layer.pid msg)
        (fallbackLine level msg) turn.sent turn.emission conn' ∧ state' = some conn' := by
  obtain ⟨time, conn', rfl, emitted⟩ := step_emit moved
  obtain ⟨delays, retry⟩ := paced.delays fits
  rw [time] at delays retry
  obtain ⟨_, retried, retries, sends⟩ := emit_cases emitted delays retry
  exact ⟨time, retried, conn', retries, sends, rfl⟩

theorem Step.paced {state state' : Option SyslogConnection} {event : SyslogEvent}
    (ordered : retryMin.nanos ≤ retryMax.nanos)
    (moved : Step formatTimestamp latest layer retryMin retryMax state event state')
    (before : PacedState retryMin retryMax log state) (order : InOrder (log ++ [event]))
    (fits : Representable latest retryMin retryMax (log ++ [event])) :
    PacedState retryMin retryMax (log ++ [event]) state' := by
  obtain ⟨call, turn⟩ := event
  have clock := order.snoc.2
  cases state with
  | none =>
    cases call with
    | new socketPath created now opened =>
      -- Where nothing overflows, only the very first call finds no layer.
      obtain rfl : log = [] := before
      obtain ⟨time, attempt, _⟩ := turn_of_new moved
      have delays (failed : opened.isSome = false) : SyslogConnection.Delays
          ⟨socketPath, none, retryMin, retryMax, retryMin, created⟩ latest now := by
        obtain ⟨added, doubled⟩ := fits.delayed [] _ [] rfl (attempt.trans (congrArg some failed))
        rw [show streak [] = 0 from rfl, delay_zero ordered] at added doubled
        exact ⟨time ▸ added, doubled⟩
      obtain ⟨conn, made, paced⟩ := exists_new ordered socketPath created opened
        (.new socketPath created now opened) delays
      simp only [Step, next, made] at moved
      cases moved
      exact paced
    | emit => cases moved
  | some conn =>
    cases call with
    | new => cases moved
    | emit level msg now utc opened outcome =>
      obtain ⟨time, retried, conn', retries, sends, rfl⟩ := emit_of_paced before fits moved
      rw [time] at clock
      exact (Paced.retried ordered before retries clock time rfl).paced ordered sends time rfl

theorem paced_of_run {state : Option SyslogConnection}
    (ordered : retryMin.nanos ≤ retryMax.nanos)
    (run : Run (Step formatTimestamp latest layer retryMin retryMax) none log state)
    (order : InOrder log) (fits : Representable latest retryMin retryMax log) :
    PacedState retryMin retryMax log state := by
  induction run with
  | refl => rfl
  | snoc _ moved ih => exact moved.paced ordered (ih order.snoc.1 fits.of_append) order fits

/-- The emit that a run ends with. -/
theorem last_emit {state : Option SyslogConnection} {turn : SyslogTurn} {level : Level}
    {msg : String} {utc : OffsetDateTime} {opened : Option UnixDatagram} {outcome : SendOutcome}
    (ordered : retryMin.nanos ≤ retryMax.nanos)
    (run : Run (Step formatTimestamp latest layer retryMin retryMax) none
      (log ++ [(.emit level msg now utc opened outcome, turn)]) state)
    (order : InOrder (log ++ [(.emit level msg now utc opened outcome, turn)]))
    (fits : Representable latest retryMin retryMax
      (log ++ [(.emit level msg now utc opened outcome, turn)])) :
    turn.time = now ∧ ∃ conn retried conn', Paced retryMin retryMax log conn ∧
      SyslogConnection.Retries conn now turn.attempt retried ∧
      SyslogConnection.Sends retried now
        (formatRfc3164 formatTimestamp level utc layer.tag layer.pid msg)
        (fallbackLine level msg) turn.sent turn.emission conn' ∧ state = some conn' := by
  obtain ⟨before, run, moved⟩ := Run.snoc_iff.mp run
  have paced := paced_of_run ordered run order.snoc.1 fits.of_append
  cases before with
  | none => cases moved
  | some conn =>
    obtain ⟨time, retried, conn', retries, sends, ended⟩ := emit_of_paced paced fits moved
    exact ⟨time, conn, retried, conn', paced, retries, sends, ended⟩

/-- What an attempt asks of the next ones, they keep. -/
theorem apart_of_run {state : Option SyslogConnection} {before between after : List SyslogEvent}
    {first second : SyslogEvent} {success : Bool} (ordered : retryMin.nanos ≤ retryMax.nanos)
    (run : Run (Step formatTimestamp latest layer retryMin retryMax) none
      (before ++ first :: (between ++ second :: after)) state)
    (order : InOrder (before ++ first :: (between ++ second :: after)))
    (fits : Representable latest retryMin retryMax
      (before ++ first :: (between ++ second :: after)))
    (attempt : first.2.attempt = some success) (again : second.2.attempt.isSome) :
    first.2.time.nanos + gap retryMin retryMax before success ≤ second.2.time.nanos := by
  have shape : before ++ first :: (between ++ second :: after) =
      (before ++ first :: between ++ [second]) ++ after := by simp
  rw [shape] at run order fits
  obtain ⟨last, run, _⟩ := Run.append_iff.mp run
  obtain ⟨call, turn⟩ := second
  cases call with
  | new socketPath created now opened =>
    -- A layer is made once, before all other calls.
    obtain ⟨earlier, run, moved⟩ := Run.snoc_iff.mp run
    have paced := paced_of_run ordered run order.of_append.of_append fits.of_append.of_append
    cases earlier with
    | none => simp [PacedState] at paced
    | some conn => cases moved
  | emit level msg now utc opened outcome =>
    obtain ⟨time, conn, retried, conn', paced, retries, _⟩ :=
      last_emit ordered run order.of_append fits.of_append
    generalize turn.attempt = tried at again retries
    cases retries with
    | early => cases again
    | tries success' conn' free due tries =>
      have allows := paced.waiting free before first between success rfl attempt
      dsimp only
      rw [time]
      omega

/-- A message is in the line that was sent, or in the one for the fallback. -/
theorem delivered_of_run {state : Option SyslogConnection} {turn : SyslogTurn} {level : Level}
    {msg : String} {utc : OffsetDateTime} {opened : Option UnixDatagram} {outcome : SendOutcome}
    (ordered : retryMin.nanos ≤ retryMax.nanos)
    (run : Run (Step formatTimestamp latest layer retryMin retryMax) none log state)
    (order : InOrder log) (fits : Representable latest retryMin retryMax log)
    (member : (.emit level msg now utc opened outcome, turn) ∈ log) :
    turn.emission =
        ⟨[formatRfc3164 formatTimestamp level utc layer.tag layer.pid msg], [], false⟩ ∨
      turn.emission = ⟨[], [fallbackLine level msg], false⟩ := by
  obtain ⟨before, after, rfl⟩ := List.append_of_mem member
  -- Cut behind the call, so that it is the last of a run.
  rw [← List.singleton_append, ← List.append_assoc] at run order fits
  obtain ⟨last, run, _⟩ := Run.append_iff.mp run
  obtain ⟨_, _, _, _, _, _, sends, _⟩ := last_emit ordered run order.of_append fits.of_append
  generalize turn.emission = emission at sends
  generalize turn.sent = sent at sends
  cases sends with
  | unsent => exact .inr rfl
  | sent => exact .inl rfl
  | wouldBlock => exact .inr rfl
  | failed => exact .inr rfl

/-- What becomes of the socket that the last call sent on. -/
theorem socket_of_run {state : Option SyslogConnection} {call : SyslogCall} {turn : SyslogTurn}
    {socket : UnixDatagram} (ordered : retryMin.nanos ≤ retryMax.nanos)
    (run : Run (Step formatTimestamp latest layer retryMin retryMax) none (log ++ [(call, turn)])
      state)
    (order : InOrder (log ++ [(call, turn)]))
    (fits : Representable latest retryMin retryMax (log ++ [(call, turn)])) :
    (turn.sent = some (socket, .wouldBlock) →
      ∃ conn, state = some conn ∧ conn.socket = some socket) ∧
    (turn.sent = some (socket, .failed) →
      ∃ conn, state = some conn ∧ conn.socket = none ∧
        conn.nextAttempt = turn.time.add retryMin) := by
  cases call with
  | new socketPath created now opened =>
    -- The constructor sends nothing.
    obtain ⟨_, _, moved⟩ := Run.snoc_iff.mp run
    rw [(turn_of_new moved).2.2]
    exact ⟨(nomatch ·), (nomatch ·)⟩
  | emit level msg now utc opened outcome =>
    obtain ⟨time, conn, retried, conn', paced, retries, sends, rfl⟩ :=
      last_emit ordered run order fits
    generalize turn.emission = emission at sends
    generalize turn.sent = sent at sends ⊢
    cases sends with
    | unsent => exact ⟨(nomatch ·), (nomatch ·)⟩
    | sent => exact ⟨(nomatch ·), (nomatch ·)⟩
    | wouldBlock current open_ =>
      refine ⟨?_, (nomatch ·)⟩
      rintro ⟨⟩
      exact ⟨_, rfl, open_⟩
    | failed current open_ =>
      refine ⟨(nomatch ·), fun _ => ⟨_, rfl, rfl, ?_⟩⟩
      rw [time, retries.settings.1, paced.min_eq]

theorem Paced.bounded (ordered : retryMin.nanos ≤ retryMax.nanos)
    (paced : Paced retryMin retryMax log conn) :
    retryMin.nanos ≤ conn.backoff.nanos ∧ conn.backoff.nanos ≤ retryMax.nanos := by
  have least := le_delay ordered (streak log)
  have backoff_eq := paced.backoff_eq
  rw [delay] at least backoff_eq
  omega

/-- Where no delay that is reached is too long to be represented, every message goes to exactly one of the two
sinks; attempts to connect are `retry_min` apart, and after a failure as far as the failures in a
row ask for; a send that would block keeps the socket, and one that fails drops it for
`retry_min`; and the backoff stays between its bounds. -/
theorem delivery_and_pacing {state : Option SyslogConnection}
    (ordered : retryMin.nanos ≤ retryMax.nanos)
    (run : Run (Step formatTimestamp latest layer retryMin retryMax) none log state)
    (order : InOrder log) (fits : Representable latest retryMin retryMax log) :
    (∀ level msg now utc opened outcome turn,
      (.emit level msg now utc opened outcome, turn) ∈ log →
        turn.emission =
            ⟨[formatRfc3164 formatTimestamp level utc layer.tag layer.pid msg], [], false⟩ ∨
          turn.emission = ⟨[], [fallbackLine level msg], false⟩) ∧
    (∀ before first between second after success,
      log = before ++ first :: (between ++ second :: after) → first.2.attempt = some success →
      second.2.attempt.isSome →
        first.2.time.nanos + retryMin.nanos ≤ second.2.time.nanos ∧
        (success = false →
          first.2.time.nanos + min retryMax.nanos (retryMin.nanos * 2 ^ streak before) ≤
            second.2.time.nanos)) ∧
    (∀ before call turn socket, log = before ++ [(call, turn)] →
      (turn.sent = some (socket, .wouldBlock) →
        ∃ conn, state = some conn ∧ conn.socket = some socket) ∧
      (turn.sent = some (socket, .failed) →
        ∃ conn, state = some conn ∧ conn.socket = none ∧
          conn.nextAttempt = turn.time.add retryMin)) ∧
    ∀ conn, state = some conn →
      retryMin.nanos ≤ conn.backoff.nanos ∧ conn.backoff.nanos ≤ retryMax.nanos := by
  refine ⟨?_, ?_, ?_, ?_⟩
  · intro level msg now utc opened outcome turn member
    exact delivered_of_run ordered run order fits member
  · rintro before first between second after success rfl attempt again
    have apart := apart_of_run ordered run order fits attempt again
    cases success with
    | true =>
      rw [gap, if_pos rfl] at apart
      exact ⟨apart, (nomatch ·)⟩
    | false =>
      rw [gap, if_neg (by decide)] at apart
      have least := le_delay ordered (streak before)
      exact ⟨by omega, fun _ => apart⟩
  · rintro before call turn socket rfl
    exact socket_of_run ordered run order fits
  · rintro conn rfl
    have paced : Paced retryMin retryMax log conn := paced_of_run ordered run order fits
    exact paced.bounded ordered

end

/-- A connection with delays of one second to half a minute. -/
def exampleConnection (socket : Option UnixDatagram) (backoff : Duration)
    (nextAttempt : Instant) : SyslogConnection :=
  ⟨"/dev/log", socket, .fromSecs 1, .fromSecs 30, backoff, nextAttempt⟩

/-- The delays of the gateway, with a syslogd that comes up late and goes away again. -/
theorem delivery_and_pacing_lateSyslogd :
    ∃ (log : List SyslogEvent) (conn : SyslogConnection),
      Run (Step (fun _ => "now") .latest ⟨"gw-router1", 1⟩ (.fromSecs 1) (.fromSecs 30))
        none log (some conn) ∧
      InOrder log ∧ Representable .latest (.fromSecs 1) (.fromSecs 30) log ∧
      log.map (fun event => event.2.attempt) = [some false, none, some true, none] ∧
      (∀ before first between second after success,
        log = before ++ first :: (between ++ second :: after) → first.2.attempt = some success →
        second.2.attempt.isSome →
          first.2.time.nanos + (Duration.fromSecs 1).nanos ≤ second.2.time.nanos) ∧
      conn.socket = none ∧ conn.nextAttempt = ⟨3 * 10 ^ 9⟩ := by
  let failed : SyslogTurn := ⟨⟨0⟩, some false, none, [], [], false⟩
  let waited : SyslogTurn := ⟨⟨5 * 10 ^ 8⟩, none, none, [], [fallbackLine .info "a"], false⟩
  let sent : SyslogTurn := ⟨⟨10 ^ 9⟩, some true, some (⟨3⟩, .sent),
    [formatRfc3164 (fun _ => "now") .info ⟨0⟩ "gw-router1" 1 "b"], [], false⟩
  let dropped : SyslogTurn :=
    ⟨⟨2 * 10 ^ 9⟩, none, some (⟨3⟩, .failed), [], [fallbackLine .info "c"], false⟩
  have first : Step (fun _ => "now") .latest ⟨"gw-router1", 1⟩ (.fromSecs 1) (.fromSecs 30)
      none (.new "/dev/log" ⟨0⟩ ⟨0⟩ none, failed)
      (some (exampleConnection none (.fromSecs 2) ⟨10 ^ 9⟩)) := rfl
  have second : Step (fun _ => "now") .latest ⟨"gw-router1", 1⟩ (.fromSecs 1) (.fromSecs 30)
      (some (exampleConnection none (.fromSecs 2) ⟨10 ^ 9⟩))
      (.emit .info "a" ⟨5 * 10 ^ 8⟩ ⟨0⟩ none .sent, waited)
      (some (exampleConnection none (.fromSecs 2) ⟨10 ^ 9⟩)) := rfl
  have third : Step (fun _ => "now") .latest ⟨"gw-router1", 1⟩ (.fromSecs 1) (.fromSecs 30)
      (some (exampleConnection none (.fromSecs 2) ⟨10 ^ 9⟩))
      (.emit .info "b" ⟨10 ^ 9⟩ ⟨0⟩ (some ⟨3⟩) .sent, sent)
      (some (exampleConnection (some ⟨3⟩) (.fromSecs 1) ⟨10 ^ 9⟩)) := rfl
  have fourth : Step (fun _ => "now") .latest ⟨"gw-router1", 1⟩ (.fromSecs 1) (.fromSecs 30)
      (some (exampleConnection (some ⟨3⟩) (.fromSecs 1) ⟨10 ^ 9⟩))
      (.emit .info "c" ⟨2 * 10 ^ 9⟩ ⟨0⟩ none .failed, dropped)
      (some (exampleConnection none (.fromSecs 1) ⟨3 * 10 ^ 9⟩)) := rfl
  have run := Run.cons first (.cons second (.cons third (.single fourth)))
  have order : InOrder [(SyslogCall.new "/dev/log" ⟨0⟩ ⟨0⟩ none, failed),
      (.emit .info "a" ⟨5 * 10 ^ 8⟩ ⟨0⟩ none .sent, waited),
      (.emit .info "b" ⟨10 ^ 9⟩ ⟨0⟩ (some ⟨3⟩) .sent, sent),
      (.emit .info "c" ⟨2 * 10 ^ 9⟩ ⟨0⟩ none .failed, dropped)] := by
    simp [InOrder, failed, waited, sent, dropped]
  have fits : Representable .latest (.fromSecs 1) (.fromSecs 30)
      [(SyslogCall.new "/dev/log" ⟨0⟩ ⟨0⟩ none, failed),
      (.emit .info "a" ⟨5 * 10 ^ 8⟩ ⟨0⟩ none .sent, waited),
      (.emit .info "b" ⟨10 ^ 9⟩ ⟨0⟩ (some ⟨3⟩) .sent, sent),
      (.emit .info "c" ⟨2 * 10 ^ 9⟩ ⟨0⟩ none .failed, dropped)] := by
    constructor
    · intro before event after split attempt
      cases before with
      | nil =>
        cases split
        exact ⟨by decide, by decide⟩
      | cons head before =>
        -- No later attempt has failed.
        have later : event ∈ before ++ event :: after :=
          List.mem_append_right _ List.mem_cons_self
        rw [← show _ = before ++ event :: after from (List.cons.inj split).2] at later
        simp only [List.mem_cons, List.not_mem_nil, or_false] at later
        rcases later with rfl | rfl | rfl <;> cases attempt
    · simp [Instant.latest, failed, waited, sent, dropped]
  have ordered : (Duration.fromSecs 1).nanos ≤ (Duration.fromSecs 30).nanos := by decide
  obtain ⟨_, apart, _, _⟩ := delivery_and_pacing ordered run order fits
  refine ⟨_, _, run, order, fits, rfl, ?_, rfl, rfl⟩
  intro before first between second after success split attempt again
  exact (apart before first between second after success split attempt again).1

/-! ### Delays too long to be represented -/

/-- `Duration::MAX`. -/
def longestDuration : Duration := ⟨2 ^ 64 * 10 ^ 9 - 1, by decide⟩

/-- With a `retry_min` that cannot be added to the time, the disconnect after a failed send
panics, and the message reaches neither sink. -/
theorem message_lost_by_overflow :
    ∃ (log : List SyslogEvent) (state : Option SyslogConnection) (turn : SyslogTurn),
      Run (Step (fun _ => "now") .latest ⟨"gw-router1", 1⟩ longestDuration longestDuration)
        none log state ∧
      InOrder log ∧ (.emit .info "up" ⟨1⟩ ⟨0⟩ none .failed, turn) ∈ log ∧
      turn.emission.syslog = [] ∧ turn.emission.fallback = [] := by
  let made : SyslogTurn := ⟨⟨0⟩, some true, none, [], [], false⟩
  let lost : SyslogTurn := ⟨⟨1⟩, none, some (⟨3⟩, .failed), [], [], true⟩
  have first : Step (fun _ => "now") .latest ⟨"gw-router1", 1⟩ longestDuration longestDuration
      none (.new "/dev/log" ⟨0⟩ ⟨0⟩ (some ⟨3⟩), made)
      (some ⟨"/dev/log", some ⟨3⟩, longestDuration, longestDuration, longestDuration, ⟨0⟩⟩) := rfl
  have second : Step (fun _ => "now") .latest ⟨"gw-router1", 1⟩ longestDuration longestDuration
      (some ⟨"/dev/log", some ⟨3⟩, longestDuration, longestDuration, longestDuration, ⟨0⟩⟩)
      (.emit .info "up" ⟨1⟩ ⟨0⟩ none .failed, lost)
      (some ⟨"/dev/log", none, longestDuration, longestDuration, longestDuration, ⟨0⟩⟩) := rfl
  exact ⟨_, _, lost, Run.cons first (Run.single second), by simp [InOrder, made, lost],
    by simp, rfl, rfl⟩

end SyslogLayer

end ModbusGateway
