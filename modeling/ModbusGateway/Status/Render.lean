import ModbusGateway.Foundation.Utf8
import ModbusGateway.Status.State

/-!
# The text of the status file

`render_status` with its cut to the size of the file. The cut slices the text at
byte indices, which panics where an index is no character boundary; such a slice
has no result here, and none is ever taken.
-/
namespace ModbusGateway

open Foundation

/-- Hard cap on the status file size. -/
def maxStatusBytes : Nat := 2048

/-- The two formats that times are written in. -/
inductive TimeFormat where
  | timestamp
  | timeOfDay
  deriving DecidableEq

section

variable (formatUtc : OffsetDateTime → TimeFormat → String)

def problemText (device : DeviceStatus) : Option String :=
  match device.health with
  | .problem reason since =>
    some s!"{device.id}: {reason} since {formatUtc since .timeOfDay}"
  | .unknown | .ok => none

def connectionText (conn : ConnectionStatus) : String :=
  if !conn.up then s!"connection {conn.id}: down\n"
  else
    let ok := conn.devices.countP fun device => device.health = .ok
    let problems := conn.devices.filterMap (problemText formatUtc)
    let listed := ", ".intercalate problems
    s!"connection {conn.id}: up, {ok}/{conn.devices.length} devices ok" ++
      (if problems.isEmpty then "" else s!" ({listed})") ++ "\n"

/-- The text before it is cut. -/
def statusText (state : StatusState) (now : OffsetDateTime) : String :=
  let mqtt := if state.mqttConnected then "connected" else "disconnected"
  s!"gateway: {state.gatewayId}\nupdated: {formatUtc now .timestamp}\n" ++
    s!"mqtt: {mqtt} ({state.broker})\n" ++
    String.join (state.connections.map (connectionText formatUtc))

/-- Cuts to the last complete line that fits, or else to a character boundary. -/
def truncate (s : String) : Option String :=
  if s.utf8ByteSize ≤ maxStatusBytes then some s
  else do
    let text := s.toList
    let stop ← Utf8.floorCharBoundary text maxStatusBytes
    let head ← Utf8.sliceTo text stop
    let stop := match Utf8.rfind '\n' head with
      | some newline => newline + 1
      | none => stop
    return .ofList (← Utf8.sliceTo text stop)

def renderStatus (state : StatusState) (now : OffsetDateTime) : Option String :=
  truncate (statusText formatUtc state now)

end

/-! ### The cut -/

def Fits (head : List Char) : Prop := String.utf8Len head ≤ maxStatusBytes

def EndsLine (head : List Char) : Prop := ∃ line, head = line ++ ['\n']

/-- A text that does not fit is cut at a boundary: behind its last line that fits, or where
no line does, behind its last character that fits. -/
theorem truncate_of_large {s : String} (large : maxStatusBytes < s.utf8ByteSize) :
    ∃ head, truncate s = some (.ofList head) ∧
      (Utf8.Longest (fun head => Fits head ∧ EndsLine head) s.toList head ∨
        (∀ head, head <+: s.toList → ¬ (Fits head ∧ EndsLine head)) ∧
          Utf8.Longest Fits s.toList head) := by
  obtain ⟨stop, head, found, slice⟩ := Utf8.exists_floorCharBoundary s.toList maxStatusBytes
  have whole : Utf8.Longest Fits s.toList head := Utf8.longest_of_floorCharBoundary found slice
  simp only [truncate, if_neg (Nat.not_le.mpr large), found, slice, Option.bind_eq_bind,
    Option.bind_some]
  cases newline : Utf8.rfind '\n' head with
  | none =>
    refine ⟨head, by simp [slice], .inr ⟨?_, whole⟩⟩
    rintro _ within ⟨fits, line, rfl⟩
    have part := whole.greatest within fits
    exact Utf8.notMem_of_rfind newline (part.subset (by simp))
  | some i =>
    -- A newline takes one byte, so behind it there is a boundary again.
    obtain ⟨before, after, rfl, size, last⟩ := Utf8.split_of_rfind newline
    have lines := whole.trans (Utf8.longest_of_split last)
      (fun part fits => Nat.le_trans (String.utf8Len_le_of_prefix part) fits)
    have cut : Utf8.sliceTo s.toList (i + 1) = some (before ++ ['\n']) :=
      Utf8.sliceTo_eq_some_iff.mpr ⟨lines.within, by simp [size, Char.utf8Size]⟩
    exact ⟨before ++ ['\n'], by simp [cut], .inl lines⟩

theorem exists_truncate (s : String) : ∃ text, truncate s = some text := by
  by_cases fits : s.utf8ByteSize ≤ maxStatusBytes
  · exact ⟨s, if_pos fits⟩
  · obtain ⟨head, cut, _⟩ := truncate_of_large (Nat.lt_of_not_le fits)
    exact ⟨.ofList head, cut⟩

section

variable (formatUtc : OffsetDateTime → TimeFormat → String)

theorem exists_renderStatus (state : StatusState) (now : OffsetDateTime) :
    ∃ text, renderStatus formatUtc state now = some text :=
  exists_truncate _

/-- The file is the whole text where that fits, and otherwise the longest part of it from the
start that fits and ends in a newline, or fits at all. -/
theorem renderStatus_longest (state : StatusState) (now : OffsetDateTime) :
    ∃ text, renderStatus formatUtc state now = some text ∧
      text.utf8ByteSize ≤ maxStatusBytes ∧
      text.toList <+: (statusText formatUtc state now).toList ∧
      ((statusText formatUtc state now).utf8ByteSize ≤ maxStatusBytes →
        text = statusText formatUtc state now) ∧
      (maxStatusBytes < (statusText formatUtc state now).utf8ByteSize →
        Utf8.Longest (fun head => Fits head ∧ EndsLine head)
            (statusText formatUtc state now).toList text.toList ∨
          (∀ head, head <+: (statusText formatUtc state now).toList →
            ¬ (Fits head ∧ EndsLine head)) ∧
            Utf8.Longest Fits (statusText formatUtc state now).toList text.toList) := by
  generalize full : statusText formatUtc state now = s
  by_cases fits : s.utf8ByteSize ≤ maxStatusBytes
  · refine ⟨s, ?_, fits, List.prefix_rfl, fun _ => rfl, fun large => absurd fits (by omega)⟩
    rw [renderStatus, full, truncate, if_pos fits]
  · obtain ⟨head, cut, longest⟩ := truncate_of_large (Nat.lt_of_not_le fits)
    refine ⟨.ofList head, by rw [renderStatus, full, cut], ?_, ?_, fun small => absurd small fits,
      fun _ => by simpa only [String.toList_ofList] using longest⟩
    · rw [String.utf8ByteSize_ofList]
      exact longest.elim (fun lines => lines.holds.1) (fun chars => chars.2.holds)
    · rw [String.toList_ofList]
      exact longest.elim (fun lines => lines.within) (fun chars => chars.2.within)

end

end ModbusGateway
