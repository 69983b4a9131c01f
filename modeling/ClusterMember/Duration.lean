/-! # Lengths of time

A duration is a number of whole seconds, of 64 bits, and a number of nanoseconds below one second.

* `Duration.toNanos`: its exact length, the view in which durations are compared and added.
* `Duration.add?`: the sum, which exists only while the seconds fit into 64 bits.
* `Duration.millis`: the length on a clock that counts whole milliseconds; a part of one counts
  in full, so that no wait ends early.
* `Duration.waited`: how long a pause takes; there is a longest one. A time limit is no pause: it holds
  for all its `millis`.
* `Duration.text`: the shortest exact decimal in the largest unit that leaves a whole part.
* `Timings`: the two waits of an agent and the time limits of its two kinds of call.
* `Timings.shutdownBound`: how long a running agent can take to end once it is told to stop.
-/

namespace ClusterMember
set_option autoImplicit false

/-- Whole seconds and the nanoseconds beyond them. -/
structure Duration where
  secs : UInt64
  nanos : Fin 1000000000
deriving DecidableEq, Inhabited

namespace Duration

/-- Whole seconds. -/
def ofSecs (secs : UInt64) : Duration := ⟨secs, 0⟩

/-- Whole milliseconds. -/
def ofMillis (millis : UInt64) : Duration :=
  ⟨millis / 1000, ⟨millis.toNat % 1000 * 1000000, by omega⟩⟩

/-- The exact length in nanoseconds. -/
def toNanos (d : Duration) : Nat := d.secs.toNat * 1000000000 + d.nanos.val

/-- The length in whole milliseconds, a part of a millisecond counted in full. -/
def millis (d : Duration) : Nat := d.secs.toNat * 1000 + (d.nanos.val + 999999) / 1000000

/-- The longest pause, in milliseconds: thirty years of 365 days. -/
def longestWait : Nat := 30 * 365 * 24 * 60 * 60 * 1000

/-- How long a pause of a given duration takes, in milliseconds. -/
def waited (d : Duration) : Nat := min d.millis longestWait

/-! ## Order and sum -/

/-- The longer of two durations: by the seconds first, then by the nanoseconds. -/
def longer (a b : Duration) : Duration :=
  if a.secs < b.secs ∨ a.secs = b.secs ∧ a.nanos ≤ b.nanos then b else a

/-- The sum, with the carry of the nanoseconds; `none` once the seconds need more than 64 bits. -/
def add? (a b : Duration) : Option Duration :=
  let nanos := a.nanos.val + b.nanos.val
  let secs := a.secs.toNat + b.secs.toNat + nanos / 1000000000
  if secs < UInt64.size then some ⟨UInt64.ofNat secs, ⟨nanos % 1000000000, by omega⟩⟩ else none

/-! ## Text -/

/-- The decimals of `part / 10 ^ places`, after the point, without zeros at the end. -/
def decimals : (places : Nat) → (part : Nat) → List Char
  | 0, _ => []
  | places + 1, part =>
    if part = 0 then [] else Nat.digitChar (part / 10 ^ places) :: decimals places (part % 10 ^ places)

/-- `whole` units and `part / 10 ^ places` of one, in decimal. -/
def inUnits (whole part places : Nat) (unit : String) : String :=
  let fraction := decimals places part
  let number := Nat.toDigits 10 whole ++ if fraction.isEmpty then [] else '.' :: fraction
  String.ofList number ++ unit

/-- A duration in seconds if it lasts one, else in milliseconds, microseconds or nanoseconds. -/
def text (d : Duration) : String :=
  let nanos := d.nanos.val
  if d.secs ≠ 0 then inUnits d.secs.toNat nanos 9 "s"
  else if 1000000 ≤ nanos then inUnits (nanos / 1000000) (nanos % 1000000) 6 "ms"
  else if 1000 ≤ nanos then inUnits (nanos / 1000) (nanos % 1000) 3 "µs"
  else inUnits nanos 0 0 "ns"

end Duration

/-! ## How long an agent waits -/

/-- The waits between calls and the time limits of calls. -/
structure Timings where
  heartbeatInterval : Duration := .ofSecs 5
  /-- The wait before a failed or refused registration is tried again. -/
  retryDelay : Duration := .ofSecs 5
  registerTimeout : Duration := .ofSecs 5
  heartbeatTimeout : Duration := .ofSecs 3
deriving DecidableEq, Inhabited

namespace Timings

/-- One wait and one call of the longest kind, or `none` where no duration is that long. -/
def shutdownBound (t : Timings) : Option Duration :=
  (t.heartbeatInterval.longer t.retryDelay).add? (t.registerTimeout.longer t.heartbeatTimeout)

end Timings
end ClusterMember
