import ClusterMember.Duration
import Mathlib.Algebra.Group.Nat.Defs

/-! # Durations as numbers

The order, the sum and the milliseconds of durations, read off their exact lengths.

* `Duration.toNanos_longer`, `Duration.toNanos_of_add?`, `Duration.millis_eq`
* `Duration.add?_eq_none_iff`: a sum exists unless it is too long for any duration.
* `Timings.limit_le_shutdownBound`: no call takes longer than it may take to end.
* `Timings.NoLonger`, `Timings.shutdownBound_is_exact`: the bound is the longest wait and the longest
  call, up to the longest duration.
-/

namespace ClusterMember
set_option autoImplicit false

namespace Duration

theorem toNanos_longer (a b : Duration) : (a.longer b).toNanos = max a.toNanos b.toNanos := by
  have ha := a.nanos.isLt
  have hb := b.nanos.isLt
  unfold longer
  split
  · next h =>
    have hle : a.toNanos ≤ b.toNanos := by
      unfold toNanos
      rcases h with h | ⟨h, hn⟩
      · have := UInt64.lt_iff_toNat_lt.1 h
        omega
      · have hn : a.nanos.val ≤ b.nanos.val := hn
        rw [h]
        omega
    exact (Nat.max_eq_right hle).symm
  · next h =>
    have hle : b.toNanos ≤ a.toNanos := by
      unfold toNanos
      rcases Nat.lt_trichotomy a.secs.toNat b.secs.toNat with hs | hs | hs
      · exact absurd (.inl (UInt64.lt_iff_toNat_lt.2 hs)) h
      · have hn : ¬ a.nanos ≤ b.nanos := fun hn => h (.inr ⟨UInt64.toNat_inj.1 hs, hn⟩)
        have hn : b.nanos.val < a.nanos.val := Nat.lt_of_not_le hn
        omega
      · omega
    exact (Nat.max_eq_left hle).symm

theorem toNanos_of_add? {a b c : Duration} (h : a.add? b = some c) :
    c.toNanos = a.toNanos + b.toNanos := by
  simp only [add?] at h
  split at h
  · next hlt =>
    cases h
    simp only [toNanos, UInt64.toNat_ofNat', Nat.mod_eq_of_lt hlt]
    omega
  · cases h

theorem toNanos_ofSecs (secs : UInt64) : (ofSecs secs).toNanos = secs.toNat * 1000000000 :=
  Nat.add_zero _

theorem secs_eq (d : Duration) : d.secs.toNat = d.toNanos / 1000000000 := by
  have h := d.nanos.isLt
  unfold toNanos
  omega

theorem nanos_eq (d : Duration) : d.nanos.val = d.toNanos % 1000000000 := by
  have h := d.nanos.isLt
  unfold toNanos
  omega

theorem toNanos_lt (d : Duration) : d.toNanos < 2 ^ 64 * 1000000000 := by
  have hs := d.secs.toNat_lt
  have hn := d.nanos.isLt
  unfold toNanos
  omega

/-- A sum is missing only where no duration is that long, whether the seconds alone are too many or
become so by the carry. -/
theorem add?_eq_none_iff (a b : Duration) :
    a.add? b = none ↔ 2 ^ 64 * 1000000000 ≤ a.toNanos + b.toNanos := by
  constructor
  · intro h
    apply Nat.le_of_not_lt
    intro hlt
    have fits : a.secs.toNat + b.secs.toNat + (a.nanos.val + b.nanos.val) / 1000000000 <
        UInt64.size := by
      unfold toNanos at hlt
      unfold UInt64.size
      omega
    simp only [add?] at h
    rw [if_pos fits] at h
    cases h
  · intro h
    cases hsum : a.add? b with
    | none => rfl
    | some c =>
      have hc := c.toNanos_lt
      rw [toNanos_of_add? hsum] at hc
      omega

theorem millis_eq (d : Duration) : d.millis = (d.toNanos + 999999) / 1000000 := by
  unfold millis toNanos
  omega

theorem millis_mono {a b : Duration} (h : a.toNanos ≤ b.toNanos) : a.millis ≤ b.millis := by
  rw [millis_eq, millis_eq]
  omega

end Duration

/-- No call takes longer than a running agent can take to end. -/
theorem Timings.limit_le_shutdownBound {t : Timings} {bound : Duration}
    (h : t.shutdownBound = some bound) :
    max t.registerTimeout.millis t.heartbeatTimeout.millis ≤ bound.millis := by
  have hb := Duration.toNanos_of_add? h
  rw [Duration.toNanos_longer, Duration.toNanos_longer] at hb
  apply Nat.max_le.2
  constructor
  · apply Duration.millis_mono
    omega
  · apply Duration.millis_mono
    omega

namespace Timings

/-- None of the four timings is longer than its counterpart. -/
structure NoLonger (t t' : Timings) : Prop where
  heartbeatInterval : t.heartbeatInterval.toNanos ≤ t'.heartbeatInterval.toNanos
  retryDelay : t.retryDelay.toNanos ≤ t'.retryDelay.toNanos
  registerTimeout : t.registerTimeout.toNanos ≤ t'.registerTimeout.toNanos
  heartbeatTimeout : t.heartbeatTimeout.toNanos ≤ t'.heartbeatTimeout.toNanos

def longestWait (t : Timings) : Nat := max t.heartbeatInterval.toNanos t.retryDelay.toNanos

def longestCall (t : Timings) : Nat := max t.registerTimeout.toNanos t.heartbeatTimeout.toNanos

theorem toNanos_of_shutdownBound {t : Timings} {bound : Duration}
    (h : t.shutdownBound = some bound) : bound.toNanos = t.longestWait + t.longestCall := by
  have hsum := Duration.toNanos_of_add? h
  rw [Duration.toNanos_longer, Duration.toNanos_longer] at hsum
  exact hsum

theorem shutdownBound_eq_none_iff (t : Timings) :
    t.shutdownBound = none ↔ 2 ^ 64 * 1000000000 ≤ t.longestWait + t.longestCall := by
  rw [shutdownBound, Duration.add?_eq_none_iff, Duration.toNanos_longer, Duration.toNanos_longer]
  rfl

theorem wait_add_call_le (t : Timings) {wait call : Duration}
    (hw : wait = t.heartbeatInterval ∨ wait = t.retryDelay)
    (hc : call = t.registerTimeout ∨ call = t.heartbeatTimeout) :
    wait.toNanos + call.toNanos ≤ t.longestWait + t.longestCall := by
  apply Nat.add_le_add
  · rcases hw with rfl | rfl
    · exact Nat.le_max_left _ _
    · exact Nat.le_max_right _ _
  · rcases hc with rfl | rfl
    · exact Nat.le_max_left _ _
    · exact Nat.le_max_right _ _

theorem NoLonger.longest_le {t t' : Timings} (h : t.NoLonger t') :
    t.longestWait + t.longestCall ≤ t'.longestWait + t'.longestCall := by
  apply Nat.add_le_add
  · apply Nat.max_le.2
    exact ⟨Nat.le_trans h.heartbeatInterval (Nat.le_max_left _ _),
      Nat.le_trans h.retryDelay (Nat.le_max_right _ _)⟩
  · apply Nat.max_le.2
    exact ⟨Nat.le_trans h.registerTimeout (Nat.le_max_left _ _),
      Nat.le_trans h.heartbeatTimeout (Nat.le_max_right _ _)⟩

/-- The bound is the longest wait and the longest call together, to the nanosecond and with the carry
in its seconds. It covers any wait and any call, no timing makes it shorter by being longer, and it is
missing only where the two together take `2 ^ 64` seconds or more. -/
theorem shutdownBound_is_exact (t : Timings) :
    let total := max t.heartbeatInterval.toNanos t.retryDelay.toNanos +
      max t.registerTimeout.toNanos t.heartbeatTimeout.toNanos
    (t.shutdownBound = none ↔ 2 ^ 64 * 1000000000 ≤ total) ∧
    (total < 2 ^ 64 * 1000000000 → ∃ bound, t.shutdownBound = some bound ∧
      bound.secs.toNat = total / 1000000000 ∧ bound.nanos.val = total % 1000000000 ∧
      bound.toNanos = total ∧
      ∀ wait ∈ [t.heartbeatInterval, t.retryDelay],
        ∀ call ∈ [t.registerTimeout, t.heartbeatTimeout],
          wait.toNanos + call.toNanos ≤ bound.toNanos) ∧
    ∀ t' bound', t.NoLonger t' → t'.shutdownBound = some bound' →
      ∃ bound, t.shutdownBound = some bound ∧ bound.toNanos ≤ bound'.toNanos := by
  intro total
  have hnone : t.shutdownBound = none ↔ 2 ^ 64 * 1000000000 ≤ total := t.shutdownBound_eq_none_iff
  have exists_of_lt (h : total < 2 ^ 64 * 1000000000) :
      ∃ bound, t.shutdownBound = some bound ∧ bound.toNanos = total := by
    cases hb : t.shutdownBound with
    | none => exact absurd (hnone.1 hb) (Nat.not_le_of_lt h)
    | some bound => exact ⟨bound, rfl, toNanos_of_shutdownBound hb⟩
  refine ⟨hnone, ?_, ?_⟩
  · intro h
    obtain ⟨bound, hb, htotal⟩ := exists_of_lt h
    refine ⟨bound, hb, ?_, ?_, htotal, ?_⟩
    · rw [← htotal]
      exact bound.secs_eq
    · rw [← htotal]
      exact bound.nanos_eq
    · intro wait hw call hc
      rw [htotal]
      exact t.wait_add_call_le (by simpa using hw) (by simpa using hc)
  · intro t' bound' hle hb'
    have hlt : total < 2 ^ 64 * 1000000000 := by
      have hle' : total ≤ bound'.toNanos := by
        rw [toNanos_of_shutdownBound hb']
        exact hle.longest_le
      exact Nat.lt_of_le_of_lt hle' bound'.toNanos_lt
    obtain ⟨bound, hb, htotal⟩ := exists_of_lt hlt
    refine ⟨bound, hb, ?_⟩
    rw [htotal, toNanos_of_shutdownBound hb']
    exact hle.longest_le

/-- One nanosecond decides: the seconds just fit until the carry makes them one too many. -/
example :
    let half : Duration := ⟨9223372036854775807, 999999999⟩
    ({ registerTimeout := half, heartbeatInterval := ⟨9223372036854775808, 0⟩ } :
      Timings).shutdownBound = some ⟨18446744073709551615, 999999999⟩ ∧
    ({ registerTimeout := half, heartbeatInterval := ⟨9223372036854775808, 1⟩ } :
      Timings).shutdownBound = none := by
  decide +kernel

end Timings
end ClusterMember
