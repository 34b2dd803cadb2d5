import Mathlib.Data.UInt
import RavennaLkm.ClockDivisors
import RavennaLkm.Lib.NearMultiples
import RavennaLkm.Lib.SignedWords
import RavennaLkm.TICCount

/-!
The count of a TIC as a rounding: a sample position of the master that is near to
a frame boundary, on either side, is counted as that boundary, and any other one
as the frame behind the last TIC.
-/
namespace RavennaLkm
open CheckedLoop NearMultiples SignedWords

namespace ClockPTP

variable {c c' : ClockPTP} {now clockTime endTime counterTime : UInt64} {t : Nat}

def samplePosition (c : ClockPTP) (t : Nat) : Nat := t * c.samplingRate.toNat / 10000

def tolerance (c : ClockPTP) : Nat := 4 * c.samplingRate.toNat / 44100

structure RoundsTo (c : ClockPTP) (p : Nat) (sac : UInt64) : Prop where
  whole : c.frameSize.toNat ∣ sac.toNat
  nearest : ∀ k, 2 * c.tolerance < c.frameSize.toNat → Near c.frameSize.toNat c.tolerance p k →
    sac.toNat = k * c.frameSize.toNat
  between : c.tolerance ≤ p % c.frameSize.toNat → p % c.frameSize.toNat + c.tolerance ≤ c.frameSize.toNat →
    sac.toNat = c.lastTICCount.toNat * c.frameSize.toNat

/-- The time `t` of the master, in units of 100 µs, for which neither the position nor the tolerance overflows;
nor does the count that follows the last one, where it is taken. -/
structure Countable (c : ClockPTP) (now : UInt64) (t : Nat) : Prop where
  rate : 100 ∣ c.samplingRate.toNat
  time : (now.toNat : Int) - c.ticPTPToRTXClockOffset.toInt = t
  product : t * (c.samplingRate.toNat / 100) < 2 ^ 64
  tolerance : 4 * c.samplingRate.toNat < 2 ^ 32
  last : c.tolerance ≤ c.samplePosition t % c.frameSize.toNat →
    c.samplePosition t % c.frameSize.toNat + c.tolerance ≤ c.frameSize.toNat →
    c.lastTICCount.toNat * c.frameSize.toNat < 2 ^ 64

theorem Countable.masterSamples (countable : c.Countable now t) :
    (c.masterSamples now).toNat = c.samplePosition t := by
  obtain ⟨hundreds, isRate⟩ := countable.rate
  have product := countable.product
  have difference := toNat_sub_toUInt64 now c.ticPTPToRTXClockOffset
  rw [countable.time] at difference
  have elapsed : (now - c.ticPTPToRTXClockOffset.toUInt64).toNat = t % 2 ^ 64 := by omega
  have perUnit : (c.samplingRate / 100).toUInt64.toNat = hundreds := by
    rw [UInt32.toNat_toUInt64, UInt32.toNat_div, isRate]
    exact Nat.mul_div_cancel_left hundreds (by decide)
  rw [isRate, Nat.mul_div_cancel_left hundreds (by decide)] at product
  unfold ClockPTP.masterSamples samplePosition
  rw [UInt64.toNat_div, UInt64.toNat_mul, elapsed, perUnit, Nat.mod_mul_mod, Nat.mod_eq_of_lt product, isRate,
    Nat.mul_left_comm]
  exact (Nat.mul_div_mul_left (t * hundreds) 100 (show 0 < 100 by decide)).symm

theorem Countable.toNat_tolerance (countable : c.Countable now t) :
    (4 * c.samplingRate / 44100).toNat = c.tolerance := by
  have small := countable.tolerance
  rw [UInt32.toNat_div, UInt32.toNat_mul]
  change 4 * c.samplingRate.toNat % 2 ^ 32 / 44100 = _
  rw [Nat.mod_eq_of_lt small, ClockPTP.tolerance]

theorem Countable.samplePosition_lt (countable : c.Countable now t) : c.samplePosition t < 2 ^ 62 := by
  have samples := countable.masterSamples
  have bound := ((now - c.ticPTPToRTXClockOffset.toUInt64) * (c.samplingRate / 100).toUInt64).toNat_lt
  unfold ClockPTP.masterSamples at samples
  rw [UInt64.toNat_div] at samples
  change _ / 100 = _ at samples
  omega

theorem toNat_sampleCount {count : UInt64} {frameSize : UInt32} (fits : count.toNat * frameSize.toNat < 2 ^ 64) :
    (count * frameSize.toUInt64).toNat = count.toNat * frameSize.toNat := by
  rw [UInt64.toNat_mul, UInt32.toNat_toUInt64, Nat.mod_eq_of_lt fits]

theorem currentTICCount_rounds (countable : c.Countable now t) {ticCount : UInt64}
    (done : c.currentTICCount now = .ok ticCount) :
    c.RoundsTo (c.samplePosition t) ((ticCount - 1) * c.frameSize.toUInt64) := by
  obtain ⟨positive, q, r, quotient, remainder, rfl⟩ := currentTICCount_cases done
  have isTolerance := countable.toNat_tolerance
  have last := countable.last
  have small := countable.samplePosition_lt
  have frame := c.frameSize.toNat_lt
  rw [countable.masterSamples] at quotient remainder
  generalize c.samplePosition t = p at quotient remainder last small ⊢
  have below := Nat.mod_lt p positive
  have whole := Nat.div_add_mod' p c.frameSize.toNat
  by_cases early : r < 4 * c.samplingRate / 44100
  · have near : p % c.frameSize.toNat < c.tolerance := by
      rwa [← isTolerance, ← remainder, ← UInt32.lt_iff_toNat_lt]
    have sac : (q * c.frameSize.toUInt64).toNat = _ := toNat_sampleCount (by rw [quotient]; omega)
    rw [if_pos early, UInt64.add_sub_cancel]
    refine ⟨⟨_, sac.trans (Nat.mul_comm ..)⟩, ?_, fun late => by omega⟩
    intro k apart isNear
    rcases isNear.cases apart with ⟨-, rfl⟩ | ⟨late, -⟩
    · rw [sac, quotient]
    · omega
  · have notEarly : c.tolerance ≤ p % c.frameSize.toNat := by
      rwa [← isTolerance, ← remainder, ← UInt32.le_iff_toNat_le, ← UInt32.not_lt]
    have room := UInt32.toNat_sub_of_le c.frameSize (4 * c.samplingRate / 44100)
      (UInt32.le_iff_toNat_le.mpr (by omega))
    rw [if_neg early]
    by_cases late : r > c.frameSize - 4 * c.samplingRate / 44100
    · have near : c.frameSize.toNat < p % c.frameSize.toNat + c.tolerance := by
        rw [gt_iff_lt, UInt32.lt_iff_toNat_lt, room, remainder, isTolerance] at late
        omega
      have floor := Nat.div_le_self p c.frameSize.toNat
      have next : (q + 1).toNat = q.toNat + 1 := toNat_succ (by omega)
      have sac : ((q + 1) * c.frameSize.toUInt64).toNat = _ :=
        toNat_sampleCount (by rw [next, quotient, Nat.succ_mul]; omega)
      rw [if_pos late, UInt64.add_sub_cancel]
      refine ⟨⟨_, sac.trans (Nat.mul_comm ..)⟩, ?_, fun _ notLate => by omega⟩
      intro k apart isNear
      rcases isNear.cases apart with ⟨isEarly, -⟩ | ⟨-, rfl⟩
      · omega
      · rw [sac, next, quotient]
    · have notLate : p % c.frameSize.toNat + c.tolerance ≤ c.frameSize.toNat := by
        rw [gt_iff_lt, UInt32.lt_iff_toNat_lt, room, remainder, isTolerance] at late
        omega
      have sac := toNat_sampleCount (last notEarly notLate)
      rw [if_neg late, UInt64.add_sub_cancel]
      refine ⟨⟨_, sac.trans (Nat.mul_comm ..)⟩, ?_, fun _ _ => sac⟩
      intro k apart isNear
      rcases isNear.cases apart with ⟨isEarly, -⟩ | ⟨isLate, -⟩
      · omega
      · omega

/-- The TIC at a clock time, which is the time `t` of the master, is counted as its position rounds. -/
def Rounds (c : ClockPTP) (clockTime : UInt64) (t : Nat) : Prop :=
  ∀ endTime counterTime, ∃ c' next, c.timerProcess clockTime endTime counterTime = .ok (c', next) ∧
    c.RoundsTo (c.samplePosition t) c'.globalSAC

/-- A started clock with frames counts every TIC, as the nearest boundary where one is near. -/
theorem timerProcess_rounds (started : c.audioFrameTICTimerStarted = true) (frames : c.frameSize ≠ 0)
    (countable : c.Countable (clockTime / nsToRefUnit) t) : c.Rounds clockTime t := by
  intro endTime counterTime
  rcases timerProcess_outcome c clockTime endTime counterTime with ⟨⟨-, none⟩, -⟩ | ⟨-, ⟨c', next⟩, done⟩
  · exact absurd none frames
  · refine ⟨c', next, done, ?_⟩
    rcases timerProcess_cases done with ⟨stopped, -⟩ | ⟨-, ticCount, counted, sac, -⟩
    · rw [started] at stopped
      cases stopped
    · rw [atTIC_currentTICCount] at counted
      rw [sac]
      exact currentTICCount_rounds countable counted

/-- A TIC three samples after the first boundary, at a clock that is 100 µs behind its master. -/
theorem timerProcess_rounds_late : { initPTP with
    audioFrameTICTimerStarted := true, ticPTPToRTXClockOffset := -1 : ClockPTP }.Rounds 1300000 14 :=
  timerProcess_rounds rfl (by decide)
    ⟨by decide, by decide, by decide, by decide, fun notEarly _ => absurd notEarly (by decide)⟩

theorem Rounds.computed (rounds : c.Rounds clockTime t) {sac : UInt64}
    (ran : (·.1.globalSAC) <$> c.timerProcess clockTime 0 0 = .ok sac) : c.RoundsTo (c.samplePosition t) sac := by
  obtain ⟨c', next, done, rounded⟩ := rounds 0 0
  rw [done, map_ok] at ran
  cases ran
  exact rounded

/-- A rate above 2 ^ 30 leaves no tolerance, a clock without frames divides by zero, and the count of frames that
follows the last one can pass 2 ^ 64. -/
theorem tic_not_rounded :
    ¬ { initPTP with audioFrameTICTimerStarted := true, frameSize := 200000, samplingRate := 1073741900
        : ClockPTP }.Rounds 200000 2 ∧
      ¬ { initPTP with audioFrameTICTimerStarted := true, frameSize := 0 : ClockPTP }.Rounds 0 0 ∧
      ¬ { initPTP with audioFrameTICTimerStarted := true, frameSize := 50, lastTICCount := 2 ^ 60
          : ClockPTP }.Rounds 500000 5 := by
  refine ⟨?_, ?_, ?_⟩
  · intro rounds
    have rounded := @Rounds.computed _ _ _ rounds 0 (by decide +kernel)
    exact absurd (rounded.nearest 1 (by decide) ⟨by decide, by decide⟩) (by decide)
  · intro rounds
    obtain ⟨c', next, done, -⟩ := rounds 0 0
    cases done
  · intro rounds
    have rounded := @Rounds.computed _ _ _ rounds (2 ^ 61) (by decide +kernel)
    exact absurd rounded.whole (by decide +kernel)

end ClockPTP

end RavennaLkm
