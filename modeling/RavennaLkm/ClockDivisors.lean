import RavennaLkm.ManagerSpec

/-!
What a clock divides by. Its frame size, its rate and its period are set when it
is started, and none of them is looked at before it is used; the clock meets no
other fault.
-/
namespace RavennaLkm
open CheckedLoop

/-- The divisors of a clock; the period divides after it was truncated to `int`, unless it is 0. -/
structure Timing.Runnable (t : Timing) : Prop where
  frameSize : t.frameSize ≠ 0
  samplingRate : t.samplingRate ≠ 0
  ticBasePeriod : t.ticBasePeriod.toUInt32 = 0 → t.ticBasePeriod = 0

theorem divU64_succeeds_iff {x divisor : UInt64} : Succeeds (divU64 x divisor) ↔ divisor ≠ 0 := by
  unfold divU64
  by_cases none : divisor = 0
  · simp [none]
  · simp [none]

theorem divI32_succeeds_iff {x divisor : Int32} : Succeeds (divI32 x divisor) ↔ divisor ≠ 0 := by
  unfold divI32
  by_cases none : divisor = 0
  · simp [none]
  · simp [none]

theorem cwLlModulo_succeeds_iff {x : UInt64} {divisor : UInt32} :
    Succeeds (cwLlModulo x divisor.toUInt64) ↔ divisor ≠ 0 := by
  unfold cwLlModulo
  rw [UInt32.toUInt32_toUInt64]
  by_cases none : divisor = 0
  · simp [none]
  · simp [none]

theorem toUInt64_ne_zero {x : UInt32} : x.toUInt64 ≠ 0 ↔ x ≠ 0 := by
  constructor
  · intro some none
    rw [none] at some
    exact some rfl
  · intro some none
    apply some
    rw [← UInt32.toUInt32_toUInt64 x, none]
    rfl

namespace ClockPTP

variable {c c' : ClockPTP}

theorem lastTICFrameFraction_succeeds_iff (t1 : UInt64) :
    Succeeds (c.lastTICFrameFraction t1) ↔ c.frameSize ≠ 0 ∧ c.samplingRate ≠ 0 := by
  constructor
  · intro done
    obtain ⟨a, modulo, rest⟩ := succeeds_bind.mp done
    constructor
    · exact cwLlModulo_succeeds_iff.mp ⟨a, modulo⟩
    · exact toUInt64_ne_zero.mp (divU64_succeeds_iff.mp rest)
  · rintro ⟨frames, rate⟩
    apply Succeeds.bind (cwLlModulo_succeeds_iff.mpr frames)
    intro a _
    exact divU64_succeeds_iff.mpr (toUInt64_ne_zero.mpr rate)

theorem lastTICFrameFraction_succeeds (runnable : c.timing.Runnable) (t1 : UInt64) :
    Succeeds (c.lastTICFrameFraction t1) :=
  (lastTICFrameFraction_succeeds_iff t1).mpr ⟨runnable.frameSize, runnable.samplingRate⟩

theorem alignNextTIC_succeeds (runnable : c.timing.Runnable) {t1 deltaT1 : UInt64} (apart : deltaT1 ≠ 0) :
    Succeeds (c.alignNextTIC t1 deltaT1) := by
  apply Succeeds.bind (lastTICFrameFraction_succeeds runnable t1)
  intro fraction _
  apply Succeeds.bind (divU64_succeeds_iff.mpr apart)
  intro period _
  exact succeeds_ok _

theorem countDownPTPLock_succeeds (runnable : c.timing.Runnable) {t1 deltaT1 : UInt64} (apart : deltaT1 ≠ 0) :
    Succeeds (c.countDownPTPLock t1 deltaT1) := by
  unfold countDownPTPLock
  apply succeeds_when
  intro _
  apply succeeds_when
  intro _
  exact alignNextTIC_succeeds (c := { c with ptpLockCounter := c.ptpLockCounter - 1 }) runnable apart

theorem periodDerives_succeeds_iff (atBase : c.ticCurrentPeriod = c.ticBasePeriod) :
    Succeeds c.periodDerives ↔ (c.ticBasePeriod.toUInt32 = 0 → c.ticBasePeriod = 0) := by
  have truncated : c.ticBasePeriod.toUInt32.toInt32 = 0 ↔ c.ticBasePeriod.toUInt32 = 0 :=
    ⟨fun none => congrArg Int32.toUInt32 none, fun none => congrArg UInt32.toInt32 none⟩
  unfold periodDerives
  rw [atBase]
  by_cases none : c.ticBasePeriod = 0
  · simp [none]
  · rw [if_neg none, succeeds_bind]
    constructor
    · rintro ⟨ratio, divided, -⟩ zero
      exact absurd (truncated.mpr zero) (divI32_succeeds_iff.mp ⟨ratio, divided⟩)
    · intro nonzero
      have divisor : c.ticBasePeriod.toUInt32.toInt32 ≠ 0 := fun zero => none (nonzero (truncated.mp zero))
      obtain ⟨ratio, divided⟩ := divI32_succeeds_iff.mpr divisor
      exact ⟨ratio, divided, succeeds_ok _⟩

/-- The period follows the master without a zero divisor exactly when the clock can run. -/
theorem adjustPeriod_succeeds_iff (t1 : UInt64) : Succeeds (c.adjustPeriod t1) ↔ c.timing.Runnable := by
  let locked := { c with
    ticPTPToRTXClockOffset := c.t2.toInt64 - t1.toInt64
    ticCurrentPeriod := c.ticBasePeriod }
  have period : Succeeds locked.periodDerives ↔ _ := periodDerives_succeeds_iff rfl
  have fraction : Succeeds (locked.lastTICFrameFraction t1) ↔ _ := lastTICFrameFraction_succeeds_iff t1
  have step : c.adjustPeriod t1 = locked.periodDerives >>= fun _ => locked.lastTICFrameFraction t1 >>= fun fraction =>
      let delta := locked.deltaTICFrame fraction
      if delta > 3 * locked.midPeriod ∨ delta < -3 * locked.midPeriod then .ok locked
      else .ok (locked.adjustPhase (locked.nearestTICFrame delta)) := by
    unfold adjustPeriod
    simp only [ite_self]
    rfl
  rw [step]
  constructor
  · intro done
    obtain ⟨derives, divided, rest⟩ := succeeds_bind.mp done
    obtain ⟨last, modulo, -⟩ := succeeds_bind.mp rest
    obtain ⟨frames, rate⟩ := fraction.mp ⟨last, modulo⟩
    exact ⟨frames, rate, period.mp ⟨derives, divided⟩⟩
  · intro runnable
    apply Succeeds.bind (period.mpr runnable.ticBasePeriod)
    intro _ _
    apply Succeeds.bind (fraction.mpr ⟨runnable.frameSize, runnable.samplingRate⟩)
    intro last _
    apply succeeds_ite
    · intro _
      exact succeeds_ok _
    · intro _
      exact succeeds_ok _

theorem timing_of_withoutLock (same : c'.withoutLock = c.withoutLock) : c'.timing = c.timing := by
  rw [← withoutLock_timing c', same, withoutLock_timing]

theorem processT1_succeeds (runnable : c.timing.Runnable) (t1 : UInt64) :
    Succeeds (c.processT1 t1) := by
  unfold processT1
  apply succeeds_unless
  intro apart
  apply Succeeds.bind (countDownPTPLock_succeeds runnable apart)
  intro counted down
  have kept : counted.timing = c.timing := timing_of_withoutLock (countDownPTPLock_withoutLock down)
  apply Succeeds.bind
  · unfold adjustIfLocked
    apply succeeds_when
    intro _
    exact (adjustPeriod_succeeds_iff t1).mpr (kept ▸ runnable)
  · intro adjusted _
    exact succeeds_ok _

/-- A locked clock that cannot run divides by zero as soon as it gets another T1. -/
theorem processT1_succeeds_iff (locked : c.ptpLockCounter = 0) {t1 : UInt64} (apart : t1 - c.t1 ≠ 0) :
    Succeeds (c.processT1 t1) ↔ c.timing.Runnable := by
  have counted : c.countDownPTPLock t1 (t1 - c.t1) = .ok c := by
    unfold countDownPTPLock
    rw [locked]
    rfl
  rw [processT1]
  simp only [if_neg apart, counted, ok_bind, adjustIfLocked, if_pos locked]
  rw [← adjustPeriod_succeeds_iff t1]
  constructor
  · intro done
    obtain ⟨adjusted, run, -⟩ := succeeds_bind.mp done
    exact ⟨adjusted, run⟩
  · intro done
    apply Succeeds.bind done
    intro adjusted _
    exact succeeds_ok _

theorem timeSync_succeeds (runnable : c.timing.Runnable) (h : V2MsgHeader) (origin : V2TimeRepresentation)
    (clockTime : UInt64) : Succeeds (c.timeSync h origin clockTime) := by
  unfold timeSync
  apply succeeds_unless
  intro _
  apply succeeds_unless
  intro _
  exact processT1_succeeds (c := c.recordT2 (clockTime / nsToRefUnit)) runnable _

theorem processMessage_succeeds (runnable : c.timing.Runnable) (message : PTPMessage) (clockTime : UInt64) :
    Succeeds (c.processMessage message clockTime) := by
  cases message with
  | announce h body => exact succeeds_ok _
  | other h => exact succeeds_ok _
  | sync h origin =>
    apply succeeds_unless
    intro _
    apply Succeeds.map
    apply Succeeds.bind (timeSync_succeeds runnable h origin clockTime)
    intro timed _
    exact succeeds_ok _
  | followUp h origin =>
    apply succeeds_unless
    intro _
    apply Succeeds.map
    unfold processFollowUp
    apply Succeeds.bind
    · unfold timeFollowUp
      apply succeeds_when
      intro _
      exact processT1_succeeds runnable _
    · intro timed _
      exact succeeds_ok _

def Runnable (c : ClockPTP) : Prop := c.timing.started = true → c.timing.Runnable

theorem Runnable.of_timing (runnable : c.Runnable) (same : c'.timing = c.timing) : c'.Runnable := by
  unfold Runnable
  rw [same]
  exact runnable

theorem processPTPPacket_succeeds (runnable : c.Runnable) (packet : List UInt8) (clockTime : UInt64) :
    Succeeds (c.processPTPPacket packet clockTime) := by
  unfold processPTPPacket
  apply succeeds_unless
  intro listens
  have started : c.timing.started = true := by
    simp only [Bool.not_eq_true', Bool.not_eq_false, ClockPTP.listens, Bool.and_eq_true] at listens
    exact listens.2
  cases PTPMessage.ofPacket packet with
  | none => exact succeeds_ok _
  | some message => exact processMessage_succeeds (runnable started) message clockTime

theorem atTIC_timing (c : ClockPTP) (clockTime : UInt64) : (c.atTIC clockTime).timing = c.timing := by
  unfold atTIC computeNextAbsoluteTime
  dsimp only
  split
  · rfl
  · rfl

theorem currentTICCount_succeeds (frames : c.frameSize ≠ 0) (currentRTXClockTime : UInt64) :
    Succeeds (c.currentTICCount currentRTXClockTime) := by
  apply Succeeds.bind (divU64_succeeds_iff.mpr (toUInt64_ne_zero.mpr frames))
  intro q _
  apply Succeeds.bind (cwLlModulo_succeeds_iff.mpr frames)
  intro r _
  exact succeeds_ok _

theorem timerProcess_outcome (c : ClockPTP) (clockTime endTime counterTime : UInt64) :
    (c.timing.started = true ∧ c.timing.frameSize = 0) ∧
        c.timerProcess clockTime endTime counterTime = .error .divideByZero ∨
      ¬ (c.timing.started = true ∧ c.timing.frameSize = 0) ∧
        Succeeds (c.timerProcess clockTime endTime counterTime) := by
  have atTIC := atTIC_timing (c.updateClkJitter clockTime) clockTime
  have frameSize : ((c.updateClkJitter clockTime).atTIC clockTime).frameSize = c.frameSize :=
    congrArg Timing.frameSize atTIC
  have runs : (c.updateClkJitter clockTime).audioFrameTICTimerStarted = c.timing.started := rfl
  unfold timerProcess
  simp only [runs]
  by_cases started : c.timing.started = true
  · rw [if_neg (by simp [started])]
    by_cases none : c.frameSize = 0
    · left
      refine ⟨⟨started, none⟩, ?_⟩
      rw [currentTICCount, frameSize, none]
      rfl
    · right
      refine ⟨fun empty => none empty.2, ?_⟩
      apply Succeeds.bind (currentTICCount_succeeds (frameSize.symm ▸ none) _)
      intro ticCount _
      exact succeeds_ok _
  · right
    refine ⟨fun empty => started empty.1, ?_⟩
    rw [if_pos (by simp [started])]
    exact succeeds_ok _

theorem timerProcess_succeeds (runnable : c.Runnable) (clockTime endTime counterTime : UInt64) :
    Succeeds (c.timerProcess clockTime endTime counterTime) := by
  rcases timerProcess_outcome c clockTime endTime counterTime with ⟨⟨started, none⟩, -⟩ | ⟨-, done⟩
  · exact absurd none (runnable started).frameSize
  · exact done

end ClockPTP

end RavennaLkm
