import RavennaLkm.ManagerSpec

/-!
A change of the sampling rate, which a started manager finishes when the clocks
have locked to the new period. The loop waits for the clocks of both NICs, also
for one that was not started, and it leaves the new rate behind when it gives up.
-/
namespace RavennaLkm
open CheckedLoop

theorem basePeriod_succeeds {frameSize samplingRate : UInt32} :
    Succeeds (ClockPTP.basePeriod frameSize samplingRate) ↔ samplingRate ≠ 0 := by
  have zero : samplingRate.toUInt64.toInt64 = 0 ↔ samplingRate = 0 := by
    constructor
    · intro same
      have bits : samplingRate.toUInt64 = 0 := congrArg Int64.toUInt64 same
      apply UInt32.toNat_inj.mp
      exact congrArg UInt64.toNat bits
    · intro same
      subst same
      rfl
  unfold ClockPTP.basePeriod divI64
  simp only [zero]
  split
  · rename_i none
    simp [none]
  · rename_i some
    simp [some]

theorem startAudioFrameTICTimer_succeeds {c : ClockPTP} {frameSize samplingRate : UInt32} :
    Succeeds (c.startAudioFrameTICTimer frameSize samplingRate) ↔ samplingRate ≠ 0 := by
  unfold ClockPTP.startAudioFrameTICTimer
  rw [succeeds_bind, ← (basePeriod_succeeds : Succeeds (ClockPTP.basePeriod frameSize _) ↔ _)]
  constructor
  · rintro ⟨period, divided, -⟩
    exact ⟨period, divided⟩
  · rintro ⟨period, divided⟩
    exact ⟨period, divided, succeeds_ok _⟩

theorem ravennaRate_eq_zero {sampleRate : UInt32} : ravennaRate sampleRate = 0 ↔ sampleRate = 0 := by
  unfold ravennaRate
  split
  · rename_i dsd
    constructor
    · intro none
      cases none
    · intro same
      subst same
      cases dsd
  · rfl

namespace Manager

variable {m m' : Manager} {samplingRate : UInt32} {polled : Nat → Nat → PTPLockStatus}

/-- The clocks can be started unless an active one would get the rate 0. -/
theorem startClocks_succeeds :
    Succeeds m.startClocks ↔ m.sampleRate ≠ 0 ∨ ∀ nic < maxNics, m.isNICActive nic = false := by
  constructor
  · rintro ⟨m', done⟩
    by_cases zero : m.sampleRate = 0
    · right
      intro nic below
      by_contra active
      have run := (startClocks_started done).active nic below (Bool.eq_true_of_not_eq_false active)
      exact startAudioFrameTICTimer_succeeds.mp ⟨_, run⟩ (ravennaRate_eq_zero.mpr zero)
    · exact .inl zero
  · intro startable
    have none : ClocksStarted m 0 m := ⟨rfl, fun nic below => by omega, fun nic _ => rfl⟩
    have rounds : ∃ m', forUp startClock maxNics m = .ok m' ∧ ClocksStarted m maxNics m' := by
      apply forUp_invariant (ClocksStarted m) none
      intro nic below sofar started
      have step : Succeeds (startClock nic sofar) := by
        unfold startClock
        split
        · rename_i active
          rw [started.only] at active ⊢
          have rate : ravennaRate m.sampleRate ≠ 0 := by
            intro zero
            rcases startable with positive | idle
            · exact positive (ravennaRate_eq_zero.mp zero)
            · exact Bool.false_ne_true ((idle nic below).symm.trans active)
          obtain ⟨clock, run⟩ := startAudioFrameTICTimer_succeeds.mpr rate
          exact succeeds_bind.mpr ⟨clock, run, succeeds_ok _⟩
        · exact succeeds_ok _
      obtain ⟨next, run⟩ := step
      exact ⟨next, run, startClock_started started run⟩
    obtain ⟨m', done, -⟩ := rounds
    exact ⟨m', done⟩

/-- The last sleep ends in giving up, so that there are `lockPolls - 1` polls. -/
theorem waitForLock_iff {left : Nat} (room : left ≤ lockPolls) :
    waitForLock polled left = true ↔
      ∃ k, lockPolls - left < k ∧ k < lockPolls ∧ polled k 0 = .locked ∧ polled k 1 = .locked := by
  induction left with
  | zero =>
    constructor
    · intro found
      cases found
    · rintro ⟨k, above, below, -⟩
      omega
  | succ left ih =>
    have earlier := ih (by omega)
    simp only [waitForLock]
    split
    · rename_i last
      constructor
      · intro found
        cases found
      · rintro ⟨k, above, below, -⟩
        omega
    · rename_i more
      split
      · rename_i unlocked
        rw [earlier]
        constructor
        · rintro ⟨k, above, rest⟩
          exact ⟨k, by omega, rest⟩
        · rintro ⟨k, above, below, first, second⟩
          have apart : k ≠ lockPolls - left := by
            intro same
            subst same
            rcases unlocked with no | no
            · exact no first
            · exact no second
          exact ⟨k, by omega, below, first, second⟩
      · rename_i locked
        rw [not_or, not_not, not_not] at locked
        constructor
        · intro _
          exact ⟨lockPolls - left, by omega, by omega, locked⟩
        · intro _
          rfl

/-- The clocks of the active NICs are locked at one of the polls, which only a started manager without
running I/O makes, for another rate. -/
def LocksInTime (m : Manager) (samplingRate : UInt32) (polled : Nat → Nat → PTPLockStatus) : Prop :=
  m.sampleRate ≠ samplingRate ∧ m.ioRunning = false ∧ m.isStarted = true ∧
    ∃ k, 0 < k ∧ k ≤ lockPolls ∧ ∀ nic < maxNics, m.isNICActive nic = true → polled k nic = .locked

/-- The change returns; it answers true when the active NICs lock, and it changes nothing when it
answers false. -/
def ChangesRate (m : Manager) (samplingRate : UInt32) (polled : Nat → Nat → PTPLockStatus)
    (change : Except Fault (Manager × Bool)) : Prop :=
  ∃ m' result, change = .ok (m', result) ∧ (LocksInTime m samplingRate polled → result = true) ∧
    (result = false → m'.sampleRate = m.sampleRate ∧ m'.frameSize = m.frameSize)

/-- There is nothing to wait for, or both clocks are locked at a poll before the last sleep. -/
def RateAccepted (m : Manager) (samplingRate : UInt32) (polled : Nat → Nat → PTPLockStatus) : Prop :=
  m.sampleRate = samplingRate ∨ m.ioRunning = true ∨ m.isStarted = false ∨
    (samplingRate ≠ 0 ∨ ∀ nic < maxNics, m.isNICActive nic = false) ∧
      ∃ k, 0 < k ∧ k < lockPolls ∧ polled k 0 = .locked ∧ polled k 1 = .locked

theorem setSamplingRate_changesRate_iff (m : Manager) (samplingRate : UInt32)
    (polled : Nat → Nat → PTPLockStatus) :
    ChangesRate m samplingRate polled (m.setSamplingRate samplingRate polled) ↔
      RateAccepted m samplingRate polled := by
  have wait : waitForLock polled lockPolls = true ↔ _ := waitForLock_iff (Nat.le_refl lockPolls)
  rw [Nat.sub_self] at wait
  constructor
  · rintro ⟨m', result, done, -, unchanged⟩
    obtain ⟨rfl, ⟨-, same⟩ | ⟨-, -, running⟩⟩ | ⟨differs, idle, ⟨isStarted, started, answer⟩ | ⟨stopped, -⟩⟩ :=
      setSamplingRate_cases done
    · exact .inl same
    · exact .inr (.inl running)
    · have kept : m'.sampleRate = samplingRate := by
        rw [started.only]
        rfl
      have waited : waitForLock polled lockPolls = true := by
        by_contra gaveUp
        have old := (unchanged (answer.trans (Bool.eq_false_of_not_eq_true gaveUp))).1
        exact differs (old.symm.trans kept)
      refine .inr (.inr (.inr ⟨?_, wait.mp waited⟩))
      have startable : Succeeds (m.withRate samplingRate).startClocks := by
        unfold setSamplingRate at done
        rw [if_neg differs, if_neg (by simp [idle]), if_pos isStarted] at done
        obtain ⟨m1, run, -⟩ := map_eq_ok.mp done
        exact ⟨m1, run⟩
      exact startClocks_succeeds.mp startable
    · exact .inr (.inr (.inl stopped))
  · intro accepted
    unfold ChangesRate setSamplingRate
    split
    · rename_i same
      refine ⟨m, true, rfl, fun _ => rfl, ?_⟩
      intro refused
      cases refused
    · rename_i differs
      split
      · rename_i running
        refine ⟨m, false, rfl, ?_, fun _ => ⟨rfl, rfl⟩⟩
        rintro ⟨-, idle, -⟩
        exact absurd running (Bool.eq_false_iff.mp idle)
      · rename_i idle
        split
        · rename_i isStarted
          rcases accepted with same | running | stopped | ⟨startable, locked⟩
          · exact absurd same differs
          · exact absurd running idle
          · exact absurd isStarted (Bool.eq_false_iff.mp stopped)
          · have run : Succeeds (m.withRate samplingRate).startClocks := startClocks_succeeds.mpr startable
            obtain ⟨m1, run⟩ := run
            rw [run, wait.mpr locked]
            refine ⟨m1, true, rfl, fun _ => rfl, ?_⟩
            intro refused
            cases refused
        · refine ⟨_, true, rfl, fun _ => rfl, ?_⟩
          intro refused
          cases refused

theorem rate_changes_iff (m : Manager) (samplingRate : UInt32) (polled : Nat → Nat → PTPLockStatus) :
    (ChangesRate m samplingRate polled (m.setSamplingRate samplingRate polled) ↔
        RateAccepted m samplingRate polled) ∧
      (ChangesRate m samplingRate polled (m.setDSDSamplingRate samplingRate polled) ↔
        RateAccepted m samplingRate polled) := by
  constructor
  · exact setSamplingRate_changesRate_iff m samplingRate polled
  · exact setSamplingRate_changesRate_iff m samplingRate polled

/-- One NIC is active, its clock is locked at every poll, and the clock of the other is not. -/
theorem single_nic_rate_change_fails :
    ∃ m polled, (∀ nic, m.isNICActive nic = true ↔ nic = 0) ∧ (∀ k, polled k 0 = .locked) ∧
      ¬ ChangesRate m 48000 polled (m.setSamplingRate 48000 polled) ∧
      ¬ ChangesRate m 2822400 polled (m.setDSDSamplingRate 2822400 polled) := by
  refine ⟨{ loaded with isStarted := true }, fun _ nic => if nic = 0 then .locked else .unlocked, ?_, ?_, ?_, ?_⟩
  · intro nic
    simp [loaded, init, updateFrameSize]
  · intro k
    rfl
  · rw [setSamplingRate_changesRate_iff]
    simp [RateAccepted, loaded, init, updateFrameSize, defaultSampleRate]
  · rw [setDSDSamplingRate, setSamplingRate_changesRate_iff]
    simp [RateAccepted, loaded, init, updateFrameSize, defaultSampleRate]

end Manager

end RavennaLkm
