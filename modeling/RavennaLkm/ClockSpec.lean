import RavennaLkm.Clock

/-!
What one call can change in the clock: which part of a message's processing is
reached, and the fields that each part leaves alone. A field is left alone by a
part when it is left by the projection that clears everything the part writes.
-/
namespace RavennaLkm
open CheckedLoop

namespace ClockPTP

variable {c c' : ClockPTP} {h : V2MsgHeader}

theorem processMessage_cases {message : PTPMessage} {clockTime : UInt64} {result : DispatchResult}
    (done : c.processMessage message clockTime = .ok (c', result)) :
    c' = c ∨
      (∃ h body, message = .announce h body ∧ c' = c.processAnnounce h body clockTime) ∨
      (∃ h origin, message = .sync h origin ∧ h.clockIdentity = c.ptpMasterClockIdentity ∧
        c.processSync h origin clockTime = .ok c') ∨
      (∃ h origin, message = .followUp h origin ∧ h.clockIdentity = c.ptpMasterClockIdentity ∧
        c.processFollowUp h origin = .ok c') := by
  cases message with
  | announce h body =>
    cases done
    exact .inr (.inl ⟨h, body, rfl, rfl⟩)
  | sync h origin =>
    rw [processMessage] at done
    split at done
    · cases done
      exact .inl rfl
    · obtain ⟨_, processed, pair⟩ := map_eq_ok.mp done
      cases pair
      exact .inr (.inr (.inl ⟨h, origin, rfl, by simp_all, processed⟩))
  | followUp h origin =>
    rw [processMessage] at done
    split at done
    · cases done
      exact .inl rfl
    · obtain ⟨_, processed, pair⟩ := map_eq_ok.mp done
      cases pair
      exact .inr (.inr (.inr ⟨h, origin, rfl, by simp_all, processed⟩))
  | other h =>
    cases done
    exact .inl rfl

theorem processPTPPacket_cases {packet : List UInt8} {clockTime : UInt64} {result : DispatchResult}
    (done : c.processPTPPacket packet clockTime = .ok (c', result)) :
    (c.listens = false ∨ PTPMessage.ofPacket packet = none) ∧ c' = c ∨
      c.listens = true ∧ ∃ message, PTPMessage.ofPacket packet = some message ∧
        c.processMessage message clockTime = .ok (c', result) := by
  rw [processPTPPacket] at done
  cases listens : c.listens with
  | false =>
    rw [listens] at done
    cases done
    exact .inl ⟨.inl rfl, rfl⟩
  | true =>
    rw [listens] at done
    cases found : PTPMessage.ofPacket packet with
    | none =>
      rw [found] at done
      cases done
      exact .inl ⟨.inr rfl, rfl⟩
    | some message =>
      rw [found] at done
      exact .inr ⟨rfl, message, rfl, done⟩

def withoutLock (c : ClockPTP) : ClockPTP :=
  { c with
    t1 := 0
    ptpLockCounter := 0
    ticLockCounter := 0
    ticCurrentPeriod := 0
    ticNextAbsoluteTime := 0
    ticNextAbsoluteTimeFrac := 0
    ticIGR := 0
    ticPTPToRTXClockOffset := 0 }

theorem alignNextTIC_cases {t1 deltaT1 : UInt64} (done : c.alignNextTIC t1 deltaT1 = .ok c') :
    deltaT1 ≠ 0 ∧ ∃ next, c' = { c with
      ticCurrentPeriod := c.ticBasePeriod * c.deltaT2 / deltaT1
      ticNextAbsoluteTime := next
      ticNextAbsoluteTimeFrac := 0 } := by
  obtain ⟨_, -, rest⟩ := bind_eq_ok.mp done
  obtain ⟨period, divided, last⟩ := bind_eq_ok.mp rest
  rw [divU64] at divided
  split at divided
  · cases divided
  · rename_i apart
    cases divided
    cases last
    exact ⟨apart, _, rfl⟩

theorem countDownPTPLock_cases {t1 deltaT1 : UInt64} (done : c.countDownPTPLock t1 deltaT1 = .ok c') :
    c.ptpLockCounter = 0 ∧ c' = c ∨
      c.ptpLockCounter = 2 ∧ ClockPTP.alignNextTIC { c with ptpLockCounter := 1 } t1 deltaT1 = .ok c' ∨
      c.ptpLockCounter ≠ 0 ∧ c.ptpLockCounter ≠ 2 ∧
        c' = { c with ptpLockCounter := c.ptpLockCounter - 1 } := by
  rw [countDownPTPLock] at done
  split at done
  · rename_i positive
    simp only at done
    split at done
    · rename_i last
      have two : c.ptpLockCounter = 2 := by
        simp only [← UInt16.toNat_inj, UInt16.toNat_sub] at last ⊢
        have bound := c.ptpLockCounter.toNat_lt
        simp only [UInt16.reduceToNat] at last ⊢
        omega
      rw [last] at done
      exact .inr (.inl ⟨two, done⟩)
    · rename_i more
      cases done
      refine .inr (.inr ⟨?_, ?_, rfl⟩)
      · intro zero
        rw [zero] at positive
        exact absurd positive (by decide)
      · intro two
        rw [two] at more
        exact more (by decide)
  · rename_i zero
    cases done
    exact .inl ⟨by simpa using zero, rfl⟩

/-- Once PTP is locked the period is the base period, or that one adjusted. -/
theorem adjustPeriod_cases {t1 : UInt64} (done : c.adjustPeriod t1 = .ok c') :
    let locked := { c with
      ticPTPToRTXClockOffset := c.t2.toInt64 - t1.toInt64
      ticCurrentPeriod := c.ticBasePeriod }
    c' = locked ∨ ∃ delta : Int32,
      ¬ (delta > 3 * c.midPeriod ∨ delta < -3 * c.midPeriod) ∧
        c' = locked.adjustPhase (locked.nearestTICFrame delta) := by
  obtain ⟨derives, -, rest⟩ := bind_eq_ok.mp done
  obtain ⟨fraction, -, last⟩ := bind_eq_ok.mp rest
  simp only at last
  rw [ite_self] at last
  split at last
  · cases last
    exact .inl rfl
  · rename_i near
    cases last
    exact .inr ⟨_, near, rfl⟩

theorem alignNextTIC_withoutLock {t1 deltaT1 : UInt64} (done : c.alignNextTIC t1 deltaT1 = .ok c') :
    c'.withoutLock = c.withoutLock := by
  obtain ⟨-, _, rfl⟩ := alignNextTIC_cases done
  rfl

theorem countDownPTPLock_withoutLock {t1 deltaT1 : UInt64}
    (done : c.countDownPTPLock t1 deltaT1 = .ok c') : c'.withoutLock = c.withoutLock := by
  rcases countDownPTPLock_cases done with ⟨-, rfl⟩ | ⟨-, aligned⟩ | ⟨-, -, rfl⟩
  · rfl
  · exact alignNextTIC_withoutLock (c := { c with ptpLockCounter := 1 }) aligned
  · rfl

theorem adjustPeriod_withoutLock {t1 : UInt64} (done : c.adjustPeriod t1 = .ok c') :
    c'.withoutLock = c.withoutLock := by
  rcases adjustPeriod_cases done with rfl | ⟨_, -, rfl⟩
  · rfl
  · rfl

theorem countDownPTPLock_ptpLockCounter {t1 deltaT1 : UInt64}
    (done : c.countDownPTPLock t1 deltaT1 = .ok c') :
    c'.ptpLockCounter.toNat = c.ptpLockCounter.toNat - 1 := by
  rcases countDownPTPLock_cases done with ⟨zero, rfl⟩ | ⟨two, aligned⟩ | ⟨positive, -, rfl⟩
  · rw [zero]
    rfl
  · obtain ⟨-, _, rfl⟩ := alignNextTIC_cases (c := { c with ptpLockCounter := 1 }) aligned
    rw [two]
    rfl
  · have bound := c.ptpLockCounter.toNat_lt
    simp only [ne_eq, ← UInt16.toNat_inj, UInt16.toNat_sub, UInt16.reduceToNat] at positive ⊢
    omega

theorem adjustPeriod_ptpLockCounter {t1 : UInt64} (done : c.adjustPeriod t1 = .ok c') :
    c'.ptpLockCounter = c.ptpLockCounter := by
  rcases adjustPeriod_cases done with rfl | ⟨_, -, rfl⟩
  · rfl
  · rfl

theorem processT1_cases {t1 : UInt64} (done : c.processT1 t1 = .ok c') :
    t1 = c.t1 ∧ c' = c ∨
      t1 ≠ c.t1 ∧ ∃ counted adjusted,
        c.countDownPTPLock t1 (t1 - c.t1) = .ok counted ∧
        (counted.ptpLockCounter = 0 ∧ counted.adjustPeriod t1 = .ok adjusted ∨
          counted.ptpLockCounter ≠ 0 ∧ adjusted = counted) ∧
        c' = { adjusted with t1 := t1 } := by
  rw [processT1] at done
  split at done
  · rename_i same
    cases done
    rw [UInt64.sub_eq_iff_eq_add, UInt64.zero_add] at same
    exact .inl ⟨same, rfl⟩
  · rename_i apart
    rw [UInt64.sub_eq_iff_eq_add, UInt64.zero_add] at apart
    obtain ⟨counted, down, rest⟩ := bind_eq_ok.mp done
    obtain ⟨adjusted, step, last⟩ := bind_eq_ok.mp rest
    cases last
    refine .inr ⟨apart, counted, adjusted, down, ?_, rfl⟩
    rw [adjustIfLocked] at step
    split at step
    · rename_i zero
      exact .inl ⟨zero, step⟩
    · rename_i more
      cases step
      exact .inr ⟨more, rfl⟩

theorem processT1_withoutLock {t1 : UInt64} (done : c.processT1 t1 = .ok c') :
    c'.withoutLock = c.withoutLock := by
  rcases processT1_cases done with ⟨-, rfl⟩ | ⟨-, counted, adjusted, down, step, rfl⟩
  · rfl
  · have first := countDownPTPLock_withoutLock down
    rcases step with ⟨-, adjust⟩ | ⟨-, rfl⟩
    · exact (adjustPeriod_withoutLock adjust).trans first
    · exact first

theorem processT1_t1 {t1 : UInt64} (done : c.processT1 t1 = .ok c') : c'.t1 = t1 := by
  rcases processT1_cases done with ⟨same, rfl⟩ | ⟨-, _, _, -, -, rfl⟩
  · exact same.symm
  · rfl

theorem processT1_ptpLockCounter {t1 : UInt64} (done : c.processT1 t1 = .ok c') (apart : t1 ≠ c.t1) :
    c'.ptpLockCounter.toNat = c.ptpLockCounter.toNat - 1 := by
  rcases processT1_cases done with ⟨same, -⟩ | ⟨-, counted, adjusted, down, step, rfl⟩
  · exact absurd same apart
  · have first := countDownPTPLock_ptpLockCounter down
    rcases step with ⟨-, adjust⟩ | ⟨-, rfl⟩
    · rw [← first, ← adjustPeriod_ptpLockCounter adjust]
    · exact first

def withoutElection (c : ClockPTP) : ClockPTP :=
  { c.resetPTPLock.resetPTPMaster with lastAnnounceSequenceId := 0, lastPTPConfigChangedCounter := 0 }

theorem noticeConfig_withoutElection (c : ClockPTP) :
    c.noticeConfig.withoutElection = c.withoutElection := by
  rw [noticeConfig]
  split
  · rfl
  · rfl

theorem checkMasterDomain_withoutElection (c : ClockPTP) (h : V2MsgHeader) :
    (c.checkMasterDomain h).withoutElection = c.withoutElection := by
  rw [checkMasterDomain]
  split
  · rfl
  · rfl

theorem electPTPMaster_withoutElection (c : ClockPTP) (h : V2MsgHeader) (currentTime : UInt64) :
    (c.electPTPMaster h currentTime).withoutElection = c.withoutElection := by
  rw [electPTPMaster]
  split
  · rfl
  · rfl

theorem saveAnnounce_withoutElection (c : ClockPTP) (h : V2MsgHeader) (body : V2MsgAnnounce)
    (currentTime : UInt64) : (c.saveAnnounce h body currentTime).withoutElection = c.withoutElection := by
  rw [saveAnnounce]
  split
  · rfl
  · rfl

theorem processAnnounce_withoutElection (c : ClockPTP) (h : V2MsgHeader) (body : V2MsgAnnounce)
    (clockTime : UInt64) :
    (c.processAnnounce h body clockTime).withoutElection = c.withoutElection := by
  have reached : (c.atElection h).withoutElection = c.withoutElection := by
    rw [atElection, checkMasterDomain_withoutElection, noticeConfig_withoutElection]
    rfl
  rw [processAnnounce]
  split
  · rw [saveAnnounce_withoutElection, electPTPMaster_withoutElection, reached]
  · exact reached

def withoutMessages (c : ClockPTP) : ClockPTP :=
  { c.withoutElection.withoutLock with
    t2 := 0
    deltaT2 := 0
    ticLastRTXClockTimeAtT2 := 0
    lastSyncSequenceId := 0
    lastFollowUp := 0 }

theorem withoutMessages_of_withoutElection (same : c'.withoutElection = c.withoutElection) :
    c'.withoutMessages = c.withoutMessages := by
  rw [withoutMessages, withoutMessages, same]

theorem withoutMessages_of_withoutLock (same : c'.withoutLock = c.withoutLock) :
    c'.withoutMessages = c.withoutMessages := by
  have cleared : c'.withoutLock.withoutMessages = c.withoutLock.withoutMessages :=
    congrArg withoutMessages same
  exact cleared

theorem timeSync_withoutMessages {origin : V2TimeRepresentation} {clockTime : UInt64}
    (done : c.timeSync h origin clockTime = .ok c') : c'.withoutMessages = c.withoutMessages := by
  rw [timeSync] at done
  split at done
  · cases done
    rfl
  · have recorded : (c.recordT2 (clockTime / nsToRefUnit)).withoutMessages = c.withoutMessages := rfl
    split at done
    · cases done
      exact recorded
    · exact (withoutMessages_of_withoutLock (processT1_withoutLock done)).trans recorded

theorem processMessage_withoutMessages {message : PTPMessage} {clockTime : UInt64}
    {result : DispatchResult} (done : c.processMessage message clockTime = .ok (c', result)) :
    c'.withoutMessages = c.withoutMessages := by
  obtain rfl | ⟨h, body, rfl, rfl⟩ | ⟨h, origin, rfl, -, step⟩ | ⟨h, origin, rfl, -, step⟩ :=
    processMessage_cases done
  · rfl
  · exact withoutMessages_of_withoutElection (processAnnounce_withoutElection c h body clockTime)
  · obtain ⟨timed, step, last⟩ := bind_eq_ok.mp step
    have same := timeSync_withoutMessages step
    cases last
    exact same
  · obtain ⟨timed, step, last⟩ := bind_eq_ok.mp step
    have same : timed.withoutMessages = c.withoutMessages := by
      rw [timeFollowUp] at step
      split at step
      · exact withoutMessages_of_withoutLock (processT1_withoutLock step)
      · cases step
        rfl
    cases last
    exact same

def withoutTimer (c : ClockPTP) : ClockPTP :=
  { c with
    globalSAC := 0
    globalTime := 0
    globalPerformanceCounter := 0
    ticSAC := 0
    ticLastRTXClockTime := 0
    ticNextAbsoluteTime := 0
    ticNextAbsoluteTimeFrac := 0
    lastCurrentRTXClockTime := 0
    lastAbsoluteTime := 0
    ticDropCounter := 0
    lastTICCount := 0
    lastWatchDogTime := 0
    lastWatchDogSyncSequenceId := 0
    maxClkJitter := 0 }

theorem catchUp_cases (c : ClockPTP) (absoluteTime currentTime : UInt64) :
    ∃ next, (c.catchUp absoluteTime currentTime).1 = { c with ticNextAbsoluteTime := next } := by
  rw [catchUp]
  split
  · exact ⟨_, rfl⟩
  · exact ⟨_, rfl⟩

theorem watchDog_cases (c : ClockPTP) (now : UInt64) :
    ∃ sequenceId time, c.watchDog now =
      { if c.WatchDogElapsed now ∧ c.SyncMissing then c.resetPTPLock else c with
        lastWatchDogSyncSequenceId := sequenceId, lastWatchDogTime := time } := by
  rw [watchDog]
  by_cases elapsed : c.WatchDogElapsed now
  · rw [if_pos elapsed]
    by_cases missing : c.SyncMissing
    · rw [if_pos missing, if_pos ⟨elapsed, missing⟩]
      exact ⟨_, _, rfl⟩
    · rw [if_neg missing, if_neg fun both => missing both.2]
      exact ⟨_, _, rfl⟩
  · rw [if_neg elapsed, if_neg fun both => elapsed both.1]
    exact ⟨_, _, rfl⟩

def WatchDogBites (c : ClockPTP) (clockTime : UInt64) : Prop :=
  c.audioFrameTICTimerStarted = true ∧ c.WatchDogElapsed (clockTime / nsToRefUnit) ∧ c.SyncMissing

instance (c : ClockPTP) (clockTime : UInt64) : Decidable (c.WatchDogBites clockTime) :=
  inferInstanceAs (Decidable (_ ∧ _ ∧ _))

theorem atTIC_cases (c : ClockPTP) (clockTime : UInt64) : ∃ next frac, c.atTIC clockTime =
    { c with
      ticLastRTXClockTime := clockTime / nsToRefUnit
      ticNextAbsoluteTime := next
      ticNextAbsoluteTimeFrac := frac } := by
  rw [atTIC, computeNextAbsoluteTime]
  simp only
  split
  · exact ⟨_, _, rfl⟩
  · exact ⟨_, _, rfl⟩

theorem finishTIC_cases (c : ClockPTP) (ticCount absoluteTime clockTime endTime : UInt64) :
    let done := (c.finishTIC ticCount absoluteTime clockTime endTime).1
    let unlocked := c.WatchDogElapsed (clockTime / nsToRefUnit) ∧ c.SyncMissing
    done.globalSAC = c.globalSAC ∧ done.lastTICCount = ticCount ∧
      done.withoutTimer = (if unlocked then c.resetPTPLock else c).withoutTimer := by
  intro done unlocked
  obtain ⟨sequenceId, time, watched⟩ := watchDog_cases c (clockTime / nsToRefUnit)
  obtain ⟨next, caught⟩ := catchUp_cases ((c.watchDog (clockTime / nsToRefUnit)).reportDrop ticCount)
    absoluteTime (endTime / nsToRefUnit)
  have result : done = { { (c.watchDog (clockTime / nsToRefUnit)).reportDrop ticCount with
      ticNextAbsoluteTime := next } with
      lastAbsoluteTime := done.lastAbsoluteTime
      lastCurrentRTXClockTime := done.lastCurrentRTXClockTime } := by
    rw [← caught]
    rfl
  rw [result, watched]
  split
  · exact ⟨rfl, rfl, rfl⟩
  · exact ⟨rfl, rfl, rfl⟩

theorem timerProcess_cases {clockTime endTime counterTime : UInt64} {next : Option UInt64}
    (done : c.timerProcess clockTime endTime counterTime = .ok (c', next)) :
    c.audioFrameTICTimerStarted = false ∧ c' = c.updateClkJitter clockTime ∨
      c.audioFrameTICTimerStarted = true ∧ ∃ ticCount,
        ((c.updateClkJitter clockTime).atTIC clockTime).currentTICCount (clockTime / nsToRefUnit) =
          .ok ticCount ∧
        c'.globalSAC = (ticCount - 1) * c.frameSize.toUInt64 ∧
        c'.lastTICCount = ticCount ∧
        c'.withoutTimer =
          (if c.WatchDogBites clockTime then c.resetPTPLock else c).withoutTimer := by
  rw [timerProcess] at done
  cases started : c.audioFrameTICTimerStarted with
  | false =>
    have stopped : (c.updateClkJitter clockTime).audioFrameTICTimerStarted = false := started
    simp only [stopped, Bool.not_false, if_true] at done
    cases done
    exact .inl ⟨rfl, rfl⟩
  | true =>
    have running : (c.updateClkJitter clockTime).audioFrameTICTimerStarted = true := started
    simp only [running, Bool.not_true, Bool.false_eq_true, if_false] at done
    obtain ⟨ticCount, counted, last⟩ := bind_eq_ok.mp done
    refine .inr ⟨rfl, ticCount, counted, ?_⟩
    cases last
    obtain ⟨next, frac, atTIC⟩ := atTIC_cases (c.updateClkJitter clockTime) clockTime
    have finished := finishTIC_cases (((c.updateClkJitter clockTime).atTIC clockTime).countTIC ticCount
      clockTime counterTime) ticCount ((c.updateClkJitter clockTime).atTIC clockTime).ticNextAbsoluteTime
      clockTime endTime
    obtain ⟨sac, count, rest⟩ := finished
    refine ⟨sac.trans ?_, count, rest.trans ?_⟩
    · rw [atTIC]
      rfl
    · rw [atTIC]
      by_cases bites : c.WatchDogElapsed (clockTime / nsToRefUnit) ∧ c.SyncMissing
      · rw [if_pos (c := c.WatchDogBites clockTime) ⟨started, bites⟩]
        exact (congrArg withoutTimer (if_pos bites)).trans rfl
      · rw [if_neg (c := c.WatchDogBites clockTime) fun all => bites all.2]
        exact (congrArg withoutTimer (if_neg bites)).trans rfl

end ClockPTP

end RavennaLkm
