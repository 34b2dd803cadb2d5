import RavennaLkm.ClockSpec
import RavennaLkm.Lib.GuardedRun

/-!
The election of the PTP master: what messages of another clock or of another
domain can change, and that an elected master stays. Only an Announce looks at
the domain; a Sync or a Follow_Up is taken when it carries the identity of the
master, which is 0 while there is none.
-/
namespace RavennaLkm
open CheckedLoop GuardedRun

namespace PTPMessage

/-- A message that carries a time of the master. -/
def IsTiming : PTPMessage → Prop
  | .sync _ _ | .followUp _ _ => True
  | .announce _ _ | .other _ => False

def IsAnnounce : PTPMessage → Prop
  | .announce _ _ => True
  | .sync _ _ | .followUp _ _ | .other _ => False

end PTPMessage

namespace ClockPTP

variable {c c' : ClockPTP} {h : V2MsgHeader} {body : V2MsgAnnounce} {message : PTPMessage}
  {packet : List UInt8} {clockTime : UInt64}

structure Election where
  ptpConfig : PTPConfig
  ptpConfigChangedCounter : UInt32
  lastPTPConfigChangedCounter : UInt32
  ptpMasterAnnounce : V2MsgAnnounce
  ptpMasterAnnounceTime : UInt64
  ptpMasterClockIdentity : UInt64
  ptpMasterGMID : UInt64

def election (c : ClockPTP) : Election where
  ptpConfig := c.ptpConfig
  ptpConfigChangedCounter := c.ptpConfigChangedCounter
  lastPTPConfigChangedCounter := c.lastPTPConfigChangedCounter
  ptpMasterAnnounce := c.ptpMasterAnnounce
  ptpMasterAnnounceTime := c.ptpMasterAnnounceTime
  ptpMasterClockIdentity := c.ptpMasterClockIdentity
  ptpMasterGMID := c.ptpMasterGMID

structure Locking where
  ptpLockCounter : UInt16
  ticLockCounter : UInt16
  t1 : UInt64
  t2 : UInt64
  deriving DecidableEq

def locking (c : ClockPTP) : Locking := ⟨c.ptpLockCounter, c.ticLockCounter, c.t1, c.t2⟩

structure Wakeup where
  ticBasePeriod : UInt64
  ticCurrentPeriod : UInt64
  ticNextAbsoluteTime : UInt64
  ticNextAbsoluteTimeFrac : UInt64
  deriving DecidableEq

def wakeup (c : ClockPTP) : Wakeup :=
  ⟨c.ticBasePeriod, c.ticCurrentPeriod, c.ticNextAbsoluteTime, c.ticNextAbsoluteTimeFrac⟩

theorem noticeConfig_of_settled (settled : ¬ c.ConfigChanged) :
    (c.noteAnnounce h).noticeConfig = c.noteAnnounce h := if_neg settled

theorem atElection_of_settled (settled : ¬ c.ConfigChanged) (kept : ¬ c.MasterLeftDomain h) :
    c.atElection h = c.noteAnnounce h := by
  rw [atElection, noticeConfig_of_settled settled]
  exact if_neg kept

/-- An Announce of a clock that is not elected leaves no trace but its sequence number. -/
theorem processAnnounce_of_other (settled : ¬ c.ConfigChanged)
    (other : h.clockIdentity ≠ c.ptpMasterClockIdentity)
    (lost : h.domainNumber = c.ptpConfig.domain → ¬ c.Elects (clockTime / 100)) :
    c.processAnnounce h body clockTime = c.noteAnnounce h := by
  have atElection := atElection_of_settled (h := h) settled fun left => other left.1
  rw [processAnnounce, atElection]
  by_cases inDomain : h.domainNumber = c.ptpConfig.domain
  · have kept : (c.noteAnnounce h).electPTPMaster h (clockTime / 100) = c.noteAnnounce h :=
      if_neg (lost inDomain)
    refine (if_pos inDomain).trans ?_
    rw [kept]
    exact if_neg other
  · exact if_neg inDomain

theorem noticeConfig_settled (c : ClockPTP) : ¬ c.noticeConfig.ConfigChanged := by
  rw [noticeConfig]
  split
  · exact fun changed => changed rfl
  · rename_i settled
    exact settled

theorem atElection_settled (c : ClockPTP) (h : V2MsgHeader) : ¬ (c.atElection h).ConfigChanged := by
  have settled := noticeConfig_settled (c.noteAnnounce h)
  rw [atElection, checkMasterDomain]
  split
  · exact settled
  · exact settled

theorem atElection_ptpConfig (c : ClockPTP) (h : V2MsgHeader) :
    (c.atElection h).ptpConfig = c.ptpConfig := by
  rw [atElection, checkMasterDomain, noticeConfig]
  split <;> split <;> rfl

theorem electPTPMaster_settled {currentTime : UInt64} (settled : ¬ c.ConfigChanged) :
    ¬ (c.electPTPMaster h currentTime).ConfigChanged := by
  rw [electPTPMaster]
  split
  · exact settled
  · exact settled

theorem processAnnounce_of_elected (inDomain : h.domainNumber = c.ptpConfig.domain)
    (elected : (c.processAnnounce h body clockTime).ptpMasterClockIdentity = h.clockIdentity) :
    ¬ (c.processAnnounce h body clockTime).ConfigChanged ∧
      (c.processAnnounce h body clockTime).ptpMasterAnnounceTime = clockTime / 100 := by
  have settled : ¬ ((c.atElection h).electPTPMaster h (clockTime / 100)).ConfigChanged :=
    electPTPMaster_settled (atElection_settled c h)
  have reached : h.domainNumber = (c.atElection h).ptpConfig.domain := by
    rw [atElection_ptpConfig, inDomain]
  rw [processAnnounce] at elected ⊢
  simp only [if_pos reached] at elected ⊢
  rw [saveAnnounce] at elected ⊢
  split at elected
  · rename_i isMaster
    rw [if_pos isMaster]
    exact ⟨settled, rfl⟩
  · rename_i notMaster
    exact absurd elected.symm notMaster

/-- The elected master that announces itself in its domain stays elected. -/
theorem processAnnounce_of_master (settled : ¬ c.ConfigChanged)
    (isMaster : h.clockIdentity = c.ptpMasterClockIdentity)
    (inDomain : h.domainNumber = c.ptpConfig.domain) :
    (c.processAnnounce h body clockTime).ptpMasterClockIdentity = h.clockIdentity := by
  have atElection := atElection_of_settled (h := h) settled fun left => left.2 inDomain
  have elected : ((c.noteAnnounce h).electPTPMaster h (clockTime / 100)).ptpMasterClockIdentity =
      h.clockIdentity := by
    rw [electPTPMaster]
    split
    · rfl
    · exact isMaster.symm
  rw [processAnnounce, atElection]
  refine (congrArg ptpMasterClockIdentity (if_pos inDomain)).trans ?_
  rw [saveAnnounce, if_pos elected.symm]
  exact elected

theorem processMessage_of_not_master (isTiming : message.IsTiming)
    (other : message.header.clockIdentity ≠ c.ptpMasterClockIdentity) :
    c.processMessage message clockTime = .ok (c, .rtpPacketUsed) := by
  cases message with
  | announce h body => exact absurd isTiming id
  | sync h origin => exact if_pos other
  | followUp h origin => exact if_pos other
  | other h => exact absurd isTiming id

theorem processAnnounce_of_left (settled : ¬ c.ConfigChanged)
    (isMaster : h.clockIdentity = c.ptpMasterClockIdentity)
    (foreign : h.domainNumber ≠ c.ptpConfig.domain) :
    c.processAnnounce h body clockTime = (c.noteAnnounce h).resetPTPLock.resetPTPMaster := by
  have left : c.atElection h = (c.noteAnnounce h).resetPTPLock.resetPTPMaster := by
    rw [atElection, noticeConfig_of_settled settled]
    exact if_pos ⟨isMaster, foreign⟩
  rw [processAnnounce, left]
  exact if_neg foreign

/-- A message of another domain does not touch the times, the period and the wake-up, unless it is
a time under the identity of the master; nor does it touch the lock and the election, unless it
announces the master, which starts the election again. -/
theorem foreign_domain (isPTP : PTPMessage.ofPacket packet = some message)
    (settled : ¬ c.ConfigChanged) (foreign : message.header.domainNumber ≠ c.ptpConfig.domain)
    (untimed : message.IsTiming → message.header.clockIdentity ≠ c.ptpMasterClockIdentity) :
    ∃ c' result, c.processPTPPacket packet clockTime = .ok (c', result) ∧
      c'.t1 = c.t1 ∧ c'.t2 = c.t2 ∧ c'.wakeup = c.wakeup ∧
      (c'.locking = c.locking ∧ c'.election = c.election ∨
        message.IsAnnounce ∧ message.header.clockIdentity = c.ptpMasterClockIdentity ∧
          c'.ptpMasterClockIdentity = 0 ∧ c'.getLockStatus = .unlocked) := by
  rw [processPTPPacket, isPTP]
  split
  · exact ⟨c, _, rfl, rfl, rfl, rfl, .inl ⟨rfl, rfl⟩⟩
  · cases message with
    | announce h body =>
      refine ⟨c.processAnnounce h body clockTime, _, rfl, ?_⟩
      by_cases isMaster : h.clockIdentity = c.ptpMasterClockIdentity
      · rw [processAnnounce_of_left settled isMaster foreign]
        exact ⟨rfl, rfl, rfl, .inr ⟨trivial, isMaster, rfl, rfl⟩⟩
      · rw [processAnnounce_of_other settled isMaster fun inDomain => absurd inDomain foreign]
        exact ⟨rfl, rfl, rfl, .inl ⟨rfl, rfl⟩⟩
    | sync h origin =>
      exact ⟨c, _, processMessage_of_not_master trivial (untimed trivial), rfl, rfl, rfl,
        .inl ⟨rfl, rfl⟩⟩
    | followUp h origin =>
      exact ⟨c, _, processMessage_of_not_master trivial (untimed trivial), rfl, rfl, rfl,
        .inl ⟨rfl, rfl⟩⟩
    | other h => exact ⟨c, _, rfl, rfl, rfl, rfl, .inl ⟨rfl, rfl⟩⟩

def ptpFrame (messageType domain identity sequenceId : UInt8) (body : List UInt8) : List UInt8 :=
  UDPPacketBase.bytes { udpHeader := { destPort := mtalSwap16 320 } } ++
    [messageType, 2, 0, 0, domain, 0, 0, 0] ++ List.replicate 12 0 ++
    [identity, 0, 0, 0, 0, 0, 0, 0, 0, 0] ++ [0, sequenceId, 0, 0] ++ body

def announceFrame (domain identity : UInt8) : List UInt8 :=
  ptpFrame 11 domain identity 0 (List.replicate 30 0)

def syncFrame (domain identity sequenceId seconds : UInt8) : List UInt8 :=
  ptpFrame 0 domain identity sequenceId [0, 0, 0, 0, 0, seconds, 0, 0, 0, 0]

def followUpFrame (domain identity sequenceId seconds : UInt8) : List UInt8 :=
  ptpFrame 8 domain identity sequenceId [0, 0, 0, 0, 0, seconds, 0, 0, 0, 0]

def byteAt (packet : List UInt8) (k : Nat) : UInt8 := packet.getD k 0

def startedClock : ClockPTP := { initPTP with audioFrameTICTimerStarted := true }

def withMaster : ClockPTP :=
  startedClock.processAnnounce (.ofBytes (byteAt (announceFrame 0 7)))
    (.ofBytes (byteAt (announceFrame 0 7))) 1000000000

theorem foreign_domain_other : ∃ c' result,
    withMaster.processPTPPacket (announceFrame 1 8) 2000000000 = .ok (c', result) ∧
      c'.t1 = withMaster.t1 ∧ c'.t2 = withMaster.t2 ∧ c'.wakeup = withMaster.wakeup ∧
      (c'.locking = withMaster.locking ∧ c'.election = withMaster.election ∨
        (PTPMessage.announce (.ofBytes (byteAt (announceFrame 1 8)))
            (.ofBytes (byteAt (announceFrame 1 8)))).IsAnnounce ∧
          (8 : UInt64) = withMaster.ptpMasterClockIdentity ∧
          c'.ptpMasterClockIdentity = 0 ∧ c'.getLockStatus = .unlocked) :=
  have isPTP : PTPMessage.ofPacket (announceFrame 1 8) =
      some (.announce (.ofBytes (byteAt (announceFrame 1 8))) (.ofBytes (byteAt (announceFrame 1 8)))) := by
    decide
  foreign_domain isPTP (by decide) (by decide) fun isTiming => absurd isTiming id

/-- The master's own Announce of another domain unseats it, and its Sync of another domain is taken. -/
theorem foreign_domain_taken : ¬ withMaster.ConfigChanged ∧ withMaster.ptpConfig.domain = 0 ∧
    (∃ c', withMaster.processPTPPacket (announceFrame 1 7) 2000000000 = .ok (c', .ptpPacketUsed) ∧
      c'.ptpMasterClockIdentity ≠ withMaster.ptpMasterClockIdentity) ∧
    ∃ c', withMaster.processPTPPacket (syncFrame 1 7 1 1) 2000000000 = .ok (c', .ptpPacketUsed) ∧
      c'.t2 ≠ withMaster.t2 := by
  refine ⟨by decide, rfl, ⟨_, rfl, ?_⟩, ⟨_, rfl, ?_⟩⟩
  · decide
  · decide

theorem election_of_withoutLock (same : c'.withoutLock = c.withoutLock) :
    c'.election = c.election := by
  have cleared : c'.withoutLock.election = c.withoutLock.election := congrArg election same
  exact cleared

theorem timeSync_election {origin : V2TimeRepresentation}
    (done : c.timeSync h origin clockTime = .ok c') : c'.election = c.election := by
  rw [timeSync] at done
  split at done
  · cases done
    rfl
  · split at done
    · cases done
      rfl
    · have same := election_of_withoutLock (processT1_withoutLock done)
      exact same

theorem processSync_election {origin : V2TimeRepresentation}
    (done : c.processSync h origin clockTime = .ok c') : c'.election = c.election := by
  obtain ⟨timed, step, last⟩ := bind_eq_ok.mp done
  have same := timeSync_election step
  cases last
  exact same

theorem processFollowUp_election {origin : V2TimeRepresentation}
    (done : c.processFollowUp h origin = .ok c') : c'.election = c.election := by
  obtain ⟨timed, step, last⟩ := bind_eq_ok.mp done
  cases last
  rw [timeFollowUp] at step
  split at step
  · have same := election_of_withoutLock (processT1_withoutLock step)
    exact same
  · cases step
    rfl

theorem timerProcess_election {endTime counterTime : UInt64} {next : Option UInt64}
    (done : c.timerProcess clockTime endTime counterTime = .ok (c', next)) :
    c'.election = c.election := by
  rcases timerProcess_cases done with ⟨-, rfl⟩ | ⟨-, _, -, -, -, rest⟩
  · rfl
  · have cleared := congrArg election rest
    split at cleared
    · exact cleared
    · exact cleared

/-- A clock with the reading of its last Announce of the master `M` and that of its last packet. -/
structure Watched where
  clock : ClockPTP
  announced : UInt64
  now : UInt64

def hearsAnnounce (c : ClockPTP) (M : UInt64) (packet : List UInt8) : Bool :=
  c.listens && match PTPMessage.ofPacket packet with
    | some (.announce h _) => h.clockIdentity = M && h.domainNumber = c.ptpConfig.domain
    | _ => false

namespace Watched

def observe (M : UInt64) (w : Watched) : ClockEvent → Watched
  | .packet bytes clockTime =>
    { w with
      announced := if w.clock.hearsAnnounce M bytes then clockTime else w.announced
      now := clockTime }
  | _ => w

def step (M : UInt64) (w : Watched) (event : ClockEvent) : Except Fault Watched := do
  let clock ← event.step w.clock
  .ok { w.observe M event with clock := clock }

/-- The readings do not go back, `M` is never silent for longer than the timeout and announces
itself in no other domain, and the configuration is not changed. -/
def Undisturbed (M : UInt64) (w : Watched) : ClockEvent → Prop
  | .packet bytes clockTime =>
    w.now ≤ clockTime ∧
      clockTime.toNat ≤ w.announced.toNat + 100 * ptpMasterAnnounceTimeout.toNat ∧
      ∀ h body, PTPMessage.ofPacket bytes = some (.announce h body) → h.clockIdentity = M →
        h.domainNumber = w.clock.ptpConfig.domain
  | .config wanted => wanted = w.clock.ptpConfig
  | _ => True

/-- An Announce of `M`, just taken, left `M` elected. -/
def ElectedBy (M : UInt64) (w : Watched) : Prop :=
  ∃ (c : ClockPTP) (h : V2MsgHeader) (body : V2MsgAnnounce), h.clockIdentity = M ∧ h.domainNumber = c.ptpConfig.domain ∧
    w.clock = c.processAnnounce h body w.now ∧ w.clock.ptpMasterClockIdentity = M ∧
    w.announced = w.now

structure Elected (M : UInt64) (w : Watched) : Prop where
  master : w.clock.ptpMasterClockIdentity = M
  settled : ¬ w.clock.ConfigChanged
  time : w.clock.ptpMasterAnnounceTime = w.announced / 100
  past : w.announced ≤ w.now

variable {M : UInt64} {w w' : Watched} {events : List ClockEvent}

theorem ElectedBy.elected (elected : w.ElectedBy M) : w.Elected M := by
  obtain ⟨c, h, body, identity, inDomain, clock, master, announced⟩ := elected
  have stays : (c.processAnnounce h body w.now).ptpMasterClockIdentity = h.clockIdentity := by
    rw [← clock, master, identity]
  obtain ⟨settled, time⟩ := processAnnounce_of_elected inDomain stays
  rw [← clock] at settled time
  exact ⟨master, settled, by rw [time, announced], announced ▸ UInt64.le_refl _⟩

/-- Nobody takes the place of a master that was heard within the timeout. -/
theorem Elected.not_elects (elected : w.Elected M) (isClock : M ≠ 0) (later : w.now ≤ clockTime)
    (inTime : clockTime.toNat ≤ w.announced.toNat + 100 * ptpMasterAnnounceTimeout.toNat) :
    ¬ w.clock.Elects (clockTime / 100) := by
  rintro (none | ⟨-, late⟩)
  · exact isClock (elected.master.symm.trans none)
  · have past := UInt64.le_iff_toNat_le.mp (UInt64.le_trans elected.past later)
    rw [elected.time, gt_iff_lt, UInt64.lt_iff_toNat_lt, UInt64.toNat_sub_of_le] at late
    · simp only [UInt64.toNat_div, UInt64.reduceToNat] at late inTime
      have timeout : ptpMasterAnnounceTimeout.toNat = 50000000 := rfl
      omega
    · rw [UInt64.le_iff_toNat_le, UInt64.toNat_div, UInt64.toNat_div]
      exact Nat.div_le_div_right past

theorem Elected.of_election (elected : w.Elected M) (same : w'.clock.election = w.clock.election)
    (announced : w'.announced = w.announced) (later : w.now ≤ w'.now) : w'.Elected M := by
  refine ⟨?_, ?_, ?_, ?_⟩
  · exact (congrArg Election.ptpMasterClockIdentity same).trans elected.master
  · have counters := congrArg Election.ptpConfigChangedCounter same
    have counters' := congrArg Election.lastPTPConfigChangedCounter same
    simp only [election] at counters counters'
    rw [ConfigChanged, counters, counters']
    exact elected.settled
  · rw [announced, ← elected.time]
    exact congrArg Election.ptpMasterAnnounceTime same
  · rw [announced]
    exact UInt64.le_trans elected.past later

theorem Elected.hear {clock : ClockPTP} {result : DispatchResult}
    (elected : w.Elected M) (isClock : M ≠ 0) (undisturbed : w.Undisturbed M (.packet packet clockTime))
    (done : w.clock.processPTPPacket packet clockTime = .ok (clock, result)) :
    Elected M { w.observe M (.packet packet clockTime) with clock := clock } := by
  obtain ⟨later, inTime, inDomain⟩ := undisturbed
  rcases processPTPPacket_cases done with ⟨deaf, rfl⟩ | ⟨listens, message, isPTP, processed⟩
  · have unheard : w.clock.hearsAnnounce M packet = false := by
      rcases deaf with deaf | none
      · rw [hearsAnnounce, deaf, Bool.false_and]
      · rw [hearsAnnounce, none, Bool.and_false]
    exact elected.of_election rfl (if_neg (by simp [unheard])) later
  · have notElected := elected.not_elects isClock later inTime
    cases message with
    | announce h body =>
      cases processed
      by_cases isMaster : h.clockIdentity = M
      · have domain := inDomain h body isPTP isMaster
        have heard : w.clock.hearsAnnounce M packet = true := by
          simp [hearsAnnounce, listens, isPTP, isMaster, domain]
        have stays : (w.clock.processAnnounce h body clockTime).ptpMasterClockIdentity =
            h.clockIdentity :=
          processAnnounce_of_master elected.settled (isMaster.trans elected.master.symm) domain
        obtain ⟨settled, time⟩ := processAnnounce_of_elected domain stays
        refine ⟨stays.trans isMaster, settled, ?_, ?_⟩
        · rw [time]
          simp [observe, heard]
        · simp [observe, heard]
      · have unheard : w.clock.hearsAnnounce M packet = false := by
          simp [hearsAnnounce, isPTP, isMaster]
        have other : h.clockIdentity ≠ w.clock.ptpMasterClockIdentity := by
          rw [elected.master]
          exact isMaster
        rw [processAnnounce_of_other elected.settled other fun _ => notElected]
        exact elected.of_election rfl (if_neg (by simp [unheard])) later
    | sync h origin =>
      have same : clock.election = w.clock.election := by
        obtain rfl | ⟨_, _, isAnnounce, -⟩ | ⟨_, _, -, -, step⟩ | ⟨_, _, isFollowUp, -⟩ :=
          processMessage_cases processed
        · rfl
        · cases isAnnounce
        · exact processSync_election step
        · cases isFollowUp
      exact elected.of_election same (if_neg (by simp [hearsAnnounce, isPTP])) later
    | followUp h origin =>
      have same : clock.election = w.clock.election := by
        obtain rfl | ⟨_, _, isAnnounce, -⟩ | ⟨_, _, isSync, -⟩ | ⟨_, _, -, -, step⟩ :=
          processMessage_cases processed
        · rfl
        · cases isAnnounce
        · cases isSync
        · exact processFollowUp_election step
      exact elected.of_election same (if_neg (by simp [hearsAnnounce, isPTP])) later
    | other h =>
      cases processed
      exact elected.of_election rfl (if_neg (by simp [hearsAnnounce, isPTP])) later

theorem Elected.step {event : ClockEvent} (elected : w.Elected M) (isClock : M ≠ 0)
    (undisturbed : w.Undisturbed M event) (done : w.step M event = .ok w') : w'.Elected M := by
  obtain ⟨clock, step, last⟩ := bind_eq_ok.mp done
  cases last
  cases event with
  | packet bytes clockTime =>
    obtain ⟨⟨clock', result⟩, processed, first⟩ := map_eq_ok.mp step
    cases first
    exact elected.hear isClock undisturbed processed
  | tick clockTime endTime counterTime =>
    obtain ⟨⟨clock', next⟩, processed, first⟩ := map_eq_ok.mp step
    cases first
    exact elected.of_election (timerProcess_election processed) rfl (UInt64.le_refl _)
  | setNextAbsoluteTime next =>
    cases step
    exact elected.of_election rfl rfl (UInt64.le_refl _)
  | start frameSize samplingRate =>
    obtain ⟨period, -, started⟩ := bind_eq_ok.mp step
    cases started
    exact elected.of_election rfl rfl (UInt64.le_refl _)
  | stop =>
    cases step
    exact elected.of_election rfl rfl (UInt64.le_refl _)
  | config wanted =>
    cases step
    have same : w.clock.setPTPConfig wanted = w.clock := by
      rw [undisturbed]
      exact if_neg (by simp)
    rw [same]
    exact elected.of_election rfl rfl (UInt64.le_refl _)

end Watched

theorem processPTPPacket_of_not_master {result : DispatchResult}
    (isPTP : PTPMessage.ofPacket packet = some message) (isTiming : message.IsTiming)
    (other : message.header.clockIdentity ≠ c.ptpMasterClockIdentity)
    (done : c.processPTPPacket packet clockTime = .ok (c', result)) : c' = c := by
  rcases processPTPPacket_cases done with ⟨-, same⟩ | ⟨-, message', isPTP', processed⟩
  · exact same
  · rw [isPTP] at isPTP'
    cases isPTP'
    rw [processMessage_of_not_master isTiming other] at processed
    cases processed
    rfl

/-- While a master is heard in time it stays elected, and the times of other clocks change nothing;
nor do those that come while there is no master, unless their identity is 0. -/
theorem master_stable (M : UInt64) (isClock : M ≠ 0) :
    (∀ (w v : Watched) (events : List ClockEvent), w.ElectedBy M →
      Run (Watched.step M) (Watched.Undisturbed M) w events v →
        v.clock.ptpMasterClockIdentity = M ∧
        ∀ packet message clockTime c' result, PTPMessage.ofPacket packet = some message →
          message.IsTiming → message.header.clockIdentity ≠ M →
          v.clock.processPTPPacket packet clockTime = .ok (c', result) → c' = v.clock) ∧
    ∀ (c : ClockPTP), c.ptpMasterClockIdentity = 0 →
      ∀ packet message clockTime c' result, PTPMessage.ofPacket packet = some message →
        message.IsTiming → message.header.clockIdentity ≠ 0 →
        c.processPTPPacket packet clockTime = .ok (c', result) → c' = c := by
  constructor
  · intro w v events elected run
    have stays : v.Elected M := run.invariant (Watched.Elected M) elected.elected
      fun w event w' held undisturbed step => held.step isClock undisturbed step
    refine ⟨stays.master, fun packet message clockTime c' result isPTP isTiming other done => ?_⟩
    exact processPTPPacket_of_not_master isPTP isTiming (by rw [stays.master]; exact other) done
  · intro c unelected packet message clockTime c' result isPTP isTiming other done
    exact processPTPPacket_of_not_master isPTP isTiming (by rw [unelected]; exact other) done

def firstElection : Watched := ⟨withMaster, 1000000000, 1000000000⟩

/-- The clock 8 announces itself a second after the clock 7, and its Sync is passed over. -/
theorem master_stable_second :
    ∃ v, Watched.step 7 firstElection (.packet (announceFrame 0 8) 2000000000) = .ok v ∧
      v.clock.ptpMasterClockIdentity = 7 ∧
      ∀ c' result, v.clock.processPTPPacket (syncFrame 0 8 1 1) 2000000000 = .ok (c', result) →
        c' = v.clock := by
  have elected : firstElection.ElectedBy 7 :=
    ⟨startedClock, .ofBytes (byteAt (announceFrame 0 7)), .ofBytes (byteAt (announceFrame 0 7)),
      by decide, by decide, rfl, by decide, rfl⟩
  have undisturbed : firstElection.Undisturbed 7 (.packet (announceFrame 0 8) 2000000000) := by
    refine ⟨by decide, by decide, fun h body isPTP identity => ?_⟩
    cases isPTP
    exact absurd identity (by decide)
  have stable := (master_stable 7 (by decide)).1 firstElection _ _ elected
    (.snoc (.nil _) undisturbed rfl)
  exact ⟨_, rfl, stable.1, fun c' result => stable.2 (syncFrame 0 8 1 1)
    (.sync (.ofBytes (byteAt (syncFrame 0 8 1 1))) (.ofBytes (byteAt (syncFrame 0 8 1 1)))) _ c' result
    (by decide) trivial (by decide)⟩

/-- A Sync whose identity is 0 is taken before there is a master. -/
theorem unelected_sync_taken : startedClock.ptpMasterClockIdentity = 0 ∧
    ∃ c', startedClock.processPTPPacket (syncFrame 0 0 1 1) 1000000000 = .ok (c', .ptpPacketUsed) ∧
      c'.t1 ≠ startedClock.t1 ∧ c'.t2 ≠ startedClock.t2 ∧
      c'.ptpLockCounter ≠ startedClock.ptpLockCounter := by
  refine ⟨rfl, _, rfl, ?_, ?_, ?_⟩
  · decide
  · decide
  · decide

end ClockPTP

end RavennaLkm
