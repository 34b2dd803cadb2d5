import RavennaLkm.AudioStream

/-!
PTP.c: the clock of one NIC. Announce messages elect a master, Sync and
Follow_Up messages of the master lock the period of the TIC to it, and the timer
counts the audio frames. Times are in units of 100 µs (`ref`), periods in ps;
the clock readings a call makes are its arguments. The link is always up.
-/
namespace RavennaLkm
open LittleEndian CheckedLoop

def ptpLockHysteresis : UInt16 := 4
def ticLockHysteresis : UInt16 := 5
def ptpWatchdogElapse : UInt64 := 20000
def psToRefUnit : UInt64 := 100000000
def nsToRefUnit : UInt64 := 100000
def ptpMasterAnnounceTimeout : UInt64 := 50000000
def sizeofPTPPacketBase : Nat := 76
def sizeofPTPV2MsgSyncPacket : Nat := 86
def sizeofPTPV2MsgFollowUpPacket : Nat := 86
def sizeofPTPV2MsgAnnouncePacket : Nat := 106

def divU64 (dividend divisor : UInt64) : Except Fault UInt64 :=
  if divisor = 0 then .error .divideByZero else .ok (dividend / divisor)

def divI64 (dividend divisor : Int64) : Except Fault Int64 :=
  if divisor = 0 then .error .divideByZero else .ok (dividend / divisor)

def divI32 (dividend divisor : Int32) : Except Fault Int32 :=
  if divisor = 0 then .error .divideByZero else .ok (dividend / divisor)

structure V2MsgHeader where
  transportSpecificAndMessageType : UInt8
  reserved1AndVersionPTP : UInt8
  domainNumber : UInt8
  flags : UInt16
  correctionField : UInt64
  clockIdentity : UInt64
  sequenceId : UInt16
  deriving DecidableEq, Repr

def V2MsgHeader.ofBytes (b : Nat → UInt8) : V2MsgHeader where
  transportSpecificAndMessageType := b 42
  reserved1AndVersionPTP := b 43
  domainNumber := b 46
  flags := load16 b 48
  correctionField := load64 b 50
  clockIdentity := load64 b 62
  sequenceId := load16 b 72

structure V2TimeRepresentation where
  seconds : MACAddress
  nanoseconds : UInt32
  deriving DecidableEq, Repr

def V2TimeRepresentation.ofBytes (b : Nat → UInt8) : V2TimeRepresentation :=
  ⟨.ofBytes b 76, load32 b 82⟩

structure V2MsgAnnounce where
  priority1 : UInt8 := 0
  grandmasterClockIdentity : UInt64 := 0
  deriving DecidableEq, Repr

def V2MsgAnnounce.ofBytes (b : Nat → UInt8) : V2MsgAnnounce := ⟨b 89, load64 b 95⟩

def isPTPTwoStep (flags : UInt16) : Bool := flags &&& 0x02 == 0x02

def getSeconds (seconds : MACAddress) : UInt64 :=
  seconds.bytes.foldl (fun ui64 byte => ui64 <<< 8 + byte.toUInt64) 0

/-- `T1` of a message: the time it was sent, corrected. -/
def originTime (h : V2MsgHeader) (origin : V2TimeRepresentation) : UInt64 :=
  let nanoseconds := getSeconds origin.seconds * 1000000000 +
    (mtalSwap32 origin.nanoseconds).toInt32.toInt64.toUInt64
  let correction := (mtalSwap64 h.correctionField).toInt64 >>> 16
  (nanoseconds + correction.toUInt64) / nsToRefUnit

inductive PTPMessage where
  | announce (header : V2MsgHeader) (body : V2MsgAnnounce)
  | sync (header : V2MsgHeader) (origin : V2TimeRepresentation)
  | followUp (header : V2MsgHeader) (origin : V2TimeRepresentation)
  | other (header : V2MsgHeader)
  deriving DecidableEq, Repr

namespace PTPMessage

def header : PTPMessage → V2MsgHeader
  | .announce h _ | .sync h _ | .followUp h _ | .other h => h

/-- The message in a frame of at least `sizeofUDPPacketBase` bytes, by port, size and version. -/
def ofPacket (packet : List UInt8) : Option PTPMessage :=
  let b := fun k => packet.getD k 0
  let destPort := (UDPPacketBase.ofBytes b).udpHeader.destPort
  let h := V2MsgHeader.ofBytes b
  if destPort ≠ mtalSwap16 319 ∧ destPort ≠ mtalSwap16 320 then none
  else if packet.length < sizeofPTPPacketBase then none
  else if h.reserved1AndVersionPTP &&& 0xF ≠ 2 then none
  else match (h.transportSpecificAndMessageType &&& 0x0F).toNat with
    | 0 => if packet.length < sizeofPTPV2MsgSyncPacket then none else some (.sync h (.ofBytes b))
    | 8 =>
      if packet.length < sizeofPTPV2MsgFollowUpPacket then none else some (.followUp h (.ofBytes b))
    | 11 =>
      if packet.length < sizeofPTPV2MsgAnnouncePacket then none else some (.announce h (.ofBytes b))
    | _ => some (.other h)

end PTPMessage

structure PTPConfig where
  domain : UInt8 := 0
  dscp : UInt8 := 0
  deriving DecidableEq, Repr

inductive PTPLockStatus where
  | unlocked | locking | locked
  deriving DecidableEq, Repr

structure ClockPTP where
  globalSAC : UInt64 := 0
  globalTime : UInt64 := 0
  globalPerformanceCounter : UInt64 := 0
  frameSize : UInt32 := 64
  samplingRate : UInt32 := 48000
  audioFrameTICTimerStarted : Bool := false
  initialized : Bool := true
  ticSAC : UInt64 := 0
  ptpLockCounter : UInt16 := ptpLockHysteresis
  ticLockCounter : UInt16 := 0
  ticLastRTXClockTime : UInt64 := 0
  ticLastRTXClockTimeAtT2 : UInt64 := 0
  ticNextAbsoluteTime : UInt64 := 0
  ticNextAbsoluteTimeFrac : UInt64 := 0
  ticBasePeriod : UInt64 := 64 * 1000000000000 / 48000
  ticCurrentPeriod : UInt64 := 64 * 1000000000000 / 48000
  ticIGR : Int64 := 0
  ticPTPToRTXClockOffset : Int64 := 0
  lastCurrentRTXClockTime : UInt64 := 0
  lastAbsoluteTime : UInt64 := 0
  ticDropCounter : UInt32 := 0
  lastTICCount : UInt64 := 0
  lastAnnounceSequenceId : UInt16 := 0
  lastSyncSequenceId : UInt16 := 0
  lastFollowUp : UInt16 := 0
  t1 : UInt64 := 0
  t2 : UInt64 := 0
  deltaT2 : UInt64 := 0
  lastWatchDogTime : UInt64 := 0
  lastWatchDogSyncSequenceId : UInt16 := 0
  maxClkJitter : Int32 := 0
  ptpConfig : PTPConfig := {}
  ptpConfigChangedCounter : UInt32 := 0
  lastPTPConfigChangedCounter : UInt32 := 0
  ptpMasterAnnounce : V2MsgAnnounce := {}
  ptpMasterAnnounceTime : UInt64 := 0
  ptpMasterClockIdentity : UInt64 := 0
  ptpMasterGMID : UInt64 := 0

namespace ClockPTP

/-- `init_ptp` on a clock whose memory is zero. -/
def initPTP : ClockPTP := {}

def resetPTPLock (self : ClockPTP) : ClockPTP :=
  { self with
    ptpLockCounter := ptpLockHysteresis, ticIGR := 0, ticLockCounter := ticLockHysteresis }

def resetPTPMaster (self : ClockPTP) : ClockPTP :=
  { self with
    ptpMasterAnnounce := {}
    ptpMasterAnnounceTime := 0
    ptpMasterClockIdentity := 0
    ptpMasterGMID := 0 }

def getLockStatus (self : ClockPTP) : PTPLockStatus :=
  if self.ptpLockCounter ≠ 0 then .unlocked
  else if self.ticLockCounter ≠ 0 then .locking
  else .locked

def setPTPConfig (self : ClockPTP) (config : PTPConfig) : ClockPTP :=
  if self.ptpConfig.domain ≠ config.domain || self.ptpConfig.dscp ≠ config.dscp then
    { self with
      ptpConfig := config, ptpConfigChangedCounter := self.ptpConfigChangedCounter + 1 }
  else self

def getPTPPriority (self : ClockPTP) : UInt8 := self.ptpMasterAnnounce.priority1

def stopAudioFrameTICTimer (self : ClockPTP) : ClockPTP :=
  { self with audioFrameTICTimerStarted := false }.resetPTPLock

def basePeriod (frameSize samplingRate : UInt32) : Except Fault UInt64 := do
  let period ← divI64 (frameSize.toUInt64.toInt64 * 1000000000000) samplingRate.toUInt64.toInt64
  .ok period.toUInt64

def startAudioFrameTICTimer (self : ClockPTP) (frameSize samplingRate : UInt32) :
    Except Fault ClockPTP := do
  let self := self.stopAudioFrameTICTimer
  let period ← basePeriod frameSize samplingRate
  .ok { self with
    frameSize := frameSize
    samplingRate := samplingRate
    audioFrameTICTimerStarted := true
    ticBasePeriod := period
    ticCurrentPeriod := period }.resetPTPLock

def lastTICFrameFraction (self : ClockPTP) (t1 : UInt64) : Except Fault UInt64 := do
  let a ← cwLlModulo (t1 * self.samplingRate.toUInt64 / 10000) self.frameSize.toUInt64
  divU64 (a * 10000) self.samplingRate.toUInt64

def deltaTICFrame (self : ClockPTP) (fraction : UInt64) : Int32 :=
  (self.t2 - fraction - self.ticLastRTXClockTimeAtT2).toUInt32.toInt32

def midPeriod (self : ClockPTP) : Int32 := (self.ticBasePeriod / (psToRefUnit * 2)).toUInt32.toInt32

def nearestTICFrame (self : ClockPTP) (delta : Int32) : Int32 :=
  let period := (self.ticBasePeriod / psToRefUnit).toUInt32.toInt32
  if delta > self.midPeriod then delta - period
  else if delta < -self.midPeriod then delta + period
  else delta

def alignNextTIC (self : ClockPTP) (t1 deltaT1 : UInt64) : Except Fault ClockPTP := do
  let fraction ← self.lastTICFrameFraction t1
  let delta := self.nearestTICFrame (self.deltaTICFrame fraction)
  let period ← divU64 (self.ticBasePeriod * self.deltaT2) deltaT1
  .ok { self with
    ticCurrentPeriod := period
    ticNextAbsoluteTime :=
      self.ticLastRTXClockTimeAtT2 + delta.toInt64.toUInt64 + 5 * period / psToRefUnit
    ticNextAbsoluteTimeFrac := 0 }

def countDownPTPLock (self : ClockPTP) (t1 deltaT1 : UInt64) : Except Fault ClockPTP :=
  if self.ptpLockCounter > 0 then
    let self := { self with ptpLockCounter := self.ptpLockCounter - 1 }
    if self.ptpLockCounter = 1 then self.alignNextTIC t1 deltaT1 else .ok self
  else .ok self

/-- Whether the current period is more than 20 percent off the base period; the test truncates
both to `int`. -/
def periodDerives (self : ClockPTP) : Except Fault Bool :=
  if self.ticCurrentPeriod = 0 then .ok true
  else do
    let current := self.ticCurrentPeriod.toUInt32.toInt32
    let ratio ← divI32 ((current - self.ticBasePeriod.toUInt32.toInt32) * 100) current
    .ok (decide (ratio.abs > 20))

def clamp (x bound : Int64) : Int64 := max (min x bound) (-bound)

def adjustPhase (self : ClockPTP) (delta : Int32) : ClockPTP :=
  let proportional := (delta.toInt64.toUInt64 * self.ticBasePeriod).toInt64 / 5000000
  let igr := clamp ((self.ticIGR + proportional) * 95 / 100) 4000000
  let phaseAdj := clamp (igr / 10) 4000000
  { self with
    ticIGR := igr
    ticCurrentPeriod := self.ticCurrentPeriod + (phaseAdj * 1000).toUInt64
    ticLockCounter :=
      if phaseAdj.abs < 800000 ∧ self.ticLockCounter > 0 then self.ticLockCounter - 1
      else if phaseAdj.abs > 1000000 then ticLockHysteresis
      else self.ticLockCounter }

def adjustPeriod (self : ClockPTP) (t1 : UInt64) : Except Fault ClockPTP := do
  let self := { self with
    ticPTPToRTXClockOffset := self.t2.toInt64 - t1.toInt64
    ticCurrentPeriod := self.ticBasePeriod }
  let derives ← self.periodDerives
  let self := if derives then { self with ticCurrentPeriod := self.ticBasePeriod } else self
  let fraction ← self.lastTICFrameFraction t1
  let delta := self.deltaTICFrame fraction
  if delta > 3 * self.midPeriod ∨ delta < -3 * self.midPeriod then .ok self
  else .ok (self.adjustPhase (self.nearestTICFrame delta))

def adjustIfLocked (self : ClockPTP) (t1 : UInt64) : Except Fault ClockPTP :=
  if self.ptpLockCounter = 0 then self.adjustPeriod t1 else .ok self

def processT1 (self : ClockPTP) (t1 : UInt64) : Except Fault ClockPTP :=
  let deltaT1 := t1 - self.t1
  if deltaT1 = 0 then .ok self
  else do
    let self ← self.countDownPTPLock t1 deltaT1
    let self ← self.adjustIfLocked t1
    .ok { self with t1 := t1 }

/-- Whether the configuration is another one than at the last election. -/
def ConfigChanged (self : ClockPTP) : Prop :=
  self.ptpConfigChangedCounter ≠ self.lastPTPConfigChangedCounter

instance (self : ClockPTP) : Decidable self.ConfigChanged := inferInstanceAs (Decidable (_ ≠ _))

def noticeConfig (self : ClockPTP) : ClockPTP :=
  if self.ConfigChanged then
    { self with lastPTPConfigChangedCounter := self.ptpConfigChangedCounter }.resetPTPLock.resetPTPMaster
  else self

def MasterLeftDomain (self : ClockPTP) (h : V2MsgHeader) : Prop :=
  h.clockIdentity = self.ptpMasterClockIdentity ∧ h.domainNumber ≠ self.ptpConfig.domain

instance (self : ClockPTP) (h : V2MsgHeader) : Decidable (self.MasterLeftDomain h) :=
  inferInstanceAs (Decidable (_ ∧ _))

def checkMasterDomain (self : ClockPTP) (h : V2MsgHeader) : ClockPTP :=
  if self.MasterLeftDomain h then self.resetPTPLock.resetPTPMaster else self

def Elects (self : ClockPTP) (currentTime : UInt64) : Prop :=
  self.ptpMasterClockIdentity = 0 ∨ self.ptpMasterAnnounceTime ≠ 0 ∧
    currentTime - self.ptpMasterAnnounceTime > ptpMasterAnnounceTimeout

instance (self : ClockPTP) (currentTime : UInt64) : Decidable (self.Elects currentTime) :=
  inferInstanceAs (Decidable (_ ∨ _ ∧ _))

def electPTPMaster (self : ClockPTP) (h : V2MsgHeader) (currentTime : UInt64) : ClockPTP :=
  if self.Elects currentTime then
    { self.resetPTPLock.resetPTPMaster with ptpMasterClockIdentity := h.clockIdentity }
  else self

def saveAnnounce (self : ClockPTP) (h : V2MsgHeader) (announce : V2MsgAnnounce)
    (currentTime : UInt64) : ClockPTP :=
  if h.clockIdentity = self.ptpMasterClockIdentity then
    { self with
      ptpMasterAnnounce := announce
      ptpMasterGMID := announce.grandmasterClockIdentity
      ptpMasterAnnounceTime := currentTime }
  else self

def noteAnnounce (self : ClockPTP) (h : V2MsgHeader) : ClockPTP :=
  { self with lastAnnounceSequenceId := mtalSwap16 h.sequenceId }

def atElection (self : ClockPTP) (h : V2MsgHeader) : ClockPTP :=
  (self.noteAnnounce h).noticeConfig.checkMasterDomain h

def processAnnounce (self : ClockPTP) (h : V2MsgHeader) (announce : V2MsgAnnounce)
    (clockTime : UInt64) : ClockPTP :=
  let self := self.atElection h
  if h.domainNumber = self.ptpConfig.domain then
    (self.electPTPMaster h (clockTime / 100)).saveAnnounce h announce (clockTime / 100)
  else self

def deltaSeq (self : ClockPTP) (h : V2MsgHeader) : UInt16 :=
  mtalSwap16 h.sequenceId - self.lastSyncSequenceId

def recordT2 (self : ClockPTP) (t2 : UInt64) : ClockPTP :=
  { self with
    deltaT2 := t2 - self.t2
    t2 := t2
    ticLastRTXClockTimeAtT2 := self.ticLastRTXClockTime }

def timeSync (self : ClockPTP) (h : V2MsgHeader) (origin : V2TimeRepresentation)
    (clockTime : UInt64) : Except Fault ClockPTP :=
  if self.deltaSeq h > ptpLockHysteresis then .ok { self with deltaT2 := 0 }.resetPTPLock
  else if isPTPTwoStep h.flags then .ok (self.recordT2 (clockTime / nsToRefUnit))
  else (self.recordT2 (clockTime / nsToRefUnit)).processT1 (originTime h origin)

def processSync (self : ClockPTP) (h : V2MsgHeader) (origin : V2TimeRepresentation)
    (clockTime : UInt64) : Except Fault ClockPTP := do
  let timed ← self.timeSync h origin clockTime
  .ok { timed with lastSyncSequenceId := mtalSwap16 h.sequenceId }

def timeFollowUp (self : ClockPTP) (h : V2MsgHeader) (origin : V2TimeRepresentation) :
    Except Fault ClockPTP :=
  if mtalSwap16 h.sequenceId = self.lastSyncSequenceId then self.processT1 (originTime h origin)
  else .ok self

def processFollowUp (self : ClockPTP) (h : V2MsgHeader) (origin : V2TimeRepresentation) :
    Except Fault ClockPTP := do
  let timed ← self.timeFollowUp h origin
  .ok { timed with lastFollowUp := mtalSwap16 h.sequenceId }

def processMessage (self : ClockPTP) (message : PTPMessage) (clockTime : UInt64) :
    Except Fault (ClockPTP × DispatchResult) :=
  match message with
  | .announce h body => .ok (self.processAnnounce h body clockTime, .ptpPacketUsed)
  | .sync h origin =>
    if h.clockIdentity ≠ self.ptpMasterClockIdentity then .ok (self, .rtpPacketUsed)
    else (·, .ptpPacketUsed) <$> self.processSync h origin clockTime
  | .followUp h origin =>
    if h.clockIdentity ≠ self.ptpMasterClockIdentity then .ok (self, .rtpPacketUsed)
    else (·, .ptpPacketUsed) <$> self.processFollowUp h origin
  | .other _ => .ok (self, .ptpPacketUsed)

def listens (self : ClockPTP) : Bool := self.initialized && self.audioFrameTICTimerStarted

def processPTPPacket (self : ClockPTP) (packet : List UInt8) (clockTime : UInt64) :
    Except Fault (ClockPTP × DispatchResult) :=
  if !self.listens then .ok (self, .packetNotUsed)
  else match PTPMessage.ofPacket packet with
    | none => .ok (self, .packetNotUsed)
    | some message => self.processMessage message clockTime

def computeNextAbsoluteTime (self : ClockPTP) (frameCount : UInt32) : ClockPTP :=
  let next := self.ticNextAbsoluteTime + self.ticCurrentPeriod / psToRefUnit * frameCount.toUInt64
  let frac := self.ticNextAbsoluteTimeFrac + self.ticCurrentPeriod % psToRefUnit * frameCount.toUInt64
  if frac > psToRefUnit then
    let epsilonCount := frac.toUInt32 / psToRefUnit.toUInt32
    { self with
      ticNextAbsoluteTimeFrac := frac - (psToRefUnit.toUInt32 * epsilonCount).toUInt64
      ticNextAbsoluteTime := next + epsilonCount.toUInt64 }
  else { self with ticNextAbsoluteTime := next, ticNextAbsoluteTimeFrac := frac }

/-- The number of the frame that begins at a clock time: the nearest one when it is near enough,
else the one after the last. -/
def currentTICCount (self : ClockPTP) (currentRTXClockTime : UInt64) : Except Fault UInt64 := do
  let samples := (currentRTXClockTime - self.ticPTPToRTXClockOffset.toUInt64) *
    (self.samplingRate / 100).toUInt64 / 100
  let q ← divU64 samples self.frameSize.toUInt64
  let r ← cwLlModulo samples self.frameSize.toUInt64
  let tolerance := 4 * self.samplingRate / 44100
  .ok (
    if r.toUInt32 < tolerance then q + 1
    else if r.toUInt32 > self.frameSize - tolerance then q + 1 + 1
    else self.lastTICCount + 1)

def WatchDogElapsed (self : ClockPTP) (currentRTXClockTime : UInt64) : Prop :=
  currentRTXClockTime - self.lastWatchDogTime ≥ ptpWatchdogElapse

instance (self : ClockPTP) (currentRTXClockTime : UInt64) :
    Decidable (self.WatchDogElapsed currentRTXClockTime) :=
  inferInstanceAs (Decidable (_ ≥ _))

def SyncMissing (self : ClockPTP) : Prop :=
  self.lastWatchDogSyncSequenceId = self.lastSyncSequenceId ∧ self.getLockStatus ≠ .unlocked

instance (self : ClockPTP) : Decidable self.SyncMissing := inferInstanceAs (Decidable (_ ∧ _))

def watchDog (self : ClockPTP) (currentRTXClockTime : UInt64) : ClockPTP :=
  if self.WatchDogElapsed currentRTXClockTime then
    { if self.SyncMissing then self.resetPTPLock else self with
      lastWatchDogSyncSequenceId := self.lastSyncSequenceId, lastWatchDogTime := currentRTXClockTime }
  else self

def reportDrop (self : ClockPTP) (ticCount : UInt64) : ClockPTP :=
  { self with
    ticDropCounter :=
      if self.getLockStatus = .locked ∧ ticCount ≠ self.lastTICCount + 1 then self.ticDropCounter + 1
      else self.ticDropCounter
    lastTICCount := ticCount }

/-- The next wake-up: a late clock that is not locked starts again from now. -/
def catchUp (self : ClockPTP) (absoluteTime currentTime : UInt64) : ClockPTP × UInt64 :=
  if absoluteTime ≤ currentTime ∧
      ¬ currentTime - absoluteTime < self.ticCurrentPeriod / 2 / psToRefUnit ∧
      self.getLockStatus ≠ .locked then
    let next := currentTime + self.ticBasePeriod / psToRefUnit
    ({ self with ticNextAbsoluteTime := next }, next)
  else (self, absoluteTime)

def updateClkJitter (self : ClockPTP) (clockTime : UInt64) : ClockPTP :=
  let clkJitter := (self.ticNextAbsoluteTime * 100).toUInt32.toInt32 - (clockTime / 1000).toUInt32.toInt32
  { self with maxClkJitter := max clkJitter self.maxClkJitter }

def atTIC (self : ClockPTP) (clockTime : UInt64) : ClockPTP :=
  { self with ticLastRTXClockTime := clockTime / nsToRefUnit }.computeNextAbsoluteTime 1

def countTIC (self : ClockPTP) (ticCount clockTime counterTime : UInt64) : ClockPTP :=
  let ticSAC := (ticCount - 1) * self.frameSize.toUInt64
  { self with
    ticSAC := ticSAC
    globalPerformanceCounter := counterTime
    globalTime := clockTime / nsToRefUnit
    globalSAC := ticSAC }

def finishTIC (self : ClockPTP) (ticCount absoluteTime clockTime endTime : UInt64) :
    ClockPTP × UInt64 :=
  let self := (self.watchDog (clockTime / nsToRefUnit)).reportDrop ticCount
  let caughtUp := self.catchUp absoluteTime (endTime / nsToRefUnit)
  ({ caughtUp.1 with
      lastAbsoluteTime := caughtUp.2, lastCurrentRTXClockTime := clockTime / nsToRefUnit },
    caughtUp.2 * nsToRefUnit)

/-- `clockTime` and `endTime` are the readings at begin and end. The second result is
`*pui64NextRTXClockTime`, which a stopped clock does not write. -/
def timerProcess (self : ClockPTP) (clockTime endTime counterTime : UInt64) :
    Except Fault (ClockPTP × Option UInt64) := do
  let self := self.updateClkJitter clockTime
  if !self.audioFrameTICTimerStarted then .ok (self, none)
  else
    let self := self.atTIC clockTime
    let ticCount ← self.currentTICCount (clockTime / nsToRefUnit)
    let done := (self.countTIC ticCount clockTime counterTime).finishTIC ticCount
      self.ticNextAbsoluteTime clockTime endTime
    .ok (done.1, some done.2)

def timerSetNextAbsoluteTime (self : ClockPTP) (nextAbsoluteTime : UInt64) : ClockPTP :=
  { self with ticNextAbsoluteTime := nextAbsoluteTime / nsToRefUnit }

end ClockPTP

inductive ClockEvent where
  | packet (bytes : List UInt8) (clockTime : UInt64)
  | tick (clockTime endTime counterTime : UInt64)
  | setNextAbsoluteTime (nextAbsoluteTime : UInt64)
  | start (frameSize samplingRate : UInt32)
  | stop
  | config (wanted : PTPConfig)

def ClockEvent.step (self : ClockPTP) : ClockEvent → Except Fault ClockPTP
  | .packet bytes clockTime => (·.1) <$> self.processPTPPacket bytes clockTime
  | .tick clockTime endTime counterTime => (·.1) <$> self.timerProcess clockTime endTime counterTime
  | .setNextAbsoluteTime next => .ok (self.timerSetNextAbsoluteTime next)
  | .start frameSize samplingRate => self.startAudioFrameTICTimer frameSize samplingRate
  | .stop => .ok self.stopAudioFrameTICTimer
  | .config wanted => .ok (self.setPTPConfig wanted)

end RavennaLkm
