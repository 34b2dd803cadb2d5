import RavennaLkm.Clock
import RavennaLkm.Dispatch
import RavennaLkm.StreamsCalls

/-!
manager.c, with EtherTubeNetfilter.c and the timer of module_main.c: the
configuration of the driver, the clocks of both NICs and the streams. What ALSA
has set up is an argument of each call, and the playback rings, which ALSA
fills, are an argument of a tick. The ALSA chip is attached by `init`, and a NIC
index beyond the two of the manager overruns its arrays.
-/
namespace RavennaLkm
open CheckedLoop LittleEndian

def defaultSampleRate : UInt32 := 44100
def defaultNadacTICFrameSize : UInt64 := 512
def maxHorusSupportedFrameSizeInSamples : UInt32 := 1024
def defaultNumberOfInputs : UInt32 := 64
def defaultNumberOfOutputs : UInt32 := 64
def nbChannelsMax : Nat := 128
def bufferBytesMax : Nat := ringBufferSize.toNat * nbChannelsMax * 4
def maxInterfaceName : Nat := 64
def lockPolls : Nat := 4000
/-- The room for a name in an EtherTube. -/
def ifnameSize : Nat := 16

theorem bufferBytesMax_eq : bufferBytesMax = 49152 * 128 * 4 := rfl

/-- Beside the faults of the parts: memory outside of the message, and outside of the NIC arrays
or of the interface name of a NIC. -/
inductive ManagerFault where
  | outsideMessage | interfaceOverrun
  | fault (f : Fault)
  deriving DecidableEq, Repr

def lift {α : Type} (x : Except Fault α) : Except ManagerFault α := x.mapError .fault

def isDSDRate (sampleRate : UInt32) : Bool :=
  sampleRate == 2822400 || sampleRate == 5644800 || sampleRate == 11289600

inductive AudioMode where
  | pcm | dsd64 | dsd128 | dsd256
  deriving DecidableEq, Repr

def AudioMode.value : AudioMode → UInt32
  | .pcm => 0
  | .dsd64 => 2
  | .dsd128 => 3
  | .dsd256 => 4

def getAudioModeFromRate (sampleRate : UInt32) : AudioMode :=
  if sampleRate = 2822400 then .dsd64
  else if sampleRate = 5644800 then .dsd128
  else if sampleRate = 11289600 then .dsd256
  else .pcm

def ravennaRate (sampleRate : UInt32) : UInt32 := if isDSDRate sampleRate then 352800 else sampleRate

def nFS (sampleRate : UInt32) : UInt32 :=
  if isDSDRate sampleRate || sampleRate == 384000 || sampleRate == 352800 then 8
  else if sampleRate == 192000 || sampleRate == 176400 then 4
  else if sampleRate == 96000 || sampleRate == 88200 then 2
  else 1

/-- A running substream; ALSA refuses one that does not fit in `buffer_bytes_max`. -/
structure PCMRuntime where
  periodSize : Nat
  periods : Nat
  fits : periodSize * periods ≤ bufferBytesMax

structure AlsaBuffers where
  currentDSD : Bool := false
  playback : Option PCMRuntime := none
  capture : Option PCMRuntime := none
  playbackBufferPos : UInt32 := 0

def bufferSizeInFrames (currentDSD : Bool) : Option PCMRuntime → UInt32
  | none => ringBufferSize
  | some runtime =>
    if runtime.periodSize ≠ 0 ∧ runtime.periods ≠ 0 then
      if currentDSD then ringBufferSize else UInt32.ofNat (runtime.periodSize * runtime.periods)
    else ringBufferSize

namespace AlsaBuffers

def getCaptureBufferSizeInFrames (alsa : AlsaBuffers) : UInt32 :=
  bufferSizeInFrames alsa.currentDSD alsa.capture

def getPlaybackBufferSizeInFrames (alsa : AlsaBuffers) : UInt32 :=
  bufferSizeInFrames alsa.currentDSD alsa.playback

end AlsaBuffers

structure AlsaChip where
  currentPlaybackVolume : Int32 := 0
  currentPlaybackSwitch : Int32 := 0
  deriving DecidableEq, Repr

structure EtherTube where
  etherTubeEnable : Bool := false
  started : Bool := false
  ifnameUsed : List UInt8 := []
  deriving DecidableEq, Repr

namespace EtherTube

def enableEtherTube (self : EtherTube) (enable : Bool) : EtherTube := { self with etherTubeEnable := enable }

def stop (self : EtherTube) : EtherTube := { self with started := false }

def start (self : EtherTube) (ifname : List UInt8) : Except ManagerFault EtherTube :=
  if ifname.length < ifnameSize then .ok { self with ifnameUsed := ifname, started := true }
  else .error .interfaceOverrun

def rxPacket (self : EtherTube) (packet : List UInt8) (ifname : List UInt8) : Bool :=
  self.etherTubeEnable && self.started && ifname == self.ifnameUsed && packet != []

end EtherTube

structure Manager where
  isNICActive : Nat → Bool := fun n => n == 0
  ethernetFilter : Nat → EtherTube := fun _ => {}
  ptp : Nat → ClockPTP := fun _ => .initPTP
  streams : RTPStreamsManager
  lastLockStatus : Nat → PTPLockStatus := fun _ => .unlocked
  activePTPNICIdx : Nat := 0
  numberOfInputs : UInt32 := defaultNumberOfInputs
  numberOfOutputs : UInt32 := defaultNumberOfOutputs
  sampleRate : UInt32 := defaultSampleRate
  ticFrameSizeAt1FS : UInt64 := defaultNadacTICFrameSize
  frameSize : UInt32 := 0
  maxFrameSize : UInt32 := maxHorusSupportedFrameSizeInSamples
  playoutDelay : Int32 := 0
  captureDelay : Int32 := 0
  isPlaybackIO : Bool := false
  isRecordingIO : Bool := false
  isStarted : Bool := false
  ioRunning : Bool := false
  interfaceName : List UInt8 := []
  alsaChip : AlsaChip := {}
  /-- The stream that a handle of a message points to. -/
  streamAt : UInt64 → StreamHandle

namespace Manager

def updateFrameSize (self : Manager) : Manager :=
  let frameSize := self.ticFrameSizeAt1FS.toUInt32 * nFS self.sampleRate
  { self with frameSize := if frameSize > self.maxFrameSize then self.maxFrameSize else frameSize }

def init (macAddress : Nat → MACAddress) (livesIn : RingMemory) (streamAt : UInt64 → StreamHandle) :
    Manager :=
  { streams := .init macAddress livesIn, streamAt := streamAt : Manager }.updateFrameSize

def muteChannels (sampleRate : UInt32) : UInt8 :=
  match getAudioModeFromRate sampleRate with
  | .pcm => 0
  | .dsd64 | .dsd128 | .dsd256 => 0x55

def jitterBuffer (numberOfChannels channelId : UInt32) : Option Nat :=
  if channelId ≥ numberOfChannels then none else some ((channelId * ringBufferSize * 4).toNat / 4)

def ptpSelected (self : Manager) : ClockPTP := self.ptp self.activePTPNICIdx

/-- What the callbacks answer now; only an arriving packet reads the counter. -/
def callbacks (self : Manager) (alsa : AlsaBuffers) (counterTime : UInt64 := 0) : RTPAudioStreamOps where
  globalSAC := self.ptpSelected.globalSAC
  globalTime := self.ptpSelected.globalTime
  globalPerformanceCounter := self.ptpSelected.globalPerformanceCounter
  counterTime := counterTime
  frameSize := self.frameSize
  liveInJitterBuffer := jitterBuffer self.numberOfInputs
  liveOutJitterBuffer := jitterBuffer self.numberOfOutputs
  liveInJitterBufferLength := alsa.getCaptureBufferSizeInFrames
  liveOutJitterBufferLength := alsa.getPlaybackBufferSizeInFrames
  playbackBufferOffset := alsa.playbackBufferPos
  mutePattern := muteChannels self.sampleRate

def setPTP (self : Manager) (nic : Nat) (clock : ClockPTP) : Manager :=
  { self with ptp := Function.update self.ptp nic clock }

def startClock (nic : Nat) (self : Manager) : Except Fault Manager :=
  if self.isNICActive nic then do
    let clock ← (self.ptp nic).startAudioFrameTICTimer self.frameSize (ravennaRate self.sampleRate)
    .ok (self.setPTP nic clock)
  else .ok self

def startClocks (self : Manager) : Except Fault Manager := forUp startClock maxNics self

def stopClock (nic : Nat) (self : Manager) : Manager :=
  self.setPTP nic (self.ptp nic).stopAudioFrameTICTimer

def enableEtherTubes (self : Manager) (enable : Bool) : Manager :=
  { self with ethernetFilter := fun nic => (self.ethernetFilter nic).enableEtherTube enable }

def muteBuffer (self : Manager) (bufferLength numberOfChannels : UInt32) : RingMemory → RingMemory :=
  muteCells (muteChannels self.sampleRate) 0 (bufferLength.toNat * numberOfChannels.toNat)

def muteInputBuffer (self : Manager) (alsa : AlsaBuffers) : Manager :=
  { self with streams := { self.streams with
      livesIn :=
        self.muteBuffer alsa.getCaptureBufferSizeInFrames self.numberOfInputs self.streams.livesIn } }

/-- On the rings of ALSA, which are no part of the manager. -/
def muteOutputBuffer (self : Manager) (alsa : AlsaBuffers) (livesOut : RingMemory) : RingMemory :=
  self.muteBuffer alsa.getPlaybackBufferSizeInFrames self.numberOfOutputs livesOut

def start (self : Manager) : Except Fault Manager := do
  let self ← self.startClocks
  .ok { self.enableEtherTubes true with isStarted := true }

def startIo (self : Manager) (alsa : AlsaBuffers) (isPlayback : Bool) : Manager × Bool :=
  if !self.isStarted then (self, false)
  else if isPlayback then ({ self with isPlaybackIO := true, ioRunning := true }, true)
  else ({ self.muteInputBuffer alsa with isRecordingIO := true, ioRunning := true }, true)

def stopIo (self : Manager) (alsa : AlsaBuffers) (isPlayback : Bool) : Manager :=
  if isPlayback then
    if self.isPlaybackIO then
      { self with isPlaybackIO := false, ioRunning := self.isRecordingIO }
    else self
  else if self.isRecordingIO then
    { self.muteInputBuffer alsa with isRecordingIO := false, ioRunning := self.isPlaybackIO }
  else self

def stopRunningIO (self : Manager) (alsa : AlsaBuffers) : Manager :=
  if self.ioRunning then (self.stopIo alsa false).stopIo alsa true else self

def stop (self : Manager) (alsa : AlsaBuffers) : Manager :=
  let self := (self.stopRunningIO alsa).enableEtherTubes false
  { iterUp stopClock maxNics self with isStarted := false }

/-- The manager with another rate, which a started one is to continue with. -/
def withRate (self : Manager) (samplingRate : UInt32) : Manager :=
  { self with sampleRate := samplingRate }.updateFrameSize

/-- The `do … while` that polls the lock of both clocks, with `left` more sleeps to go; `polled n nic`
is the status that the poll after the `n`-th sleep finds. -/
def waitForLock (polled : Nat → Nat → PTPLockStatus) : Nat → Bool
  | 0 => false
  | left + 1 =>
    let nbloop := lockPolls - left
    if nbloop ≥ lockPolls then false
    else if polled nbloop 0 ≠ .locked ∨ polled nbloop 1 ≠ .locked then waitForLock polled left
    else true

/-- A started manager answers when both clocks have locked. -/
def setSamplingRate (self : Manager) (samplingRate : UInt32) (polled : Nat → Nat → PTPLockStatus) :
    Except Fault (Manager × Bool) :=
  if self.sampleRate = samplingRate then .ok (self, true)
  else if self.ioRunning then .ok (self, false)
  else if self.isStarted then
    (·, waitForLock polled lockPolls) <$> (self.withRate samplingRate).startClocks
  else .ok (self.withRate samplingRate, true)

def setDSDSamplingRate (self : Manager) (samplingRate : UInt32) (polled : Nat → Nat → PTPLockStatus) :
    Except Fault (Manager × Bool) := self.setSamplingRate samplingRate polled

def restarting (self : Manager) (alsa : AlsaBuffers) (change : Manager → Manager) : Except Fault Manager :=
  if self.isStarted then (change (self.stop alsa)).start else .ok (change self)

def setTICFrameSizeAt1FS (self : Manager) (alsa : AlsaBuffers) (ticFrameSize : UInt64) :
    Except Fault Manager :=
  self.restarting alsa fun m => { m with ticFrameSizeAt1FS := ticFrameSize }.updateFrameSize

def setMaxTICFrameSize (self : Manager) (alsa : AlsaBuffers) (maxFrameSize : UInt64) :
    Except Fault Manager :=
  self.restarting alsa fun m => { m with maxFrameSize := maxFrameSize.toUInt32 }.updateFrameSize

def setNumberOfInputs (self : Manager) (alsa : AlsaBuffers) (numberOfChannels : UInt32) :
    Except Fault Manager :=
  self.restarting alsa fun m => { m with numberOfInputs := numberOfChannels }

def setNumberOfOutputs (self : Manager) (alsa : AlsaBuffers) (numberOfChannels : UInt32) :
    Except Fault Manager :=
  self.restarting alsa fun m => { m with numberOfOutputs := numberOfChannels }

def setEtherTube (self : Manager) (nic : Nat) (tube : EtherTube) : Manager :=
  { self with ethernetFilter := Function.update self.ethernetFilter nic tube }

def setInterfaceName (self : Manager) (cInterfaceName : List UInt8) (ethFilterIndex : Nat) :
    Except ManagerFault (Manager × Bool) :=
  if ethFilterIndex > maxNics then .ok (self, false)
  else if ethFilterIndex = maxNics then .error .interfaceOverrun
  else
    let tube := (self.ethernetFilter ethFilterIndex).stop
    let copied := cInterfaceName.take (maxInterfaceName - 1)
    let self := { self.setEtherTube ethFilterIndex tube with interfaceName := copied }
    if copied ≠ cInterfaceName then .ok (self, false)
    else do
      let tube ← tube.start copied
      .ok ({ self.setEtherTube ethFilterIndex tube with
        isNICActive := Function.update self.isNICActive ethFilterIndex true }, true)

def noteLockStatus (self : Manager) : Manager :=
  { self with lastLockStatus := fun nic => (self.ptp nic).getLockStatus }

def lockedNIC (self : Manager) : Nat :=
  if self.lastLockStatus 0 = .locked ∧ (self.ptp 0).getPTPPriority ≤ (self.ptp 1).getPTPPriority then 0
  else if self.lastLockStatus 1 = .locked then 1
  else 0

def selectPTPNIC (self : Manager) : Manager :=
  let self := self.noteLockStatus
  { self with activePTPNICIdx := self.lockedNIC }

/-- What one tick reads from outside: the clocks of both NICs, what their wake-up variables hold
before they are written, and the rings of ALSA. -/
structure Tick where
  clockTime : Nat → UInt64
  endTime : Nat → UInt64
  counterTime : Nat → UInt64
  currentRTXClockTime : Nat → UInt64
  alsa : AlsaBuffers
  skb : Bool
  livesOut : RingMemory

def timerProcess (self : Manager) (tick : Tick) (nic : Nat) : Except Fault (Manager × UInt64) := do
  let done ← (self.ptp nic).timerProcess (tick.clockTime nic) (tick.endTime nic)
    (tick.counterTime nic)
  .ok (self.setPTP nic done.1, done.2.getD (tick.currentRTXClockTime nic))

def setNextAbsoluteTime (self : Manager) (nic : Nat) (next : UInt64) : Manager :=
  self.setPTP nic ((self.ptp nic).timerSetNextAbsoluteTime next)

def setStreams (self : Manager) (streams : RTPStreamsManager) : Manager := { self with streams := streams }

def sendsOutgoing (self : Manager) : Bool :=
  self.ioRunning && self.lastLockStatus self.activePTPNICIdx == .locked

def audioFrameTIC (self : Manager) (tick : Tick) : Except Fault Manager := do
  let ops := self.callbacks tick.alsa
  let streams ← self.streams.prepareBufferLivesAll ops
  if self.sendsOutgoing then do
    let sent ← streams.sendOutgoingPackets ops tick.skb tick.livesOut
    .ok (self.setStreams sent.1)
  else .ok (self.setStreams streams)

def tClockTimer (self : Manager) (tick : Tick) : Except Fault (Manager × UInt64) := do
  let selected := self.selectPTPNIC.activePTPNICIdx
  let on0 ← self.selectPTPNIC.timerProcess tick 0
  let on1 ← on0.1.timerProcess tick 1
  let next := if selected = 1 then on1.2 else on0.2
  let self := on1.1.setNextAbsoluteTime (if selected = 1 then 0 else 1) next
  let self ← self.audioFrameTIC tick
  .ok (self, next)

/-- The PTP clock of an active NIC answers first. -/
def processPTP (self : Manager) (nic : Nat) (packet : List UInt8) (macHeader : Bool) (clockTime : UInt64) :
    Except Fault (Manager × DispatchResult) :=
  if isUDPFrame packet macHeader && self.isNICActive nic then do
    let done ← (self.ptp nic).processPTPPacket packet clockTime
    .ok (self.setPTP nic done.1, done.2)
  else .ok (self, .packetNotUsed)

def dispatchPacket (self : Manager) (ops : RTPAudioStreamOps) (packet : List UInt8) (macHeader : Bool)
    (nic : Nat) (clockTime : UInt64) : Except Fault (Manager × DispatchResult) := do
  let answered ← self.processPTP nic packet macHeader clockTime
  let done ← answered.1.streams.dispatchPacket (fun nicId => self.isNICActive nicId.toNat)
    (fun _ _ => answered.2) ops packet macHeader (UInt8.ofNat nic)
  .ok (answered.1.setStreams done.1, done.2)

def etherTubeRxPacket (self : Manager) (alsa : AlsaBuffers) (packet ifname : List UInt8) (macHeader : Bool)
    (clockTime counterTime : UInt64) : Except Fault Manager :=
  forUp (fun nic self =>
      if (self.ethernetFilter nic).rxPacket packet ifname then
        (·.1) <$> self.dispatchPacket (self.callbacks alsa counterTime) packet macHeader nic clockTime
      else .ok self)
    maxNics self

end Manager

end RavennaLkm
