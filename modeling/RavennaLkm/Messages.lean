import RavennaLkm.Manager

/-!
MT_ALSA_message_defs.h and OnNewMessage of manager.c: the messages of the daemon
and the replies. The payload of a message is what its data pointer leads to, as
far as it is part of the message; reading further is a fault of the model, and
the code does not look.
-/
namespace RavennaLkm
open CheckedLoop LittleEndian

inductive MTALSAMsgId where
  | start | stop | reset | startIo | stopIo
  | setSampleRate | getSampleRate | getAudioMode | setDSDAudioMode
  | setTICFrameSizeAt1FS | setMaxTICFrameSize
  | setNumberOfInputs | setNumberOfOutputs | getNumberOfInputs | getNumberOfOutputs
  | setInterfaceName
  | addRTPStream | removeRTPStream | updateRTPStreamName
  | getPTPInfo | hello | bye | ping
  | setMasterOutputVolume | setMasterOutputSwitch | getMasterOutputVolume | getMasterOutputSwitch
  | setPlayoutDelay | setCaptureDelay
  | getRTPStreamStatus | setPTPConfig | getPTPConfig | getPTPStatus
  deriving DecidableEq, Repr

namespace MTALSAMsgId

def all : List MTALSAMsgId :=
  [.start, .stop, .reset, .startIo, .stopIo, .setSampleRate, .getSampleRate, .getAudioMode, .setDSDAudioMode,
    .setTICFrameSizeAt1FS, .setMaxTICFrameSize, .setNumberOfInputs, .setNumberOfOutputs, .getNumberOfInputs,
    .getNumberOfOutputs, .setInterfaceName, .addRTPStream, .removeRTPStream, .updateRTPStreamName, .getPTPInfo,
    .hello, .bye, .ping, .setMasterOutputVolume, .setMasterOutputSwitch, .getMasterOutputVolume,
    .getMasterOutputSwitch, .setPlayoutDelay, .setCaptureDelay, .getRTPStreamStatus, .setPTPConfig,
    .getPTPConfig, .getPTPStatus]

def ofValue (value : UInt32) : Option MTALSAMsgId := all[value.toNat]?

end MTALSAMsgId

/-- What `OnNewMessage` reads of a message. -/
structure MTALSAMsg where
  id : UInt32
  dataSize : Int32 := 0
  payload : List UInt8 := []
  deriving DecidableEq, Repr

inductive ReplyData where
  | none
  | word (value : UInt32)
  | handle (h : StreamHandle)
  | streamStatus (status : Option RTPStreamStatus)
  | ptpConfig (config : PTPConfig)
  | ptpStatus (lockStatus : PTPLockStatus) (gmid : UInt64) (clockJitter : Int32)
  deriving DecidableEq, Repr

structure MTALSAReply where
  id : UInt32
  errCode : Int32
  data : ReplyData := .none
  deriving DecidableEq, Repr

namespace MTALSAMsg

def reply (msg : MTALSAMsg) (errCode : Int32) (data : ReplyData := .none) : MTALSAReply :=
  ⟨msg.id, errCode, data⟩

def answer (msg : MTALSAMsg) (done : Bool) : MTALSAReply := msg.reply (if done then 0 else -401)

def byte (msg : MTALSAMsg) (k : Nat) : UInt8 := msg.payload.getD k 0

def load (msg : MTALSAMsg) (n : Nat) : Except ManagerFault (Nat → UInt8) :=
  if n ≤ msg.payload.length then .ok msg.byte else .error .outsideMessage

def cString (msg : MTALSAMsg) : Except ManagerFault (List UInt8) :=
  if 0 ∈ msg.payload then .ok (msg.payload.takeWhile (· ≠ 0)) else .error .outsideMessage

end MTALSAMsg

def maxStreamNameSize : Nat := 64
def maxCodecNameSize : Nat := 10

def codecNames : List (List UInt8 × Codec) :=
  [([76, 49, 54], .l16), ([76, 50, 52], .l24), ([76, 51, 50], .l32), ([76, 50, 52, 51, 50], .l2432),
    ([65, 77, 56, 50, 52], .am824), ([68, 83, 68, 54, 52], .dsd64), ([68, 83, 68, 49, 50, 56], .dsd128),
    ([68, 83, 68, 54, 52, 95, 51, 50], .dsd64_32), ([68, 83, 68, 49, 50, 56, 95, 51, 50], .dsd128_32),
    ([68, 83, 68, 50, 53, 54], .dsd256)]

def Codec.ofName (name : List UInt8) : Codec := ((codecNames.find? (·.1 == name)).map (·.2)).getD .other

def RTPStreamInfo.ofBytes (b : Nat → UInt8) : RTPStreamInfo where
  sizeofStreamInfo := load32 b 0
  ifPortId := load32 b 7
  cName := (List.range maxStreamNameSize).map fun k => b (11 + k)
  playOutDelay := load32 b 75
  frameSize := load32 b 79
  maxSamplesPerPacket := load32 b 83
  destMAC := .ofBytes b 87
  dscp := b 93
  rtcpSrcIP := load32 b 94
  srcIP := load32 b 98
  destIP := load32 b 102
  srcPort := load16 b 107
  destPort := load16 b 109
  payloadType := b 115
  ssrc := load32 b 116
  ssrcInitialized := b 120 != 0
  rtpTimestampOffset := load32 b 121
  samplingRate := load32 b 125
  codec := .ofName (((List.range maxCodecNameSize).map fun k => b (129 + k)).takeWhile (· ≠ 0))
  wordLength := b 139
  nbOfChannels := b 140
  source := b 141 != 0
  id := load32 b 142
  routing ch := if ch < maxChannelsByRTPStream then load32 b (147 + 4 * ch) else 0

/-- How much of a description `add_RTP_stream_` reads: the version, the name, the other checked
fields up to `m_bSource`, and all of it to create the stream. -/
def RTPStreamsManager.addReads (self : RTPStreamsManager) (info : RTPStreamInfo) : Nat :=
  if !checkStructVersion info then 4
  else if info.cName.headD 0 = 0 then 12
  else if !addable info then 142
  else match self.usableHandler info with
    | none => 142
    | some h => if (self.stream h).livesInitialized then 142 else sizeofRTPStreamInfo.toNat

namespace Manager

variable (self : Manager) (msg : MTALSAMsg)

def sized (size : Nat) (handle : (Nat → UInt8) → Except ManagerFault (Manager × MTALSAReply)) :
    Except ManagerFault (Manager × MTALSAReply) :=
  if msg.dataSize.toInt ≠ size then .ok (self, msg.reply (-315)) else msg.load size >>= handle

def onGetRTPStreamStatus : Except ManagerFault (Manager × MTALSAReply) :=
  self.sized msg 8 fun b =>
    let read := self.streams.getRTPStreamStatus (self.streamAt (load64 b 0))
    -- the -401 of a handle that is not found is overwritten
    .ok (self.setStreams read.1, msg.reply 0 (.streamStatus read.2))

def onReset (alsa : AlsaBuffers) : Manager × MTALSAReply :=
  (self.setStreams (self.streams.removeAllRTPStreams (self.callbacks alsa)), msg.reply 0)

def onSetSampleRate (polled : Nat → Nat → PTPLockStatus) : Except ManagerFault (Manager × MTALSAReply) :=
  self.sized msg 4 fun b => do
    -- the -805 of a zero rate is overwritten, and the result of the setter is not looked at
    let done ← lift (self.setSamplingRate (load32 b 0) polled)
    .ok (done.1, msg.reply 0)

def dsdSamplingRate (audioMode : UInt32) : Option UInt32 :=
  if audioMode = AudioMode.dsd64.value then some 2822400
  else if audioMode = AudioMode.dsd128.value then some 5644800
  else if audioMode = AudioMode.dsd256.value then some 11289600
  else none

def onSetDSDAudioMode (polled : Nat → Nat → PTPLockStatus) : Except ManagerFault (Manager × MTALSAReply) :=
  self.sized msg 4 fun b =>
    match dsdSamplingRate (load32 b 0) with
    | none => .ok (self, msg.reply (-805))
    | some rate => do
      let done ← lift (self.setDSDSamplingRate rate polled)
      .ok (done.1, msg.reply 0)

def onSet (size : Nat) (set : (Nat → UInt8) → Except Fault Manager) :
    Except ManagerFault (Manager × MTALSAReply) :=
  self.sized msg size fun b => do
    let done ← lift (set b)
    .ok (done, msg.answer true)

def onSetTICFrameSizeAt1FS (alsa : AlsaBuffers) : Except ManagerFault (Manager × MTALSAReply) :=
  self.onSet msg 8 fun b => self.setTICFrameSizeAt1FS alsa (load64 b 0)

def onSetMaxTICFrameSize (alsa : AlsaBuffers) : Except ManagerFault (Manager × MTALSAReply) :=
  self.onSet msg 8 fun b => self.setMaxTICFrameSize alsa (load64 b 0)

def onSetNumberOfInputs (alsa : AlsaBuffers) : Except ManagerFault (Manager × MTALSAReply) :=
  self.onSet msg 4 fun b => self.setNumberOfInputs alsa (load32 b 0)

def onSetNumberOfOutputs (alsa : AlsaBuffers) : Except ManagerFault (Manager × MTALSAReply) :=
  self.onSet msg 4 fun b => self.setNumberOfOutputs alsa (load32 b 0)

def interfaceNames (ifnames : List UInt8) : List (List UInt8) :=
  let names := ifnames.splitOn 44
  if names.getLast? = some [] then names.dropLast else names

def setInterfaceNames (msg : MTALSAMsg) :
    List (List UInt8) → Nat → Manager × MTALSAReply → Except ManagerFault (Manager × MTALSAReply)
  | [], _, done => .ok done
  | name :: rest, ifindex, done => do
    let named ← done.1.setInterfaceName name ifindex
    setInterfaceNames msg rest (ifindex + 1) (named.1, msg.answer named.2)

def onSetInterfaceName : Except ManagerFault (Manager × MTALSAReply) :=
  if msg.dataSize > 32 then .ok (self, msg.reply (-315))
  else do
    let ifnames ← msg.cString
    setInterfaceNames msg (interfaceNames ifnames) 0
      ({ self with isNICActive := fun _ => false }, msg.reply (-404))

def onAddRTPStream (alsa : AlsaBuffers) : Except ManagerFault (Manager × MTALSAReply) :=
  if msg.dataSize.toInt ≠ sizeofRTPStreamInfo.toNat then .ok (self, msg.reply (-315))
  else do
    let b ← msg.load (self.streams.addReads (.ofBytes msg.byte))
    let added := self.streams.addRTPStream (.ofBytes b) (self.callbacks alsa)
    .ok (self.setStreams added.1,
      match added.2 with
      | none => msg.reply (-401)
      | some h => msg.reply 0 (.handle h))

def onRemoveRTPStream (alsa : AlsaBuffers) : Except ManagerFault (Manager × MTALSAReply) :=
  self.sized msg 8 fun b =>
    let removed := self.streams.removeRTPStream (self.callbacks alsa) (self.streamAt (load64 b 0))
    .ok (self.setStreams removed.1, msg.answer removed.2)

def onSetPTPConfig : Except ManagerFault (Manager × MTALSAReply) :=
  self.sized msg 2 fun b =>
    .ok ({ self with ptp := fun nic => (self.ptp nic).setPTPConfig ⟨b 0, b 1⟩ }, msg.reply 0)

def onGetPTPStatus : Manager × MTALSAReply :=
  let clock := self.ptpSelected
  (self.setPTP self.activePTPNICIdx { clock with maxClkJitter := 0 },
    msg.reply 0 (.ptpStatus clock.getLockStatus clock.ptpMasterGMID clock.maxClkJitter))

def onSetMasterOutputVolume : Except ManagerFault (Manager × MTALSAReply) :=
  self.sized msg 4 fun b =>
    .ok ({ self with alsaChip := { self.alsaChip with currentPlaybackVolume := (load32 b 0).toInt32 } },
      msg.reply 0)

def onSetMasterOutputSwitch : Except ManagerFault (Manager × MTALSAReply) :=
  self.sized msg 4 fun b =>
    .ok ({ self with alsaChip := { self.alsaChip with currentPlaybackSwitch := (load32 b 0).toInt32 } },
      msg.reply 0)

def onSetPlayoutDelay : Except ManagerFault (Manager × MTALSAReply) :=
  self.sized msg 4 fun b => .ok ({ self with playoutDelay := (load32 b 0).toInt32 }, msg.reply 0)

def onSetCaptureDelay : Except ManagerFault (Manager × MTALSAReply) :=
  self.sized msg 4 fun b => .ok ({ self with captureDelay := (load32 b 0).toInt32 }, msg.reply 0)

def onNewMessage (alsa : AlsaBuffers) (polled : Nat → Nat → PTPLockStatus) :
    Except ManagerFault (Manager × MTALSAReply) :=
  match MTALSAMsgId.ofValue msg.id with
  | some .getRTPStreamStatus => self.onGetRTPStreamStatus msg
  | some .reset => .ok (self.onReset msg alsa)
  | some .start => do
    let done ← lift self.start
    .ok (done, msg.answer true)
  | some .stop => .ok (self.stop alsa, msg.answer true)
  | some .startIo | some .stopIo => .ok (self, msg.reply (-401))
  | some .setSampleRate => self.onSetSampleRate msg polled
  | some .getSampleRate => .ok (self, msg.reply 0 (.word (ravennaRate self.sampleRate)))
  | some .getAudioMode => .ok (self, msg.reply 0 (.word (getAudioModeFromRate self.sampleRate).value))
  | some .setDSDAudioMode => self.onSetDSDAudioMode msg polled
  | some .setTICFrameSizeAt1FS => self.onSetTICFrameSizeAt1FS msg alsa
  | some .setMaxTICFrameSize => self.onSetMaxTICFrameSize msg alsa
  | some .setNumberOfInputs => self.onSetNumberOfInputs msg alsa
  | some .setNumberOfOutputs => self.onSetNumberOfOutputs msg alsa
  | some .getNumberOfInputs => .ok (self, msg.reply 0 (.word self.numberOfInputs))
  | some .getNumberOfOutputs => .ok (self, msg.reply 0 (.word self.numberOfOutputs))
  | some .setInterfaceName => self.onSetInterfaceName msg
  | some .addRTPStream => self.onAddRTPStream msg alsa
  | some .removeRTPStream => self.onRemoveRTPStream msg alsa
  | some .updateRTPStreamName => .ok (self, msg.reply (-404))
  | some .setPTPConfig => self.onSetPTPConfig msg
  | some .getPTPConfig => .ok (self, msg.reply 0 (.ptpConfig self.ptpSelected.ptpConfig))
  | some .getPTPStatus => .ok (self.onGetPTPStatus msg)
  | some .setMasterOutputVolume => self.onSetMasterOutputVolume msg
  | some .setMasterOutputSwitch => self.onSetMasterOutputSwitch msg
  | some .setPlayoutDelay => self.onSetPlayoutDelay msg
  | some .setCaptureDelay => self.onSetCaptureDelay msg
  | some .getPTPInfo | some .hello | some .bye | some .ping | some .getMasterOutputVolume
  | some .getMasterOutputSwitch | none => .ok (self, msg.reply (-314))

end Manager

inductive ManagerOp where
  | message (msg : MTALSAMsg) (alsa : AlsaBuffers) (polled : Nat → Nat → PTPLockStatus)
  | packet (alsa : AlsaBuffers) (bytes ifname : List UInt8) (macHeader : Bool) (clockTime counterTime : UInt64)
  | tick (now : Manager.Tick)
  | startIo (alsa : AlsaBuffers) (isPlayback : Bool)
  | stopIo (alsa : AlsaBuffers) (isPlayback : Bool)

/-- The timer runs from start to stop. -/
def ManagerOp.step (m : Manager) : ManagerOp → Except ManagerFault Manager
  | .message msg alsa polled => (·.1) <$> m.onNewMessage msg alsa polled
  | .packet alsa bytes ifname macHeader clockTime counterTime =>
    lift (m.etherTubeRxPacket alsa bytes ifname macHeader clockTime counterTime)
  | .tick now => if m.isStarted then (·.1) <$> lift (m.tClockTimer now) else .ok m
  | .startIo alsa isPlayback => .ok (m.startIo alsa isPlayback).1
  | .stopIo alsa isPlayback => .ok (m.stopIo alsa isPlayback)

end RavennaLkm
