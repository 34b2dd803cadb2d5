import RavennaLkm.AudioStream

/-!
The receiving half of RTP_audio_stream.c: one packet into the capture rings of a
sink, and the muting of a sink that receives nothing. Reading behind the bytes
of the frame and writing behind the last cell of a ring are faults of the model;
the code does not look.
-/
namespace RavennaLkm
open CheckedLoop LittleEndian

/-- A received frame that is long enough for its headers. -/
structure RTPFrame where
  bytes : List UInt8
  headers : sizeofRTPPacketBase ≤ bytes.length

namespace RTPFrame

def byte (frame : RTPFrame) (k : Nat) : UInt8 := frame.bytes.getD k 0

def packetBase (frame : RTPFrame) : RTPPacketBase := .ofBytes frame.byte

def read (frame : RTPFrame) : PacketReader := fun k =>
  if k < frame.bytes.length then .ok (frame.byte k) else .error .readPast

end RTPFrame

def checkRTPHeader (self : RTPAudioStream) (h : RTPHeader) : RTPAudioStream × Bool :=
  let s := { self with rtpPacketCounter := self.rtpPacketCounter + 1 }
  let info := s.rtpStreamInfo
  if rtpIsPadding h.version then (s, false)
  else if rtpGetVersion h.version ≠ 2 then (s, false)
  else if h.payloadType ≠ info.payloadType then
    ({ s with wrongRTPPayloadTypeCounter := s.wrongRTPPayloadTypeCounter + 1 }, false)
  else if !info.ssrcInitialized then
    ({ s with rtpStreamInfo := setSSRC info (mtalSwap32 h.ssrc) }, true)
  else if info.ssrc ≠ mtalSwap32 h.ssrc then
    ({ s with
        wrongRTPSSRCCounter := s.wrongRTPSSRCCounter + 1
        wrongSSRCMessageCounter :=
          if s.wrongSSRCMessageCounter = 0 then 1 else s.wrongSSRCMessageCounter }, false)
  else (s, true)

def checkSeqNum (s : RTPAudioStream) (seqNum : UInt16) : RTPAudioStream :=
  { s with
    wrongRTPSeqIdCounter :=
      if s.incomingSeqNum + 1 ≠ seqNum then s.wrongRTPSeqIdCounter + 1 else s.wrongRTPSeqIdCounter
    incomingSeqNum := seqNum }

def csrcExtensionLength (frame : RTPFrame) : Except Fault UInt32 :=
  let version := frame.packetBase.rtpHeader.version
  let csrc := (rtpGetCC version).toUInt32 * 4
  if rtpIsExtension version then do
    let low ← frame.read (sizeofRTPPacketBase + 2)
    let high ← frame.read (sizeofRTPPacketBase + 3)
    let length := mtalSwap16 (load16 (fun k => if k = 0 then low else high) 0)
    .ok (csrc + (4 + length.toUInt32 * 4))
  else .ok csrc

def payloadLength (frame : RTPFrame) (csrcExtension : UInt32) : UInt32 :=
  (mtalSwap16 frame.packetBase.udpHeader.len).toUInt32 - UInt32.ofNat sizeofUDPHeader -
    UInt32.ofNat sizeofRTPHeader - csrcExtension

def nbOfSamplesInPacket (s : RTPAudioStream) (length : UInt32) : Except Fault UInt32 :=
  let sampleBytes := getNbOfLivesIn s * s.rtpStreamInfo.wordLength.toUInt32
  if sampleBytes = 0 then .error .divideByZero else .ok (length / sampleBytes)

def checkTimestamp (s : RTPAudioStream) (timestamp nbOfSamples : UInt32) : RTPAudioStream :=
  { s with
    wrongRTPSACCounter :=
      if timestamp ≠ s.lastRTPSAC + s.lastRTPLengthInSamples then s.wrongRTPSACCounter + 1
      else s.wrongRTPSACCounter
    lastRTPSAC := timestamp
    lastRTPLengthInSamples := nbOfSamples }

/-- The 64-bit position that a 32-bit timestamp stands for, near the global one. -/
def expandSAC (rtpSAC : UInt32) (globalSAC : UInt64) : UInt64 :=
  let sac := (globalSAC &&& 0xFFFFFFFF00000000) ||| rtpSAC.toUInt64
  if rtpSAC < 0x3FFFFFFF ∧ globalSAC.toUInt32 ≥ 0xC0000000 then sac + 0x100000000
  else if rtpSAC ≥ 0xC0000000 ∧ globalSAC.toUInt32 < 0x3FFFFFFF then sac - 0x100000000
  else sac

def getLiveInJitterBufferOffset (ops : RTPAudioStreamOps) (currentSAC : UInt64) :
    Except Fault UInt32 := do
  let offset ← cwLlModulo currentSAC ops.liveInJitterBufferLength.toUInt64
  .ok offset.toUInt32

def writeLivesIn (s : RTPAudioStream) (ops : RTPAudioStreamOps) (input : PacketReader)
    (offset nbSamples : UInt32) (mem : RingMemory) : Except Fault RingMemory :=
  if nbSamples > 0 then
    if outPos offset + nbSamples.toNat ≤ ops.liveInJitterBufferLength.toNat then
      convertToLivesIn s input s.livesInCircularBuffer offset nbSamples mem
    else .error .writePast
  else .ok mem

def copyToLivesIn (s : RTPAudioStream) (ops : RTPAudioStreamOps) (frame : RTPFrame) (payload : Nat)
    (rtpSAC : UInt64) (nbOfSamples : UInt32) (mem : RingMemory) : Except Fault RingMemory := do
  let offset ← getLiveInJitterBufferOffset ops rtpSAC
  let len1 := min (ops.liveInJitterBufferLength - offset) nbOfSamples
  let len2 := nbOfSamples - len1
  let mem ← writeLivesIn s ops (fun k => frame.read (payload + k)) offset len1 mem
  let skip := (len1 * s.rtpStreamInfo.wordLength.toUInt32 * getNbOfLivesIn s).toNat
  writeLivesIn s ops (fun k => frame.read (payload + skip + k)) 0 len2 mem

def updateSinkAheadTime (s : RTPAudioStream) (ops : RTPAudioStreamOps) (rtpSAC : UInt64) :
    Except Fault RTPAudioStream := do
  let inFrame ← cwLlModulo rtpSAC ops.frameSize.toUInt64
  let deltaSAC := (rtpSAC - inFrame - ops.globalSAC).toInt64
  let deltaSAC := if deltaSAC < 0 then deltaSAC + 0x7FFFFFFFFFFFFFFF else deltaSAC
  if s.rtpStreamInfo.samplingRate = 0 then .error .divideByZero
  else
    let now := ops.counterTime * 1000000 / 1000000000
    let usedTime := ops.globalPerformanceCounter * 1000000 / 1000000000 +
      (deltaSAC * 10000000 / s.rtpStreamInfo.samplingRate.toUInt64.toInt64).toUInt64
    let ahead := (usedTime - now).toUInt32
    .ok (
      if s.sinkAheadTimeResetCounter ≠ s.lastSinkAheadTimeResetCounter then
        { s with
          lastSinkAheadTimeResetCounter := s.sinkAheadTimeResetCounter, minSinkAheadTime := ahead }
      else if ahead < s.minSinkAheadTime then { s with minSinkAheadTime := ahead }
      else s)

def alreadyCopied (partner : Option RTPStream) (lastSAC : UInt64) : Bool :=
  match partner with
  | none => false
  | some p => p.lastAudioSampleReceivedSAC ≥ lastSAC

def copyAudio (s : RTPAudioStream) (partner : Option RTPStream) (ops : RTPAudioStreamOps)
    (frame : RTPFrame) (payload : Nat) (rtpSAC : UInt64) (nbOfSamples : UInt32) (mem : RingMemory) :
    Except Fault RingMemory :=
  if alreadyCopied partner (rtpSAC + nbOfSamples.toUInt64) then .ok mem
  else copyToLivesIn s ops frame payload rtpSAC nbOfSamples mem

def receiveAudio (s : RTPAudioStream) (partner : Option RTPStream) (ops : RTPAudioStreamOps)
    (frame : RTPFrame) (payload : Nat) (nbOfSamples : UInt32) (mem : RingMemory) :
    Except Fault (RTPAudioStream × RingMemory) := do
  let timestamp := mtalSwap32 frame.packetBase.rtpHeader.timestamp - s.rtpStreamInfo.rtpTimestampOffset
  let s := checkTimestamp s timestamp nbOfSamples
  let rtpSAC := expandSAC timestamp ops.globalSAC + s.rtpStreamInfo.playOutDelay.toUInt64
  let lastSAC := rtpSAC + nbOfSamples.toUInt64
  let mem ← copyAudio s partner ops frame payload rtpSAC nbOfSamples mem
  let s ← updateSinkAheadTime s ops rtpSAC
  .ok ({ s with lastAudioSampleReceivedSAC := lastSAC }, mem)

def processRTPAudioPacket (self : RTPAudioStream) (partner : Option RTPStream)
    (ops : RTPAudioStreamOps) (frame : RTPFrame) (mem : RingMemory) :
    Except Fault (RTPAudioStream × RingMemory × Bool) :=
  let h := frame.packetBase.rtpHeader
  let checked := checkRTPHeader self h
  if checked.2 then do
    let s := checkSeqNum checked.1 (mtalSwap16 h.seqNum)
    let skip ← csrcExtensionLength frame
    let nbOfSamples ← nbOfSamplesInPacket s (payloadLength frame skip)
    if nbOfSamples = 0 then .ok (s, mem, false)
    else do
      let received ← receiveAudio s partner ops frame (sizeofRTPPacketBase + skip.toNat) nbOfSamples mem
      .ok (received.1, received.2, true)
  else .ok (checked.1, mem, false)

def isLivesInMustBeMuted (s : RTPStream) (ops : RTPAudioStreamOps) : Bool :=
  (s.lastAudioSampleReceivedSAC - ops.globalSAC).toUInt32.toInt32 < ops.frameSize.toInt32

def muteFrame (s : RTPAudioStream) (ops : RTPAudioStreamOps) (mem : RingMemory) :
    Except Fault (RTPAudioStream × RingMemory) :=
  if s.ethNetfilter.nicId = 0 then do
    let offset ← getLiveInJitterBufferOffset ops ops.globalSAC
    if ops.frameSize = 0 then .error .divideByZero
    else if s.livesInDMCounter < ops.liveInJitterBufferLength / ops.frameSize then
      .ok ({ s with livesInDMCounter := s.livesInDMCounter + 1 },
        muteLivesIn s ops offset ops.frameSize mem)
    else .ok (s, mem)
  else .ok (s, mem)

/-- `livesInMuted` is the outer variable of `PrepareBufferLives`, which stays false: the test
of the sink itself is assigned to an inner one of the same name. -/
def updateStreamStatus (s : RTPAudioStream) (livesInMuted globalMuted : Bool) : RTPAudioStream :=
  let wrongRTPSeqId := s.wrongRTPSeqIdCounter ≠ s.wrongRTPSeqIdLastCounter
  let receiving := s.rtpPacketCounter ≠ s.rtpPacketLastCounter
  let wrongRTPSSRC := s.wrongRTPSSRCCounter ≠ s.wrongRTPSSRCLastCounter
  let wrongRTPPayloadType := s.wrongRTPPayloadTypeCounter ≠ s.wrongRTPPayloadTypeLastCounter
  let wrongRTPSAC := s.wrongRTPSACCounter ≠ s.wrongRTPSACLastCounter
  let reset := s.streamStatusResetCounter ≠ s.streamStatusLastResetCounter
  let old : RTPStreamStatus := if reset then {} else s.streamStatus
  { s with
    wrongRTPSeqIdLastCounter := s.wrongRTPSeqIdCounter
    rtpPacketLastCounter := s.rtpPacketCounter
    wrongRTPSSRCLastCounter := s.wrongRTPSSRCCounter
    wrongRTPPayloadTypeLastCounter := s.wrongRTPPayloadTypeCounter
    wrongRTPSACLastCounter := s.wrongRTPSACCounter
    streamStatusLastResetCounter := s.streamStatusResetCounter
    streamStatus := { old with
      sinkReceivingRTPPacket := old.sinkReceivingRTPPacket || receiving
      sinkMuted := old.sinkMuted || livesInMuted
      sinkAllMuted := old.sinkAllMuted || globalMuted
      sinkRTPSeqIdError := old.sinkRTPSeqIdError || wrongRTPSeqId
      sinkRTPSSRCError := old.sinkRTPSSRCError || wrongRTPSSRC
      sinkRTPPayloadTypeError := old.sinkRTPPayloadTypeError || wrongRTPPayloadType
      sinkRTPSACError := old.sinkRTPSACError || wrongRTPSAC } }

def prepareBufferLives (self : RTPAudioStream) (partner : Option RTPStream)
    (ops : RTPAudioStreamOps) (mem : RingMemory) : Except Fault (RTPAudioStream × RingMemory) :=
  if self.rtpStreamInfo.source then .ok (self, mem)
  else
    let globalMuted := isLivesInMustBeMuted self.toRTPStream ops &&
      partner.all (isLivesInMustBeMuted · ops)
    if globalMuted then do
      let muted ← muteFrame self ops mem
      .ok (updateStreamStatus muted.1 false globalMuted, muted.2)
    else
      .ok (updateStreamStatus { self with livesInDMCounter := 0 } false globalMuted, mem)

end RavennaLkm
