import RavennaLkm.AudioStream

/-!
The sending half of RTP_audio_stream.c: one frame of the audio engine is cut
into packets, each converted from the playback rings with a two-piece copy at
the end of the ring. The leg on NIC 0 sends the packets of both legs of a pair.
-/
namespace RavennaLkm
open CheckedLoop LittleEndian

def getLiveOutJitterBufferOffset (ops : RTPAudioStreamOps) (currentSAC : UInt64) : UInt32 :=
  let offset := ops.playbackBufferOffset
  let sacOffset := (ops.globalSAC - ops.frameSize.toUInt64 - currentSAC).toUInt32
  if currentSAC > ops.globalSAC then 0
  else if sacOffset > 0 then
    if sacOffset ≤ offset then offset - sacOffset
    else offset + (ops.liveOutJitterBufferLength - sacOffset)
  else offset

structure TransmittedPacket where
  nicId : UInt8
  size : UInt32
  bytes : PacketBuffer

namespace TransmittedPacket

def byte (p : TransmittedPacket) (a : Nat) : UInt8 := (p.bytes a).getD 0

def header (p : TransmittedPacket) : RTPPacketBase := .ofBytes p.byte

def frame (p : TransmittedPacket) : List UInt8 := (List.range p.size.toNat).map p.byte

end TransmittedPacket

def packetHeader (s : RTPAudioStream) (packetSize timestamp : UInt32) (seqNum : UInt16) :
    RTPPacketBase :=
  let base := s.rtpPacketBaseOutgoing
  let ip := { base.ipv4Header with
    len := mtalSwap16 (packetSize.toUInt16 - UInt16.ofNat sizeofEthernetHeader), checksum := 0 }
  { base with
    ipv4Header := { ip with checksum := mtalSwap16 (mtalComputeChecksum ip.bytes) }
    udpHeader := { base.udpHeader with
      len := mtalSwap16 (packetSize.toUInt16 - UInt16.ofNat sizeofEthernetHeader -
        UInt16.ofNat sizeofIPV4Header)
      checkSum := 0 }
    rtpHeader := { base.rtpHeader with
      timestamp := mtalSwap32 timestamp, seqNum := mtalSwap16 seqNum } }

def convertFromLivesOut (s : RTPAudioStream) (livesOut : RingMemory) (offset nbSamples : UInt32)
    (c : OutCursor) : Except Fault OutCursor :=
  match s.mtConvertMappedToInterleave with
  | none => .error .nullPointer
  | some f =>
    f.call ethernetStandardFrameSize livesOut s.livesOutCircularBuffer offset
      s.rtpStreamInfo.nbOfChannels.toUInt32 nbSamples c

def convertPieces (s : RTPAudioStream) (ops : RTPAudioStreamOps) (livesOut : RingMemory)
    (offset nbSamples : UInt32) (packet : PacketBuffer) : Except Fault PacketBuffer := do
  let len1 := min (ops.liveOutJitterBufferLength - offset) nbSamples
  let len2 := nbSamples - len1
  let packet ←
    if len1 > 0 then
      (·.packet) <$> convertFromLivesOut s livesOut offset len1 ⟨sizeofRTPPacketBase, packet⟩
    else .ok packet
  if len2 > 0 then
    (·.packet) <$> convertFromLivesOut s livesOut 0 len2
      ⟨sizeofRTPPacketBase +
        (len1 * s.rtpStreamInfo.wordLength.toUInt32 * getNbOfLivesOut s).toNat, packet⟩
  else .ok packet

def recordSent (s : RTPAudioStream) (currentSAC : UInt64) (nbOfSamples : UInt32) : RTPAudioStream :=
  let info := s.rtpStreamInfo
  { s with
    senderRTPTimestamp :=
      (currentSAC + info.rtpTimestampOffset.toUInt64 + nbOfSamples.toUInt64).toUInt32
    senderOctetCount :=
      s.senderOctetCount + nbOfSamples * (getNbOfLivesOut s * info.wordLength.toUInt32)
    senderPacketCount := s.senderPacketCount + 1
    lastRTPSAC := currentSAC.toUInt32
    lastRTPLengthInSamples := nbOfSamples }

/-- `skb` tells whether a socket buffer can be acquired; `none` is a packet that was not sent. -/
def sendRTPAudioPacket (self : RTPAudioStream) (ops : RTPAudioStreamOps) (skb : Bool)
    (livesOut : RingMemory) (currentSAC : UInt64) (offset nbOfSamplesInThisPacket : UInt32)
    (outgoingSeqNum : UInt16) : Except Fault (RTPAudioStream × Option TransmittedPacket) :=
  let info := self.rtpStreamInfo
  let sampleBytes := getNbOfLivesOut self * info.wordLength.toUInt32
  let minPacketSize := UInt32.ofNat sizeofRTPPacketBase + sampleBytes * nbOfSamplesInThisPacket
  if !skb || UInt32.ofNat ethernetStandardFrameSize < minPacketSize then .ok (self, none)
  else do
    let packet := writeBytes (fun _ => none) 0 self.rtpPacketBaseOutgoing.bytes
    let packetSize := UInt32.ofNat sizeofRTPPacketBase + nbOfSamplesInThisPacket * sampleBytes
    let packet ← convertPieces self ops livesOut offset nbOfSamplesInThisPacket packet
    let timestamp := (currentSAC + info.rtpTimestampOffset.toUInt64).toUInt32
    let header := packetHeader self packetSize timestamp outgoingSeqNum
    .ok (recordSent self currentSAC nbOfSamplesInThisPacket,
      some ⟨self.ethNetfilter.nicId, packetSize, writeBytes packet 0 header.bytes⟩)

structure SendState where
  stream : RTPAudioStream
  partner : Option RTPAudioStream
  remaining : UInt32
  currentSAC : UInt64
  offset : UInt32
  sent : List (Option TransmittedPacket) := []
  partnerSent : List (Option TransmittedPacket) := []

def sendPartnerPacket (st : SendState) (ops : RTPAudioStreamOps) (skb : Bool)
    (livesOut : RingMemory) (nbOfSamples : UInt32) (seqNum : UInt16) : Except Fault SendState :=
  match st.partner with
  | none => .ok st
  | some partner => do
    let (partner, packet) ←
      sendRTPAudioPacket partner ops skb livesOut st.currentSAC st.offset nbOfSamples seqNum
    .ok { st with partner := some partner, partnerSent := st.partnerSent ++ [packet] }

def sendRound (ops : RTPAudioStreamOps) (skb : Bool) (livesOut : RingMemory) (st : SendState) :
    Except Fault SendState := do
  let n := min st.stream.rtpStreamInfo.maxSamplesPerPacket st.remaining
  let seqNum := st.stream.outgoingSeqNum
  let (stream, packet) ←
    sendRTPAudioPacket st.stream ops skb livesOut st.currentSAC st.offset n seqNum
  let st ← sendPartnerPacket { st with stream := stream, sent := st.sent ++ [packet] }
    ops skb livesOut n seqNum
  let offset := st.offset + n
  .ok { st with
    remaining := st.remaining - n
    currentSAC := st.currentSAC + n.toUInt64
    stream := { st.stream with outgoingSeqNum := st.stream.outgoingSeqNum + 1 }
    offset :=
      if offset ≥ ops.liveOutJitterBufferLength then offset - ops.liveOutJitterBufferLength
      else offset }

/-- `while (ui32NbOfSampleRemaining > 0)`; a round sends at least one sample unless the
packet size is zero, when the loop never ends. -/
def sendLoop (ops : RTPAudioStreamOps) (skb : Bool) (livesOut : RingMemory) :
    Nat → SendState → Except Fault SendState
  | 0, st => if st.remaining = 0 then .ok st else .error .endlessLoop
  | fuel + 1, st =>
    if st.remaining = 0 then .ok st
    else sendRound ops skb livesOut st >>= sendLoop ops skb livesOut fuel

def sendStart (self : RTPAudioStream) (partner : Option RTPAudioStream) (ops : RTPAudioStreamOps) :
    SendState where
  stream := self
  partner := partner
  remaining := ops.frameSize
  currentSAC := ops.globalSAC - ops.frameSize.toUInt64
  offset := getLiveOutJitterBufferOffset ops (ops.globalSAC - ops.frameSize.toUInt64)

def sendRTPAudioPackets (self : RTPAudioStream) (partner : Option RTPAudioStream)
    (ops : RTPAudioStreamOps) (skb : Bool) (livesOut : RingMemory) : Except Fault SendState :=
  if self.ethNetfilter.nicId = 1 ∧ partner.isSome then
    .ok { sendStart self partner ops with remaining := 0 }
  else sendLoop ops skb livesOut ops.frameSize.toNat (sendStart self partner ops)

end RavennaLkm
