import RavennaLkm.EthUtils

/-!
RTP_stream_info.c: the description of one stream as user land sends it, the
checks made on it before a stream is created, and the key by which a received
packet finds its sinks. Fields keep the source's integer widths; a default
structure is the one left by memset 0.
-/
namespace RavennaLkm

def maxChannelsByRTPStream : Nat := 64
def maxSourceStreams : Nat := 64
def maxSinkStreams : Nat := 64
def maxNics : Nat := 2

def sizeofRTPStreamInfo : UInt32 := 403

/-- The routing entry of a channel that is not used. -/
def unusedChannel : UInt32 := 0xFFFFFFFF

inductive Codec where
  | l16 | l24 | l32 | l2432 | am824
  | dsd64 | dsd128 | dsd64_32 | dsd128_32 | dsd256
  | other
  deriving DecidableEq, Repr

structure RTPStreamInfo where
  sizeofStreamInfo : UInt32 := 0
  ifPortId : UInt32 := 0
  cName : List UInt8 := []
  playOutDelay : UInt32 := 0
  frameSize : UInt32 := 0
  maxSamplesPerPacket : UInt32 := 0
  destMAC : MACAddress := {}
  dscp : UInt8 := 0
  rtcpSrcIP : UInt32 := 0
  srcIP : UInt32 := 0
  destIP : UInt32 := 0
  srcPort : UInt16 := 0
  destPort : UInt16 := 0
  payloadType : UInt8 := 0
  ssrc : UInt32 := 0
  ssrcInitialized : Bool := false
  rtpTimestampOffset : UInt32 := 0
  samplingRate : UInt32 := 0
  codec : Codec := .other
  wordLength : UInt8 := 0
  nbOfChannels : UInt8 := 0
  source : Bool := false
  id : UInt32 := 0
  routing : Nat → UInt32 := fun _ => 0

def checkStructVersion (info : RTPStreamInfo) : Bool := sizeofRTPStreamInfo == info.sizeofStreamInfo

def makeKey (nicId : UInt8) (destIP : UInt32) (destPort : UInt16) : UInt64 :=
  (nicId.toUInt64 <<< 48) ||| (destIP.toUInt64 <<< 16) ||| destPort.toUInt64

def getKey (info : RTPStreamInfo) : UInt64 :=
  makeKey info.ifPortId.toUInt8 (mtalSwap32 info.destIP) (mtalSwap16 info.destPort)

def packetFits (info : RTPStreamInfo) : Bool :=
  info.maxSamplesPerPacket ≠ 0 &&
    info.maxSamplesPerPacket * info.nbOfChannels.toUInt32 * info.wordLength.toUInt32 ≤ rtpMaxPayloadSize

def isValid (info : RTPStreamInfo) : Bool :=
  if info.cName.headD 0 = 0 then false
  else if info.source ∧ ¬ packetFits info then false
  else if ¬ info.source ∧ info.playOutDelay < info.frameSize then false
  else if info.rtcpSrcIP = 0 then false
  else if info.source ∧ info.srcIP = 0 then false
  else if info.destIP = 0 then false
  else if ¬ mtalIsIPMulticast info.destIP ∧ (info.destPort < 1024 ∨ info.destPort > 32767) then false
  else if info.codec = .other then false
  else if info.samplingRate = 0 then false
  else if info.nbOfChannels = 0 then false
  else if info.nbOfChannels.toNat > maxChannelsByRTPStream then false
  else true

def setSSRC (info : RTPStreamInfo) (ssrc : UInt32) : RTPStreamInfo :=
  { info with ssrc := ssrc, ssrcInitialized := true }

def getRouting (info : RTPStreamInfo) (streamChannelId : Nat) : UInt32 :=
  if streamChannelId ≥ maxChannelsByRTPStream then unusedChannel else info.routing streamChannelId

structure Valid (info : RTPStreamInfo) : Prop where
  name : info.cName.headD 0 ≠ 0
  size : info.source = true → packetFits info = true
  delay : info.source = false → info.frameSize ≤ info.playOutDelay
  knownCodec : info.codec ≠ .other
  rate : info.samplingRate ≠ 0
  someChannel : info.nbOfChannels ≠ 0
  channels : info.nbOfChannels.toNat ≤ maxChannelsByRTPStream

theorem isValid_valid {info : RTPStreamInfo} (accepted : isValid info = true) : Valid info := by
  have refused : ∀ {c : Prop} [Decidable c] {b : Bool}, (if c then false else b) = true ↔ ¬ c ∧ b = true := by
    intro c _ b
    split
    · simp_all
    · simp_all
  unfold isValid at accepted
  simp only [refused] at accepted
  obtain ⟨name, size, delay, -, -, -, -, codec, rate, someChannel, channels, -⟩ := accepted
  constructor
  · exact name
  · intro isSource
    by_contra tooLong
    exact size ⟨isSource, tooLong⟩
  · intro isSink
    by_contra short
    exact delay ⟨by simp [isSink], UInt32.not_le.mp short⟩
  · exact codec
  · exact rate
  · exact someChannel
  · exact Nat.not_lt.mp channels

end RavennaLkm
