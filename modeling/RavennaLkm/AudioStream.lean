import RavennaLkm.Convert

/-!
RTP_stream.c and RTP_audio_stream.c: the state of one stream, its creation from
a stream description and its destruction, and the handler of the slot it lives
in. The manager's callbacks are read through `RTPAudioStreamOps`, the values they
return at the time of the call.
-/
namespace RavennaLkm
open CheckedLoop

/-- The part of `TEtherTubeNetfilter` a stream reads through its pointer. -/
structure EtherTubeNetfilter where
  nicId : UInt8 := 0
  macAddress : MACAddress := {}
  deriving DecidableEq, Repr

theorem toNat_min (x y : UInt32) : (min x y).toNat = min x.toNat y.toNat := by
  have cases_ : min x y = if x ≤ y then x else y := rfl
  rw [cases_]
  by_cases le : x ≤ y
  · rw [if_pos le, Nat.min_eq_left (UInt32.le_iff_toNat_le.mp le)]
  · rw [if_neg le, Nat.min_eq_right]
    exact Nat.le_of_not_le fun ge => le (UInt32.le_iff_toNat_le.mpr ge)

/-- `do_div`, whose divisor is a 32-bit value. -/
def cwLlModulo (dividend divisor : UInt64) : Except Fault UInt64 :=
  if divisor.toUInt32 = 0 then .error .divideByZero else .ok (dividend % divisor.toUInt32.toUInt64)

/-- `RINGBUFFERSIZE`, for up to 16 times the base rate. -/
def ringBufferSize : UInt32 := 48 * 64 * 16

theorem toNat_ringBufferSize : ringBufferSize.toNat = 49152 := rfl

structure RTPAudioStreamOps where
  globalSAC : UInt64 := 0
  globalTime : UInt64 := 0
  globalPerformanceCounter : UInt64 := 0
  counterTime : UInt64 := 0
  frameSize : UInt32 := 0
  liveInJitterBuffer : UInt32 → Option Nat := fun _ => none
  liveOutJitterBuffer : UInt32 → Option Nat := fun _ => none
  liveInJitterBufferLength : UInt32 := 0
  liveOutJitterBufferLength : UInt32 := 0
  playbackBufferOffset : UInt32 := 0
  mutePattern : UInt8 := 0

/-- The address of a stream: an entry of one of the manager's two arrays. -/
inductive StreamHandle where
  | source (slot : Nat)
  | sink (slot : Nat)
  deriving DecidableEq, Repr

structure RTPStream where
  ethNetfilter : EtherTubeNetfilter := {}
  rtpStreamInfo : RTPStreamInfo := {}
  rtpPacketBaseOutgoing : RTPPacketBase := {}
  attachedStream : Option StreamHandle := none
  outgoingSeqNum : UInt16 := 0
  senderRTPTimestamp : UInt32 := 0
  senderOctetCount : UInt32 := 0
  senderPacketCount : UInt32 := 0
  lastAudioSampleReceivedSAC : UInt64 := 0
  incomingSeqNum : UInt16 := 0
  lastRTPSAC : UInt32 := 0
  lastRTPLengthInSamples : UInt32 := 0

structure RTPStreamStatus where
  sinkRTPSeqIdError : Bool := false
  sinkRTPSSRCError : Bool := false
  sinkRTPPayloadTypeError : Bool := false
  sinkRTPSACError : Bool := false
  sinkReceivingRTPPacket : Bool := false
  sinkMuted : Bool := false
  sinkSomeMuted : Bool := false
  sinkAllMuted : Bool := false
  sinkMinTime : Int32 := 0
  deriving DecidableEq, Repr

structure RTPAudioStream extends RTPStream where
  livesInDMCounter : UInt32 := 0
  livesInCircularBuffer : ChannelMap := fun _ => none
  livesOutCircularBuffer : ChannelMap := fun _ => none
  audioEngineSampleWordLength : UInt16 := 0
  livesInitialized : Bool := false
  sinkAheadTimeResetCounter : UInt32 := 0
  lastSinkAheadTimeResetCounter : UInt32 := 0
  minSinkAheadTime : UInt32 := 0
  wrongSSRCMessageCounter : UInt16 := 0
  streamStatus : RTPStreamStatus := {}
  streamStatusResetCounter : UInt32 := 0
  streamStatusLastResetCounter : UInt32 := 0
  wrongRTPSeqIdCounter : UInt32 := 0
  wrongRTPSeqIdLastCounter : UInt32 := 0
  wrongRTPSSRCCounter : UInt32 := 0
  wrongRTPSSRCLastCounter : UInt32 := 0
  wrongRTPPayloadTypeCounter : UInt32 := 0
  wrongRTPPayloadTypeLastCounter : UInt32 := 0
  wrongRTPSACCounter : UInt32 := 0
  wrongRTPSACLastCounter : UInt32 := 0
  rtpPacketCounter : UInt32 := 0
  rtpPacketLastCounter : UInt32 := 0
  mtConvertMappedToInterleave : Option MappedToInterleave := none
  mtConvertInterleaveToMapped : Option InterleaveToMapped := none

/-- The outgoing headers prepared in advance; length, checksum, sequence number and
timestamp keep what the slot held before. -/
def prepareRTPPacketBase (old : RTPPacketBase) (nf : EtherTubeNetfilter) (info : RTPStreamInfo) :
    RTPPacketBase where
  ethernetHeader := ⟨info.destMAC, nf.macAddress, mtalSwap16 mtalEthProtoIPV4⟩
  ipv4Header :=
    { old.ipv4Header with
      versionHeaderLen := 0x45
      tos := info.dscp <<< 2
      srcIP := mtalSwap32 info.srcIP
      destIP := mtalSwap32 info.destIP
      id := 0
      offset := 0
      ttl := 15
      checksum := 0
      protocol := ipProtoUDP }
  udpHeader :=
    { old.udpHeader with srcPort := mtalSwap16 info.srcPort, destPort := mtalSwap16 info.destPort }
  rtpHeader :=
    { old.rtpHeader with
      version := 0x80, payloadType := info.payloadType, ssrc := mtalSwap32 info.ssrc }

def rtpStreamInit (s : RTPStream) (nf : EtherTubeNetfilter) (info : RTPStreamInfo) : RTPStream :=
  { s with
    ethNetfilter := nf
    rtpStreamInfo := info
    rtpPacketBaseOutgoing :=
      if info.source then prepareRTPPacketBase s.rtpPacketBaseOutgoing nf info
      else s.rtpPacketBaseOutgoing }

def rtpStreamDestroy (s : RTPStream) : RTPStream := { s with rtpStreamInfo := {} }

def convertMappedToInterleave : Codec → Option MappedToInterleave
  | .l16 => some .bigEndianInt16
  | .l24 => some .bigEndianInt24
  | .am824 => some .bigEndianInt32
  | .dsd64_32 | .dsd128_32 | .dsd256 => some .bigEndianDSD256
  | _ => none

def convertInterleaveToMapped : Codec → Option InterleaveToMapped
  | .l16 => some .bigEndianInt16
  | .l24 => some .bigEndianInt24
  | .am824 => some .bigEndianInt32
  | _ => none

def routeLivesOut (ops : RTPAudioStreamOps) (info : RTPStreamInfo) (lives : ChannelMap) :
    Nat → ChannelMap × Bool
  | 0 => (lives, true)
  | us + 1 =>
    let before := routeLivesOut ops info lives us
    let ring := ops.liveOutJitterBuffer (getRouting info us)
    if before.2 then (Function.update before.1 us ring, ring.isSome) else before

def routeLivesIn (ops : RTPAudioStreamOps) (info : RTPStreamInfo) (lives : ChannelMap) :
    Nat → ChannelMap × Bool
  | 0 => (lives, true)
  | us + 1 =>
    let before := routeLivesIn ops info lives us
    let ring := ops.liveInJitterBuffer (getRouting info us)
    if before.2 then
      if getRouting info us = unusedChannel then (Function.update before.1 us none, true)
      else (Function.update before.1 us ring, ring.isSome)
    else before

/-- memset over whole cells. -/
def muteCells (pattern : UInt8) (start count : Nat) (mem : RingMemory) : RingMemory :=
  fun a => if start ≤ a ∧ a < start + count then ⟨pattern, pattern, pattern, pattern⟩ else mem a

def muteLivesIn (s : RTPAudioStream) (ops : RTPAudioStreamOps) (offset nbSamples : UInt32) :
    RingMemory → RingMemory :=
  iterUp (fun us mem =>
      match s.livesInCircularBuffer us with
      | none => mem
      | some base =>
        muteCells ops.mutePattern
          (base + (offset * s.audioEngineSampleWordLength.toUInt32).toNat / 4)
          ((nbSamples * s.audioEngineSampleWordLength.toUInt32).toNat / 4) mem)
    s.rtpStreamInfo.nbOfChannels.toNat

def createSource (s : RTPAudioStream) (info : RTPStreamInfo) (ops : RTPAudioStreamOps) :
    RTPAudioStream × Bool :=
  let routed := routeLivesOut ops info s.livesOutCircularBuffer info.nbOfChannels.toNat
  let s := { s with livesOutCircularBuffer := routed.1 }
  if routed.2 then
    match convertMappedToInterleave info.codec with
    | none => (s, false)
    | some f => ({ s with mtConvertMappedToInterleave := some f, livesInitialized := true }, true)
  else (s, false)

def createSink (s : RTPAudioStream) (info : RTPStreamInfo) (ops : RTPAudioStreamOps)
    (livesIn : RingMemory) : RTPAudioStream × RingMemory × Bool :=
  let routed := routeLivesIn ops info s.livesInCircularBuffer info.nbOfChannels.toNat
  let s := { s with livesInCircularBuffer := routed.1 }
  if routed.2 then
    match convertInterleaveToMapped info.codec with
    | none => (s, livesIn, false)
    | some f =>
      let s := { s with mtConvertInterleaveToMapped := some f }
      ({ s with livesInitialized := true },
        muteLivesIn s ops 0 ops.liveInJitterBufferLength livesIn, true)
  else (s, livesIn, false)

def create (self : RTPAudioStream) (info : RTPStreamInfo) (ops : RTPAudioStreamOps)
    (nf : EtherTubeNetfilter) (livesIn : RingMemory) : RTPAudioStream × RingMemory × Bool :=
  if self.livesInitialized then (self, livesIn, false)
  else
    let s := { self with
      toRTPStream := rtpStreamInit self.toRTPStream nf info, audioEngineSampleWordLength := 4 }
    if info.source then
      let made := createSource s info ops
      (made.1, livesIn, made.2)
    else createSink s info ops livesIn

def destroy (self : RTPAudioStream) (ops : RTPAudioStreamOps) (livesIn : RingMemory) :
    RTPAudioStream × RingMemory :=
  if self.livesInitialized then
    ({ self with
        toRTPStream := rtpStreamDestroy self.toRTPStream
        livesInCircularBuffer := fun _ => none
        livesOutCircularBuffer := fun _ => none
        livesInitialized := false },
      if self.rtpStreamInfo.source then livesIn
      else muteLivesIn self ops 0 ops.liveInJitterBufferLength livesIn)
  else (self, livesIn)

def getNbOfLivesIn (s : RTPAudioStream) : UInt32 :=
  if s.rtpStreamInfo.source then 0 else s.rtpStreamInfo.nbOfChannels.toUInt32

def getNbOfLivesOut (s : RTPAudioStream) : UInt32 :=
  if s.rtpStreamInfo.source then s.rtpStreamInfo.nbOfChannels.toUInt32 else 0

def convertToLivesIn (s : RTPAudioStream) (input : PacketReader) (rings : ChannelMap)
    (offset nbSamples : UInt32) (mem : RingMemory) : Except Fault RingMemory :=
  match s.mtConvertInterleaveToMapped with
  | none => .error .nullPointer
  | some f => f.call input rings offset s.rtpStreamInfo.nbOfChannels.toUInt32 nbSamples mem

structure RTPAudioStreamHandler where
  rtpAudioStream : RTPAudioStream := {}
  nicId : UInt8 := 0
  active : Bool := false
  readerCount : Int := 0

namespace RTPAudioStreamHandler

def init (nf : EtherTubeNetfilter) : RTPAudioStreamHandler :=
  { nicId := nf.nicId, rtpAudioStream := { ethNetfilter := nf } }

def isFree (h : RTPAudioStreamHandler) : Bool := !h.active && h.readerCount == 0

def acquire (h : RTPAudioStreamHandler) : RTPAudioStreamHandler := { h with active := true }

def cleanup (h : RTPAudioStreamHandler) (ops : RTPAudioStreamOps) (livesIn : RingMemory) :
    RTPAudioStreamHandler × RingMemory :=
  if h.isFree then
    let gone := destroy h.rtpAudioStream ops livesIn
    ({ h with rtpAudioStream := gone.1 }, gone.2)
  else (h, livesIn)

def release (h : RTPAudioStreamHandler) (ops : RTPAudioStreamOps) (livesIn : RingMemory) :
    RTPAudioStreamHandler × RingMemory :=
  cleanup { h with active := false } ops livesIn

def readerEnter (h : RTPAudioStreamHandler) : RTPAudioStreamHandler :=
  { h with readerCount := h.readerCount + 1 }

def readerLeave (h : RTPAudioStreamHandler) (ops : RTPAudioStreamOps) (livesIn : RingMemory) :
    RTPAudioStreamHandler × RingMemory :=
  cleanup { h with readerCount := h.readerCount - 1 } ops livesIn

end RTPAudioStreamHandler

def liveInRing (ops : RTPAudioStreamOps) (info : RTPStreamInfo) (us : Nat) : Option Nat :=
  if getRouting info us = unusedChannel then none else ops.liveInJitterBuffer (getRouting info us)

def ChannelRouted (ops : RTPAudioStreamOps) (info : RTPStreamInfo) (us : Nat) : Prop :=
  if info.source then (ops.liveOutJitterBuffer (getRouting info us)).isSome = true
  else getRouting info us = unusedChannel ∨
    (ops.liveInJitterBuffer (getRouting info us)).isSome = true

instance (ops : RTPAudioStreamOps) (info : RTPStreamInfo) (us : Nat) :
    Decidable (ChannelRouted ops info us) := by
  unfold ChannelRouted
  infer_instance

def codecConverts (info : RTPStreamInfo) : Bool :=
  if info.source then (convertMappedToInterleave info.codec).isSome
  else (convertInterleaveToMapped info.codec).isSome

/-- The descriptions that `Create` turns into a stream when its object is free. -/
def CreateAccepts (ops : RTPAudioStreamOps) (info : RTPStreamInfo) : Prop :=
  (∀ us < info.nbOfChannels.toNat, ChannelRouted ops info us) ∧ codecConverts info = true

theorem routeLivesOut_snd (ops : RTPAudioStreamOps) (info : RTPStreamInfo) (lives : ChannelMap)
    (n : Nat) : (routeLivesOut ops info lives n).2 = true ↔
      ∀ us < n, (ops.liveOutJitterBuffer (getRouting info us)).isSome := by
  induction n with
  | zero => simp [routeLivesOut]
  | succ n ih =>
    rw [Nat.forall_lt_succ_right, ← ih, routeLivesOut]
    split <;> simp_all

theorem routeLivesOut_fst {ops : RTPAudioStreamOps} {info : RTPStreamInfo} {lives : ChannelMap}
    {n : Nat} (routed : (routeLivesOut ops info lives n).2 = true) :
    ∀ us < n, (routeLivesOut ops info lives n).1 us = ops.liveOutJitterBuffer (getRouting info us) := by
  induction n with
  | zero => simp
  | succ n ih =>
    intro us below
    rw [routeLivesOut] at routed ⊢
    split at routed
    · rename_i before
      simp only [before, if_true]
      by_cases last : us = n
      · simp [last]
      · rw [Function.update_of_ne last]
        exact ih before us (by omega)
    · contradiction

theorem routeLivesIn_snd (ops : RTPAudioStreamOps) (info : RTPStreamInfo) (lives : ChannelMap)
    (n : Nat) : (routeLivesIn ops info lives n).2 = true ↔
      ∀ us < n, getRouting info us = unusedChannel ∨
        (ops.liveInJitterBuffer (getRouting info us)).isSome := by
  induction n with
  | zero => simp [routeLivesIn]
  | succ n ih =>
    rw [Nat.forall_lt_succ_right, ← ih, routeLivesIn]
    split
    · split <;> simp_all
    · simp_all

theorem routeLivesIn_fst {ops : RTPAudioStreamOps} {info : RTPStreamInfo} {lives : ChannelMap}
    {n : Nat} (routed : (routeLivesIn ops info lives n).2 = true) :
    ∀ us < n, (routeLivesIn ops info lives n).1 us = liveInRing ops info us := by
  induction n with
  | zero => simp
  | succ n ih =>
    intro us below
    rw [routeLivesIn] at routed ⊢
    split at routed
    · rename_i before
      simp only [before, if_true, liveInRing]
      by_cases last : us = n
      · subst last
        split <;> simp
      · have kept := ih before us (by omega)
        simp only [liveInRing] at kept
        split <;> simpa [Function.update_of_ne last] using kept
    · contradiction

theorem createSource_succeeds_iff (s : RTPAudioStream) (info : RTPStreamInfo)
    (ops : RTPAudioStreamOps) : (createSource s info ops).2 = true ↔
      (∀ us < info.nbOfChannels.toNat, (ops.liveOutJitterBuffer (getRouting info us)).isSome) ∧
        (convertMappedToInterleave info.codec).isSome := by
  rw [← routeLivesOut_snd ops info s.livesOutCircularBuffer, createSource]
  split
  · cases convertMappedToInterleave info.codec <;> simp_all
  · simp_all

theorem createSink_succeeds_iff (s : RTPAudioStream) (info : RTPStreamInfo)
    (ops : RTPAudioStreamOps) (livesIn : RingMemory) :
    (createSink s info ops livesIn).2.2 = true ↔
      (∀ us < info.nbOfChannels.toNat, getRouting info us = unusedChannel ∨
        (ops.liveInJitterBuffer (getRouting info us)).isSome) ∧
        (convertInterleaveToMapped info.codec).isSome := by
  rw [← routeLivesIn_snd ops info s.livesInCircularBuffer, createSink]
  split
  · cases convertInterleaveToMapped info.codec <;> simp_all
  · simp_all

theorem create_succeeds_iff (self : RTPAudioStream) (info : RTPStreamInfo) (ops : RTPAudioStreamOps)
    (nf : EtherTubeNetfilter) (livesIn : RingMemory) :
    (create self info ops nf livesIn).2.2 = true ↔
      self.livesInitialized = false ∧ CreateAccepts ops info := by
  unfold create CreateAccepts ChannelRouted codecConverts
  by_cases used : self.livesInitialized = true
  · simp [used]
  · cases kind : info.source
    · simp [used, createSink_succeeds_iff]
    · simp [used, createSource_succeeds_iff]

structure CreatedSink (ops : RTPAudioStreamOps) (info : RTPStreamInfo) (s : RTPAudioStream) : Prop where
  info_eq : s.rtpStreamInfo = info
  initialized : s.livesInitialized = true
  wordLength : s.audioEngineSampleWordLength = 4
  rings : ∀ us < info.nbOfChannels.toNat, s.livesInCircularBuffer us = liveInRing ops info us
  convert : s.mtConvertInterleaveToMapped = convertInterleaveToMapped info.codec
  converts : (convertInterleaveToMapped info.codec).isSome

theorem create_idle {self : RTPAudioStream} (info : RTPStreamInfo) (ops : RTPAudioStreamOps)
    (nf : EtherTubeNetfilter) (livesIn : RingMemory) (idle : self.livesInitialized = false) :
    let made := (create self info ops nf livesIn).1
    made.rtpStreamInfo = info ∧ made.ethNetfilter = nf ∧ made.attachedStream = self.attachedStream := by
  simp only [create, idle, Bool.false_eq_true, if_false]
  by_cases source : info.source = true
  · simp only [source, if_true, createSource]
    split
    · split <;> exact ⟨rfl, rfl, rfl⟩
    · exact ⟨rfl, rfl, rfl⟩
  · simp only [source, Bool.false_eq_true, if_false, createSink]
    split
    · split <;> exact ⟨rfl, rfl, rfl⟩
    · exact ⟨rfl, rfl, rfl⟩

theorem destroy_idle (self : RTPAudioStream) (ops : RTPAudioStreamOps) (livesIn : RingMemory) :
    (destroy self ops livesIn).1.livesInitialized = false ∧
      (destroy self ops livesIn).1.ethNetfilter = self.ethNetfilter ∧
      (destroy self ops livesIn).1.attachedStream = self.attachedStream := by
  unfold destroy
  split
  · exact ⟨rfl, rfl, rfl⟩
  · rename_i idle
    exact ⟨by simpa using idle, rfl, rfl⟩

structure AcceptedSink (s : RTPAudioStream) : Prop where
  valid : Valid s.rtpStreamInfo
  sink : s.rtpStreamInfo.source = false
  convert : s.mtConvertInterleaveToMapped = convertInterleaveToMapped s.rtpStreamInfo.codec
  converts : (convertInterleaveToMapped s.rtpStreamInfo.codec).isSome = true

theorem create_sink {self : RTPAudioStream} {info : RTPStreamInfo} {ops : RTPAudioStreamOps}
    {nf : EtherTubeNetfilter} {livesIn : RingMemory} (sink : info.source = false)
    (created : (create self info ops nf livesIn).2.2 = true) :
    CreatedSink ops info (create self info ops nf livesIn).1 := by
  have idle := ((create_succeeds_iff self info ops nf livesIn).mp created).1
  simp only [create, idle, sink] at created ⊢
  obtain ⟨routed, converts⟩ := (createSink_succeeds_iff _ _ _ _).mp created
  have rings := (routeLivesIn_snd ops info self.livesInCircularBuffer info.nbOfChannels.toNat).mpr routed
  obtain ⟨f, isF⟩ := Option.isSome_iff_exists.mp converts
  simp only [createSink, rings, isF, if_true, Bool.false_eq_true, if_false]
  exact ⟨rfl, rfl, rfl, routeLivesIn_fst rings, isF.symm, converts⟩

theorem create_sink_valid {self : RTPAudioStream} {info : RTPStreamInfo} {ops : RTPAudioStreamOps}
    {nf : EtherTubeNetfilter} {livesIn : RingMemory} (valid : isValid info = true)
    (sink : info.source = false) (created : (create self info ops nf livesIn).2.2 = true) :
    AcceptedSink (create self info ops nf livesIn).1 := by
  have made := create_sink sink created
  constructor
  · rw [made.info_eq]; exact isValid_valid valid
  · rw [made.info_eq]; exact sink
  · rw [made.info_eq]; exact made.convert
  · rw [made.info_eq]; exact made.converts

structure SameStream (s t : RTPAudioStream) : Prop where
  info : ∃ ssrc initialized, t.rtpStreamInfo =
    { s.rtpStreamInfo with ssrc := ssrc, ssrcInitialized := initialized }
  nic : t.ethNetfilter = s.ethNetfilter
  attached : t.attachedStream = s.attachedStream
  initialized : t.livesInitialized = s.livesInitialized
  livesOut : t.livesOutCircularBuffer = s.livesOutCircularBuffer
  livesIn : t.livesInCircularBuffer = s.livesInCircularBuffer
  convertOut : t.mtConvertMappedToInterleave = s.mtConvertMappedToInterleave
  convertIn : t.mtConvertInterleaveToMapped = s.mtConvertInterleaveToMapped

namespace SameStream

variable {s t u : RTPAudioStream}

theorem refl (s : RTPAudioStream) : SameStream s s :=
  ⟨⟨_, _, rfl⟩, rfl, rfl, rfl, rfl, rfl, rfl, rfl⟩

theorem symm (same : SameStream s t) : SameStream t s := by
  obtain ⟨⟨_, _, info⟩, nic, attached, initialized, livesOut, livesIn, convertOut, convertIn⟩ := same
  refine ⟨⟨s.rtpStreamInfo.ssrc, s.rtpStreamInfo.ssrcInitialized, ?_⟩, nic.symm, attached.symm, initialized.symm,
    livesOut.symm, livesIn.symm, convertOut.symm, convertIn.symm⟩
  rw [info]

theorem trans (first : SameStream s t) (then_ : SameStream t u) : SameStream s u := by
  obtain ⟨⟨_, _, info⟩, _, _, _, _, _, _, _⟩ := first
  obtain ⟨⟨ssrc, initialized, info'⟩, _, _, _, _, _, _, _⟩ := then_
  constructor
  · exact ⟨ssrc, initialized, by rw [info', info]⟩
  all_goals simp_all only

theorem valid (same : SameStream s t) (valid : Valid s.rtpStreamInfo) : Valid t.rtpStreamInfo := by
  obtain ⟨_, _, info⟩ := same.info
  rw [info]
  exact ⟨valid.name, valid.size, valid.delay, valid.knownCodec, valid.rate, valid.someChannel,
    valid.channels⟩

theorem source (same : SameStream s t) : t.rtpStreamInfo.source = s.rtpStreamInfo.source := by
  obtain ⟨_, _, info⟩ := same.info
  rw [info]

theorem codec (same : SameStream s t) : t.rtpStreamInfo.codec = s.rtpStreamInfo.codec := by
  obtain ⟨_, _, info⟩ := same.info
  rw [info]

theorem nbOfChannels (same : SameStream s t) :
    t.rtpStreamInfo.nbOfChannels = s.rtpStreamInfo.nbOfChannels := by
  obtain ⟨_, _, info⟩ := same.info
  rw [info]

theorem id (same : SameStream s t) : t.rtpStreamInfo.id = s.rtpStreamInfo.id := by
  obtain ⟨_, _, info⟩ := same.info
  rw [info]

end SameStream

theorem AcceptedSink.same {s t : RTPAudioStream} (accepted : AcceptedSink s) (same : SameStream s t) :
    AcceptedSink t := by
  constructor
  · exact same.valid accepted.valid
  · rw [same.source]; exact accepted.sink
  · rw [same.codec, same.convertIn]; exact accepted.convert
  · rw [same.codec]; exact accepted.converts

end RavennaLkm
