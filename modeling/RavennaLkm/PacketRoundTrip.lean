import RavennaLkm.Lib.BitFields
import RavennaLkm.PacketFit
import RavennaLkm.ReceiveSpec

/-!
A packet on the wire: what the receiving half reads back from the bytes that the
sending half wrote, for the codecs that have a converter on both sides. The
timestamp is 32 bits of a 64-bit position.
-/
namespace RavennaLkm
open CheckedLoop Gather LittleEndian

namespace InterleaveToMapped

def counterpart : InterleaveToMapped → MappedToInterleave
  | .bigEndianInt16 => .bigEndianInt16
  | .bigEndianInt24 => .bigEndianInt24
  | .bigEndianInt32 => .bigEndianInt32

def truncated : InterleaveToMapped → Sample → Sample
  | .bigEndianInt16, x => ⟨0, 0, x.byte2, x.byte3⟩
  | .bigEndianInt24, x => ⟨0, x.byte1, x.byte2, x.byte3⟩
  | .bigEndianInt32, x => x

theorem counterpart_width (g : InterleaveToMapped) : g.counterpart.width = g.width.toNat := by
  cases g <;> rfl

theorem counterpart_cell (g : InterleaveToMapped) (offset : UInt32) (i : Nat) :
    g.counterpart.cell offset i = inPos offset i := by
  cases g <;> rfl

theorem convert_counterpart {codec : Codec} {g : InterleaveToMapped}
    (converts : convertInterleaveToMapped codec = some g) :
    convertMappedToInterleave codec = some g.counterpart := by
  cases codec <;> cases converts <;> rfl

theorem decode_store (g : InterleaveToMapped) {b : Nat → UInt8} {pos : Nat} {x : Sample}
    (stored : ∀ r < g.width.toNat, (g.counterpart.store x)[r]? = some (b (pos + r))) :
    g.decode b pos = g.truncated x := by
  cases g
  all_goals
    have at0 := stored 0 (by decide)
    have at1 := stored 1 (by decide)
    simp only [counterpart, MappedToInterleave.store, storeInt16, storeInt24, storeInt32,
      List.getElem?_cons_zero, List.getElem?_cons_succ, Option.some.injEq, Nat.add_zero] at at0 at1
  · simp only [decode, truncated, at0, at1]
  · have at2 := stored 2 (by decide)
    simp only [counterpart, MappedToInterleave.store, storeInt24, List.getElem?_cons_zero,
      List.getElem?_cons_succ, Option.some.injEq] at at2
    simp only [decode, truncated, at0, at1, at2]
  · have at2 := stored 2 (by decide)
    have at3 := stored 3 (by decide)
    simp only [counterpart, MappedToInterleave.store, storeInt32, List.getElem?_cons_zero,
      List.getElem?_cons_succ, Option.some.injEq] at at2 at3
    simp only [decode, truncated, ← at0, ← at1, ← at2, ← at3]

theorem decode_shift (g : InterleaveToMapped) (b : Nat → UInt8) (shift pos : Nat) :
    g.decode (fun k => b (shift + k)) pos = g.decode b (shift + pos) := by
  cases g <;> rfl

end InterleaveToMapped

def audioRow (g : InterleaveToMapped) (s : RTPAudioStream) (ops : RTPAudioStreamOps)
    (livesOut : RingMemory) (offset : UInt32) (i : Nat) : List UInt8 :=
  gather (fun ch => g.counterpart.store
      (livesOut (ringBase s ch + (offset.toNat + i) % ops.liveOutJitterBufferLength.toNat)))
    s.rtpStreamInfo.nbOfChannels.toNat

theorem length_audioRow (g : InterleaveToMapped) (s : RTPAudioStream) (ops : RTPAudioStreamOps)
    (livesOut : RingMemory) (offset : UInt32) (i : Nat) :
    (audioRow g s ops livesOut offset i).length = rowBytes s g := by
  rw [audioRow, length_gather fun _ _ => g.counterpart.length_store _, g.counterpart_width, rowBytes]

/-- Both pieces of the two-piece copy are the samples of the ring in order. -/
theorem audio_eq_gather (g : InterleaveToMapped) (s : RTPAudioStream) {ops : RTPAudioStreamOps}
    (livesOut : RingMemory) {offset n : UInt32} (inside : offset < ops.liveOutJitterBufferLength)
    (small : ops.liveOutJitterBufferLength.toNat ≤ 2 ^ 30)
    (once : n.toNat ≤ ops.liveOutJitterBufferLength.toNat) :
    frontBytes g.counterpart s ops livesOut offset n ++ backBytes g.counterpart s ops livesOut offset n =
      gather (audioRow g s ops livesOut offset) n.toNat := by
  have below := UInt32.lt_iff_toNat_lt.mp inside
  have total := frontSamples_add_back ops offset n
  have front : (frontSamples ops offset n).toNat =
      min (ops.liveOutJitterBufferLength.toNat - offset.toNat) n.toNat := by
    rw [frontSamples, toNat_min, UInt32.toNat_sub_of_le _ _ (UInt32.le_of_lt inside)]
  rw [← total, gather_add, frontBytes, backBytes]
  congr 1
  · apply gather_congr
    intro i iBelow
    rw [MappedToInterleave.row, audioRow, g.counterpart_cell, inPos_eq (by omega),
      Nat.mod_eq_of_lt (by omega)]
  · apply gather_congr
    intro i iBelow
    have wrapped : offset.toNat + ((frontSamples ops offset n).toNat + i) =
        i + ops.liveOutJitterBufferLength.toNat := by omega
    rw [MappedToInterleave.row, audioRow, g.counterpart_cell, inPos_eq (by rw [UInt32.toNat_zero]; omega),
      wrapped, Nat.add_mod_right, Nat.mod_eq_of_lt (by omega), UInt32.toNat_zero, Nat.zero_add]

theorem getElem?_audio (g : InterleaveToMapped) (s : RTPAudioStream) (ops : RTPAudioStreamOps)
    (livesOut : RingMemory) (offset : UInt32) {n ch i r : Nat} (iBelow : i < n)
    (chBelow : ch < s.rtpStreamInfo.nbOfChannels.toNat) (rBelow : r < g.width.toNat) :
    (gather (audioRow g s ops livesOut offset) n)[g.width.toNat * ch + i * rowBytes s g + r]? =
      (g.counterpart.store (livesOut (ringBase s ch +
        (offset.toNat + i) % ops.liveOutJitterBufferLength.toNat)))[r]? := by
  have index : g.width.toNat * ch + i * rowBytes s g + r =
      (i * s.rtpStreamInfo.nbOfChannels.toNat + ch) * g.width.toNat + r := by
    rw [rowBytes, Nat.add_mul, Nat.mul_assoc, Nat.mul_comm ch, Nat.add_comm (g.width.toNat * ch)]
  rw [index]
  exact getElem?_gather_blocks (fun _ _ => (g.counterpart.length_store _).trans g.counterpart_width) iBelow chBelow
    rBelow

theorem and_high (x : Nat) (below : x < 2 ^ 64) : x &&& 0xFFFFFFFF00000000 = x / 2 ^ 32 * 2 ^ 32 := by
  have mask : 0xFFFFFFFF00000000 = (2 ^ 32 - 1) <<< 32 := by decide
  have high : x / 2 ^ 32 < 2 ^ 32 := by omega
  rw [mask, BitFields.and_field, Nat.mod_eq_of_lt high]

/-- A position is its 32 low bits, for a reader whose own position is near enough. -/
theorem expandSAC_of_near {sac globalSAC : UInt64} (behind : globalSAC.toNat ≤ sac.toNat + (2 ^ 30 - 1))
    (ahead : sac.toNat ≤ globalSAC.toNat + (2 ^ 30 - 1)) : expandSAC sac.toUInt32 globalSAC = sac := by
  have bound := sac.toNat_lt
  have bound' := globalSAC.toNat_lt
  have low : sac.toUInt32.toNat = sac.toNat % 2 ^ 32 := UInt64.toNat_toUInt32 ..
  have low' : globalSAC.toUInt32.toNat = globalSAC.toNat % 2 ^ 32 := UInt64.toNat_toUInt32 ..
  have joined : ((globalSAC &&& 0xFFFFFFFF00000000) ||| sac.toUInt32.toUInt64).toNat =
      globalSAC.toNat / 2 ^ 32 * 2 ^ 32 + sac.toNat % 2 ^ 32 := by
    rw [UInt64.toNat_or, UInt64.toNat_and, UInt32.toNat_toUInt64, low]
    change globalSAC.toNat &&& 0xFFFFFFFF00000000 ||| _ = _
    rw [and_high _ bound', Nat.mul_comm, Nat.two_pow_add_eq_or_of_lt (Nat.mod_lt _ (by decide))]
  unfold expandSAC
  simp only [UInt32.lt_iff_toNat_lt, ge_iff_le, UInt32.le_iff_toNat_le, low, low', UInt32.reduceToNat]
  apply UInt64.toNat_inj.mp
  split_ifs
  · rw [UInt64.toNat_add, joined]
    simp only [UInt64.reduceToNat]
    omega
  · rw [UInt64.toNat_sub, joined]
    simp only [UInt64.reduceToNat]
    omega
  · rw [joined]
    omega

def receiveAudioAt (sac : UInt64) (s : RTPAudioStream) (partner : Option RTPStream) (ops : RTPAudioStreamOps)
    (frame : RTPFrame) (payload : Nat) (nbOfSamples : UInt32) (mem : RingMemory) :
    Except Fault (RTPAudioStream × RingMemory) := do
  let s := checkTimestamp s sac.toUInt32 nbOfSamples
  let start := sac + s.rtpStreamInfo.playOutDelay.toUInt64
  let mem ← copyAudio s partner ops frame payload start nbOfSamples mem
  let s ← updateSinkAheadTime s ops start
  .ok ({ s with lastAudioSampleReceivedSAC := start + nbOfSamples.toUInt64 }, mem)

/-- `ProcessRTPAudioPacket` for such a sink. -/
def processPacketAt (sac : UInt64) (self : RTPAudioStream) (partner : Option RTPStream)
    (ops : RTPAudioStreamOps) (frame : RTPFrame) (mem : RingMemory) :
    Except Fault (RTPAudioStream × RingMemory × Bool) :=
  let h := frame.packetBase.rtpHeader
  let checked := checkRTPHeader self h
  if checked.2 then do
    let s := checkSeqNum checked.1 (mtalSwap16 h.seqNum)
    let skip ← csrcExtensionLength frame
    let nbOfSamples ← nbOfSamplesInPacket s (payloadLength frame skip)
    if nbOfSamples = 0 then .ok (s, mem, false)
    else do
      let received ←
        receiveAudioAt sac s partner ops frame (sizeofRTPPacketBase + skip.toNat) nbOfSamples mem
      .ok (received.1, received.2, true)
  else .ok (checked.1, mem, false)

theorem receiveAudio_eq_at {s : RTPAudioStream} {ops : RTPAudioStreamOps} {frame : RTPFrame} {sac : UInt64}
    (timestamp : mtalSwap32 frame.packetBase.rtpHeader.timestamp =
      (sac + s.rtpStreamInfo.rtpTimestampOffset.toUInt64).toUInt32)
    (behind : ops.globalSAC.toNat ≤ sac.toNat + (2 ^ 30 - 1))
    (ahead : sac.toNat ≤ ops.globalSAC.toNat + (2 ^ 30 - 1)) (partner : Option RTPStream) (payload : Nat)
    (n : UInt32) (mem : RingMemory) :
    receiveAudio s partner ops frame payload n mem = receiveAudioAt sac s partner ops frame payload n mem := by
  have low : mtalSwap32 frame.packetBase.rtpHeader.timestamp - s.rtpStreamInfo.rtpTimestampOffset =
      sac.toUInt32 := by
    rw [timestamp, UInt64.toUInt32_add, UInt32.toUInt32_toUInt64]
    exact UInt32.add_sub_cancel ..
  unfold receiveAudio receiveAudioAt
  simp only [low, expandSAC_of_near behind ahead]

/-- A sink less than 2^30 samples away from the packet finds its position from the timestamp, wherever
the 32-bit times of the two wrap. -/
theorem process_finds_sac {self : RTPAudioStream} {ops : RTPAudioStreamOps} {frame : RTPFrame} {sac : UInt64}
    (timestamp : mtalSwap32 frame.packetBase.rtpHeader.timestamp =
      (sac + self.rtpStreamInfo.rtpTimestampOffset.toUInt64).toUInt32)
    (near : |(sac.toNat : Int) - ops.globalSAC.toNat| < 2 ^ 30) (partner : Option RTPStream) (mem : RingMemory) :
    processRTPAudioPacket self partner ops frame mem = processPacketAt sac self partner ops frame mem := by
  obtain ⟨behind, ahead⟩ := abs_lt.mp near
  have behind : ops.globalSAC.toNat ≤ sac.toNat + (2 ^ 30 - 1) := by omega
  have ahead : sac.toNat ≤ ops.globalSAC.toNat + (2 ^ 30 - 1) := by omega
  have same := (checkRTPHeader_same self frame.packetBase.rtpHeader).trans
    (checkSeqNum_same _ (mtalSwap16 frame.packetBase.rtpHeader.seqNum))
  obtain ⟨_, _, info⟩ := same.info
  unfold processRTPAudioPacket processPacketAt
  dsimp only
  split
  · generalize checkSeqNum (checkRTPHeader self frame.packetBase.rtpHeader).1
      (mtalSwap16 frame.packetBase.rtpHeader.seqNum) = s at info ⊢
    have offset : s.rtpStreamInfo.rtpTimestampOffset = self.rtpStreamInfo.rtpTimestampOffset := by rw [info]
    rw [← offset] at timestamp
    simp only [receiveAudio_eq_at timestamp behind ahead]
  · rfl

def wrappedPacket : RTPFrame where
  bytes := RTPPacketBase.bytes
    { udpHeader := { len := mtalSwap16 22 }, rtpHeader := { version := 0x80, timestamp := mtalSwap32 7 } } ++ [1, 2]
  headers := by decide

/-- Before the wrap, at 2^32 - 1, and with the timestamps 7 ahead. -/
theorem process_finds_sac_wrapped :
    let sink : RTPAudioStream :=
      { rtpStreamInfo := { rtpTimestampOffset := 7, wordLength := 2, nbOfChannels := 1 } }
    let ops : RTPAudioStreamOps := { globalSAC := 0xFFFFFFFF, frameSize := 48 }
    processRTPAudioPacket sink none ops wrappedPacket (fun _ => {}) =
      processPacketAt 0x100000000 sink none ops wrappedPacket (fun _ => {}) :=
  process_finds_sac (by decide) (by decide) none _

def TransmittedPacket.received (p : TransmittedPacket) : Option RTPFrame :=
  if headers : sizeofRTPPacketBase ≤ p.frame.length then some ⟨p.frame, headers⟩ else none

theorem frame_of_writeBytes (nicId : UInt8) {size : UInt32} {header audio : List UInt8}
    (isSize : size.toNat = header.length + audio.length) :
    TransmittedPacket.frame ⟨nicId, size, writeBytes (fun _ => none) 0 (header ++ audio)⟩ =
      header ++ audio := by
  rw [← List.length_append] at isSize
  generalize header ++ audio = bytes at *
  apply List.ext_getElem
  · rw [TransmittedPacket.frame, List.length_map, List.length_range, isSize]
  · intro a _ below
    have inside : 0 ≤ a ∧ a < 0 + bytes.length := by omega
    simp only [TransmittedPacket.frame, List.getElem_map, List.getElem_range, TransmittedPacket.byte,
      writeBytes, inside, and_self, if_true, Nat.sub_zero, List.getElem?_eq_getElem below,
      Option.getD_some]

structure Prepared (s : RTPAudioStream) : Prop where
  version : s.rtpPacketBaseOutgoing.rtpHeader.version = 0x80
  payloadType : s.rtpPacketBaseOutgoing.rtpHeader.payloadType = s.rtpStreamInfo.payloadType
  ssrc : s.rtpPacketBaseOutgoing.rtpHeader.ssrc = mtalSwap32 s.rtpStreamInfo.ssrc

theorem create_prepared {self : RTPAudioStream} {info : RTPStreamInfo} {ops : RTPAudioStreamOps}
    {nf : EtherTubeNetfilter} {livesIn : RingMemory} (source : info.source = true)
    (created : (create self info ops nf livesIn).2.2 = true) :
    Prepared (create self info ops nf livesIn).1 := by
  have idle := ((create_succeeds_iff self info ops nf livesIn).mp created).1
  simp only [create, idle, source] at created ⊢
  obtain ⟨routed, converts⟩ := (createSource_succeeds_iff _ _ _).mp created
  have rings := (routeLivesOut_snd ops info self.livesOutCircularBuffer info.nbOfChannels.toNat).mpr routed
  obtain ⟨f, isF⟩ := Option.isSome_iff_exists.mp converts
  simp only [createSource, rings, isF, if_true, Bool.false_eq_true, if_false, rtpStreamInit, source]
  exact ⟨rfl, rfl, rfl⟩

structure Carries (frame : RTPFrame) (header : RTPPacketBase) (audio : List UInt8) : Prop where
  bytes : frame.bytes = header.bytes ++ audio
  udp : (mtalSwap16 header.udpHeader.len).toNat = 20 + audio.length
  small : audio.length ≤ 1460

theorem Carries.packetBase {frame : RTPFrame} {header : RTPPacketBase} {audio : List UInt8}
    (carries : Carries frame header audio) : frame.packetBase = header :=
  frame.packetBase_of_bytes carries.bytes

theorem Carries.byte {frame : RTPFrame} {header : RTPPacketBase} {audio : List UInt8}
    (carries : Carries frame header audio) {pos : Nat} {b : UInt8} (isByte : audio[pos]? = some b) :
    frame.byte (sizeofRTPPacketBase + pos) = b := by
  have behind : (header.bytes ++ audio)[sizeofRTPPacketBase + pos]? = audio[pos]? := by
    rw [← header.length_bytes, List.getElem?_append_right (Nat.le_add_right ..), Nat.add_sub_cancel_left]
  rw [RTPFrame.byte, carries.bytes, List.getD_eq_getElem?_getD, behind, isByte, Option.getD_some]

def pieceHeader (s : RTPAudioStream) (p : Piece) : RTPPacketBase :=
  packetHeader s (packetSize s p.n) (p.sac + s.rtpStreamInfo.rtpTimestampOffset.toUInt64).toUInt32 p.seqNum

/-- The bytes of a packet that fits: its header, then the samples that the converter of its codec wrote. -/
theorem piecePacket_frame {s : RTPAudioStream} (ops : RTPAudioStreamOps) (livesOut : RingMemory) {p : Piece}
    (ready : ReadyLeg p.n s) : (piecePacket s ops livesOut p).frame = (pieceHeader s p).bytes ++
      (frontBytes (converter s) s ops livesOut p.offset p.n ++ backBytes (converter s) s ops livesOut p.offset p.n) ∧
    (converter s).width = s.rtpStreamInfo.wordLength.toNat := by
  obtain ⟨f, codec⟩ := ready.accepted.someConverter
  have isConverter : converter s = f := by rw [converter, codec, Option.getD_some]
  obtain ⟨width, room⟩ := ready.fits
  have width : f.width = s.rtpStreamInfo.wordLength.toNat := by simpa [codec] using width
  have limit : rtpMaxPayloadSize.toNat = 1460 := rfl
  have audio := length_audio f s ops livesOut p.offset p.n
  rw [width] at audio
  have size := ready.accepted.packetSize_toNat (by omega : p.n.toNat * _ < 2 ^ 32 - 54)
  rw [← audio] at size
  rw [isConverter]
  refine ⟨?_, width⟩
  rw [piecePacket, isConverter]
  exact frame_of_writeBytes s.ethNetfilter.nicId
    (size.trans (congrArg (· + _) (pieceHeader s p).length_bytes.symm))

theorem piecePacket_received {s : RTPAudioStream} {g : InterleaveToMapped} (ops : RTPAudioStreamOps)
    (livesOut : RingMemory) {p : Piece} (ready : ReadyLeg p.n s)
    (converts : convertInterleaveToMapped s.rtpStreamInfo.codec = some g) :
    ∃ frame, (piecePacket s ops livesOut p).received = some frame ∧
      Carries frame (pieceHeader s p)
        (frontBytes g.counterpart s ops livesOut p.offset p.n ++
          backBytes g.counterpart s ops livesOut p.offset p.n) := by
  have codec := InterleaveToMapped.convert_counterpart converts
  have isConverter : converter s = g.counterpart := by rw [converter, codec, Option.getD_some]
  obtain ⟨isFrame, width⟩ := piecePacket_frame ops livesOut ready
  rw [isConverter] at isFrame width
  have room := ready.fits.2
  have limit : rtpMaxPayloadSize.toNat = 1460 := rfl
  have audio := length_audio g.counterpart s ops livesOut p.offset p.n
  rw [width] at audio
  have size := ready.accepted.packetSize_toNat (by omega : p.n.toNat * _ < 2 ^ 32 - 54)
  rw [← audio] at room size
  obtain ⟨-, udp⟩ := ipLength size (by omega)
  have long : sizeofRTPPacketBase ≤ (piecePacket s ops livesOut p).frame.length := by
    rw [isFrame, List.length_append, RTPPacketBase.length_bytes]
    exact Nat.le_add_right _ _
  refine ⟨⟨_, long⟩, dif_pos long, isFrame, ?_, by omega⟩
  rw [pieceHeader, packetHeader, mtalSwap16_swap16]
  exact udp

structure SameSession (source sink : RTPAudioStream) (g : InterleaveToMapped) : Prop where
  accepted : AcceptedSource source
  prepared : Prepared source
  sinkAccepted : AcceptedSink sink
  mapped : AllMapped sink
  codec : sink.rtpStreamInfo.codec = source.rtpStreamInfo.codec
  converts : convertInterleaveToMapped source.rtpStreamInfo.codec = some g
  channels : sink.rtpStreamInfo.nbOfChannels = source.rtpStreamInfo.nbOfChannels
  wordLength : sink.rtpStreamInfo.wordLength.toNat = g.width.toNat
  payloadType : sink.rtpStreamInfo.payloadType = source.rtpStreamInfo.payloadType
  timestampOffset : sink.rtpStreamInfo.rtpTimestampOffset = source.rtpStreamInfo.rtpTimestampOffset

/-- The sink has not learned the SSRC of another source. -/
structure Session (source sink : RTPAudioStream) (g : InterleaveToMapped) : Prop
    extends SameSession source sink g where
  follows : Follows source.rtpStreamInfo.ssrc sink

namespace Session

variable {source sink : RTPAudioStream} {g : InterleaveToMapped} (session : Session source sink g)

include session

theorem sinkConverts : convertInterleaveToMapped sink.rtpStreamInfo.codec = some g := by
  rw [session.codec]
  exact session.converts

theorem rowBytes_eq : rowBytes sink g = rowBytes source g := by
  rw [rowBytes, rowBytes, session.channels]

theorem ofSequence (p : Piece) :
    OfSequence source.rtpStreamInfo.ssrc sink (pieceHeader source p).rtpHeader := by
  have version : (pieceHeader source p).rtpHeader.version = 0x80 := session.prepared.version
  constructor
  · rw [version]; rfl
  · rw [version]; rfl
  · rw [session.payloadType]; exact session.prepared.payloadType
  · rw [← mtalSwap32_swap32 source.rtpStreamInfo.ssrc]
    exact congrArg mtalSwap32 session.prepared.ssrc

theorem next {t : RTPAudioStream} (same : SameStream sink t) (follows : Follows source.rtpStreamInfo.ssrc t) :
    Session source t g where
  accepted := session.accepted
  prepared := session.prepared
  sinkAccepted := session.sinkAccepted.same same
  mapped := same.allMapped.mpr session.mapped
  codec := same.codec.trans session.codec
  converts := session.converts
  channels := same.nbOfChannels.trans session.channels
  wordLength := by rw [same.wordLength]; exact session.wordLength
  payloadType := by
    obtain ⟨_, _, info⟩ := same.info
    rw [info]
    exact session.payloadType
  timestampOffset := by
    obtain ⟨_, _, info⟩ := same.info
    rw [info]
    exact session.timestampOffset
  follows := follows

variable {p : Piece} {frame : RTPFrame} {audio : List UInt8}
  (carries : Carries frame (pieceHeader source p) audio)

include carries

theorem claimedSkip_eq : claimedSkip frame = 0 :=
  claimedSkip_of_plain frame (by rw [carries.packetBase]; exact session.prepared.version)

theorem claimedSamples_eq (audioLength : audio.length = p.n.toNat * rowBytes source g) :
    claimedSamples sink frame = p.n := by
  have udp := carries.udp
  have small := carries.small
  have channels := sink.rtpStreamInfo.nbOfChannels.toNat_lt
  have someChannel : sink.rtpStreamInfo.nbOfChannels.toNat ≠ 0 := fun zero =>
    session.sinkAccepted.valid.someChannel (UInt8.toNat_inj.mp zero)
  have width : 0 < g.width.toNat ∧ g.width.toNat ≤ 4 := by cases g <;> decide
  have positive : 0 < rowBytes sink g := Nat.mul_pos (by omega) width.1
  have sampleBytes : (getNbOfLivesIn sink * sink.rtpStreamInfo.wordLength.toUInt32).toNat =
      rowBytes sink g := by
    have row : rowBytes sink g ≤ 255 * 4 := Nat.mul_le_mul (by omega) width.2
    rw [getNbOfLivesIn, session.sinkAccepted.sink, UInt32.toNat_mul, UInt8.toNat_toUInt32,
      session.wordLength]
    simp only [Bool.false_eq_true, if_false, UInt8.toNat_toUInt32]
    exact Nat.mod_eq_of_lt (by rw [← rowBytes]; omega)
  have payload : (payloadLength frame 0).toNat = audio.length := by
    rw [payloadLength, carries.packetBase]
    simp only [UInt32.toNat_sub, UInt16.toNat_toUInt32, udp, sizeofUDPHeader, sizeofRTPHeader,
      UInt32.reduceOfNat, UInt32.reduceToNat]
    omega
  rw [claimedSamples, session.claimedSkip_eq carries]
  apply UInt32.toNat_inj.mp
  rw [UInt32.toNat_div, payload, sampleBytes, audioLength, ← session.rowBytes_eq,
    Nat.mul_div_cancel _ positive]

theorem arrivalSAC_eq {ops : RTPAudioStreamOps} (behind : ops.globalSAC.toNat ≤ p.sac.toNat + (2 ^ 30 - 1))
    (ahead : p.sac.toNat ≤ ops.globalSAC.toNat + (2 ^ 30 - 1)) :
    arrivalSAC sink ops frame = p.sac + sink.rtpStreamInfo.playOutDelay.toUInt64 := by
  have timestamp : mtalSwap32 frame.packetBase.rtpHeader.timestamp - sink.rtpStreamInfo.rtpTimestampOffset =
      p.sac.toUInt32 := by
    rw [carries.packetBase, session.timestampOffset, pieceHeader, packetHeader,
      mtalSwap32_swap32, UInt64.toUInt32_add, UInt32.toUInt32_toUInt64]
    exact UInt32.add_sub_cancel ..
  rw [arrivalSAC, timestamp, expandSAC_of_near behind ahead]

end Session

end RavennaLkm
